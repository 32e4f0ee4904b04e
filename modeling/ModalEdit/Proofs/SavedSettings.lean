import ModalEdit.Proofs.ReaderRange
import ModalEdit.Settings.Store

namespace ModalEdit

namespace Folder

variable {name other : List Char} {e e' : Entry}

theorem lookup_put_self (name : List Char) (e : Entry) (f : Folder) :
    (put name e f).lookup name = some e := by
  induction f with
  | nil => simp [put]
  | cons g f ih =>
    rw [put]
    by_cases hg : g.1 = name
    · rw [if_pos hg, List.lookup_cons_self]
    · have hne : (name == g.1) = false := by simpa using Ne.symm hg
      rw [if_neg hg, List.lookup_cons, hne]
      exact ih

theorem lookup_put_of_ne (h : other ≠ name) (e : Entry) (f : Folder) :
    (put name e f).lookup other = f.lookup other := by
  have hne : (other == name) = false := by simpa using h
  induction f with
  | nil => simp [put, List.lookup_cons, hne]
  | cons g f ih =>
    rw [put]
    by_cases hg : g.1 = name
    · rw [if_pos hg, List.lookup_cons, List.lookup_cons, hg, hne]
    · rw [if_neg hg, List.lookup_cons, List.lookup_cons, ih]

theorem put_put (name : List Char) (e e' : Entry) (f : Folder) :
    put name e (put name e' f) = put name e f := by
  induction f with
  | nil => simp [put]
  | cons g f ih =>
    by_cases hg : g.1 = name
    · simp [put, hg]
    · simp [put, hg, ih]

theorem remove_put (name : List Char) (e : Entry) (f : Folder) :
    (put name e f).remove name = f.remove name := by
  induction f with
  | nil => simp [put, remove]
  | cons g f ih =>
    unfold remove at ih ⊢
    by_cases hg : g.1 = name
    · simp [put, hg]
    · simp [put, hg, ih]

theorem remove_put_of_ne (h : name ≠ other) (e : Entry) (f : Folder) :
    (put name e f).remove other = put name e (f.remove other) := by
  induction f with
  | nil => simp [put, remove, h]
  | cons g f ih =>
    unfold remove at ih ⊢
    by_cases hg : g.1 = name
    · simp [put, hg, h]
    · by_cases ho : g.1 = other
      · subst ho
        simp [put, hg, ih]
      · simp [put, hg, ho, ih]

theorem remove_remove (name : List Char) (f : Folder) :
    (f.remove name).remove name = f.remove name := by
  simp [remove]

end Folder

namespace Preferences

open Json

variable {p : Preferences} {fields : List (Units × Json)} {limits : Limits}

theorem names_ne : systemClipboardName ≠ vimEnabledName ∧ showModeName ≠ vimEnabledName ∧
    showModeName ≠ systemClipboardName := by
  decide

theorem nodup_toFields (p : Preferences) : (p.toFields.map (·.1)).Nodup := by
  obtain ⟨hclip, hshow, hshow'⟩ := names_ne
  simp [toFields, hclip.symm, hshow.symm, hshow'.symm]

theorem mergeInto_eq (p : Preferences) (h : (fields.map (·.1)).Nodup) :
    p.mergeInto fields = overwritten p.toFields fields ++ lacking p.toFields fields :=
  foldl_setField p.nodup_toFields h

theorem mem_mergeInto {f : Units × Json} (h : f ∈ p.mergeInto fields) :
    f ∈ p.toFields ∨ f ∈ fields := by
  simp only [mergeInto, toFields, List.foldl_cons, List.foldl_nil] at h
  rcases mem_setField h with rfl | h
  · simp [toFields]
  · rcases mem_setField h with rfl | h
    · simp [toFields]
    · rcases mem_setField h with rfl | h
      · simp [toFields]
      · exact .inr h

theorem nodup_mergeInto (p : Preferences) (h : (fields.map (·.1)).Nodup) :
    ((p.mergeInto fields).map (·.1)).Nodup :=
  nodup_setField (nodup_setField (nodup_setField h _ _) _ _) _ _

theorem field?_mergeInto (p : Preferences) (fields : List (Units × Json)) :
    field? vimEnabledName (p.mergeInto fields) = some (.bool p.vimEnabled) ∧
      field? systemClipboardName (p.mergeInto fields) = some (.bool p.systemClipboard) ∧
        field? showModeName (p.mergeInto fields) = some (.bool p.showMode) := by
  obtain ⟨hclip, hshow, hshow'⟩ := names_ne
  simp only [mergeInto, toFields, List.foldl_cons, List.foldl_nil]
  refine ⟨?_, ?_, field?_setField _ _ _⟩
  · rw [field?_setField_of_ne hshow.symm, field?_setField_of_ne hclip.symm, field?_setField]
  · rw [field?_setField_of_ne hshow'.symm, field?_setField]

theorem ofFields_mergeInto (p : Preferences) (fields : List (Units × Json)) :
    ofFields (p.mergeInto fields) = p := by
  obtain ⟨hvim, hclip, hshow⟩ := p.field?_mergeInto fields
  simp only [ofFields, flag, hvim, hclip, hshow]

theorem mergeInto_mergeInto (p : Preferences) (fields : List (Units × Json)) :
    p.mergeInto (p.mergeInto fields) = p.mergeInto fields := by
  obtain ⟨hvim, hclip, hshow⟩ := p.field?_mergeInto fields
  change setField _ _ (setField _ _ (setField _ _ (p.mergeInto fields))) = p.mergeInto fields
  rw [setField_self hvim, setField_self hclip, setField_self hshow]

theorem readable_mergeInto (hopen : exceeds limits.nesting 1 = false)
    (hnames : (fields.map (·.1)).Nodup) (h : ∀ f ∈ fields, Readable limits 1 f.2) :
    Readable limits 0 (.obj (p.mergeInto fields)) := by
  refine .obj hopen (p.nodup_mergeInto hnames) fun f hf => ?_
  rcases mem_mergeInto hf with hf | hf
  · simp only [toFields, List.mem_cons, List.not_mem_nil, or_false] at hf
    obtain rfl | rfl | rfl := hf
    · exact .bool _
    · exact .bool _
    · exact .bool _
  · exact h f hf

/-- The fields a file holds once the preferences are saved over what it held. -/
def savedOver (p : Preferences) : Option Json → List (Units × Json)
  | some (.obj fields) => overwritten p.toFields fields ++ lacking p.toFields fields
  | _ => p.toFields

end Preferences

namespace SettingsStore

open Json

variable {s : SettingsStore} {limits : Limits} {v : Json}

/-- What the settings file holds as JSON. There is nothing when the file is missing, and nothing
when it is no JSON. -/
def read (s : SettingsStore) (limits : Limits) : Except Fault (Option Json) :=
  match s.entry? with
  | none => .ok none
  | some .directory => .error .isDirectory
  | some (.file content) => ofBytes limits content

/-- The store with a value in its file; no temporary file is left. -/
def holding (s : SettingsStore) (v : Json) : SettingsStore :=
  some (((s.getD []).remove temporaryName).put fileName (.file (contentOf v)))

theorem fileName_ne : fileName ≠ temporaryName := by
  decide

theorem saveValue_eq (h : s.entry? ≠ some .directory) (v : Json) :
    s.saveValue v = (s.holding v, none) := by
  have hentry : s.entry? = (s.getD []).lookup fileName := by
    cases s <;> rfl
  have htemp := Folder.lookup_put_self temporaryName (.file (contentOf v)) (s.getD [])
  have hfile := Folder.lookup_put_of_ne fileName_ne (.file (contentOf v)) (s.getD [])
  rw [← hentry] at hfile
  have hrename : (Folder.put temporaryName (.file (contentOf v)) (s.getD [])).rename temporaryName
      fileName = .ok (((s.getD []).remove temporaryName).put fileName (.file (contentOf v))) := by
    simp only [Folder.rename, htemp, hfile, Folder.remove_put]
  simp only [saveValue, replaceFile, Writing.reached, Option.elim_none, hrename, holding]

theorem entry?_holding (s : SettingsStore) (v : Json) :
    entry? (s.holding v) = some (.file (contentOf v)) :=
  Folder.lookup_put_self _ _ _

theorem holding_holding (s : SettingsStore) (v w : Json) :
    (s.holding v).holding w = s.holding w := by
  simp only [holding, Option.getD_some]
  rw [Folder.remove_put_of_ne fileName_ne, Folder.remove_remove, Folder.put_put]

theorem read_holding (h : Readable limits 0 v) (s : SettingsStore) :
    (s.holding v).read limits = .ok (some v) := by
  rw [read, entry?_holding]
  exact (ofBytes_toUTF8 limits _).trans (read_write h .indented)

/-- The fields of an object; anything else has none. -/
def fieldsOf : Option Json → List (Units × Json)
  | some (.obj fields) => fields
  | _ => []

theorem loadFields_eq (s : SettingsStore) (limits : Limits) :
    s.loadFields limits = (s.read limits).map fieldsOf := by
  unfold loadFields read
  generalize s.entry? = entry
  match entry with
  | none => rfl
  | some .directory => rfl
  | some (.file content) =>
    dsimp only
    generalize ofBytes limits content = held
    match held with
    | .error f => rfl
    | .ok none => rfl
    | .ok (some v) => cases v <;> rfl

theorem refuses_of_read {f : Fault} (hfile : s.entry? ≠ some .directory)
    (h : s.read limits = .error f) : limits.Refuses f := by
  unfold read at h
  split at h
  · cases h
  · exact absurd ‹_› hfile
  · exact refuses_of_ofBytes h

theorem readable_of_read (h : s.read limits = .ok (some v)) : Readable limits 0 v := by
  unfold read at h
  split at h
  · cases h
  · cases h
  · exact readable_of_ofBytes h

theorem nodup_fieldsOf {held : Option Json} (h : s.read limits = .ok held) :
    ((fieldsOf held).map (·.1)).Nodup ∧ ∀ f ∈ fieldsOf held, Readable limits 1 f.2 := by
  unfold fieldsOf
  split
  · cases readable_of_read h with
    | obj hopen hnames hf => exact ⟨hnames, hf⟩
  · exact ⟨.nil, nofun⟩

theorem mergeInto_fieldsOf {held : Option Json} (p : Preferences) (h : s.read limits = .ok held) :
    p.mergeInto (fieldsOf held) = p.savedOver held := by
  have hnames := (nodup_fieldsOf h).1
  unfold fieldsOf at hnames ⊢
  unfold Preferences.savedOver
  split at hnames
  · exact p.mergeInto_eq hnames
  · rw [p.mergeInto_eq hnames]
    simp [overwritten, lacking]

/-- Unless a limit refuses what the file holds, saved preferences are loaded again. Of the fields of
an object only theirs are overwritten, and saving them once more leaves everything as it is. -/
theorem saved_settings_read_back_unless_refused (s : SettingsStore) (limits : Limits)
    (p : Preferences) (hopen : exceeds limits.nesting 1 = false)
    (hfile : s.entry? ≠ some .directory) :
    match s.read limits with
    | .error f => limits.Refuses f ∧ s.save limits p = (s, some f)
    | .ok held =>
      ∃ s', s.save limits p = (s', none) ∧
        s'.entry? = some (.file (contentOf (.obj (p.savedOver held)))) ∧
        s'.read limits = .ok (some (.obj (p.savedOver held))) ∧
        s'.load limits = .ok p ∧ s'.save limits p = (s', none) := by
  split
  · rename_i f hread
    refine ⟨refuses_of_read hfile hread, ?_⟩
    simp only [save, loadFields_eq, hread, Except.map]
  · rename_i held hread
    obtain ⟨hnames, hvalues⟩ := nodup_fieldsOf hread
    have hmerge := mergeInto_fieldsOf p hread
    have hback : (s.holding (.obj (p.savedOver held))).read limits =
        .ok (some (.obj (p.savedOver held))) := by
      apply read_holding
      rw [← hmerge]
      exact Preferences.readable_mergeInto hopen hnames hvalues
    refine ⟨s.holding (.obj (p.savedOver held)), ?_, entry?_holding s _, hback, ?_, ?_⟩
    · simp only [save, loadFields_eq, hread, Except.map, hmerge, saveValue_eq hfile]
    · rw [load, loadFields_eq, hback, ← hmerge]
      exact congrArg Except.ok (p.ofFields_mergeInto _)
    · have hentry : entry? (s.holding (.obj (p.savedOver held))) ≠ some .directory := by
        rw [entry?_holding]
        nofun
      simp only [save, loadFields_eq, hback, Except.map, fieldsOf, saveValue_eq hentry,
        holding_holding]
      rw [← hmerge, p.mergeInto_mergeInto]

theorem saved_settings_read_back_over_object :
    ∃ s', (holding none (.obj
        [(.ofString "theme", .int 2), (Preferences.showModeName, .null)])).save .standard
          ⟨true, true, false⟩ = (s', none) ∧
      s'.read .standard = .ok (some (.obj
        [(.ofString "theme", .int 2), (Preferences.showModeName, .bool false),
          (Preferences.vimEnabledName, .bool true),
          (Preferences.systemClipboardName, .bool true)])) ∧
      s'.load .standard = .ok ⟨true, true, false⟩ := by
  have hold : Readable .standard 0 (.obj
      [(.ofString "theme", .int 2), (Preferences.showModeName, .null)]) := by
    refine .obj rfl (by decide) fun f hf => ?_
    simp only [List.mem_cons, List.not_mem_nil, or_false] at hf
    obtain rfl | rfl := hf
    · exact .int rfl
    · exact .null
  have hfile : entry? (holding none (.obj
      [(.ofString "theme", .int 2), (Preferences.showModeName, .null)])) ≠ some .directory := by
    rw [entry?_holding]
    nofun
  have hsaved := saved_settings_read_back_unless_refused _ .standard ⟨true, true, false⟩ rfl hfile
  rw [read_holding hold] at hsaved
  obtain ⟨s', hsave, -, hread, hload, -⟩ := hsaved
  exact ⟨s', hsave, hread, hload⟩

end SettingsStore

end ModalEdit
