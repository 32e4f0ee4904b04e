import ModalEdit.Proofs.SavedSettings

namespace ModalEdit

namespace Folder

theorem remove_of_lookup {name : List Char} {f : Folder} (h : f.lookup name = none) :
    f.remove name = f := by
  apply List.filter_eq_self.2
  rintro ⟨other, e⟩ hmem
  rw [bne_iff_ne]
  rintro rfl
  exact absurd (List.lookup_eq_none_iff.1 h _ hmem) (by simp)

end Folder

namespace SettingsStore

variable {s s₀ : SettingsStore} {limits : Limits} {w : Writing}

theorem entry?_eq (s : SettingsStore) : s.entry? = (s.getD []).lookup fileName := by
  cases s <;> rfl

/-- The temporary file has a name that nothing in the folder has yet. -/
structure Writing.Fresh (w : Writing) (s : SettingsStore) : Prop where
  ne_fileName : w.temporary ≠ fileName
  lookup_eq_none : (s.getD []).lookup w.temporary = none

theorem Writing.Fresh.remove_put (h : w.Fresh s) (e : Entry) :
    (Folder.put w.temporary e (s.getD [])).remove w.temporary = s.getD [] := by
  rw [Folder.remove_put, Folder.remove_of_lookup h.lookup_eq_none]

theorem Writing.Fresh.rename_of_directory (h : w.Fresh s) (hdir : s.entry? = some .directory)
    (e : Entry) :
    (Folder.put w.temporary e (s.getD [])).rename w.temporary fileName = .error .isDirectory := by
  rw [entry?_eq, ← Folder.lookup_put_of_ne h.ne_fileName.symm e] at hdir
  simp only [Folder.rename, hdir]

theorem Writing.Fresh.rename_of_ne_directory (h : w.Fresh s) (hfile : s.entry? ≠ some .directory)
    (e : Entry) :
    (Folder.put w.temporary e (s.getD [])).rename w.temporary fileName =
      .ok (Folder.put fileName e (s.getD [])) := by
  rw [entry?_eq, ← Folder.lookup_put_of_ne h.ne_fileName.symm e] at hfile
  simp only [Folder.rename, Folder.lookup_put_self, h.remove_put]

/-- A content that is written whole takes the place of the file, unless that is a directory. -/
theorem replaceFile_of_written (h : w.Fresh s) (hw : w.interruption = none)
    (hfile : s.entry? ≠ some .directory) (content : ByteArray) :
    s.replaceFile w content =
      (some (Folder.put fileName (.file content) (s.getD [])), none) := by
  simp only [replaceFile, hw, Writing.reached, Option.elim_none, h.rename_of_ne_directory hfile]

theorem replaceFile_of_not_written (h : w.Fresh s)
    (hw : w.interruption ≠ none ∨ s.entry? = some .directory) (content : ByteArray) :
    ∃ f, s.replaceFile w content = (some (s.getD []), some f) := by
  cases hi : w.interruption with
  | some i =>
    refine ⟨i.fault, ?_⟩
    simp only [replaceFile, hi, h.remove_put]
  | none =>
    have hdir := hw.resolve_left (not_not_intro hi)
    refine ⟨.isDirectory, ?_⟩
    simp only [replaceFile, hi, h.rename_of_directory hdir, h.remove_put]

inductive Step where
  | loadFields
  | load
  | save (p : Preferences) (w : Writing)
  | saveValue (v : Json) (w : Writing)

/-- The fault of an answer that is one. -/
def faultOf : Except Fault α → Option Fault
  | .ok _ => none
  | .error f => some f

/-- The store after a step, with the fault that the step ends in. -/
def step (s : SettingsStore) (limits : Limits) : Step → SettingsStore × Option Fault
  | .loadFields => (s, faultOf (s.loadFields limits))
  | .load => (s, faultOf (s.load limits))
  | .save p w => s.save limits p w
  | .saveValue v w => s.saveValue v w

namespace Step

variable {t : Step}

def writing? : Step → Option Writing
  | .loadFields | .load => none
  | .save _ w | .saveValue _ w => some w

/-- What a step saves. Preferences are saved with the other fields of the file, if it can be
read. -/
def data? (t : Step) (s : SettingsStore) (limits : Limits) : Option Json :=
  match t with
  | .loadFields | .load => none
  | .save p _ =>
    match s.loadFields limits with
    | .ok fields => some (.obj (p.mergeInto fields))
    | .error _ => none
  | .saveValue v _ => some v

def Fresh (t : Step) (s : SettingsStore) : Prop :=
  ∀ w ∈ t.writing?, w.Fresh s

/-- All that a step can come to. -/
inductive Result (s : SettingsStore) (limits : Limits) (t : Step) :
    SettingsStore × Option Fault → Prop where
  | loaded (fault : Option Fault) (h : t.writing? = none) : Result s limits t (s, fault)
  | unread (w : Writing) (f : Fault) (h : t.writing? = some w) (hdata : t.data? s limits = none) :
    Result s limits t (s, some f)
  | abandoned (w : Writing) (f : Fault) (h : t.writing? = some w)
    (hwhy : w.interruption ≠ none ∨ s.entry? = some .directory) :
    Result s limits t (some (s.getD []), some f)
  | saved (w : Writing) (v : Json) (h : t.writing? = some w) (hdata : t.data? s limits = some v)
    (hw : w.interruption = none) (hfile : s.entry? ≠ some .directory) :
    Result s limits t (some (Folder.put fileName (.file (contentOf v)) (s.getD [])), none)

theorem Result.of_replaceFile {v : Json} (hfresh : w.Fresh s) (h : t.writing? = some w)
    (hdata : t.data? s limits = some v) :
    Result s limits t (s.replaceFile w (contentOf v)) := by
  by_cases hwhy : w.interruption ≠ none ∨ s.entry? = some .directory
  · obtain ⟨f, hf⟩ := replaceFile_of_not_written hfresh hwhy (contentOf v)
    rw [hf]
    exact .abandoned w f h hwhy
  · obtain ⟨hw, hfile⟩ := not_or.1 hwhy
    have hw' := not_not.1 hw
    rw [replaceFile_of_written hfresh hw' hfile]
    exact .saved w v h hdata hw' hfile

theorem result_step (limits : Limits) (ht : t.Fresh s) : Result s limits t (s.step limits t) := by
  cases t with
  | loadFields => exact .loaded _ rfl
  | load => exact .loaded _ rfl
  | saveValue v w => exact .of_replaceFile (ht w rfl) rfl rfl
  | save p w =>
    cases hread : s.loadFields limits with
    | error f =>
      have hstep : s.step limits (.save p w) = (s, some f) := by
        simp only [step, SettingsStore.save, hread]
      rw [hstep]
      exact .unread w f rfl (by simp only [data?, hread])
    | ok fields =>
      have hstep : s.step limits (.save p w) =
          s.replaceFile w (contentOf (.obj (p.mergeInto fields))) := by
        simp only [step, SettingsStore.save, hread, SettingsStore.saveValue]
      rw [hstep]
      exact .of_replaceFile (ht w rfl) rfl (by simp only [data?, hread])

variable {result : SettingsStore × Option Fault}

theorem Result.lookup_eq {name : List Char} (h : Result s limits t result)
    (hname : name ≠ fileName) :
    (result.1.getD []).lookup name = (s.getD []).lookup name := by
  cases h with
  | loaded fault => rfl
  | unread w f => rfl
  | abandoned w f => rfl
  | saved w v => exact Folder.lookup_put_of_ne hname _ _

theorem Result.of_fault (h : Result s limits t result) (hf : result.2 ≠ none) :
    entry? result.1 = s.entry? ∧ result.1.getD [] = s.getD [] := by
  cases h with
  | loaded fault => exact ⟨rfl, rfl⟩
  | unread w f => exact ⟨rfl, rfl⟩
  | abandoned w f => exact ⟨(entry?_eq s).symm, rfl⟩
  | saved w v => exact absurd rfl hf

theorem Result.eq_of_loads (h : Result s limits t result) (hload : t.writing? = none) :
    result.1 = s := by
  cases h with
  | loaded fault => rfl
  | unread w f => rfl
  | abandoned w f hw =>
    rw [hload] at hw
    cases hw
  | saved w v hw =>
    rw [hload] at hw
    cases hw

theorem data?_eq_none (hload : t.writing? = none) : t.data? s limits = none := by
  cases t with
  | loadFields => rfl
  | load => rfl
  | save p w => cases hload
  | saveValue v w => cases hload

theorem Result.entry?_of_saved {v : Json} (h : Result s limits t result) (hf : result.2 = none)
    (hv : t.data? s limits = some v) : entry? result.1 = some (.file (contentOf v)) := by
  cases h with
  | loaded fault hload =>
    rw [data?_eq_none hload] at hv
    cases hv
  | unread w f => cases hf
  | abandoned w f => cases hf
  | saved w v' _ hdata =>
    obtain rfl := Option.some_inj.1 (hdata.symm.trans hv)
    exact Folder.lookup_put_self _ _ _

theorem Result.saved_iff (h : Result s limits t result) (hw : t.writing? = some w) :
    result.2 = none ↔
      w.interruption = none ∧ s.entry? ≠ some .directory ∧ t.data? s limits ≠ none := by
  cases h with
  | loaded fault hload =>
    rw [hload] at hw
    cases hw
  | unread w' f _ hdata => exact ⟨nofun, fun hall => absurd hdata hall.2.2⟩
  | abandoned w' f hw' hwhy =>
    obtain rfl := Option.some_inj.1 (hw.symm.trans hw')
    exact ⟨nofun, fun hall => absurd hwhy (not_or.2 ⟨not_not_intro hall.1, hall.2.1⟩)⟩
  | saved w' v hw' hdata hi hfile =>
    obtain rfl := Option.some_inj.1 (hw.symm.trans hw')
    exact ⟨fun _ => ⟨hi, hfile, by rw [hdata]; nofun⟩, fun _ => rfl⟩

end Step

/-- The stores that steps lead to from a store, whatever happens while they are written. -/
inductive Reaches (limits : Limits) (s₀ : SettingsStore) : SettingsStore → Prop where
  | refl : Reaches limits s₀ s₀
  | step {s : SettingsStore} {t : Step} (h : Reaches limits s₀ s) (ht : t.Fresh s) :
    Reaches limits s₀ (s.step limits t).1

theorem Reaches.lookup_eq {name : List Char} (h : Reaches limits s₀ s) (hname : name ≠ fileName) :
    (s.getD []).lookup name = (s₀.getD []).lookup name := by
  induction h with
  | refl => rfl
  | step h ht ih => exact ((Step.result_step limits ht).lookup_eq hname).trans ih

/-- After any steps, one more leaves under all names but that of the settings file what was there in
the beginning, so no temporary file. Loading changes nothing. A step that fails leaves the file and
its folder as they were; a save that does not fail leaves the text of what it saves in the file. A
save fails only when it is interrupted, when a directory is in the way or when the file that it
adds to cannot be read. -/
theorem saves_all_or_nothing {t : Step} (h : Reaches limits s₀ s) (ht : t.Fresh s) :
    let after := (s.step limits t).1
    let fault := (s.step limits t).2
    (∀ name ≠ fileName, (after.getD []).lookup name = (s₀.getD []).lookup name) ∧
      (t.writing? = none → after = s) ∧
      (fault ≠ none → after.entry? = s.entry? ∧ after.getD [] = s.getD []) ∧
      (fault = none → ∀ v ∈ t.data? s limits, after.entry? = some (.file (contentOf v))) ∧
      ∀ w ∈ t.writing?, fault = none ↔
        w.interruption = none ∧ s.entry? ≠ some .directory ∧ t.data? s limits ≠ none := by
  have hresult := Step.result_step limits ht
  generalize s.step limits t = result at hresult
  refine ⟨fun name hname => ?_, hresult.eq_of_loads, hresult.of_fault, ?_, ?_⟩
  · exact (hresult.lookup_eq hname).trans (h.lookup_eq hname)
  · intro hf v hv
    exact hresult.entry?_of_saved hf hv
  · intro w hw
    exact hresult.saved_iff hw

/-- Writing fields over an older file stops within their text, and the older file stays; then they
are saved whole. -/
theorem saves_all_or_nothing_after_interruption :
    let older : Json := .obj [(Preferences.vimEnabledName, .bool true)]
    let fields : Json := .obj [(Preferences.showModeName, .bool false), (.ofString "tab", .int 4)]
    let s₀ : SettingsStore := some [(fileName, .file (contentOf older))]
    let cut : Step := .saveValue fields ⟨temporaryName, some ⟨10, .outOfMemory⟩⟩
    let whole : Step := .saveValue fields {}
    let s := (s₀.step .standard cut).1
    10 < (contentOf fields).size ∧
      ((s₀.step .standard cut).2 ≠ none ∧ s.entry? = some (.file (contentOf older)) ∧
        s.getD [] = [(fileName, .file (contentOf older))]) ∧
      (s.step .standard whole).2 = none ∧
        entry? (s.step .standard whole).1 = some (.file (contentOf fields)) := by
  intro older fields s₀ cut whole s
  have hcut : cut.Fresh s₀ := by
    rintro w ⟨⟩
    exact ⟨fileName_ne.symm, rfl⟩
  have hstart : Reaches .standard s₀ s₀ := .refl
  obtain ⟨-, -, hkept, -, hcutiff⟩ := saves_all_or_nothing hstart hcut
  have hcutfault : (s₀.step .standard cut).2 ≠ none := by
    intro h
    obtain ⟨hi, -⟩ := (hcutiff _ rfl).1 h
    cases hi
  obtain ⟨hentry, hfolder⟩ := hkept hcutfault
  have hwhole : whole.Fresh s := by
    rintro w ⟨⟩
    exact ⟨fileName_ne.symm, by rw [hfolder]; rfl⟩
  have hreached : Reaches .standard s₀ s := hstart.step hcut
  obtain ⟨-, -, -, hsaved, hiff⟩ := saves_all_or_nothing hreached hwhole
  have hfault := (hiff {} rfl).2 ⟨rfl, by rw [hentry]; nofun, nofun⟩
  exact ⟨by decide, ⟨hcutfault, hentry, hfolder⟩, hfault, hsaved hfault _ rfl⟩

end SettingsStore

end ModalEdit
