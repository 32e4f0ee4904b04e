import ModalEdit.Proofs.SavedSettings

namespace ModalEdit

theorem Limits.exceeds_of_number {limits : Limits} {n : Nat} {f : Fault}
    (h : limits.number n = some f) : exceeds limits.digits (naturalText n).length = true := by
  obtain ⟨most, hm, hlt, -⟩ := limits.number_eq_some h
  rw [hm, exceeds_some]
  exact hlt

theorem length_toList_le_size (s : String) : s.toList.length ≤ s.toByteArray.size := by
  have hlist : ∀ text : List Char, text.length ≤ text.utf8Encode.size := by
    intro text
    induction text with
    | nil => exact Nat.le_refl 0
    | cons c text ih =>
      have hpos := c.utf8Size_pos
      rw [List.utf8Encode_cons, ByteArray.size_append, List.utf8Encode_singleton,
        List.size_toByteArray, String.length_utf8EncodeChar, List.length_cons]
      omega
  have hs := hlist s.toList
  rwa [String.utf8Encode_toList] at hs

namespace Json

variable {limits : Limits} {r r' : Reader} {t : Token} {text rest : List Char}
  {frames : List Frame} {held : Option Json}

theorem length_of_scanNumber {negative : Bool} {n : Int}
    (h : scanNumber negative text = some (.int n, rest)) :
    (naturalText n.natAbs).length ≤ text.length := by
  simp only [scanNumber, List.isEmpty_iff] at h
  split at h
  · cases h
  · rename_i hne
    have hwidth := length_naturalText_natOfDigits (fun _ => isDigit_of_mem_wholePart) hne
    have hn : n.natAbs = natOfDigits (wholePart text) := by
      have hv := congrArg Prod.fst (Option.some.inj h)
      unfold numberOf at hv
      split at hv
      · cases hv
        split <;> simp
      · cases hv
    rw [hn]
    exact hwidth.trans (length_wholePart text)

theorem scanWord_ne_int (n : Int) : scanWord text ≠ some (.int n, rest) := by
  intro h
  obtain ⟨⟨word, w⟩, hm, hw⟩ := List.exists_of_findSome?_eq_some h
  obtain ⟨_, _, he⟩ := Option.map_eq_some_iff.1 hw
  cases he
  simp [words] at hm

theorem length_of_scanToken {n : Int} (h : scanToken text = some (.scalar (.int n), rest)) :
    (naturalText n.natAbs).length ≤ text.length := by
  have hscalar := scanScalar_of_scanToken h
  unfold scanScalar at hscalar
  split at hscalar
  · obtain ⟨⟨units, tail⟩, _, he⟩ := Option.map_eq_some_iff.1 hscalar
    cases he
  · rcases Option.or_eq_some_iff.1 hscalar with hword | ⟨_, hnumber⟩
    · exact absurd hword (scanWord_ne_int n)
    · split at hnumber
      · exact Nat.le_succ_of_le (length_of_scanNumber hnumber)
      · exact length_of_scanNumber hnumber

theorem readFrom_unlimited (h : readFrom limits r text = .ok held) :
    readFrom {} r text = .ok held := by
  fun_induction readFrom limits r text with
  | case1 r =>
    rw [readFrom]
    exact h
  | case2 r c rest hc ih =>
    rw [readFrom, if_pos hc]
    exact ih h
  | case3 r c rest hc hscan =>
    rw [readFrom, if_neg hc]
    split
    · exact h
    · rename_i hscan'
      rw [hscan] at hscan'
      cases hscan'
  | case4 => cases h
  | case5 r c rest hc t rest' hscan r' hstep hnone ih =>
    rw [readFrom_token hscan (r.obstacle_unlimited t) hstep]
    exact ih h
  | case6 r c rest hc t rest' hscan hstep hnone =>
    rw [readFrom, if_neg hc]
    split
    · exact h
    · rename_i hscan'
      rw [hscan] at hscan'
      cases hscan'
      rw [r.obstacle_unlimited t, hstep]
      exact h

theorem Reader.length_frames_beginValue (h : beginValue frames t = some r') :
    r'.frames.length ≤ frames.length + 1 := by
  cases t <;> cases h <;> simp

theorem Reader.length_frames_beginField (h : beginField frames t = some r') :
    r'.frames.length ≤ frames.length + 1 := by
  unfold beginField at h
  split at h
  · cases h
    simp
  · cases h

theorem Reader.length_frames_afterValue {v : Json} (h : afterValue v frames t = some r') :
    r'.frames.length ≤ frames.length + 1 := by
  unfold afterValue at h
  split at h
  · cases h
    simp
  · cases h
    exact Nat.le_add_right _ 2
  · cases h
    simp
  · cases h
    exact Nat.le_add_right _ 2
  · cases h

theorem Reader.length_frames_step (h : r.step t = some r') :
    r'.frames.length ≤ r.frames.length + 1 := by
  unfold Reader.step at h
  split at h
  · rename_i done frames _ hframes
    cases h
    rw [hframes]
    exact Nat.le_add_right frames.length 2
  · rename_i done frames _ hframes
    cases h
    rw [hframes]
    exact Nat.le_add_right frames.length 2
  · exact length_frames_beginValue h
  · exact length_frames_beginValue h
  · exact length_frames_beginField h
  · exact length_frames_beginField h
  · cases h
    exact Nat.le_succ _
  · cases h
  · exact length_frames_afterValue h

theorem Reader.exceeds_of_obstacle {f : Fault} (hscan : scanToken text = some (t, rest))
    (h : r.obstacle limits t = some f) :
    exceeds limits.digits text.length ∨ exceeds limits.nesting (r.frames.length + 1) := by
  unfold Reader.obstacle at h
  split at h
  case h_3 => cases h
  all_goals
    split at h
    · exact .inl (exceeds_mono (limits.exceeds_of_number h) (length_of_scanToken hscan))
    · split at h
      · exact .inr ‹_›
      · cases h
    · split at h
      · exact .inr ‹_›
      · cases h
    · cases h

/-- What is refused is longer than a limit: the containers that are open and the characters to come
do not become more on the way. -/
theorem exceeds_of_readFrom {f : Fault} (h : readFrom limits r text = .error f) :
    exceeds limits.digits (r.frames.length + text.length) ∨
      exceeds limits.nesting (r.frames.length + text.length) := by
  fun_induction readFrom limits r text with
  | case1 => cases h
  | case2 r c rest hc ih =>
    have hle : r.frames.length + rest.length ≤ r.frames.length + (c :: rest).length := by simp
    exact (ih h).imp (exceeds_mono · hle) (exceeds_mono · hle)
  | case3 => cases h
  | case4 r c rest hc t rest' hscan f' hob =>
    refine (Reader.exceeds_of_obstacle hscan hob).imp (exceeds_mono · ?_) (exceeds_mono · ?_)
    · exact Nat.le_add_left _ _
    · simp
  | case5 r c rest hc t rest' hscan r' hstep hnone ih =>
    have hframes := Reader.length_frames_step hstep
    have hrest := scanToken_length hscan
    have hle : r'.frames.length + rest'.length ≤ r.frames.length + (c :: rest).length := by omega
    exact (ih h).imp (exceeds_mono · hle) (exceeds_mono · hle)
  | case6 => cases h

theorem exceeds_of_ofBytes {bytes : ByteArray} {f : Fault} (h : ofBytes limits bytes = .error f) :
    exceeds limits.digits bytes.size ∨ exceeds limits.nesting bytes.size := by
  unfold ofBytes at h
  split at h
  · rename_i text htext
    have hbytes : text.toByteArray = bytes := by
      unfold String.fromUTF8? at htext
      split at htext
      · cases htext
        rfl
      · cases htext
    have hle : ([] : List Frame).length + text.toList.length ≤ bytes.size := by
      rw [List.length_nil, Nat.zero_add, ← hbytes]
      exact length_toList_le_size text
    exact (exceeds_of_readFrom h).imp (exceeds_mono · hle) (exceeds_mono · hle)
  · cases h

theorem ofBytes_unlimited {bytes : ByteArray} (h : ofBytes limits bytes = .ok held) :
    ofBytes {} bytes = .ok held := by
  unfold ofBytes at h ⊢
  split at h
  · exact readFrom_unlimited h
  · exact h

end Json

namespace SettingsStore

variable {s : SettingsStore} {limits : Limits} {held : Option Json}

/-- The fields of the object that the settings file holds. There is none when the file is missing,
when it is not UTF-8 or no JSON, and when it holds another value. -/
def object? (s : SettingsStore) : Option (List (Units × Json)) :=
  match s.read {} with
  | .ok (some (.obj fields)) => some fields
  | _ => none

/-- What is loaded are the fields of the object and the preferences in them; without an object there
are no fields, and the preferences are the defaults. -/
structure Loads (s : SettingsStore) (limits : Limits) : Prop where
  fields : s.loadFields limits = .ok (s.object?.getD [])
  preferences : s.load limits = .ok (s.object?.elim {} .ofFields)

structure FailsWith (s : SettingsStore) (limits : Limits) (f : Fault) : Prop where
  fields : s.loadFields limits = .error f
  preferences : s.load limits = .error f

theorem read_unlimited (h : s.read limits = .ok held) : s.read {} = .ok held := by
  unfold read at h ⊢
  split at h
  · exact h
  · cases h
  · exact Json.ofBytes_unlimited h

theorem getD_object? (h : s.read limits = .ok held) : s.object?.getD [] = fieldsOf held := by
  rw [object?, read_unlimited h]
  match held with
  | none => rfl
  | some v => cases v <;> rfl

theorem loads_of_read (h : s.read limits = .ok held) : s.Loads limits := by
  have hfields : s.loadFields limits = .ok (s.object?.getD []) := by
    rw [loadFields_eq, h, getD_object? h]
    rfl
  refine ⟨hfields, ?_⟩
  rw [load, hfields]
  cases s.object? <;> rfl

theorem failsWith_of_read {f : Fault} (h : s.read limits = .error f) : s.FailsWith limits f := by
  have hfields : s.loadFields limits = .error f := by
    rw [loadFields_eq, h]
    rfl
  refine ⟨hfields, ?_⟩
  rw [load, hfields]
  rfl

/-- Whatever the path leads to, loading gives what the object in the file holds. The exceptions are
a directory, and a file that a limit refuses; such a file is longer than the limit. -/
theorem settings_load_unless_refused (s : SettingsStore) (limits : Limits) :
    match s.entry? with
    | none => s.object? = none ∧ s.Loads limits
    | some .directory => s.FailsWith limits .isDirectory
    | some (.file content) =>
      s.Loads limits ∨ ∃ f, limits.Refuses f ∧
        (exceeds limits.digits content.size ∨ exceeds limits.nesting content.size) ∧
        s.FailsWith limits f := by
  split
  · rename_i hentry
    have hread : s.read limits = .ok none := by
      rw [read, hentry]
    refine ⟨?_, loads_of_read hread⟩
    rw [object?, read_unlimited hread]
  · rename_i hentry
    apply failsWith_of_read
    rw [read, hentry]
  · rename_i content hentry
    have hread : s.read limits = Json.ofBytes limits content := by
      rw [read, hentry]
    cases hbytes : Json.ofBytes limits content with
    | ok held => exact .inl (loads_of_read (hread.trans hbytes))
    | error f =>
      exact .inr ⟨f, Json.refuses_of_ofBytes hbytes, Json.exceeds_of_ofBytes hbytes,
        failsWith_of_read (hread.trans hbytes)⟩

end SettingsStore

end ModalEdit
