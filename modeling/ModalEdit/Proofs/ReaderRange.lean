import ModalEdit.Proofs.JsonText

namespace ModalEdit

/-- A fault that comes from a limit on what is read. -/
def Limits.Refuses (limits : Limits) : Fault → Prop
  | .longInteger most width => limits.digits = some most ∧ most < width
  | .deepArray | .deepObject => ∃ depth, exceeds limits.nesting depth = true
  | _ => False

theorem Limits.number_eq_some {limits : Limits} {n : Nat} {f : Fault}
    (h : limits.number n = some f) :
    ∃ most, limits.digits = some most ∧ most < (naturalText n).length ∧
      f = .longInteger most (naturalText n).length := by
  obtain ⟨most, hm, hf⟩ := Option.bind_eq_some_iff.1 h
  dsimp only at hf
  split at hf
  · rename_i hlt
    cases hf
    exact ⟨most, hm, hlt, rfl⟩
  · cases hf

theorem Limits.refuses_of_number {limits : Limits} {n : Nat} {f : Fault}
    (h : limits.number n = some f) : limits.Refuses f := by
  obtain ⟨most, hm, hlt, rfl⟩ := limits.number_eq_some h
  exact ⟨hm, hlt⟩

namespace Json

variable {limits : Limits} {r r' : Reader} {t : Token} {text rest : List Char} {v : Json}
  {frames : List Frame} {depth : Nat}

theorem Reader.refuses_of_obstacle {f : Fault} (h : r.obstacle limits t = some f) :
    limits.Refuses f := by
  unfold Reader.obstacle at h
  split at h
  case h_3 => cases h
  all_goals
    split at h
    · exact limits.refuses_of_number h
    · split at h
      · cases h
        exact ⟨_, ‹_›⟩
      · cases h
    · split at h
      · cases h
        exact ⟨_, ‹_›⟩
      · cases h
    · cases h

theorem refuses_of_readFrom {f : Fault} (h : readFrom limits r text = .error f) :
    limits.Refuses f := by
  fun_induction readFrom limits r text with
  | case1 => cases h
  | case2 r c rest hc ih => exact ih h
  | case3 => cases h
  | case4 r c rest hc t rest' hscan f' hob =>
    cases h
    exact Reader.refuses_of_obstacle hob
  | case5 r c rest hc t rest' hscan r' hstep hnone ih => exact ih h
  | case6 => cases h

theorem refuses_of_ofBytes {bytes : ByteArray} {f : Fault} (h : ofBytes limits bytes = .error f) :
    limits.Refuses f := by
  unfold ofBytes at h
  split at h
  · exact refuses_of_readFrom h
  · cases h

/-- Neither an array nor an object; a number is one that can be written. -/
def IsScalar : Json → Prop
  | .arr _ | .obj _ => False
  | .real x => x.Canonical
  | _ => True

theorem isScalar_numberOf (negative : Bool) (whole fraction : List Char) (exponent : Option Int) :
    (numberOf negative whole fraction exponent).IsScalar := by
  unfold numberOf
  split
  · trivial
  · exact Binary64.canonical_ofDecimal negative _

theorem isScalar_of_scanNumber {negative : Bool} (h : scanNumber negative text = some (v, rest)) :
    v.IsScalar := by
  simp only [scanNumber] at h
  split at h
  · cases h
  · cases h
    exact isScalar_numberOf _ _ _ _

theorem isScalar_of_scanWord (h : scanWord text = some (v, rest)) : v.IsScalar := by
  obtain ⟨⟨word, w⟩, hm, hw⟩ := List.exists_of_findSome?_eq_some h
  obtain ⟨_, _, he⟩ := Option.map_eq_some_iff.1 hw
  cases he
  simp only [words, List.mem_cons, Prod.mk.injEq, List.not_mem_nil, or_false] at hm
  obtain ⟨_, rfl⟩ | ⟨_, rfl⟩ | ⟨_, rfl⟩ | ⟨_, rfl⟩ | ⟨_, rfl⟩ | ⟨_, rfl⟩ := hm <;> trivial

theorem scanScalar_of_scanToken (h : scanToken text = some (.scalar v, rest)) :
    scanScalar text = some (v, rest) := by
  unfold scanToken at h
  split at h
  · cases h
  · split at h <;> try cases h
    obtain ⟨⟨w, tail⟩, hw, he⟩ := Option.map_eq_some_iff.1 h
    cases he
    exact hw

theorem isScalar_of_scanToken (h : scanToken text = some (.scalar v, rest)) : v.IsScalar := by
  have hscalar := scanScalar_of_scanToken h
  unfold scanScalar at hscalar
  split at hscalar
  · obtain ⟨⟨units, tail⟩, _, he⟩ := Option.map_eq_some_iff.1 hscalar
    cases he
    trivial
  · rcases Option.or_eq_some_iff.1 hscalar with hword | ⟨_, hnumber⟩
    · exact isScalar_of_scanWord hword
    · split at hnumber <;> exact isScalar_of_scanNumber hnumber

def Frame.Readable (limits : Limits) (depth : Nat) : Frame → Prop
  | .items done => ∀ w ∈ done, Json.Readable limits depth w
  | .fields done | .field done _ =>
    (done.map (·.1)).Nodup ∧ ∀ f ∈ done, Json.Readable limits depth f.2

theorem Frame.Readable.setField {done : List (Units × Json)} {name : Units}
    (h : (Frame.field done name).Readable limits depth) (hv : Json.Readable limits depth v) :
    (Frame.fields (setField name v done)).Readable limits depth := by
  refine ⟨nodup_setField h.1 name v, fun f hf => ?_⟩
  rcases mem_setField hf with rfl | hf
  · exact hv
  · exact h.2 f hf

/-- Each container was opened within the limit, and holds values that can be written. -/
inductive Opened (limits : Limits) : List Frame → Prop where
  | nil : Opened limits []
  | cons {frame : Frame} {frames : List Frame}
    (hopen : exceeds limits.nesting (frames.length + 1) = false)
    (h : frame.Readable limits (frames.length + 1)) (ht : Opened limits frames) :
    Opened limits (frame :: frames)

structure Reader.Sound (limits : Limits) (r : Reader) : Prop where
  opened : Opened limits r.frames
  after : ∀ w, r.expect = .after w → Readable limits r.frames.length w

/-- The token may stand where a value is due inside a number of containers. -/
def Token.Admitted (limits : Limits) (depth : Nat) : Token → Prop
  | .scalar v => Readable limits depth v
  | .openSquare | .openCurly => exceeds limits.nesting (depth + 1) = false
  | _ => True

theorem IsScalar.readable (h : v.IsScalar) (hn : ∀ n, v = .int n → limits.number n.natAbs = none) :
    Readable limits depth v := by
  cases v with
  | null => exact .null
  | bool b => exact .bool b
  | int n => exact .int (hn n rfl)
  | real x => exact .real h
  | str s => exact .str s
  | arr items => exact h.elim
  | obj fields => exact h.elim

theorem Reader.Due.admitted (hdue : r.Due) (hscan : scanToken text = some (t, rest))
    (hnone : r.obstacle limits t = none) : t.Admitted limits r.frames.length := by
  have hob : r.obstacle limits t = (⟨.value, r.frames⟩ : Reader).obstacle limits t := by
    unfold Reader.obstacle
    rcases hdue with h | h <;> rw [h]
  rw [hob] at hnone
  cases t with
  | scalar v =>
    apply (isScalar_of_scanToken hscan).readable
    intro n hv
    subst hv
    exact hnone
  | openSquare => simpa [Reader.obstacle, Token.Admitted] using hnone
  | openCurly => simpa [Reader.obstacle, Token.Admitted] using hnone
  | closeSquare => trivial
  | closeCurly => trivial
  | comma => trivial
  | colon => trivial

theorem Opened.beginValue (h : Opened limits frames) (ht : t.Admitted limits frames.length)
    (hs : Reader.beginValue frames t = some r') : r'.Sound limits := by
  cases t with
  | scalar v =>
    cases hs
    refine ⟨h, fun w hw => ?_⟩
    cases hw
    exact ht
  | openSquare =>
    cases hs
    exact ⟨.cons ht nofun h, nofun⟩
  | openCurly =>
    cases hs
    exact ⟨.cons ht ⟨.nil, nofun⟩ h, nofun⟩
  | closeSquare => cases hs
  | closeCurly => cases hs
  | comma => cases hs
  | colon => cases hs

theorem Opened.beginField (h : Opened limits frames) (hs : Reader.beginField frames t = some r') :
    r'.Sound limits := by
  unfold Reader.beginField at hs
  split at hs
  · cases hs
    cases h with
    | cons hopen hdone ht => exact ⟨.cons hopen hdone ht, nofun⟩
  · cases hs

theorem Opened.afterValue (h : Opened limits frames) (hv : Readable limits frames.length v)
    (hs : Reader.afterValue v frames t = some r') : r'.Sound limits := by
  unfold Reader.afterValue at hs
  split at hs
  · cases hs
    cases h with
    | cons hopen hdone ht =>
      refine ⟨.cons hopen (fun w hw => ?_) ht, nofun⟩
      rcases List.mem_cons.1 hw with rfl | hw
      · exact hv
      · exact hdone w hw
  · cases hs
    cases h with
    | cons hopen hdone ht =>
      refine ⟨ht, fun w hw => ?_⟩
      cases hw
      refine .arr hopen fun w hw => ?_
      rcases List.mem_cons.1 (List.mem_reverse.1 hw) with rfl | hw
      · exact hv
      · exact hdone w hw
  · cases hs
    cases h with
    | cons hopen hdone ht => exact ⟨.cons hopen (hdone.setField hv) ht, nofun⟩
  · cases hs
    cases h with
    | cons hopen hdone ht =>
      refine ⟨ht, fun w hw => ?_⟩
      cases hw
      exact .obj hopen (nodup_setField hdone.1 _ v) (hdone.setField hv).2
  · cases hs

theorem Reader.Sound.step (h : r.Sound limits) (hscan : scanToken text = some (t, rest))
    (hnone : r.obstacle limits t = none) (hs : r.step t = some r') : r'.Sound limits := by
  obtain ⟨expect, frames⟩ := r
  cases expect with
  | value =>
    have hdue : (⟨.value, frames⟩ : Reader).Due := .inl rfl
    exact h.opened.beginValue (hdue.admitted hscan hnone) hs
  | firstItem =>
    have hdue : (⟨.firstItem, frames⟩ : Reader).Due := .inr rfl
    by_cases ht : t = .closeSquare
    · subst ht
      cases h.opened with
      | nil => cases hs
      | @cons frame frames hopen hdone hrest =>
        cases frame with
        | items done =>
          cases hs
          refine ⟨hrest, fun w hw => ?_⟩
          cases hw
          exact .arr hopen nofun
        | fields done => cases hs
        | field done name => cases hs
    · rw [hdue.step ht] at hs
      exact h.opened.beginValue (hdue.admitted hscan hnone) hs
  | name => exact h.opened.beginField hs
  | firstName =>
    have hdue : (⟨.firstName, frames⟩ : Reader).NameDue := .inr rfl
    by_cases ht : t = .closeCurly
    · subst ht
      cases h.opened with
      | nil => cases hs
      | @cons frame frames hopen hdone hrest =>
        cases frame with
        | items done => cases hs
        | fields done =>
          cases hs
          refine ⟨hrest, fun w hw => ?_⟩
          cases hw
          exact .obj hopen .nil nofun
        | field done name => cases hs
    · rw [hdue.step ht] at hs
      exact h.opened.beginField hs
  | colon =>
    cases t with
    | colon =>
      cases hs
      exact ⟨h.opened, nofun⟩
    | scalar v => cases hs
    | openSquare => cases hs
    | closeSquare => cases hs
    | openCurly => cases hs
    | closeCurly => cases hs
    | comma => cases hs
  | after v => exact h.opened.afterValue (h.after v rfl) hs

theorem Reader.Sound.readable (h : r.Sound limits) (hr : r.result? = some v) :
    Readable limits 0 v := by
  unfold Reader.result? at hr
  split at hr
  · rename_i he hframes
    cases hr
    have hv := h.after v he
    rwa [hframes] at hv
  · cases hr

theorem readable_of_readFrom (h : r.Sound limits) (hr : readFrom limits r text = .ok (some v)) :
    Readable limits 0 v := by
  fun_induction readFrom limits r text with
  | case1 r => exact h.readable (Except.ok.inj hr)
  | case2 r c rest hc ih => exact ih h hr
  | case3 => cases hr
  | case4 => cases hr
  | case5 r c rest hc t rest' hscan r' hstep hnone ih => exact ih (h.step hscan hnone hstep) hr
  | case6 => cases hr

theorem Reader.sound_start : ({} : Reader).Sound limits where
  opened := .nil
  after w hw := by cases hw

theorem readable_of_ofBytes {bytes : ByteArray} (h : ofBytes limits bytes = .ok (some v)) :
    Readable limits 0 v := by
  unfold ofBytes at h
  split at h
  · exact readable_of_readFrom Reader.sound_start h
  · cases h

end Json

end ModalEdit
