import ModalEdit.Proofs.Numerals
import ModalEdit.Proofs.Runs

namespace ModalEdit

theorem Key.text_of_digit? {k : Key} {n : Nat} (h : k.digit? = some n) :
    n < 10 ∧ k.text = naturalText n := by
  cases k with
  | escape => cases h
  | named name => cases h
  | char c =>
    simp only [digit?] at h
    split at h
    · rename_i hc
      have h0 : '0'.toNat ≤ c.toNat := hc.1
      have h9 : c.toNat ≤ '9'.toNat := hc.2
      have hlo : '0'.toNat = 48 := rfl
      have hhi : '9'.toNat = 57 := rfl
      cases h
      have hlt : c.toNat - '0'.toNat < 10 := by omega
      have hchar : (c.toNat - '0'.toNat).digitChar = c := by
        apply Char.toNat_inj.1
        rw [Nat.toNat_digitChar_of_lt_ten hlt]
        omega
      constructor
      · exact hlt
      · rw [naturalText, Nat.toDigits_of_lt_base hlt, hchar, text]
    · cases h

theorem Mode.isSome_selection?_iff (m : Mode) :
    m.selection?.isSome ↔ m.name = .visual ∨ m.name = .visualLine := by
  cases m with
  | normal => simp [selection?, name]
  | insert => simp [selection?, name]
  | visual sel =>
    simp only [selection?, name]
    split <;> simp

theorem Mode.shape_eq_linewise_iff {m : Mode} {sel : Selection} (h : sel ∈ m.selection?) :
    sel.shape = .linewise ↔ m.name = .visualLine := by
  cases m with
  | normal => cases h
  | insert => cases h
  | visual sel' =>
    cases h
    simp [name]

theorem Mode.name_eq_insert_iff {m : Mode} : m.name = .insert ↔ m = .insert := by
  cases m with
  | normal => simp [name]
  | insert => simp [name]
  | visual sel =>
    simp only [name]
    split <;> simp

theorem Pending.isSome_operator? {p : Pending} {n : Nat} (h : n ∈ p.operatorCount) :
    p.operator?.isSome := by
  cases p with
  | idle => cases h
  | lead l => cases h
  | operator op count => rfl
  | operatorLead op count l => rfl

namespace Session

/-- The count typed so far, as it was typed. -/
def countText (s : Session) : List Char :=
  (s.count.map naturalText).getD []

/-- The keys of the leads that may be pending. -/
def leadKeys (s : Session) : List Char :=
  match s.pending.operator?, s.mode with
  | some _, _ => Lead.operatorKeys
  | none, .visual _ => Lead.visualKeys
  | none, _ => Lead.normalKeys

/-- Mode, selection, partial input and counts, as far as they can be seen, agree.

Some of this holds of every `Session` by how `Mode` and `Pending` are built: `selection` and `shape`,
as a visual mode carries its selection; `digits`, as a count is a number; and in `operatorCount` that
there is an operator, as the pending operator carries its count. What runs preserve is the rest:
`insert`, `leadingZero`, `operator`, `lead`, and that the count of an operator is not zero. -/
structure Coherent (s : Session) : Prop where
  selection : s.mode.selection?.isSome ↔ s.mode.name = .visual ∨ s.mode.name = .visualLine
  shape : ∀ sel ∈ s.mode.selection?, sel.shape = .linewise ↔ s.mode.name = .visualLine
  insert : s.mode.name = .insert →
    s.pending = .idle ∧ s.countText = [] ∧ s.pending.operatorCount = none
  digits : ∀ c ∈ s.countText, c.isDigit
  leadingZero : s.countText.head? ≠ some '0'
  operatorCount : ∀ n ∈ s.pending.operatorCount, 1 ≤ n ∧ s.pending.operator?.isSome
  operator : s.pending.operator?.isSome → s.mode.name = .normal
  lead : ∀ l ∈ s.pending.lead?, l.key ∈ s.leadKeys

theorem countText_of_none {s : Session} (h : s.count = none) : s.countText = [] := by
  rw [countText, h]
  rfl

theorem Consistent.countText_digit {s s' : Session} {k : Key} (hs : s.Consistent)
    (h : s.digit? k = some s') : s'.countText = s.countText ++ k.text := by
  obtain ⟨n, hn, rfl, _, _⟩ := digit?_eq_some h
  obtain ⟨hlt, htext⟩ := Key.text_of_digit? hn
  rw [htext]
  cases hc : s.count with
  | none => simp [countText, hc]
  | some m =>
    simp only [countText, hc, Option.map_some, Option.getD_some]
    exact (Nat.toDigits_append_toDigits (by decide) (hs.count m hc) hlt).symm

theorem isDigit_of_mem_countText {s : Session} {c : Char} (h : c ∈ s.countText) : c.isDigit := by
  cases hcount : s.count with
  | none =>
    rw [countText_of_none hcount] at h
    cases h
  | some n =>
    rw [countText, hcount] at h
    exact Nat.isDigit_of_mem_toDigits (by decide) (by decide) h

theorem Consistent.coherent {s : Session} (h : s.Consistent) : s.Coherent := by
  constructor
  case selection => exact s.mode.isSome_selection?_iff
  case shape => exact fun sel hsel => Mode.shape_eq_linewise_iff hsel
  case insert =>
    intro hm
    have hm := Mode.name_eq_insert_iff.1 hm
    have hp := h.pending_insert hm
    exact ⟨hp, countText_of_none (h.insert hm), hp ▸ rfl⟩
  case digits => exact fun c hc => isDigit_of_mem_countText hc
  case leadingZero =>
    cases hcount : s.count with
    | none => simp [countText_of_none hcount]
    | some n =>
      rw [countText, hcount]
      exact head?_naturalText (h.count n hcount)
  case operatorCount =>
    intro n hn
    exact ⟨h.operatorCount_pos n hn, Pending.isSome_operator? hn⟩
  case operator =>
    intro ho
    obtain ⟨op, hp⟩ := Option.isSome_iff_exists.1 ho
    rw [h.mode_of_operator hp, Mode.name]
  case lead =>
    intro l hl
    have hpending := h.pending
    cases hp : s.pending with
    | idle =>
      rw [hp] at hl
      cases hl
    | operator op count =>
      rw [hp] at hl
      cases hl
    | lead l' =>
      rw [hp] at hl hpending
      cases hl
      cases hm : s.mode with
      | normal =>
        rw [hm] at hpending
        simp only [leadKeys, hp, hm, Pending.operator?]
        exact hpending
      | insert =>
        rw [hm] at hpending
        exact hpending.elim
      | visual sel =>
        rw [hm] at hpending
        simp only [leadKeys, hp, hm, Pending.operator?]
        exact hpending
    | operatorLead op count l' =>
      rw [hp] at hl hpending
      cases hl
      simp only [leadKeys, hp, Pending.operator?]
      exact hpending.2.2

/-- A command key is a digit, waits for more, or leaves no partial input. -/
theorem Outcome.settles {s : Session} {d : Document} {k : Key} {r : Reaction}
    (h : s.Outcome d k r) (hm : s.mode ≠ .insert) :
    s.digit? k = some r.session ∨ r.session.pending ≠ .idle ∨ r.session.Cleared := by
  cases h with
  | typed hi => exact absurd hi hm
  | digit _ hd => exact .inl hd
  | awaits hp _ _ => exact .inr (.inl hp)
  | rests hc _ _ => exact .inr (.inr hc)
  | moves hc _ _ _ => exact .inr (.inr hc)
  | leaves hi => exact absurd hi hm
  | shows hc _ _ _ _ => exact .inr (.inr hc)
  | undoes _ => exact .inr (.inr s.cleared_clear)
  | changes hc _ _ _ => exact .inr (.inr hc)
  | fails hc _ _ _ => exact .inr (.inr hc)

end Session

namespace Editor

variable {limits : Limits} {clipboard : Clipboard} {e : Editor} {k : Key}

/-- A key meets a limit with its partial input left over only where the count is too long. -/
theorem Steady.settles {e' : Editor} {answer : Except Fault Report} (h : e.Steady)
    (he : e.pressWithin limits clipboard k = (e', answer)) (hm : e.session.mode ≠ .insert) :
    (e.session.digit? k = some e'.session ∨ e'.session.pending ≠ .idle ∨ e'.session.Cleared) ∨
      ∃ n f, e.session.count = some n ∧ limits.number n = some f ∧ e' = e ∧ answer = .error f := by
  cases ho : e.session.obstacle limits k with
  | none =>
    left
    rw [pressWithin_of_none ho] at he
    have hs : e'.session = (e.session.react e.document k).session := by
      rw [← press_session e clipboard k, he]
    rw [hs]
    exact (h.outcome k).settles hm
  | some stopped =>
    obtain ⟨s', f⟩ := stopped
    rw [pressWithin_of_obstacle ho] at he
    cases he
    rcases Session.obstacle_eq_some ho with ⟨⟨_, _, n, hcount, hn⟩, rfl⟩ | ⟨_, rfl⟩
    · exact .inr ⟨n, f, hcount, hn, rfl, rfl⟩
    · exact .inl (.inr (.inr e.session.cleared_clear))

/-- Whatever keys lead to it, what a session shows of mode, selection and partial input agrees. Each
further key outside insert mode is a digit of the count, leaves something pending, or leaves no
partial input at all. Only where the count is too long to be read is a key not handled: it fails and
changes nothing. -/
theorem partial_input_settles {e₀ : Editor} (h₀ : e₀.session = {})
    (h : Reaches limits clipboard Keyed e₀ e) :
    e.session.Coherent ∧
      ∀ k e' answer, e.pressWithin limits clipboard k = (e', answer) →
        e.session.mode.name ≠ .insert →
        ((e.session.digit? k = some e'.session ∧
              e'.session = { e.session with count := e'.session.count } ∧
              e'.session.countText = e.session.countText ++ k.text) ∨
            e'.session.pending ≠ .idle ∨
            (e'.session.pending = .idle ∧ e'.session.countText = [] ∧
              e'.session.pending.operatorCount = none)) ∨
          ∃ n f, e.session.count = some n ∧ limits.number n = some f ∧ e' = e ∧
            answer = .error f := by
  have hs := h.steady h₀
  constructor
  · exact hs.consistent.coherent
  · intro k e' answer he hm
    have hm : e.session.mode ≠ .insert := fun hi => hm (hi ▸ rfl)
    refine (hs.settles he hm).imp_left ?_
    rintro (hd | hp | ⟨hp, hc⟩)
    · left
      obtain ⟨n, _, hs', _⟩ := Session.digit?_eq_some hd
      have hkeeps : e'.session = { e.session with count := e'.session.count } := by rw [hs']
      exact ⟨hd, hkeeps, hs.consistent.countText_digit hd⟩
    · exact .inr (.inl hp)
    · exact .inr (.inr ⟨hp, Session.countText_of_none hc, hp ▸ rfl⟩)

theorem partial_input_settles_delete_words :
    (({} : Editor).pressAll .standard .working [.char '2', .char 'd', .char '3']).session.Coherent ∧
      (({} : Editor).pressAll .standard .working
        [.char '2', .char 'd', .char '3', .char 'w']).session.countText = [] := by
  have hreach : Reaches .standard .working Keyed {}
      (({} : Editor).pressAll .standard .working [.char '2', .char 'd', .char '3']) :=
    Reaches.refl.pressAll fun _ _ _ => trivial
  obtain ⟨hcoherent, hnext⟩ := partial_input_settles rfl hreach
  refine ⟨hcoherent, ?_⟩
  rcases hnext (.char 'w') _ _ rfl (by decide) with (⟨hd, _⟩ | hp | ⟨_, hc, _⟩) | ⟨n, f, hn, hf, _⟩
  · exact absurd hd (by decide)
  · exact absurd rfl hp
  · exact hc
  · cases hn
    cases hf

end Editor

end ModalEdit
