import ModalEdit.Proofs.ObjectExtents
import ModalEdit.Session.React

namespace ModalEdit

/-- Both ends of the selection lie in the buffer. -/
def Selection.Inside (b : Buffer) (sel : Selection) : Prop :=
  b.Contains sel.anchor ∧ b.Contains sel.cursor

namespace Lead

/-- The keys of the leads in normal mode. -/
def normalKeys : List Char :=
  ['f', 'F', 't', 'T', '\x27', '\x60', 'g', 'r', 'm']

/-- The keys of the leads in the visual modes. -/
def visualKeys : List Char :=
  ['f', 'F', 't', 'T', '\x27', '\x60', 'g', 'm', 'i', 'a']

/-- The keys of the leads after an operator. -/
def operatorKeys : List Char :=
  ['f', 'F', 't', 'T', '\x27', '\x60', 'g', 'i', 'a']

theorem mem_of_toMotion? {c : Char} {l : Lead} (h : toMotion? c = some l) :
    l.key ∈ ['f', 'F', 't', 'T', '\x27', '\x60', 'g'] := by
  unfold toMotion? at h
  split at h
  · rename_i kind _
    cases h
    cases kind <;> decide
  · split at h <;> cases h <;> decide

theorem mem_of_toObject? {c : Char} {l : Lead} (h : toObject? c = some l) :
    l.key ∈ ['i', 'a'] := by
  unfold toObject? at h
  split at h <;> cases h <;> decide

theorem mem_normalKeys {c : Char} {l : Lead} (h : normal? c = some l) : l.key ∈ normalKeys := by
  unfold normal? at h
  split at h
  · cases h
    decide
  · cases h
    decide
  · exact List.mem_append_left ['r', 'm'] (mem_of_toMotion? h)

theorem mem_operatorKeys {c : Char} {l : Lead} (h : afterOperator? c = some l) :
    l.key ∈ operatorKeys := by
  rcases Option.or_eq_some_iff.1 h with h | ⟨_, h⟩
  · exact List.mem_append_right ['f', 'F', 't', 'T', '\x27', '\x60', 'g'] (mem_of_toObject? h)
  · exact List.mem_append_left ['i', 'a'] (mem_of_toMotion? h)

theorem mem_visualKeys {c : Char} {l : Lead} (h : visual? c = some l) : l.key ∈ visualKeys := by
  unfold visual? at h
  split at h
  · cases h
    decide
  · have hkeys : operatorKeys ⊆ visualKeys := by decide
    exact hkeys (mem_operatorKeys h)

end Lead

namespace Pending

theorem lead_ne_idle (l : Lead) : lead l ≠ idle := by
  intro he
  cases he

theorem operator_ne_idle (op : Operator) (count : Option Nat) : operator op count ≠ idle := by
  intro he
  cases he

theorem operatorLead_ne_idle (op : Operator) (count : Option Nat) (l : Lead) :
    operatorLead op count l ≠ idle := by
  intro he
  cases he

end Pending

/-- The partial input that can be pending in a mode. -/
def Mode.Allows (m : Mode) : Pending → Prop
  | .idle => True
  | .lead l =>
    match m with
    | .normal => l.key ∈ Lead.normalKeys
    | .insert => False
    | .visual _ => l.key ∈ Lead.visualKeys
  | .operator _ count => m = .normal ∧ ∀ n ∈ count, 0 < n
  | .operatorLead _ count l => m = .normal ∧ (∀ n ∈ count, 0 < n) ∧ l.key ∈ Lead.operatorKeys

theorem Mode.Allows.idle_of_insert {p : Pending} (h : Mode.insert.Allows p) : p = .idle := by
  cases p with
  | idle => rfl
  | lead l => exact h.elim
  | operator op count => cases h.1
  | operatorLead op count l => cases h.1

namespace Session

/-- Mode, partial input and count agree. -/
structure Consistent (s : Session) : Prop where
  pending : s.mode.Allows s.pending
  count : ∀ n ∈ s.count, 0 < n
  insert : s.mode = .insert → s.count = none

/-- No partial input is left. -/
def Cleared (s : Session) : Prop :=
  s.pending = .idle ∧ s.count = none

theorem Cleared.consistent {s : Session} (h : s.Cleared) : s.Consistent := by
  obtain ⟨hp, hc⟩ := h
  constructor
  case pending =>
    rw [hp]
    trivial
  case count =>
    rw [hc]
    intro _ hn
    cases hn
  case insert =>
    intro _
    exact hc

theorem Consistent.pending_insert {s : Session} (h : s.Consistent) (hm : s.mode = .insert) :
    s.pending = .idle := by
  have hp := h.pending
  rw [hm] at hp
  exact hp.idle_of_insert

theorem Consistent.mode_of_operator {s : Session} {op : Operator} (h : s.Consistent)
    (hp : s.pending.operator? = some op) : s.mode = .normal := by
  have hallows := h.pending
  cases hpending : s.pending with
  | idle =>
    rw [hpending] at hp
    cases hp
  | lead l =>
    rw [hpending] at hp
    cases hp
  | operator op' count =>
    rw [hpending] at hallows
    exact hallows.1
  | operatorLead op' count l =>
    rw [hpending] at hallows
    exact hallows.1

theorem Consistent.operatorCount_pos {s : Session} (h : s.Consistent) :
    ∀ n ∈ s.pending.operatorCount, 0 < n := by
  have hp := h.pending
  intro n hn
  cases hpending : s.pending with
  | idle =>
    rw [hpending] at hn
    cases hn
  | lead l =>
    rw [hpending] at hn
    cases hn
  | operator op count =>
    rw [hpending] at hp hn
    exact hp.2 n hn
  | operatorLead op count l =>
    rw [hpending] at hp hn
    exact hp.2.1 n hn

theorem Consistent.takenCount_pos {s : Session} (h : s.Consistent) :
    ∀ n ∈ s.takenCount, 0 < n := by
  intro n hn
  unfold takenCount at hn
  split at hn
  · rename_i m hm
    cases hn
    apply Nat.mul_pos (h.operatorCount_pos m hm)
    cases hc : s.count with
    | none => exact Nat.one_pos
    | some n => exact h.count n hc
  · exact h.count n hn

theorem Consistent.times_pos {s : Session} (h : s.Consistent) : 0 < s.takenCount.getD 1 := by
  cases ht : s.takenCount with
  | none => exact Nat.one_pos
  | some n => exact h.takenCount_pos n ht

/-- The key is the undo command. -/
def Undoes (s : Session) (k : Key) : Prop :=
  s.mode = .normal ∧ s.pending = .idle ∧ k = .char 'u'

/-- The answers of operators and commands that a key can lead to. -/
inductive Offers (s : Session) (b : Buffer) (k : Key) : Except Fault (Option Change) → Prop
  | operator {span : Span} (op : Operator) (h : span.Inside b) : Offers s b k (op.run b span)
  | openBelow {pos : Position} (h : b.IsCell pos) : Offers s b k (some <$> b.openBelow pos.line)
  | openAbove {pos : Position} (h : b.IsCell pos) :
    Offers s b k (.ok (some (Buffer.openAbove pos.line)))
  | join {pos : Position} (n : Nat) (h : b.IsCell pos) : Offers s b k (b.joinFrom pos.line n)
  | toggle {pos : Position} (n : Nat) (h : b.IsCell pos) : Offers s b k (b.toggleCase pos n)
  | replace {pos : Position} {n : Nat} (h : b.IsCell pos) (hn : 0 < n) :
    Offers s b k (b.replaceChars pos k.text n)
  | putAfter {pos : Position} {n : Nat} {r : Register} (h : b.IsCell pos) (hn : 0 < n)
    (hr : s.register = some r) : Offers s b k (some <$> b.putAfter pos r n)
  | putBefore {pos : Position} {n : Nat} {r : Register} (h : b.IsCell pos) (hn : 0 < n)
    (hr : s.register = some r) : Offers s b k (some <$> b.putBefore pos r n)

/-- What a key can lead to. -/
inductive Outcome (s : Session) (d : Document) (k : Key) : Reaction → Prop
  /-- The key is left to be typed. -/
  | typed (hm : s.mode = .insert) : Outcome s d k { session := s, consumed := false }
  | digit {s' : Session} (hm : s.mode ≠ .insert) (h : s.digit? k = some s') :
    Outcome s d k { session := s' }
  /-- More input is waited for. -/
  | awaits {p : Pending} {count : Option Nat} (hp : p ≠ .idle) (ha : s.mode.Allows p)
    (hc : count = s.count ∨ count = none) :
    Outcome s d k { session := { s with pending := p, count } }
  /-- Nothing is asked of the document. -/
  | rests {s' : Session} (hc : s'.Cleared) (hm : s'.mode = s.mode)
    (hr : s'.register = s.register) : Outcome s d k { session := s' }
  | moves {s' : Session} {p : Position} (hc : s'.Cleared) (hr : s'.register = s.register)
    (hp : d.buffer.Contains p) (hm : s'.mode = .insert ∨ s'.mode = .normal ∧ d.buffer.IsCell p) :
    Outcome s d k { session := s', request := .ok (.moveTo p) }
  /-- Insert mode is left, one column to the left. -/
  | leaves (hm : s.mode = .insert) :
    Outcome s d k { session := s.reset,
                    request := .ok (.moveTo ⟨d.cursor.line, max 0 (d.cursor.col - 1)⟩) }
  | shows {s' : Session} {sel : Selection} {start stop : Position} (hc : s'.Cleared)
    (hr : s'.register = s.register) (hm : s'.mode = .visual sel) (hsel : sel.Inside d.buffer)
    (hh : sel.highlight d.buffer = .ok (start, stop)) :
    Outcome s d k { session := s', request := .ok (.highlight start stop) }
  | undoes (h : s.Undoes k) :
    Outcome s d k { session := s.clear, request := .ok (.undo (s.takenCount.getD 1)) }
  | changes {s' : Session} {c : Change} (hc : s'.Cleared) (hm : s'.mode = .normal)
    (hr : s'.register = s.register) (h : s.Offers d.buffer k (.ok (some c))) :
    Outcome s d k (s'.apply c)
  | fails {s' : Session} {f : Fault} (hc : s'.Cleared) (hm : s'.mode = .normal)
    (hr : s'.register = s.register) (h : s.Offers d.buffer k (.error f)) :
    Outcome s d k { session := s', request := .error f }

end Session

end ModalEdit
