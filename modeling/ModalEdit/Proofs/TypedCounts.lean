import ModalEdit.Proofs.Runs

namespace ModalEdit

namespace Key

/-- The keys that type a number. -/
def digits (n : Nat) : List Key :=
  (naturalText n).map .char

theorem digits_of_lt {n : Nat} (h : n < 10) : digits n = [.char n.digitChar] := by
  rw [digits, naturalText, Nat.toDigits_of_lt_base h, List.map_singleton]

theorem digits_of_le {n : Nat} (h : 10 ≤ n) :
    digits n = digits (n / 10) ++ [.char (n % 10).digitChar] := by
  rw [digits, naturalText, Nat.toDigits_of_base_le (by decide) h, List.map_append,
    List.map_singleton]
  rfl

theorem digit?_digitChar {n : Nat} (h : n < 10) : (Key.char n.digitChar).digit? = some n := by
  have hrange : ∀ m < 10, (Key.char m.digitChar).digit? = some m := by decide
  exact hrange n h

end Key

theorem length_naturalText_le {m n : Nat} (h : m ≤ n) :
    (naturalText m).length ≤ (naturalText n).length := by
  induction n using Nat.strongRecOn generalizing m with
  | ind n ih =>
    by_cases hm : m < 10
    · rw [naturalText, Nat.toDigits_of_lt_base hm]
      exact List.length_pos_iff.2 Nat.toDigits_ne_nil
    · have hn : 10 ≤ n := by omega
      have hdiv := ih (n / 10) (by omega) (Nat.div_le_div_right h)
      rw [naturalText, naturalText, Nat.toDigits_of_base_le (by decide) (Nat.le_of_not_lt hm),
        Nat.toDigits_of_base_le (by decide) hn, List.length_append, List.length_append]
      exact Nat.add_le_add_right hdiv 1

theorem Limits.number_of_le {limits : Limits} {m n : Nat} (h : m ≤ n)
    (hn : limits.number n = none) : limits.number m = none := by
  have hlen := length_naturalText_le h
  cases hd : limits.digits with
  | none => simp [number, hd]
  | some most =>
    simp only [number, hd, Option.bind_eq_bind, Option.bind_some, ite_eq_right_iff,
      reduceCtorEq, imp_false] at hn ⊢
    omega

namespace Session

variable {s : Session} {k : Key} {limits : Limits}

theorem digit?_of_digit? {n : Nat} (hk : k.digit? = some n) (hl : s.pending.lead? = none)
    (hz : n = 0 → s.count ≠ none) :
    s.digit? k = some { s with count := some (10 * s.count.getD 0 + n) } := by
  have hno : ¬ (s.pending.lead?.isSome ∨ n = 0 ∧ s.count = none) := by
    rw [hl, not_or, not_and]
    exact ⟨Bool.false_ne_true, hz⟩
  simp only [digit?, hk, Option.bind_eq_bind, Option.bind_some, if_neg hno]
  rfl

theorem mode_ne_insert (hm : s.mode = .normal) : s.mode ≠ .insert := by
  rw [hm]
  exact Mode.noConfusion

theorem mode_ne_insert_of_visual {sel : Selection} (hm : s.mode = .visual sel) :
    s.mode ≠ .insert := by
  rw [hm]
  exact Mode.noConfusion

theorem Cleared.lead?_eq_none (h : s.Cleared) : s.pending.lead? = none := by
  rw [h.1]
  rfl

theorem Cleared.number_eq_none (h : s.Cleared) (limits : Limits) :
    s.count.bind limits.number = none := by
  rw [h.2]
  rfl

theorem digit?_eq_none (hd : k.digit? = none) : s.digit? k = none := by
  simp only [digit?, hd, Option.bind_eq_bind, Option.bind_none]

theorem digit?_eq_none_of_lead (hl : s.pending.lead?.isSome) : s.digit? k = none := by
  cases hd : s.digit? k with
  | none => rfl
  | some s' =>
    obtain ⟨_, _, _, hnone, _⟩ := digit?_eq_some hd
    rw [hnone] at hl
    cases hl

theorem putting?_eq_none (hp : s.pending ≠ .idle) : s.putting? k = none := by
  unfold putting?
  split
  · rename_i hidle
    exact absurd hidle hp
  · rfl

theorem putting?_of_visual {sel : Selection} (hm : s.mode = .visual sel) : s.putting? k = none := by
  simp only [putting?, hm]

theorem obstacle_eq_none (hr : s.count.bind limits.number = none)
    (hput : s.putting? k = none) : s.obstacle limits k = none := by
  simp only [obstacle, hr, hput, Option.bind_none, ite_self]

end Session

namespace Editor

variable {limits : Limits} {clipboard : Clipboard} {e : Editor} {k : Key}

@[simp] theorem pressAll_append (e : Editor) (ks ks' : List Key) :
    e.pressAll limits clipboard (ks ++ ks') =
      (e.pressAll limits clipboard ks).pressAll limits clipboard ks' := by
  simp only [pressAll, List.foldl_append]

/-- Where nothing is copied, a key leaves the session of its reaction and the document that is
granted. -/
theorem press_of_copied_eq_none (h : (e.session.react e.document k).copied = none) :
    (e.press clipboard k).1 =
      { e with
          session := (e.session.react e.document k).session
          document := e.document.granted (e.session.react e.document k).request } := by
  have hs := press_session e clipboard k
  have hd := press_document e clipboard k
  have hc : (e.press clipboard k).1.copied = e.copied := by
    simp only [press, h]
    split
    · rfl
    · split
      · rfl
      · split <;> simp
  rw [← hs, ← hd, ← hc]

theorem pressWithin_of_react {s' : Session} (ho : e.session.obstacle limits k = none)
    (hr : e.session.react e.document k = { session := s' }) :
    (e.pressWithin limits clipboard k).1 = { e with session := s' } := by
  rw [pressWithin_of_none ho, press_of_copied_eq_none (by rw [hr]), hr]
  rfl

theorem pressWithin_digit {s' : Session} (hm : e.session.mode ≠ .insert)
    (hk : e.session.digit? k = some s') :
    (e.pressWithin limits clipboard k).1 = { e with session := s' } := by
  have hesc : k ≠ .escape := by
    rintro rfl
    cases hk
  apply pressWithin_of_react
  · simp [Session.obstacle, hk]
  · rw [Session.react_of_ne_insert hm hesc]
    simp only [Session.command, hk]

def withCount (e : Editor) (n : Nat) : Editor :=
  { e with session := { e.session with count := some n } }

/-- A number that is typed becomes the count. -/
theorem pressAll_digits {n : Nat} (hn : 0 < n) (hm : e.session.mode ≠ .insert)
    (hl : e.session.pending.lead? = none) (hc : e.session.count = none) :
    e.pressAll limits clipboard (Key.digits n) = e.withCount n := by
  induction n using Nat.strongRecOn with
  | ind n ih =>
    by_cases hlt : n < 10
    · have hd : e.session.digit? (.char n.digitChar) =
          some { e.session with count := some (10 * e.session.count.getD 0 + n) } :=
        Session.digit?_of_digit? (Key.digit?_digitChar hlt) hl fun hz => absurd hz (by omega)
      rw [Key.digits_of_lt hlt, pressAll_cons, pressAll_nil, pressWithin_digit hm hd, hc]
      simp [withCount]
    · have hd : (e.withCount (n / 10)).session.digit? (.char (n % 10).digitChar) =
          some (e.withCount (10 * (n / 10) + n % 10)).session :=
        Session.digit?_of_digit? (Key.digit?_digitChar (Nat.mod_lt n (by decide))) hl
          fun _ => Option.some_ne_none _
      rw [Key.digits_of_le (Nat.le_of_not_lt hlt), pressAll_append,
        ih (n / 10) (by omega) (by omega), pressAll_cons, pressAll_nil,
        pressWithin_digit (e := e.withCount (n / 10)) hm hd, Nat.div_add_mod]
      rfl

end Editor

end ModalEdit
