import ModalEdit.Proofs.OperatorChanges
import ModalEdit.Proofs.PutCopies

namespace ModalEdit

theorem toggleChar_ne_nil (c : Char) : toggleChar c ≠ [] := by
  by_cases hc : c = '\n'
  · subst hc
    exact List.cons_ne_nil _ _
  · exact List.ne_nil_of_length_pos (toggleChar_spec hc).1

/-- By how many characters a text gets longer when case is exchanged. -/
def growth : List Char → Nat
  | [] => 0
  | c :: text => (toggleChar c).length - 1 + growth text

theorem length_toggleChar_sigma : (toggleChar 'Σ').length = 1 := by
  decide +kernel

/-- A capital sigma becomes one character in either form, so what stands around plays no part. -/
theorem length_toggleCaseAfter (before text : List Char) :
    (toggleCaseAfter before text).length = text.length + growth text := by
  induction text generalizing before with
  | nil => rfl
  | cons c rest ih =>
    have hone : ∀ other : List Char, other.length = (toggleChar c).length →
        (other ++ toggleCaseAfter (c :: before) rest).length = (c :: rest).length +
          growth (c :: rest) := by
      intro other hother
      have hpos := List.length_pos_iff.2 (toggleChar_ne_nil c)
      rw [List.length_append, ih, hother, List.length_cons, growth]
      omega
    simp only [toggleCaseAfter]
    apply hone
    split
    · subst c
      rw [length_toggleChar_sigma]
      split <;> rfl
    · rfl

theorem growth_eq_zero_iff {text : List Char} :
    growth text = 0 ↔ ∀ c ∈ text, (toggleChar c).length = 1 := by
  induction text with
  | nil => exact ⟨nofun, fun _ => rfl⟩
  | cons c text ih =>
    have hpos := List.length_pos_iff.2 (toggleChar_ne_nil c)
    rw [growth, Nat.add_eq_zero_iff, ih, List.forall_mem_cons]
    exact and_congr_left' (by omega)

namespace Buffer

variable {b : Buffer} {i c : Nat}

theorem toggleCase_eq (hi : i < b.size) (hc : c < (b.line i).length) (n : Nat) :
    let k := min n ((b.line i).length - c)
    b.toggleCase ⟨i, c⟩ n =
      .ok (some ⟨⟨i, clampCol (b.line i).length (c + k : Nat)⟩,
        some ⟨⟨i, c⟩, ⟨i, (c + k : Nat)⟩, toggledCase (((b.line i).drop c).take k)⟩, none,
        false⟩) := by
  intro k
  have hstop : min ((c : Int) + n) (b.line i).length = (c + k : Nat) := by omega
  have hne : ¬ ((b.line i).isEmpty = true ∨ ((b.line i).length : Int) ≤ c) := by
    rintro (hempty | hle)
    · rw [List.isEmpty_iff.1 hempty] at hc
      exact Nat.not_lt_zero c hc
    · omega
  have htaken : ((b.line i).take (c + k)).drop c = ((b.line i).drop c).take k := by
    rw [List.take_drop]
  simp only [toggleCase, lineAt_natCast hi, bind, Except.bind, hne, if_false, hstop,
    between_natCast (c + k) (Nat.le_of_lt hc), htaken]
  rfl

end Buffer

namespace Document

variable {d : Document} {i c : Nat}

/-- Exchanging the case of so many characters from a character on leaves the text before and behind
them. The cursor would be on the first character behind them, or on the last of the line where there
is none, if it were not as many columns before it as the line has grown; so it is there if and only
if each of the characters becomes a single one. -/
theorem toggle_stops_short_by_growth (hi : i < d.buffer.size) (hc : c < (d.buffer.line i).length)
    (n : Nat) :
    let line := d.buffer.line i
    let k := min n (line.length - c)
    let taken := (line.drop c).take k
    let toggled := toggledCase taken
    let whole := line.take c ++ toggled ++ line.drop (c + k)
    let past := if c + k < line.length then c + toggled.length else whole.length - 1
    ∃ change b, ∃ col : Nat, d.buffer.toggleCase ⟨i, c⟩ n = .ok (some change) ∧
      d.Makes (.ok change) b ⟨i, col⟩ ∧
      b.lines = d.buffer.lines.take i ++ splitLines whole ++ d.buffer.lines.drop (i + 1) ∧
      (NewlineFree line → splitLines whole = [whole]) ∧
      col + growth taken = past ∧ (col = past ↔ ∀ ch ∈ taken, (toggleChar ch).length = 1) := by
  intro line k taken toggled whole past
  obtain ⟨b, hr, hlines⟩ :=
    Buffer.replace_natCast (b := d.buffer) c (c + k) toggled (Nat.le_refl i) hi
  have hc' : c < line.length := hc
  have hk : c + k ≤ line.length := by omega
  have htaken : taken.length = k := by
    rw [List.length_take, List.length_drop]
    omega
  have htoggled : toggled.length = k + growth taken := by
    rw [← htaken]
    exact length_toggleCaseAfter [] taken
  have hwhole : whole.length = line.length + growth taken := by
    simp only [whole, List.length_append, List.length_take, List.length_drop, htoggled]
    omega
  have hpast : clampCol line.length (c + k : Nat) + growth taken = past := by
    rw [clampCol_natCast]
    simp only [past, htoggled, hwhole]
    split <;> omega
  refine ⟨_, b, clampCol line.length (c + k : Nat), Buffer.toggleCase_eq hi hc n, makes_edit hr,
    hlines, ?_, hpast, ?_⟩
  · intro hfree
    have hfree' := (toggleCaseAfter_spec [] ((hfree.drop c).take k)).2
    exact splitLines_of_newlineFree (((hfree.take c).append hfree').append (hfree.drop (c + k)))
  · rw [← growth_eq_zero_iff]
    omega

theorem toggle_stops_short_by_growth_sharp :
    let d : Document := { buffer := .ofText "ßa".toList }
    ∃ change b, d.buffer.toggleCase ⟨0, 0⟩ 1 = .ok (some change) ∧
      d.Makes (.ok change) b ⟨0, (1 : Nat)⟩ ∧ b.lines = ["SSa".toList] := by
  intro d
  obtain ⟨change, b, col, hrun, hmade, hlines, -, hpast, -⟩ :=
    toggle_stops_short_by_growth (d := d) (i := 0) (c := 0) (by decide) (by decide) 1
  have hgrowth : growth "ß".toList = 1 := by decide +kernel
  have htoggled : toggledCase "ß".toList = "SS".toList := by decide +kernel
  have hpast' : col + growth "ß".toList = 0 + (toggledCase "ß".toList).length := hpast
  have hlines' : b.lines = [] ++ splitLines (toggledCase "ß".toList ++ "a".toList) ++ [] := hlines
  rw [hgrowth, htoggled] at hpast'
  rw [htoggled] at hlines'
  obtain rfl : col = 1 := Nat.succ.inj hpast'
  exact ⟨change, b, hrun, hmade, hlines'⟩

end Document

end ModalEdit
