import ModalEdit.Proofs.ClampedLines
import ModalEdit.Proofs.FlatEdits
import ModalEdit.Proofs.Highlight
import ModalEdit.Proofs.ObjectRoutes
import ModalEdit.Proofs.PlainLines

namespace ModalEdit

/-- What an operator leaves of a text when it takes the part between two offsets. -/
def Operator.textLeft : Operator → List Char → Nat → Nat → List Char
  | .yank, text, _, _ => text
  | _, text, first, last => text.take first ++ text.drop last

/-- An operator on characters takes the slice of the text between their offsets. -/
theorem Operator.exists_run_charwise {b : Buffer} {start stop : Position} {first last : Nat}
    (op : Operator) (h : b.Plain) (hstart : b.StandsAt start first) (hstop : b.StandsAt stop last)
    (hlt : start < stop) :
    ∃ c, op.run b ⟨start, stop, .charwise⟩ = .ok (some c) ∧
      c.register = some (.chars ((b.text.take last).drop first)) ∧
      c.result b = .ok (.ofText (op.textLeft b.text first last)) := by
  have hle := Position.le_of_lt hlt
  have hempty : (⟨start, stop, .charwise⟩ : Span).isEmpty = false := decide_eq_false hlt
  have ht := hstart.textBetween hstop hle
  have hcut := hstart.replace hstop h hle []
  rw [List.append_nil] at hcut
  cases op with
  | delete =>
    obtain ⟨i, c, rfl, hi, _⟩ := hstart.1.exists_natCast
    obtain ⟨j, c', rfl, hj, _⟩ := hstop.1.exists_natCast
    exact ⟨_, run_delete_natCast hempty hi hj ht, rfl, hcut⟩
  | change =>
    have hrun : Operator.change.run b ⟨start, stop, .charwise⟩ = .ok (some
        ⟨start, some ⟨start, stop, []⟩, some (.chars ((b.text.take last).drop first)), true⟩) := by
      simp only [run, hempty, ht, bind, Except.bind]
      rfl
    exact ⟨_, hrun, rfl, hcut⟩
  | yank =>
    have hrun : Operator.yank.run b ⟨start, stop, .charwise⟩ = .ok (some
        ⟨start, none, some (.chars ((b.text.take last).drop first)), false⟩) := by
      simp only [run, hempty, ht, bind, Except.bind]
      rfl
    exact ⟨_, hrun, rfl, congrArg _ h.ofText_text.symm⟩

theorem Operator.exists_run_lines {b : Buffer} {top bottom : Nat} (op : Operator) (h : b.Plain)
    (hle : top ≤ bottom) (hlt : bottom < b.size) :
    ∃ c b', op.run b ⟨⟨top, 0⟩, ⟨bottom, 0⟩, .linewise⟩ = .ok (some c) ∧
      c.register = some (.lines (b.block top bottom)) ∧ c.result b = .ok b' ∧
      b'.lines = op.linesLeft b top bottom := by
  have hempty : (⟨⟨top, 0⟩, ⟨bottom, 0⟩, .linewise⟩ : Span).isEmpty = false :=
    decide_eq_false (Int.not_lt.2 (Int.ofNat_le.2 hle))
  obtain ⟨b', hr, hlines, _⟩ := op.wholeLines_result h ⟨⟨top, 0⟩, ⟨bottom, 0⟩, .linewise⟩
  have hreg := op.register_wholeLines b ⟨⟨top, 0⟩, ⟨bottom, 0⟩, .linewise⟩
  rw [Buffer.lineBounds_natCast hle hlt] at hlines hreg
  exact ⟨_, b', op.run_of_linewise b rfl hempty, hreg, hr, hlines⟩

namespace Editor

variable {limits : Limits} {clipboard : Clipboard} {e : Editor} {sel : Selection}

theorem obstacle_selectionOperator (hm : e.session.mode = .visual sel)
    (hp : e.session.pending = .idle) (op : Operator) :
    e.session.obstacle limits (.char op.key) = none := by
  have huse : e.session.usesCount (.char op.key) = false := by
    simp only [Session.usesCount, hm, hp]
    cases op <;> rfl
  simp only [Session.obstacle, huse, Bool.false_and, Bool.false_eq_true, if_false]

section Selected

variable (limits clipboard) {start stop : Position} {first last top bottom : Nat}

theorem exists_pressWithin_of_run {op : Operator} {c : Change} {b' : Buffer} {r : Register}
    (hm : e.session.mode = .visual sel) (hp : e.session.pending = .idle)
    (hrun : op.run e.document.buffer sel.span = .ok (some c)) (hreg : c.register = some r)
    (hresult : c.result e.document.buffer = .ok b') :
    ∃ e' report, e.pressWithin limits clipboard (.char op.key) = (e', .ok report) ∧
      e'.session.register = some r ∧ e'.document.buffer = b' := by
  refine ⟨_, _, pressWithin_of_apply (obstacle_selectionOperator hm hp op)
    (Session.react_operatorOnSelection hm hp hrun) (Document.grant_change hresult), ?_, rfl⟩
  simp only [Session.apply, hreg, Option.some_or]

/-- On an empty selection an operator only moves the cursor. -/
theorem exists_pressWithin_of_isEmpty (hm : e.session.mode = .visual sel)
    (hp : e.session.pending = .idle) (hempty : sel.span.isEmpty = true) (op : Operator) :
    ∃ e' report, e.pressWithin limits clipboard (.char op.key) = (e', .ok report) ∧
      e'.session.register = e.session.register ∧ e'.document.buffer = e.document.buffer := by
  have hreact : e.session.react e.document (.char op.key) =
      { session := { e.session.clear with mode := .normal }
        request := .ok (.moveTo (e.document.buffer.clamp sel.span.start)) } := by
    rw [Session.react_selectionOperator hm hp]
    simp only [Session.operateOn, op.run_of_isEmpty _ hempty]
  rw [pressWithin_of_none (obstacle_selectionOperator hm hp op)]
  simp only [press, hreact, Document.grant]
  exact ⟨_, _, rfl, rfl, rfl⟩

theorem exists_pressWithin_charwise (hb : e.document.buffer.Plain)
    (hm : e.session.mode = .visual sel) (hp : e.session.pending = .idle)
    (hspan : sel.span = ⟨start, stop, .charwise⟩) (hstart : e.document.buffer.StandsAt start first)
    (hstop : e.document.buffer.StandsAt stop last) (op : Operator) :
    let text := e.document.buffer.text
    ∃ e' report, e.pressWithin limits clipboard (.char op.key) = (e', .ok report) ∧
      (start < stop → e'.session.register = some (.chars ((text.take last).drop first)) ∧
        e'.document.buffer = .ofText (op.textLeft text first last)) ∧
      (start = stop → e'.session.register = e.session.register ∧
        e'.document.buffer = e.document.buffer) := by
  intro text
  by_cases hlt : start < stop
  · obtain ⟨c, hrun, hreg, hresult⟩ := op.exists_run_charwise hb hstart hstop hlt
    obtain ⟨e', report, hpress, htaken⟩ := exists_pressWithin_of_run limits clipboard hm hp
      (hspan ▸ hrun) hreg hresult
    refine ⟨e', report, hpress, fun _ => htaken, ?_⟩
    rintro rfl
    exact absurd (Position.le_refl start) hlt
  · have hempty : sel.span.isEmpty = true := by
      rw [hspan]
      exact decide_eq_true (Decidable.not_not.1 hlt)
    obtain ⟨e', report, hpress, hkept⟩ := exists_pressWithin_of_isEmpty limits clipboard hm hp
      hempty op
    exact ⟨e', report, hpress, fun hlt' => absurd hlt' hlt, fun _ => hkept⟩

theorem exists_pressWithin_linewise (hb : e.document.buffer.Plain)
    (hm : e.session.mode = .visual sel) (hp : e.session.pending = .idle)
    (hspan : sel.span = ⟨⟨top, 0⟩, ⟨bottom, 0⟩, .linewise⟩) (hle : top ≤ bottom)
    (hlt : bottom < e.document.buffer.size) (op : Operator) :
    ∃ e' report, e.pressWithin limits clipboard (.char op.key) = (e', .ok report) ∧
      e'.session.register = some (.lines (e.document.buffer.block top bottom)) ∧
      e'.document.buffer.lines = op.linesLeft e.document.buffer top bottom := by
  obtain ⟨c, b', hrun, hreg, hresult, hlines⟩ := op.exists_run_lines hb hle hlt
  obtain ⟨e', report, hpress, hreg', rfl⟩ := exists_pressWithin_of_run limits clipboard hm hp
    (hspan ▸ hrun) hreg hresult
  exact ⟨e', report, hpress, hreg', hlines⟩

end Selected

/-- Whatever keys lead to a selection, an operator takes from it what is highlighted. Of characters
the register gets the text between the ends, which is cut out unless it is only yanked, and where
the ends are the same nothing happens to register and lines. Of lines it gets that text without the
line break that comes last where the highlight goes on to the line below, and the other lines
stay. -/
theorem operator_takes_highlight {e₀ : Editor} (h₀ : e₀.session = {})
    (hd : e₀.document.selection = none) (hplain : e₀.document.Plain)
    (h : Reaches limits clipboard Keyed e₀ e) (hm : e.session.mode = .visual sel)
    (hp : e.session.pending = .idle) (op : Operator) :
    let b := e.document.buffer
    ∃ start stop first last e' report,
      e.document.selection = some (start, stop) ∧
      b.StandsAt start first ∧ b.StandsAt stop last ∧ start ≤ stop ∧
      e.pressWithin limits clipboard (.char op.key) = (e', .ok report) ∧
      let taken := (b.text.take last).drop first
      match sel.shape with
      | .charwise =>
        (start < stop → e'.session.register = some (.chars taken) ∧
          e'.document.buffer = .ofText (op.textLeft b.text first last)) ∧
        (start = stop → e'.session.register = e.session.register ∧ e'.document.buffer = b)
      | .linewise =>
        ∃ top bottom : Nat, sel.top = top ∧ sel.bottom = bottom ∧
          e'.session.register = some (.lines (b.block top bottom)) ∧
          taken = joinLines (b.block top bottom) ++
            (if stop = ⟨bottom + 1, 0⟩ then ['\n'] else []) ∧
          e'.document.buffer.lines = op.linesLeft b top bottom := by
  intro b
  have hsel := (h.steady h₀).selection sel hm
  have hb : b.Plain := (h.plain hplain).buffer
  obtain ⟨start, stop, hh⟩ := Selection.exists_highlight hsel
  have hshown := (h.highlights h₀ hd).trans (Session.highlight_of_visual hm hh)
  obtain ⟨hle, hin, hin'⟩ := Selection.highlight_inside hsel hh
  have hstart : b.StandsAt start _ := ⟨hin, rfl⟩
  have hstop : b.StandsAt stop _ := ⟨hin', rfl⟩
  cases hshape : sel.shape with
  | charwise =>
    obtain ⟨e', report, hpress, htaken⟩ := exists_pressWithin_charwise limits clipboard hb hm
      hp (Selection.span_of_charwise hshape hh) hstart hstop op
    exact ⟨start, stop, _, _, e', report, hshown, hstart, hstop, hle, hpress, htaken⟩
  | linewise =>
    obtain ⟨top, bottom, htop, hbottom, hle', hlt, rfl, hstop'⟩ :=
      Selection.highlight_of_linewise hsel hshape hh
    have hspan : sel.span = ⟨⟨top, 0⟩, ⟨bottom, 0⟩, .linewise⟩ := by
      simp only [Selection.span, hshape, htop, hbottom]
    obtain ⟨e', report, hpress, hreg, hleft⟩ := exists_pressWithin_linewise limits clipboard hb
      hm hp hspan hle' hlt op
    refine ⟨_, stop, _, _, e', report, hshown, hstart, hstop, hle, hpress, top, bottom, htop,
      hbottom, hreg, ?_, hleft⟩
    rcases hstop' with ⟨hnext, rfl⟩ | ⟨_, rfl⟩
    · have hbelow : (⟨(bottom + 1 : Nat), (0 : Nat)⟩ : Position) = ⟨bottom + 1, 0⟩ := rfl
      rw [if_pos hbelow]
      exact Buffer.slice_block_below hle' hnext
    · have hend : (⟨bottom, (b.line bottom).length⟩ : Position) ≠ ⟨bottom + 1, 0⟩ := by
        intro he
        injection he with hline
        omega
      rw [if_neg hend, List.append_nil]
      exact Buffer.slice_block hle' hlt

theorem operator_takes_highlight_across_lines :
    let e₀ : Editor := { document := { buffer := .ofText "abc\ndef\ngh".toList } }
    (∃ e' report, (e₀.pressAll .standard .working [.char 'l', .char 'v', .char 'j']).pressWithin
        .standard .working (.char 'd') = (e', .ok report) ∧
      e'.session.register = some (.chars "bc\nd".toList) ∧
      e'.document.buffer.lines = ["aef".toList, "gh".toList]) ∧
    ∃ e' report, (e₀.pressAll .standard .working [.char 'j', .char 'V', .char 'j']).pressWithin
        .standard .working (.char 'd') = (e', .ok report) ∧
      e'.session.register = some (.lines ["def".toList, "gh".toList]) ∧
      e'.document.buffer.lines = ["abc".toList] := by
  intro e₀
  have hplain : e₀.document.Plain := .of_history_eq_nil (Buffer.plain_ofText _) rfl
  have hreach (ks : List Key) : Reaches .standard .working Keyed e₀
      (e₀.pressAll .standard .working ks) :=
    Reaches.refl.pressAll fun _ _ _ => trivial
  constructor
  · have hm : (e₀.pressAll .standard .working [.char 'l', .char 'v', .char 'j']).session.mode =
        .visual ⟨⟨0, 1⟩, ⟨1, 1⟩, .charwise⟩ := by
      decide +kernel
    obtain ⟨start, stop, first, last, e', report, hshown, hstart, hstop, _, hpress, hchars, _⟩ :=
      operator_takes_highlight rfl rfl hplain (hreach _) hm (by decide +kernel) .delete
    have hends : (e₀.pressAll .standard .working
        [.char 'l', .char 'v', .char 'j']).document.selection = some (⟨0, 1⟩, ⟨1, 1⟩) := by
      decide +kernel
    cases hends.symm.trans hshown
    obtain ⟨_, rfl⟩ := hstart
    obtain ⟨_, rfl⟩ := hstop
    obtain ⟨hreg, hleft⟩ := hchars (by decide)
    refine ⟨e', report, hpress, hreg.trans ?_, ?_⟩
    · decide +kernel
    · rw [hleft]
      decide +kernel
  · have hm : (e₀.pressAll .standard .working [.char 'j', .char 'V', .char 'j']).session.mode =
        .visual ⟨⟨1, 0⟩, ⟨2, 0⟩, .linewise⟩ := by
      decide +kernel
    obtain ⟨_, _, _, _, e', report, _, _, _, _, hpress, top, bottom, htop, hbottom, hreg, _,
        hleft⟩ :=
      operator_takes_highlight rfl rfl hplain (hreach _) hm (by decide +kernel) .delete
    obtain rfl : top = 1 := Int.ofNat_inj.1 htop.symm
    obtain rfl : bottom = 2 := Int.ofNat_inj.1 hbottom.symm
    refine ⟨e', report, hpress, hreg.trans ?_, hleft.trans ?_⟩
    · decide +kernel
    · decide +kernel

end Editor

end ModalEdit
