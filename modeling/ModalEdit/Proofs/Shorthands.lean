import ModalEdit.Proofs.OperatorRuns

namespace ModalEdit

/-- The keys that type a count, none where there is none. -/
def Key.counting (count : Option Nat) : List Key :=
  count.elim [] digits

/-- What an operator takes when one key completes it: as many characters as the count says, the rest
of the line, or as many lines as the count says. -/
inductive Completion where
  | characters
  | lineEnd
  | lines
  deriving DecidableEq, Repr

namespace Completion

def key (op : Operator) : Completion → Char
  | .characters => 'l'
  | .lineEnd => '$'
  | .lines => op.key

def span (b : Buffer) (s : Spot) (count : Option Nat) : Completion → Span
  | .characters => s.cover s.col (min (s.col + count.getD 1) s.text.length)
  | .lineEnd => s.toLineEnd
  | .lines => b.linesFrom s (count.map (Nat.cast ·))

end Completion

/-- The operator that a command is short for, and what completes it. -/
def Operator.longForm? : Char → Option (Operator × Completion)
  | 'x' => some (.delete, .characters)
  | 's' => some (.change, .characters)
  | 'D' => some (.delete, .lineEnd)
  | 'C' => some (.change, .lineEnd)
  | 'S' => some (.change, .lines)
  | 'Y' => some (.yank, .lines)
  | _ => none

theorem Spot.isEmpty_cover {s : Spot} {first last : Nat} (h : first < last) :
    (s.cover first last).isEmpty = false := by
  apply decide_eq_false
  rintro (hlt | ⟨_, hle⟩)
  · exact Int.lt_irrefl _ hlt
  · exact absurd (Int.ofNat_le.1 hle) (Nat.not_le.2 h)

namespace Completion

variable {b : Buffer} {s : Spot} {count : Option Nat}

theorem inside_span (h : s.In b) (count : Option Nat) (t : Completion) :
    (t.span b s count).Inside b := by
  cases t with
  | characters => exact fun _ => ⟨h.contains_position, h.contains_at (Nat.min_le_right _ _)⟩
  | lineEnd => exact fun _ => ⟨h.contains_position, h.contains_at (Nat.le_refl _)⟩
  | lines => exact Span.inside_linewise _ _ _

/-- On a character there is something to take, and there always are lines. -/
theorem isEmpty_span (h : s.In b) (hpos : ∀ n ∈ count, 0 < n) {t : Completion}
    (ht : t = .lines ∨ s.col < s.text.length) : (t.span b s count).isEmpty = false := by
  have hone := getD_one_pos hpos
  cases t with
  | characters =>
    have hcol : s.col < s.text.length := ht.resolve_left Completion.noConfusion
    exact Spot.isEmpty_cover (Nat.lt_min.2 ⟨Nat.lt_add_of_pos_right hone, hcol⟩)
  | lineEnd =>
    have hcol : s.col < s.text.length := ht.resolve_left Completion.noConfusion
    exact Spot.isEmpty_cover hcol
  | lines =>
    have hlast : s.line ≤ b.lastLine := Nat.le_sub_one_of_lt h.line_lt
    have hle : s.line ≤ min (s.line + count.getD 1 - 1) b.lastLine := by omega
    rw [span, b.linesFrom_natCast s hpos]
    exact Span.isEmpty_ofLines hle _

end Completion

namespace Session

variable {s : Session} {d : Document} {op : Operator} {t : Completion} {c : Char} {change : Change}

theorem changeOrInsert_of_run {span : Span}
    (hrun : Operator.change.run d.buffer span = .ok (some change)) :
    s.changeOrInsert d span = s.apply change := by
  simp only [changeOrInsert, hrun, attempt]

theorem command_of_longForm (h : Operator.longForm? c = some (op, t)) :
    (Key.char c).digit? = none ∧ Lead.normal? c = none ∧ isMotionKey c = false ∧
      Operator.ofKey? c = none := by
  unfold Operator.longForm? at h
  split at h <;> first | exact ⟨rfl, rfl, rfl, rfl⟩ | cases h

/-- A command runs the operator of its long form. -/
theorem react_shorthand (hm : s.mode = .normal) (hp : s.pending = .idle)
    (h : Operator.longForm? c = some (op, t))
    (hrun : op.run d.buffer (t.span d.buffer (d.buffer.locate (d.buffer.clamp d.cursor))
      s.takenCount) = .ok (some change)) :
    s.react d (.char c) = s.reset.apply change := by
  obtain ⟨hd, hl, hno, hop⟩ := command_of_longForm h
  have hcommand : s.react d (.char c) = s.normalCommand d c := by
    rw [react_of_ne_insert (mode_ne_insert hm) Key.noConfusion]
    simp only [command, digit?_eq_none hd, hp, freshKey, hm, hl, hno, hop, Bool.false_eq_true,
      if_false]
  rw [hcommand, ← apply_clear hm]
  unfold Operator.longForm? at h
  split at h
  case h_1 | h_3 | h_5 | h_6 =>
    cases h
    exact congrArg s.clear.attempt hrun
  case h_2 | h_4 =>
    cases h
    exact changeOrInsert_of_run hrun
  case h_7 => cases h

theorem react_completion {count : Option Nat} (hm : s.mode = .normal)
    (hp : s.pending = .operator op count) (hpos : ∀ n ∈ s.takenCount, 0 < n)
    (hrun : op.run d.buffer (t.span d.buffer (d.buffer.locate (d.buffer.clamp d.cursor))
      s.takenCount) = .ok (some change)) :
    s.react d (.char (t.key op)) = s.reset.apply change := by
  have hcursor : s.cursor d = d.buffer.clamp d.cursor := by simp only [cursor, hm]
  cases t with
  | characters =>
    have hright : Motion.ofKey? (Completion.characters.key op) = some .right := rfl
    have hspan : (Motion.right.run d.buffer (s.cursor d) s.motionCount).bind (·.span) =
        some (Completion.characters.span d.buffer (d.buffer.locate (d.buffer.clamp d.cursor))
          s.takenCount) := by
      rw [hcursor, motionCount, Motion.run, times_natCast hpos]
      rfl
    have hword : 'l' ≠ 'w' ∧ 'l' ≠ 'W' := by decide
    rw [react_operatorMotion hm hp rfl hright fun _ => hword]
    exact (congrArg _ hspan).trans (operate_of_run hm hrun)
  | lineEnd =>
    have hend : Motion.ofKey? (Completion.lineEnd.key op) = some .lineEnd := rfl
    have hword : '$' ≠ 'w' ∧ '$' ≠ 'W' := by decide
    rw [react_operatorMotion hm hp rfl hend fun _ => hword, hcursor]
    exact operate_of_run hm hrun
  | lines =>
    rw [Completion.key, react_doubledKey hm hp]
    exact operate_of_run hm hrun

theorem putting?_of_longForm (h : Operator.longForm? c = some (op, t)) :
    s.putting? (.char c) = none := by
  have hput : ¬ (c = 'p' ∨ c = 'P') := by
    rintro (rfl | rfl)
    · cases h
    · cases h
  unfold putting?
  split
  · rename_i he
    cases he
    exact if_neg hput
  · rfl

theorem usesCount_of_longForm (hm : s.mode = .normal) (hp : s.pending = .idle)
    (h : Operator.longForm? c = some (op, t)) :
    s.usesCount (.char c) = countedCommands.contains c := by
  obtain ⟨_, hl, hno, hop⟩ := command_of_longForm h
  simp only [usesCount, hm, hp, hl, hno, hop, Option.isNone_none, Option.isSome_none,
    Bool.true_and, Bool.false_or]

theorem obstacle_of_longForm {limits : Limits} (hm : s.mode = .normal) (hp : s.pending = .idle)
    (h : Operator.longForm? c = some (op, t))
    (hr : s.count.bind limits.number = none ∨ c ∉ countedCommands) :
    s.obstacle limits (.char c) = none := by
  rcases hr with hr | hc
  · exact obstacle_eq_none hr (putting?_of_longForm h)
  · have hno : countedCommands.contains c = false := by
      rwa [Bool.eq_false_iff, Ne, List.contains_iff_mem]
    simp only [obstacle, usesCount_of_longForm hm hp h, hno, Bool.false_and, Bool.false_eq_true,
      if_false]

end Session

namespace Editor

variable {limits : Limits} {clipboard : Clipboard} {e : Editor} {op : Operator} {t : Completion}
  {c : Char} {count : Option Nat}

/-- The editor after a count. -/
def counting (e : Editor) (count : Option Nat) : Editor :=
  { e with session := { e.session with count } }

theorem pressAll_counting (hm : e.session.mode = .normal) (hc : e.session.Cleared)
    (hpos : ∀ n ∈ count, 0 < n) :
    e.pressAll limits clipboard (Key.counting count) = e.counting count := by
  cases count with
  | none =>
    have he : e.counting none = e := by rw [counting, ← hc.2]
    exact he.symm
  | some n =>
    exact pressAll_digits (hpos n rfl) (Session.mode_ne_insert hm) hc.lead?_eq_none hc.2

theorem pressAll_counting_operatorKey {T : List Key} (hm : e.session.mode = .normal)
    (hc : e.session.Cleared) (hpos : ∀ n ∈ count, 0 < n)
    (hr : ∀ n ∈ count, limits.number n = none) :
    e.pressAll limits clipboard (Key.counting count ++ .char op.key :: T) =
      (e.operatorTyped op count none).pressAll limits clipboard T := by
  cases count with
  | none => exact pressAll_operatorKey hm hc
  | some n => exact pressAll_before hm hc (hpos n rfl) (hr n rfl)

variable {change : Change}

theorem pressWithin_shorthand (hm : e.session.mode = .normal) (hc : e.session.Cleared)
    (hr : count.bind limits.number = none ∨ c ∉ Session.countedCommands)
    (h : Operator.longForm? c = some (op, t))
    (hrun : op.run e.document.buffer (t.span e.document.buffer
      (e.document.buffer.locate (e.document.buffer.clamp e.document.cursor)) count) =
        .ok (some change)) (hlines : change.OnLines e.document.buffer) :
    ((e.counting count).pressWithin limits clipboard (.char c)).1 = e.changed clipboard change := by
  have htaken : (e.counting count).session.takenCount = count := by
    simp only [counting, Session.takenCount, hc.1, Pending.operatorCount]
  refine pressWithin_eq_changed ?_ ?_ rfl hlines rfl
  · exact Session.obstacle_of_longForm (s := (e.counting count).session) hm hc.1 h hr
  · apply Session.react_shorthand (s := (e.counting count).session) hm hc.1 h
    rw [htaken]
    exact hrun

theorem pressWithin_shorthand_of_unreadable {n : Nat} {f : Fault} (hm : e.session.mode = .normal)
    (hp : e.session.pending = .idle) (h : Operator.longForm? c = some (op, t))
    (hc : c ∈ Session.countedCommands) (hf : limits.number n = some f) :
    (e.withCount n).pressWithin limits clipboard (.char c) = (e.withCount n, .error f) := by
  have huse : (e.withCount n).session.usesCount (.char c) = true := by
    rw [Session.usesCount_of_longForm (s := (e.withCount n).session) hm hp h]
    exact List.contains_iff_mem.2 hc
  have hd := (Session.command_of_longForm h).1
  apply pressWithin_of_obstacle
  apply Session.Unreadable.obstacle
  exact ⟨huse, Session.digit?_eq_none hd, n, rfl, hf⟩

theorem pressWithin_completion (hm : e.session.mode = .normal) (hpos : ∀ n ∈ count, 0 < n)
    (hrun : op.run e.document.buffer (t.span e.document.buffer
      (e.document.buffer.locate (e.document.buffer.clamp e.document.cursor)) count) =
        .ok (some change)) (hlines : change.OnLines e.document.buffer) :
    ((e.operatorTyped op count none).pressWithin limits clipboard (.char (t.key op))).1 =
      e.changed clipboard change := by
  have htaken : (e.operatorTyped op count none).session.takenCount = count := by
    cases count with
    | none => rfl
    | some n => exact congrArg some (Nat.mul_one n)
  refine pressWithin_eq_changed ?_ ?_ rfl hlines rfl
  · exact Session.obstacle_eq_none rfl
      (Session.putting?_eq_none (Pending.operator_ne_idle op count))
  · apply Session.react_completion (s := (e.operatorTyped op count none).session) hm rfl
    · rwa [htaken]
    · rw [htaken]
      exact hrun

/-- A command with a count does what its long form does with that count: the operator runs, and
session, document and copied texts end the same. On an empty line this holds of the commands that
take whole lines. Only where the digits of an integer are bounded can a count be too long to be
read; the operator then fails and changes nothing, and so do the commands that use their count. The
others run all the same. -/
theorem shorthand_expands (hm : e.session.mode = .normal) (hc : e.session.Cleared)
    (hpos : ∀ n ∈ count, 0 < n) (h : Operator.longForm? c = some (op, t))
    (hline : t = .lines ∨ e.document.buffer.line e.document.cursorLine ≠ []) :
    ((∀ n ∈ count, limits.number n = none) →
        let short := e.pressAll limits clipboard (Key.counting count ++ [.char c])
        short = e.pressAll limits clipboard
            (Key.counting count ++ [.char op.key, .char (t.key op)]) ∧
          Ran op e short) ∧
      ∀ n ∈ count, ∀ f, limits.number n = some f →
        let typed := e.pressAll limits clipboard (Key.counting count)
        typed.pressWithin limits clipboard (.char op.key) = (typed, .error f) ∧
          if c ∈ Session.countedCommands then
            typed.pressWithin limits clipboard (.char c) = (typed, .error f)
          else Ran op e (typed.pressWithin limits clipboard (.char c)).1 := by
  have hspot := e.document.buffer.in_locate (e.document.buffer.clamp e.document.cursor)
  have hinside := t.inside_span hspot count
  have hempty := Completion.isEmpty_span hspot hpos (hline.imp_right Buffer.col_locate_clamp_lt)
  obtain ⟨change, _, hrun, _, hlines⟩ := op.run_of_not_isEmpty hinside hempty
  have hran : Ran op e (e.changed clipboard change) := ran_changed hm hinside hrun
  have htyped : e.pressAll limits clipboard (Key.counting count) = e.counting count :=
    pressAll_counting hm hc hpos
  constructor
  · intro hr short
    have hread : count.bind limits.number = none := Option.bind_eq_none_iff.2 hr
    have hshort : short = e.changed clipboard change := by
      rw [← pressWithin_shorthand hm hc (.inl hread) h hrun hlines, ← htyped]
      exact pressAll_append e _ _
    have hlong : ((e.operatorTyped op count none).pressWithin limits clipboard
        (.char (t.key op))).1 = e.changed clipboard change :=
      pressWithin_completion hm hpos hrun hlines
    rw [hshort, pressAll_counting_operatorKey hm hc hpos hr]
    exact ⟨hlong.symm, hran⟩
  · rintro n hn f hf typed
    obtain rfl := hn
    have hfails : (e.withCount n).pressWithin limits clipboard (.char op.key) =
        (e.withCount n, .error f) :=
      pressWithin_operatorKey_of_unreadable hm hc.1 hf
    simp only [typed, htyped]
    refine ⟨hfails, ?_⟩
    split
    · rename_i hcounted
      exact pressWithin_shorthand_of_unreadable hm hc.1 h hcounted hf
    · rename_i hfree
      rw [pressWithin_shorthand hm hc (.inr hfree) h hrun hlines]
      exact hran

theorem shorthand_expands_counted :
    let e : Editor := { document := { buffer := .ofText "abc\n".toList } }
    let below : Editor := { e with document := e.document.moveTo ⟨1, 0⟩ }
    (e.pressAll .standard .working ("2x".toList.map .char)).document.buffer.text = "c\n".toList ∧
      e.pressAll .standard .working ("2x".toList.map .char) =
        e.pressAll .standard .working ("2dl".toList.map .char) ∧
      below.pressAll .standard .working ("3S".toList.map .char) =
        below.pressAll .standard .working ("3cc".toList.map .char) := by
  intro e below
  have hpos (m : Nat) : ∀ n ∈ some (m + 1), 0 < n := pos_of_mem_some (Nat.succ_pos m)
  have hread {m : Nat} (hm : m ≤ 9) : ∀ n ∈ some m, Limits.standard.number n = none := by
    rintro _ ⟨⟩
    exact Limits.number_of_le hm rfl
  have hx : Operator.longForm? 'x' = some (.delete, .characters) := rfl
  have hS : Operator.longForm? 'S' = some (.change, .lines) := rfl
  have hcharacters : e.pressAll .standard .working (Key.counting (some 2) ++ [.char 'x']) = _ :=
    ((shorthand_expands rfl ⟨rfl, rfl⟩ (hpos 1) hx (.inr (by decide))).1 (hread (by decide))).1
  have hlines : below.pressAll .standard .working (Key.counting (some 3) ++ [.char 'S']) = _ :=
    ((shorthand_expands rfl ⟨rfl, rfl⟩ (hpos 2) hS (.inl rfl)).1 (hread (by decide))).1
  exact ⟨by decide +kernel, hcharacters, hlines⟩

end Editor

end ModalEdit
