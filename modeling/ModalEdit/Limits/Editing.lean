import ModalEdit.Editor
import ModalEdit.Limits.Basic

namespace ModalEdit

namespace Limits

/-- What keeps so many copies of a register from being made. -/
def copies (limits : Limits) (r : Register) (count : Int) : Option Fault :=
  if exceeds limits.count count.toNat then some .countTooLarge
  else
    match r with
    | .chars text =>
      let size := count.toNat * text.length
      if exceeds limits.count size then some .textTooLong
      else if exceeds limits.memory size then some .outOfMemory
      else none
    | .lines whole =>
      if exceeds limits.memory (count.toNat * whole.length) then some .outOfMemory else none

@[simp] theorem copies_unlimited (r : Register) (count : Int) :
    ({} : Limits).copies r count = none := by
  cases r <;> rfl

end Limits

namespace Buffer

def putAfterWithin (limits : Limits) (b : Buffer) (pos : Position) (r : Register) (count : Int) :
    Except Fault Change :=
  match b.lineAt pos.line, limits.copies r count with
  | .ok _, some f => .error f
  | _, _ => b.putAfter pos r count

/-- Puts the register before the cursor, if its copies can be made. Lines go above a line that need
not exist. -/
def putBeforeWithin (limits : Limits) (b : Buffer) (pos : Position) (r : Register) (count : Int) :
    Except Fault Change :=
  match r, b.lineAt pos.line, limits.copies r count with
  | .chars _, .error f, _ => .error f
  | _, _, some f => .error f
  | _, _, none => b.putBefore pos r count

def replaceCharsWithin (limits : Limits) (b : Buffer) (pos : Position) (text : List Char)
    (count : Int) : Except Fault (Option Change) :=
  match b.lineAt pos.line, limits.copies (.chars text) count with
  | .ok whole, some f => if (whole.length : Int) < pos.col + count then .ok none else .error f
  | _, _ => b.replaceChars pos text count

end Buffer

namespace Session

def countedCommands : List Char :=
  ['x', 's', 'S', 'J', '~', 'u', 'p', 'P', 'Y']

def usesCount (s : Session) (k : Key) : Bool :=
  match s.mode, s.pending, k with
  | .insert, _, _ | _, _, .escape => false
  | _, .lead _, _ | _, .operatorLead .., _ => true
  | _, .operator op _, .char c => c == op.key || ((Lead.afterOperator? c).isNone && isMotionKey c)
  | .visual _, .idle, .char c => (Lead.visual? c).isNone && isMotionKey c
  | .normal, .idle, .char c =>
    (Lead.normal? c).isNone &&
      (isMotionKey c || (Operator.ofKey? c).isSome || countedCommands.contains c)
  | _, _, .named _ => false

/-- The register that a key puts, and how often. -/
def putting? (s : Session) (k : Key) : Option (Register × Nat) :=
  match s.mode, s.pending, k with
  | .normal, .idle, .char c =>
    if c = 'p' ∨ c = 'P' then s.register.map (·, s.takenCount.getD 1) else none
  | _, _, _ => none

/-- The limit that a key meets, with the session that is left: a count that cannot be read changes
nothing, and copies that cannot be made use up the count. -/
def obstacle (limits : Limits) (s : Session) (k : Key) : Option (Session × Fault) :=
  if s.usesCount k && (s.digit? k).isNone then
    match s.count.bind limits.number with
    | some f => some (s, f)
    | none => (s.putting? k).bind fun (r, n) => (limits.copies r n).map (s.clear, ·)
  else none

@[simp] theorem obstacle_unlimited (s : Session) (k : Key) : s.obstacle {} k = none := by
  have h : s.count.bind ({} : Limits).number = none := by cases s.count <;> rfl
  unfold obstacle
  split
  · rw [h]
    cases s.putting? k <;> simp
  · rfl

end Session

namespace Editor

def pressWithin (limits : Limits) (e : Editor) (clipboard : Clipboard) (k : Key) :
    Editor × Except Fault Report :=
  match e.session.obstacle limits k with
  | some (session, f) => ({ e with session }, .error f)
  | none => e.press clipboard k

def stepWithin (limits : Limits) (e : Editor) (clipboard : Clipboard) (s : Step) :
    Editor × Except Fault Outcome :=
  match s with
  | .key k =>
    let (e, report) := e.pressWithin limits clipboard k
    (e, report.map .report)
  | s => e.step clipboard s

@[simp] theorem pressWithin_unlimited (e : Editor) (clipboard : Clipboard) (k : Key) :
    e.pressWithin {} clipboard k = e.press clipboard k := by
  simp [pressWithin]

@[simp] theorem stepWithin_unlimited (e : Editor) (clipboard : Clipboard) (s : Step) :
    e.stepWithin {} clipboard s = e.step clipboard s := by
  cases s <;> simp [stepWithin, step]

/-- Takes one character from a keyboard: the escape character is the escape key, and a character
that is no command is typed. -/
def input (limits : Limits) (e : Editor) (clipboard : Clipboard) (c : Char) : Editor :=
  match e.pressWithin limits clipboard (if c = '\x1b' then .escape else .char c) with
  | (e, .ok r) => if r.consumed then e else (e.step clipboard (.type [c])).1
  | (e, .error _) => e

end Editor

end ModalEdit
