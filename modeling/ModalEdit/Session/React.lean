import ModalEdit.Command
import ModalEdit.Session.Basic

namespace ModalEdit

namespace Session

def showing (s : Session) (d : Document) : Reaction :=
  ⟨s, match s.mode with
    | .visual sel => do
      let (start, stop) ← sel.highlight d.buffer
      return .highlight start stop
    | _ => .ok .stay, none, true⟩

def insertAt (s : Session) (p : Position) : Reaction :=
  { session := { s.clear with mode := .insert }, request := .ok (.moveTo p) }

def apply (s : Session) (c : Change) : Reaction where
  session :=
    { s with
      register := c.register.or s.register
      desiredCol := none
      mode := if c.insert then .insert else s.mode }
  request := .ok (.change c.edit c.cursor)
  copied := c.register.map Register.text

def attempt (s : Session) : Except Fault (Option Change) → Reaction
  | .error f => { session := s, request := .error f }
  | .ok none => { session := s }
  | .ok (some c) => s.apply c

/-- Follows a motion. Vertical motions aim at the desired column, and set it; all others drop it,
even where they lead nowhere. -/
def follow (s : Session) (b : Buffer) (pos : Position) (count : Option Int) :
    Option Motion → Session × Option Landing
  | none => ({ s with desiredCol := none }, none)
  | some m =>
    if m = .up ∨ m = .down then
      let col := s.desiredCol.getD pos.col
      ({ s with desiredCol := some col }, m.run b ⟨pos.line, col⟩ count)
    else ({ s with desiredCol := none }, m.run b pos count)

/-- The line of the view that `H`, `M` or `L` leads to. -/
def screenLine (v : Viewport) (count : Option Int) (c : Char) : Int :=
  let offset := count.getD 1 - 1
  if c = 'H' then min (v.top + offset) v.bottom
  else if c = 'L' then max (v.bottom - offset) v.top
  else v.middle

def isMotionKey (c : Char) : Bool :=
  (Motion.ofKey? c).isSome || ['H', 'M', 'L', ';', ','].contains c

def motionOn (s : Session) (d : Document) (count : Option Int) (c : Char) : Option Motion :=
  match c with
  | 'H' | 'M' | 'L' => some (.line (screenLine d.view count c) none)
  | ';' => s.lastSearch.map fun (kind, target) => .search kind target
  | ',' => s.lastSearch.map fun (kind, target) => .search kind.reverse target
  | _ => Motion.ofKey? c

def motionToMark (s : Session) (exact : Bool) : Key → Option Motion
  | .char c => (s.marks.lookup c).map fun p => if exact then .place p else .line p.line none
  | _ => none

def followLead (s : Session) (b : Buffer) (pos : Position) (count : Option Int) (lead : Lead)
    (k : Key) : Session × Option Landing :=
  match lead with
  | .find kind =>
    { s with lastSearch := some (kind, k.text) }.follow b pos count (some (.search kind k.text))
  | .mark exact => s.follow b pos count (s.motionToMark exact k)
  | .go => if k = .char 'g' then s.follow b pos count (some .firstLine) else (s, none)
  | .replace | .setMark | .object _ => (s, none)

/-- Moves to where a motion leads: the cursor onto a cell, the end of a selection also just past
the line. -/
def land (s : Session) (d : Document) : Option Landing → Reaction
  | none => { session := s.clear }
  | some landing =>
    match s.mode with
    | .visual sel =>
      let target := (d.buffer.locate landing.position).position
      { s.clear with mode := .visual (sel.movedTo target) }.showing d
    | _ => { session := s.clear, request := .ok (.moveTo (d.buffer.clamp landing.position)) }

def selectObject (s : Session) (d : Document) (found : Option Span) : Reaction :=
  match s.mode, found with
  | .visual sel, some span =>
    let shape := if span.isLinewise then .linewise else sel.shape
    { s with mode := .visual ⟨span.start, span.stop, shape⟩ }.showing d
  | _, _ => { session := s }

def objectOn (b : Buffer) (pos : Position) (outer : Bool) : Key → Option Span
  | .char c => (TextObject.ofKey? c).bind fun o => o.find b pos outer
  | _ => none

def finishLead (s : Session) (d : Document) (lead : Lead) (k : Key) : Reaction :=
  let pos := s.cursor d
  match lead with
  | .find _ | .mark _ | .go =>
    let (s, landing) := s.followLead d.buffer pos s.motionCount lead k
    s.land d landing
  | .replace =>
    s.clear.attempt (d.buffer.replaceChars pos k.text (s.takenCount.getD 1))
  | .setMark =>
    match k with
    | .char c =>
      if 'a' ≤ c ∧ c ≤ 'z' then { session := { s.clear with marks := setMark c pos s.marks } }
      else { session := s.clear }
    | _ => { session := s.clear }
  | .object outer => s.clear.selectObject d (objectOn d.buffer pos outer k)

/-- Runs an operator over what was found for it; nothing found drops the operator. -/
def operate (s : Session) (d : Document) (op : Operator) : Option Span → Reaction
  | none => { session := s.clear }
  | some span => { s.clear with desiredCol := none }.attempt (op.run d.buffer span)

def operatorKey (s : Session) (d : Document) (op : Operator) (count : Option Nat) (k : Key) :
    Reaction :=
  let pos := s.cursor d
  match k with
  | .char c =>
    if c = op.key then s.operate d op (some (d.buffer.linesFrom (d.buffer.locate pos) s.motionCount))
    else
      match Lead.afterOperator? c with
      | some lead => { session := { s with pending := .operatorLead op count lead } }
      | none =>
        if isMotionKey c then
          if op = .change ∧ (c = 'w' ∨ c = 'W') ∧ d.buffer.startsOnBlank pos = false then
            let grain := if c = 'w' then .word else .bigWord
            let landing := (Motion.changeWord grain).run d.buffer pos s.motionCount
            s.operate d op (landing.bind (·.span))
          else
            let (s', landing) :=
              s.follow d.buffer pos s.motionCount (s.motionOn d s.motionCount c)
            s'.operate d op (landing.bind (·.span))
        else s.operate d op none
  | _ => s.operate d op none

def operatorLeadKey (s : Session) (d : Document) (op : Operator) (lead : Lead) (k : Key) :
    Reaction :=
  let pos := s.cursor d
  match lead with
  | .object outer => s.operate d op (objectOn d.buffer pos outer k)
  | lead =>
    let (s', landing) := s.followLead d.buffer pos s.motionCount lead k
    s'.operate d op (landing.bind (·.span))

def operateOn (s : Session) (d : Document) (op : Operator) (sel : Selection) : Reaction :=
  let s := { s.clear with mode := .normal }
  match op.run d.buffer sel.span with
  | .ok none => { session := s, request := .ok (.moveTo (d.buffer.clamp sel.span.start)) }
  | outcome => s.attempt outcome

def escape (s : Session) (d : Document) : Reaction where
  session := s.reset
  request := .ok <|
    match s.mode with
    | .normal => .stay
    | .insert => .moveTo ⟨d.cursor.line, max 0 (d.cursor.col - 1)⟩
    | .visual sel => .moveTo (d.buffer.clamp sel.cursor)

def select (s : Session) (d : Document) (shape : Shape) : Reaction :=
  let pos := d.buffer.clamp d.cursor
  { s.clear with mode := .visual ⟨pos, pos, shape⟩ }.showing d

/-- Changes a span, or starts inserting where the span is empty. -/
def changeOrInsert (s : Session) (d : Document) (span : Span) : Reaction :=
  match Operator.change.run d.buffer span with
  | .ok none => s.insertAt span.start
  | outcome => s.attempt outcome

def normalCommand (s : Session) (d : Document) (c : Char) : Reaction :=
  let b := d.buffer
  let pos := b.clamp d.cursor
  let spot := b.locate pos
  let size := spot.text.length
  let times := s.takenCount.getD 1
  let characters := spot.cover spot.col (min (spot.col + times) size)
  let lines := b.linesFrom spot s.motionCount
  let idle := s.clear
  match c with
  | 'i' => s.insertAt pos
  | 'a' => s.insertAt (spot.at (min (spot.col + 1) size))
  | 'A' => s.insertAt (spot.at size)
  | 'I' => s.insertAt (spot.at (firstNonBlank spot.text))
  | 'o' => idle.attempt (some <$> b.openBelow pos.line)
  | 'O' => idle.apply (Buffer.openAbove pos.line)
  | 'x' => idle.attempt (Operator.delete.run b characters)
  | 's' => idle.changeOrInsert d characters
  | 'S' => idle.attempt (Operator.change.run b lines)
  | 'D' => idle.attempt (Operator.delete.run b spot.toLineEnd)
  | 'C' => idle.changeOrInsert d spot.toLineEnd
  | 'Y' => idle.attempt (Operator.yank.run b lines)
  | 'J' => idle.attempt (b.joinFrom pos.line times)
  | '~' => idle.attempt (b.toggleCase pos times)
  | 'u' => { session := idle, request := .ok (.undo times) }
  | 'p' =>
    match s.register with
    | some r => idle.attempt (some <$> b.putAfter pos r times)
    | none => { session := idle }
  | 'P' =>
    match s.register with
    | some r => idle.attempt (some <$> b.putBefore pos r times)
    | none => { session := idle }
  | 'v' => s.select d .charwise
  | 'V' => s.select d .linewise
  | _ => { session := idle }

/-- The commands of the visual modes. The key of a visual mode leaves that mode, or turns the other
one into it. -/
def visualCommand (s : Session) (d : Document) (sel : Selection) (c : Char) : Reaction :=
  let turn := fun shape =>
    if sel.shape = shape then s.escape d
    else { s.clear with mode := .visual { sel with shape } }.showing d
  match c with
  | 'v' => turn .charwise
  | 'V' => turn .linewise
  | 'o' => { s.clear with mode := .visual sel.swapped }.showing d
  | _ => { session := s.clear }

def freshKey (s : Session) (d : Document) (c : Char) : Reaction :=
  let lead :=
    match s.mode with
    | .visual _ => Lead.visual? c
    | _ => Lead.normal? c
  match lead with
  | some lead => { session := { s with pending := .lead lead } }
  | none =>
    if isMotionKey c then
      let (s', landing) :=
        s.follow d.buffer (s.cursor d) s.motionCount (s.motionOn d s.motionCount c)
      s'.land d landing
    else
      match s.mode, Operator.ofKey? c with
      | .visual sel, some op => s.operateOn d op sel
      | .visual sel, none => if c = 'x' then s.operateOn d .delete sel else s.visualCommand d sel c
      | _, some op => { session := { s.clear with pending := .operator op s.takenCount } }
      | _, none => s.normalCommand d c

/-- The session with one more digit of its count, if the key is taken as one: a zero only after
another digit, and none where a lead waits for its key. -/
def digit? (s : Session) (k : Key) : Option Session := do
  let digit ← k.digit?
  if s.pending.lead?.isSome ∨ digit = 0 ∧ s.count = none then none
  return { s with count := some (10 * s.count.getD 0 + digit) }

def command (s : Session) (d : Document) (k : Key) : Reaction :=
  match s.digit? k with
  | some s => { session := s }
  | none =>
    match s.pending, k with
    | .lead lead, k => s.finishLead d lead k
    | .operator op count, k => s.operatorKey d op count k
    | .operatorLead op _ lead, k => s.operatorLeadKey d op lead k
    | .idle, .char c => s.freshKey d c
    | .idle, _ => { session := s.clear }

/-- The reaction to a key. In insert mode all keys but escape are left to be typed. -/
def react (s : Session) (d : Document) (k : Key) : Reaction :=
  match k, s.mode with
  | .escape, _ => s.escape d
  | _, .insert => { session := s, consumed := false }
  | k, _ => s.command d k

end Session

end ModalEdit
