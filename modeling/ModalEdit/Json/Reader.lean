import ModalEdit.Json.Token
import ModalEdit.Limits.Basic

namespace ModalEdit

namespace Json

inductive Frame where
  /-- An array with the items read so far, last one first. -/
  | items (done : List Json)
  | fields (done : List (Units × Json))
  | field (done : List (Units × Json)) (name : Units)
  deriving Repr

inductive Expect where
  | value
  /-- A value, or the end of an array that is still empty. -/
  | firstItem
  | name
  | firstName
  | colon
  | after (v : Json)
  deriving Repr

/-- What may come next, and the containers still open, innermost first. -/
structure Reader where
  expect : Expect := .value
  frames : List Frame := []

namespace Reader

def beginValue (frames : List Frame) : Token → Option Reader
  | .scalar v => some ⟨.after v, frames⟩
  | .openSquare => some ⟨.firstItem, .items [] :: frames⟩
  | .openCurly => some ⟨.firstName, .fields [] :: frames⟩
  | _ => none

def beginField : List Frame → Token → Option Reader
  | .fields done :: frames, .scalar (.str name) => some ⟨.colon, .field done name :: frames⟩
  | _, _ => none

def afterValue (v : Json) : List Frame → Token → Option Reader
  | .items done :: frames, .comma => some ⟨.value, .items (v :: done) :: frames⟩
  | .items done :: frames, .closeSquare => some ⟨.after (.arr (v :: done).reverse), frames⟩
  | .field done name :: frames, .comma => some ⟨.name, .fields (setField name v done) :: frames⟩
  | .field done name :: frames, .closeCurly =>
    some ⟨.after (.obj (setField name v done)), frames⟩
  | _, _ => none

def step (r : Reader) (t : Token) : Option Reader :=
  match r.expect, r.frames, t with
  | .firstItem, .items _ :: frames, .closeSquare => some ⟨.after (.arr []), frames⟩
  | .firstName, .fields _ :: frames, .closeCurly => some ⟨.after (.obj []), frames⟩
  | .value, frames, t | .firstItem, frames, t => beginValue frames t
  | .name, frames, t | .firstName, frames, t => beginField frames t
  | .colon, frames, .colon => some ⟨.value, frames⟩
  | .colon, _, _ => none
  | .after v, frames, t => afterValue v frames t

def result? (r : Reader) : Option Json :=
  match r.expect, r.frames with
  | .after v, [] => some v
  | _, _ => none

end Reader

/-- What keeps a token from being taken: a limit, where a value is due. -/
def Reader.obstacle (limits : Limits) (r : Reader) (t : Token) : Option Fault :=
  match r.expect with
  | .value | .firstItem =>
    match t with
    | .scalar (.int n) => limits.number n.natAbs
    | .openSquare => if exceeds limits.nesting (r.frames.length + 1) then some .deepArray else none
    | .openCurly => if exceeds limits.nesting (r.frames.length + 1) then some .deepObject else none
    | _ => none
  | _ => none

@[simp] theorem Reader.obstacle_unlimited (r : Reader) (t : Token) :
    r.obstacle {} t = none := by
  unfold Reader.obstacle
  split
  · split <;> simp
  · split <;> simp
  · rfl

def readFrom (limits : Limits) (r : Reader) (text : List Char) : Except Fault (Option Json) :=
  match text with
  | [] => .ok r.result?
  | c :: rest =>
    if isSpace c then readFrom limits r rest
    else
      match _h : scanToken (c :: rest) with
      | none => .ok none
      | some (t, rest) =>
        match r.obstacle limits t, r.step t with
        | some f, _ => .error f
        | none, some r => readFrom limits r rest
        | none, none => .ok none
termination_by text.length
decreasing_by
  · simp
  · exact scanToken_length _h

def read (limits : Limits) (text : List Char) : Except Fault (Option Json) :=
  readFrom limits {} text

def ofBytes (limits : Limits) (bytes : ByteArray) : Except Fault (Option Json) :=
  match String.fromUTF8? bytes with
  | some text => read limits text.toList
  | none => .ok none

end Json

end ModalEdit
