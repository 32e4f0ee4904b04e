import ModalEdit.Text.Printable

namespace ModalEdit

/-- Faults arise from positions, names and paths that a caller brings along, and from sizes beyond a
limit. -/
inductive Fault where
  /-- A line number at or past the number of lines. -/
  | beyond
  /-- A negative line number asked of a buffer. -/
  | negativeLine (line : Int)
  /-- A negative line number asked of a document. -/
  | negativeDocumentLine (line : Int)
  | offLine
  | unbound (name : List Char)
  | unknownDirection (name : List Char)
  | unknownOperator (name : List Char)
  | unknownMode (name : List Char)
  | noHome
  | isDirectory
  | nameTooLong
  /-- A text with a NUL where the environment takes none. -/
  | nulCharacter
  | longInteger (limit digits : Nat)
  | deepArray
  | deepObject
  /-- A count of copies past all sizes. -/
  | countTooLarge
  /-- Copies that would make a text past all sizes. -/
  | textTooLong
  | outOfMemory
  deriving DecidableEq, Repr

/-- The words of a fault; what comes from the file system is left to the system to describe. -/
def Fault.message : Fault → Option String
  | .beyond => some "list index out of range"
  | .negativeLine line => some s!"line index out of range: {line}"
  | .negativeDocumentLine line => some s!"line index {line} out of range"
  | .offLine => some "string index out of range"
  | .unbound name => some (String.ofList (quoted name))
  | .unknownDirection name => some ("unknown search direction: " ++ String.ofList (quoted name))
  | .unknownOperator name => some ("unknown operator: " ++ String.ofList (quoted name))
  | .unknownMode name => some (String.ofList (quoted name) ++ " is not a valid Mode")
  | .noHome => some "Could not determine home directory."
  | .isDirectory | .nameTooLong => none
  | .nulCharacter => some "embedded null byte"
  | .longInteger limit digits =>
    some (s!"Exceeds the limit ({limit} digits) for integer string conversion: " ++
      s!"value has {digits} digits; use sys.set_int_max_str_digits() to increase the limit")
  | .deepArray =>
    some "maximum recursion depth exceeded while decoding a JSON array from a unicode string"
  | .deepObject =>
    some "maximum recursion depth exceeded while decoding a JSON object from a unicode string"
  | .countTooLarge => some "cannot fit 'int' into an index-sized integer"
  | .textTooLong => some "repeated string is too long"
  | .outOfMemory => some ""

end ModalEdit
