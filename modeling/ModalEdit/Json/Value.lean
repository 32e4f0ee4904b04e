import ModalEdit.Decimal.Binary64
import ModalEdit.Text.Units

namespace ModalEdit

/-- An object is a list of fields in the order in which their names first appeared. -/
inductive Json where
  | null
  | bool (b : Bool)
  | int (n : Int)
  | real (x : Binary64)
  | str (s : Units)
  | arr (items : List Json)
  | obj (fields : List (Units × Json))
  deriving Repr

namespace Json

def field? (name : Units) (fields : List (Units × Json)) : Option Json :=
  fields.lookup name

/-- Gives a field a value, in its old place or at the end. -/
def setField (name : Units) (value : Json) : List (Units × Json) → List (Units × Json)
  | [] => [(name, value)]
  | (other, old) :: rest =>
    if other = name then (name, value) :: rest else (other, old) :: setField name value rest

@[simp] theorem field?_setField (name : Units) (value : Json) (fields : List (Units × Json)) :
    field? name (setField name value fields) = some value := by
  induction fields with
  | nil => simp [setField, field?]
  | cons f rest ih =>
    obtain ⟨other, old⟩ := f
    simp only [setField]
    split
    · simp [field?]
    · rename_i h
      have h' : (name == other) = false := by simpa using fun e => h e.symm
      simpa [field?, List.lookup_cons, h'] using ih

theorem field?_setField_of_ne {name other : Units} (h : other ≠ name) (value : Json)
    (fields : List (Units × Json)) :
    field? other (setField name value fields) = field? other fields := by
  have hn : (other == name) = false := by simpa using h
  induction fields with
  | nil => simp [setField, field?, List.lookup_cons, hn]
  | cons f rest ih =>
    obtain ⟨first, old⟩ := f
    simp only [setField]
    split
    · rename_i hf
      subst hf
      simp [field?, List.lookup_cons, hn]
    · unfold field? at ih ⊢
      simp only [List.lookup_cons]
      split <;> simp_all

end Json

end ModalEdit
