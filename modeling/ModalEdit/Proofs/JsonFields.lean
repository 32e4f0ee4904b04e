import Mathlib.Data.List.Nodup
import ModalEdit.Json.Value

namespace ModalEdit

namespace Json

variable {name : Units} {fields more : List (Units × Json)} {f : Units × Json}

theorem setField_of_notMem (h : name ∉ fields.map (·.1)) (v : Json) :
    setField name v fields = fields ++ [(name, v)] := by
  induction fields with
  | nil => rfl
  | cons g fields ih =>
    rw [List.map_cons, List.mem_cons, not_or] at h
    rw [setField, if_neg (Ne.symm h.1), ih h.2, List.cons_append]

theorem setField_of_mem (h : name ∈ fields.map (·.1)) (hnames : (fields.map (·.1)).Nodup)
    (v : Json) :
    setField name v fields = fields.map fun g => if g.1 = name then (name, v) else g := by
  induction fields with
  | nil => cases h
  | cons g fields ih =>
    rw [List.map_cons, List.nodup_cons] at hnames
    rw [setField, List.map_cons]
    by_cases hg : g.1 = name
    · have hrest : fields.map (fun g => if g.1 = name then (name, v) else g) = fields := by
        refine (List.map_congr_left fun k hk => if_neg fun he => ?_).trans (List.map_id fields)
        have hmem : k.1 ∈ fields.map (·.1) := List.mem_map_of_mem hk
        exact hnames.1 (hg ▸ he ▸ hmem)
      rw [if_pos hg, if_pos hg, hrest]
    · rw [List.map_cons, List.mem_cons] at h
      rw [if_neg hg, if_neg hg, ih (h.resolve_left (Ne.symm hg)) hnames.2]

theorem setField_of_nodup (h : ((fields ++ f :: more).map (·.1)).Nodup) :
    setField f.1 f.2 fields = fields ++ [f] := by
  apply setField_of_notMem
  rw [List.map_append, List.map_cons] at h
  intro hm
  exact (List.nodup_append.1 h).2.2 f.1 hm f.1 List.mem_cons_self rfl

theorem names_setField_of_mem (h : name ∈ fields.map (·.1)) (v : Json) :
    (setField name v fields).map (·.1) = fields.map (·.1) := by
  induction fields with
  | nil => cases h
  | cons g fields ih =>
    rw [setField]
    by_cases hg : g.1 = name
    · rw [if_pos hg, List.map_cons, List.map_cons, hg]
    · rw [List.map_cons, List.mem_cons] at h
      rw [if_neg hg, List.map_cons, List.map_cons, ih (h.resolve_left (Ne.symm hg))]

theorem nodup_setField (h : (fields.map (·.1)).Nodup) (name : Units) (v : Json) :
    ((setField name v fields).map (·.1)).Nodup := by
  by_cases hm : name ∈ fields.map (·.1)
  · rwa [names_setField_of_mem hm]
  · rw [setField_of_notMem hm, List.map_append, List.map_singleton, ← List.concat_eq_append]
    exact List.Nodup.concat hm h

theorem mem_setField {v : Json} (h : f ∈ setField name v fields) : f = (name, v) ∨ f ∈ fields := by
  induction fields with
  | nil => exact .inl (List.mem_singleton.1 h)
  | cons g fields ih =>
    rw [setField] at h
    split at h
    · rcases List.mem_cons.1 h with h | h
      · exact .inl h
      · exact .inr (List.mem_cons_of_mem g h)
    · rcases List.mem_cons.1 h with h | h
      · exact .inr (h ▸ List.mem_cons_self)
      · exact (ih h).imp_right (List.mem_cons_of_mem g)

theorem setField_self {v : Json} (h : field? name fields = some v) :
    setField name v fields = fields := by
  induction fields with
  | nil => cases h
  | cons g fields ih =>
    rw [setField]
    by_cases hg : g.1 = name
    · subst hg
      rw [field?, List.lookup_cons_self] at h
      cases h
      rw [if_pos rfl]
    · have hne : (name == g.1) = false := by simpa using Ne.symm hg
      rw [field?, List.lookup_cons, hne] at h
      rw [if_neg hg, ih h]

/-- The fields of an object, with the values that others of the same name bring. -/
def overwritten (others fields : List (Units × Json)) : List (Units × Json) :=
  fields.map fun (name, v) => (name, (others.lookup name).getD v)

/-- The fields whose names an object does not have. -/
def lacking (others fields : List (Units × Json)) : List (Units × Json) :=
  others.filter fun (name, _) => name ∉ fields.map (·.1)

theorem lookup_of_notMem {others : List (Units × Json)} (h : name ∉ others.map (·.1)) :
    others.lookup name = none := by
  apply List.lookup_eq_none_iff.2
  intro g hg
  have hne : name ≠ g.1 := by
    rintro rfl
    exact h (List.mem_map_of_mem hg)
  simpa using hne

section Setting

variable {others : List (Units × Json)} {v : Json}

theorem overwritten_setField_of_mem (hm : name ∈ fields.map (·.1)) (h : (fields.map (·.1)).Nodup)
    (ho : name ∉ others.map (·.1)) :
    overwritten others (setField name v fields) = overwritten ((name, v) :: others) fields := by
  rw [setField_of_mem hm h, overwritten, List.map_map, overwritten]
  apply List.map_congr_left
  intro g _
  by_cases hg : g.1 = name
  · simp [hg, lookup_of_notMem ho]
  · have hne : (g.1 == name) = false := by simpa using hg
    simp [hg, hne, List.lookup_cons]

theorem overwritten_setField_of_notMem (hm : name ∉ fields.map (·.1))
    (ho : name ∉ others.map (·.1)) :
    overwritten others (setField name v fields) =
      overwritten ((name, v) :: others) fields ++ [(name, v)] := by
  have hold : overwritten others fields = overwritten ((name, v) :: others) fields := by
    apply List.map_congr_left
    intro g hg
    have hne : (g.1 == name) = false := by
      rw [beq_eq_false_iff_ne]
      rintro rfl
      exact hm (List.mem_map_of_mem hg)
    simp [hne, List.lookup_cons]
  rw [setField_of_notMem hm, ← hold]
  simp [overwritten, lookup_of_notMem ho]

theorem lacking_setField_of_mem (hm : name ∈ fields.map (·.1)) :
    lacking others (setField name v fields) = lacking ((name, v) :: others) fields := by
  rw [lacking, names_setField_of_mem hm, lacking, List.filter_cons_of_neg (by simpa using hm)]

theorem lacking_setField_of_notMem (hm : name ∉ fields.map (·.1)) (ho : name ∉ others.map (·.1)) :
    (name, v) :: lacking others (setField name v fields) =
      lacking ((name, v) :: others) fields := by
  have hsame : lacking others (setField name v fields) = lacking others fields := by
    apply List.filter_congr
    intro g hg
    have hne : g.1 ≠ name := by
      rintro rfl
      exact ho (List.mem_map_of_mem hg)
    rw [setField_of_notMem hm, List.map_append, List.map_singleton]
    simp [hne]
  rw [hsame, lacking, lacking, List.filter_cons_of_pos (by simpa using hm)]

/-- Fields set one after the other: those the object has keep their places, the others follow. -/
theorem foldl_setField (ho : (others.map (·.1)).Nodup) (h : (fields.map (·.1)).Nodup) :
    others.foldl (fun fields (name, v) => setField name v fields) fields =
      overwritten others fields ++ lacking others fields := by
  induction others generalizing fields with
  | nil => simp [overwritten, lacking]
  | cons o others ih =>
    obtain ⟨name, v⟩ := o
    rw [List.map_cons, List.nodup_cons] at ho
    rw [List.foldl_cons, ih ho.2 (nodup_setField h name v)]
    by_cases hm : name ∈ fields.map (·.1)
    · rw [overwritten_setField_of_mem hm h ho.1, lacking_setField_of_mem hm]
    · rw [overwritten_setField_of_notMem hm ho.1, List.append_assoc, List.singleton_append,
        lacking_setField_of_notMem hm ho.1]

end Setting

end Json

end ModalEdit
