namespace ModalEdit

/-- The place among `0 … n` that an integer bound names. -/
def bound (n : Nat) (i : Int) : Nat :=
  if i < 0 then (n + i).toNat else min i.toNat n

@[simp] theorem bound_natCast (n k : Nat) : bound n k = min k n := by
  simp [bound, Int.not_lt.2 (Int.natCast_nonneg k)]

/-- The elements before a bound. -/
def upTo (xs : List α) (j : Int) : List α :=
  xs.take (bound xs.length j)

def since (xs : List α) (i : Int) : List α :=
  xs.drop (bound xs.length i)

/-- The elements from one bound up to another, none if they cross. -/
def between (xs : List α) (i j : Int) : List α :=
  (upTo xs j).drop (bound xs.length i)

@[simp] theorem upTo_natCast (xs : List α) (k : Nat) : upTo xs k = xs.take k := by
  simp [upTo, List.take_eq_take_iff]

@[simp] theorem since_natCast (xs : List α) (k : Nat) : since xs k = xs.drop k := by
  simp only [since, bound_natCast]
  rcases Nat.le_total k xs.length with h | h
  · rw [Nat.min_eq_left h]
  · rw [Nat.min_eq_right h, List.drop_of_length_le h, List.drop_of_length_le (Nat.le_refl _)]

/-- The element at an index, counted from the end when negative. -/
def pick? (xs : List α) (i : Int) : Option α :=
  if i < 0 then
    if (xs.length : Int) + i < 0 then none else xs[(xs.length + i).toNat]?
  else xs[i.toNat]?

@[simp] theorem pick?_natCast (xs : List α) (k : Nat) : pick? xs k = xs[k]? := by
  simp [pick?, Int.not_lt.2 (Int.natCast_nonneg k)]

theorem pick?_eq_none_iff {xs : List α} {i : Int} :
    pick? xs i = none ↔ i < -xs.length ∨ xs.length ≤ i := by
  unfold pick?
  split
  · split
    · exact iff_of_true rfl (by omega)
    · rw [List.getElem?_eq_none_iff]
      omega
  · rw [List.getElem?_eq_none_iff]
    omega

/-- Read towards the start, the elements before a bound come nearest first. -/
theorem getElem?_reverse_take {xs : List α} {n k : Nat} (hn : n ≤ xs.length) (hk : k < n) :
    (xs.take n).reverse[k]? = xs[n - 1 - k]? := by
  have hlen : (xs.take n).length = n := List.length_take_of_le hn
  rw [List.getElem?_reverse (by rw [hlen]; exact hk), hlen, List.getElem?_take_of_lt (by omega)]

/-- Puts `ys` in place of the elements from one bound up to another; bounds that cross insert at
the first. -/
def splice (xs : List α) (i j : Int) (ys : List α) : List α :=
  let first := bound xs.length i
  xs.take first ++ ys ++ xs.drop (max first (bound xs.length j))

/-- The list repeated, not at all for a count that is not positive. However often, nothing stays
nothing. -/
def repeated (n : Int) (xs : List α) : List α :=
  if xs.isEmpty then [] else (List.replicate n.toNat xs).flatten

theorem repeated_eq_flatten (n : Int) (xs : List α) :
    repeated n xs = (List.replicate n.toNat xs).flatten := by
  cases xs <;> simp [repeated]

@[simp] theorem repeated_one (xs : List α) : repeated 1 xs = xs := by
  simp [repeated_eq_flatten]

/-- Offset of the `n`-th element that satisfies `p`, counting from one. -/
def nthIdx? (p : α → Bool) : Nat → List α → Option Nat
  | 0, _ => none
  | _ + 1, [] => none
  | n + 1, x :: xs =>
    if p x then
      if n = 0 then some 0 else (nthIdx? p n xs).map (· + 1)
    else (nthIdx? p (n + 1) xs).map (· + 1)

theorem nthIdx?_lt {p : α → Bool} {n i : Nat} {xs : List α} (h : nthIdx? p n xs = some i) :
    i < xs.length := by
  induction xs generalizing n i with
  | nil => cases n <;> simp [nthIdx?] at h
  | cons x xs ih =>
    cases n with
    | zero => simp [nthIdx?] at h
    | succ n =>
      simp only [nthIdx?] at h
      split at h
      · split at h
        · cases h; simp
        · obtain ⟨j, hj, rfl⟩ := Option.map_eq_some_iff.1 h
          exact Nat.succ_lt_succ (ih hj)
      · obtain ⟨j, hj, rfl⟩ := Option.map_eq_some_iff.1 h
        exact Nat.succ_lt_succ (ih hj)

/-- Applies `f` as many times as asked, stopping early at a value that `f` leaves alone. -/
def settle [DecidableEq α] (f : α → α) : Nat → α → α
  | 0, x => x
  | n + 1, x => if f x = x then x else settle f n (f x)

theorem settle_of_fixed [DecidableEq α] {f : α → α} {x : α} (h : f x = x) (n : Nat) :
    settle f n x = x := by
  cases n <;> simp [settle, h]

theorem settle_succ [DecidableEq α] (f : α → α) (n : Nat) (x : α) :
    settle f (n + 1) x = settle f n (f x) := by
  by_cases h : f x = x
  · rw [h, settle_of_fixed h, settle_of_fixed h]
  · simp [settle, h]

end ModalEdit
