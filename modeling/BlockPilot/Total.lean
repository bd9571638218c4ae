/-!
# Totals

`total measure xs` adds up a measure over a list. It grows by the measure of each entry that is
put in front (`total_cons`), and a smaller entry makes it smaller (`total_set_lt`).
-/

namespace BlockPilot

variable {α : Type}

/-- The sum of a measure over a list. -/
def total (measure : α → Nat) (xs : List α) : Nat :=
  xs.foldr (fun x rest => measure x + rest) 0

@[simp]
theorem total_nil (measure : α → Nat) : total measure [] = 0 := rfl

@[simp]
theorem total_cons (measure : α → Nat) (x : α) (xs : List α) :
    total measure (x :: xs) = measure x + total measure xs := rfl

@[simp]
theorem total_append (measure : α → Nat) (xs ys : List α) :
    total measure (xs ++ ys) = total measure xs + total measure ys := by
  induction xs with
  | nil => simp
  | cons x xs ih => simp [ih, Nat.add_assoc]

theorem total_le {f g : α → Nat} {xs : List α} (h : ∀ x ∈ xs, f x ≤ g x) :
    total f xs ≤ total g xs := by
  induction xs with
  | nil => exact Nat.le_refl 0
  | cons x xs ih => exact Nat.add_le_add (h x (by simp)) (ih fun y hy => h y (by simp [hy]))

/-- A total depends on the measures alone. -/
theorem total_eq_of_map {β : Type} {f : α → Nat} {g : β → Nat} {xs : List α} {ys : List β}
    (h : xs.map f = ys.map g) : total f xs = total g ys := by
  have fold {γ : Type} (measure : γ → Nat) (zs : List γ) :
      total measure zs = (zs.map measure).foldr (· + ·) 0 := List.foldr_map.symm
  rw [fold f xs, fold g ys, h]

/-- A smaller entry in the place of another makes the total smaller. -/
theorem total_set_lt {measure : α → Nat} {xs : List α} {i : Nat} {x y : α}
    (h : xs[i]? = some x) (hy : measure y < measure x) :
    total measure (xs.set i y) < total measure xs := by
  induction xs generalizing i with
  | nil => simp at h
  | cons a xs ih =>
    cases i with
    | zero =>
      simp only [List.getElem?_cons_zero, Option.some.injEq] at h
      subst h
      simp only [List.set_cons_zero, total_cons]
      omega
    | succ i =>
      have := ih (by simpa using h)
      simp only [List.set_cons_succ, total_cons]
      omega

end BlockPilot
