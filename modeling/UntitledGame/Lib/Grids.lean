import Mathlib.Algebra.BigOperators.Group.Finset.Basic
import Mathlib.Algebra.BigOperators.Group.List.Basic
import Mathlib.Data.List.Basic
import Mathlib.Data.Nat.Cast.Basic
import Mathlib.Tactic.Ring

/-!
# Grids in row-major order and index lists of triangles

A grid of values is stored row by row, so that the value in row `i` and column
`j` stands at `i * columns + j`. An index list names the corners of a triangle
three at a time; where every cell of a grid contributes two triangles, the
triangles of the whole list are those of the cells.
-/

namespace UntitledGame.Lib.Grids

variable {α β ι : Type*}

/-- The values of `f`, row by row. -/
def grid (rows columns : Nat) (f : Nat → Nat → α) : List α :=
  (List.range rows).flatMap fun i => (List.range columns).map (f i)

theorem grid_succ (rows columns : Nat) (f : Nat → Nat → α) :
    grid (rows + 1) columns f = grid rows columns f ++ (List.range columns).map (f rows) := by
  rw [grid, List.range_succ, List.flatMap_append, List.flatMap_singleton, ← grid]

@[simp] theorem length_grid (rows columns : Nat) (f : Nat → Nat → α) :
    (grid rows columns f).length = rows * columns := by
  induction rows with
  | zero => simp [grid]
  | succ rows ih => rw [grid_succ, List.length_append, ih, List.length_map, List.length_range]; ring

/-- A value stands where its row and its column say. -/
theorem getElem?_grid {rows columns i j : Nat} (f : Nat → Nat → α) (hi : i < rows)
    (hj : j < columns) : (grid rows columns f)[i * columns + j]? = some (f i j) := by
  induction rows with
  | zero => exact absurd hi (Nat.not_lt_zero i)
  | succ rows ih =>
      rw [grid_succ]
      rcases Nat.lt_succ_iff_lt_or_eq.mp hi with hbefore | hlast
      · have hinside : i * columns + j < (grid rows columns f).length := by
          rw [length_grid]
          calc i * columns + j < i * columns + columns := Nat.add_lt_add_left hj _
            _ = (i + 1) * columns := by ring
            _ ≤ rows * columns := Nat.mul_le_mul_right _ hbefore
        rw [List.getElem?_append_left hinside, ih hbefore]
      · subst hlast
        rw [List.getElem?_append_right (by rw [length_grid]; exact Nat.le_add_right _ _),
          length_grid, Nat.add_sub_cancel_left, List.getElem?_map, List.getElem?_range hj]
        rfl

theorem mem_grid {rows columns : Nat} {f : Nat → Nat → α} {a : α} :
    a ∈ grid rows columns f ↔ ∃ i < rows, ∃ j < columns, f i j = a := by
  simp [grid]

@[simp] theorem map_grid (g : α → β) (rows columns : Nat) (f : Nat → Nat → α) :
    (grid rows columns f).map g = grid rows columns fun i j => g (f i j) := by
  simp [grid, List.map_flatMap, Function.comp_def]

/-- The sum of numbers that only depend on their row. -/
theorem sum_grid {rows columns : Nat} {f : Nat → Nat → Nat} {each : Nat → Nat}
    (h : ∀ i < rows, ∀ j < columns, f i j = each i) :
    (grid rows columns f).sum = columns * ∑ i ∈ Finset.range rows, each i := by
  induction rows with
  | zero => simp [grid]
  | succ rows ih =>
      have hrow : (List.range columns).map (f rows) = List.replicate columns (each rows) := by
        rw [List.eq_replicate_iff]
        constructor
        · simp
        · intro n hmem
          obtain ⟨j, hj, rfl⟩ := List.mem_map.mp hmem
          exact h rows (Nat.lt_succ_self rows) j (List.mem_range.mp hj)
      rw [grid_succ, List.sum_append, ih fun i hi => h i (Nat.lt_succ_of_lt hi), hrow,
        List.sum_replicate, Finset.sum_range_succ, nsmul_eq_mul, Nat.cast_id, Nat.mul_add]

/-- The triangles of an index list, three indices each. -/
def faces : List ι → List (ι × ι × ι)
  | a :: b :: c :: rest => (a, b, c) :: faces rest
  | _ => []

/-- Where each item contributes two triangles, these are the triangles. -/
theorem faces_flatMap (items : List β) (a b c d e f : β → ι) :
    faces (items.flatMap fun x => [a x, b x, c x, d x, e x, f x]) =
      items.flatMap fun x => [(a x, b x, c x), (d x, e x, f x)] := by
  induction items with
  | nil => rfl
  | cons x rest ih =>
      rw [List.flatMap_cons, List.flatMap_cons, ← ih]
      rfl

end UntitledGame.Lib.Grids
