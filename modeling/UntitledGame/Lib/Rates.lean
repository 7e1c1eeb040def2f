import Mathlib.MeasureTheory.Integral.IntervalIntegral.Basic

/-!
# Rates that change

A rate is in force from the moment at which it is set until the next one is set.
`accrued` is what it adds up to between two moments, one stretch after the other,
and over the reals this is the integral of the rate in force.
-/

namespace UntitledGame.Lib.Rates

section Sums

variable {F : Type*} [Ring F]

/-- What a rate adds up to, with the moments at which another one is set. -/
def accrued (start rate finish : F) : List (F × F) → F
  | [] => (finish - start) * rate
  | (time, next) :: changes => (time - start) * rate + accrued time next finish changes

/-- The first stretch may be cut in two. -/
theorem accrued_later (start later rate finish : F) (changes : List (F × F)) :
    accrued start rate finish changes =
      (later - start) * rate + accrued later rate finish changes := by
  cases changes with
  | nil =>
      rw [accrued, accrued, ← add_mul, add_comm (later - start), sub_add_sub_cancel]
  | cons change changes =>
      rw [accrued, accrued, ← add_assoc, ← add_mul, add_comm (later - start), sub_add_sub_cancel]

end Sums

section Integrals

/-- The rate in force at a moment. -/
noncomputable def rateAt (rate : ℝ) : List (ℝ × ℝ) → ℝ → ℝ
  | [], _ => rate
  | (time, next) :: changes, x => if x < time then rate else rateAt next changes x

variable {start finish rate : ℝ} {changes : List (ℝ × ℝ)}

/-- Before the first change, and from it on. -/
theorem rateAt_eqOn_before {time next : ℝ} (h : start ≤ time) :
    Set.EqOn (fun _ => rate) (rateAt rate ((time, next) :: changes)) (Set.uIoo start time) := by
  intro x hx
  rw [Set.uIoo_of_le h] at hx
  exact (if_pos hx.2).symm

theorem rateAt_eqOn_after {time next : ℝ} (h : time ≤ finish) :
    Set.EqOn (rateAt next changes) (rateAt rate ((time, next) :: changes))
      (Set.uIoo time finish) := by
  intro x hx
  rw [Set.uIoo_of_le h] at hx
  exact (if_neg (not_lt.mpr hx.1.le)).symm

/-- The moments between the start and the finish, in order. -/
def Ordered (start finish : ℝ) (changes : List (ℝ × ℝ)) : Prop :=
  (start :: (changes.map (·.1) ++ [finish])).Pairwise (· ≤ ·)

theorem Ordered.tail {change : ℝ × ℝ} (h : Ordered start finish (change :: changes)) :
    start ≤ change.1 ∧ change.1 ≤ finish ∧ Ordered change.1 finish changes := by
  obtain ⟨hstart, hrest⟩ := List.pairwise_cons.mp h
  refine ⟨hstart _ (by simp), ?_, hrest⟩
  exact (List.pairwise_cons.mp hrest).1 _ (by simp)

theorem intervalIntegrable_before {time next : ℝ} (h : start ≤ time) :
    IntervalIntegrable (rateAt rate ((time, next) :: changes)) MeasureTheory.volume start time :=
  intervalIntegrable_const.congr_uIoo (rateAt_eqOn_before h)

theorem intervalIntegrable_rateAt (h : Ordered start finish changes) :
    IntervalIntegrable (rateAt rate changes) MeasureTheory.volume start finish := by
  induction changes generalizing start rate with
  | nil => exact intervalIntegrable_const
  | cons change changes ih =>
      obtain ⟨hbefore, hafter, htail⟩ := h.tail
      have hrest : IntervalIntegrable (rateAt rate (change :: changes)) MeasureTheory.volume
          change.1 finish :=
        (ih htail).congr_uIoo (rateAt_eqOn_after hafter)
      exact (intervalIntegrable_before hbefore).trans hrest

/-- The stretches add up to the integral of the rate in force. -/
theorem accrued_eq_integral (h : Ordered start finish changes) :
    accrued start rate finish changes = ∫ x in start..finish, rateAt rate changes x := by
  induction changes generalizing start rate with
  | nil => simp [accrued, rateAt]
  | cons change changes ih =>
      obtain ⟨hbefore, hafter, htail⟩ := h.tail
      have hrest : IntervalIntegrable (rateAt rate (change :: changes)) MeasureTheory.volume
          change.1 finish :=
        (intervalIntegrable_rateAt htail).congr_uIoo (rateAt_eqOn_after hafter)
      calc
        accrued start rate finish (change :: changes)
            = (∫ _ in start..change.1, rate) +
                ∫ x in change.1..finish, rateAt change.2 changes x := by
          rw [← ih htail, intervalIntegral.integral_const, smul_eq_mul]
          rfl
        _ = (∫ x in start..change.1, rateAt rate (change :: changes) x) +
              ∫ x in change.1..finish, rateAt rate (change :: changes) x := by
          rw [intervalIntegral.integral_congr_uIoo (rateAt_eqOn_before hbefore),
            intervalIntegral.integral_congr_uIoo (rateAt_eqOn_after hafter)]
        _ = ∫ x in start..finish, rateAt rate (change :: changes) x :=
          intervalIntegral.integral_add_adjacent_intervals
            (intervalIntegrable_before hbefore) hrest

end Integrals

end UntitledGame.Lib.Rates
