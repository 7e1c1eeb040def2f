import Mathlib.Data.Nat.Digits.Defs

/-!
# Decimal texts

A text of bytes is decimal when it is not empty and has digits only; its number is the
one of these digits in base ten, leading zeros allowed.
-/

namespace UntitledGame.Lib.Decimals

def IsDigit (c : UInt8) : Prop := 48 ≤ c ∧ c ≤ 57

instance (c : UInt8) : Decidable (IsDigit c) := inferInstanceAs (Decidable (_ ∧ _))

def digit (c : UInt8) : Nat := c.toNat - 48

/-- The number of a decimal text. -/
def number (text : List UInt8) : Option Nat :=
  if !text.isEmpty && text.all (fun c => decide (IsDigit c)) then
    some (Nat.ofDigits 10 (text.reverse.map digit))
  else none

variable {text : List UInt8} {n : Nat}

theorem number_eq_some :
    number text = some n ↔
      text ≠ [] ∧ (∀ c ∈ text, IsDigit c) ∧ Nat.ofDigits 10 (text.reverse.map digit) = n := by
  simp only [number, Bool.and_eq_true, Bool.not_eq_true', List.isEmpty_eq_false_iff,
    List.all_eq_true, decide_eq_true_eq, Option.ite_none_right_eq_some, Option.some.injEq, and_assoc]

/-- The number, digit by digit from the left. -/
theorem ofDigits_eq_foldl (text : List UInt8) :
    Nat.ofDigits 10 (text.reverse.map digit) =
      text.foldl (fun n c => 10 * n + digit c) 0 := by
  rw [Nat.ofDigits_eq_foldr, List.foldr_map, List.foldr_reverse]
  simp only [Nat.cast_id, add_comm]

/-- The number of a text that is given. -/
theorem number_of_foldl (hdigits : text.all (fun c => decide (IsDigit c)) = true)
    (hne : text.isEmpty = false) (hn : text.foldl (fun n c => 10 * n + digit c) 0 = n) :
    number text = some n := by
  rw [number, hne, hdigits]
  exact congrArg some ((ofDigits_eq_foldl text).trans hn)

theorem number_eq_none (h : text.all (fun c => decide (IsDigit c)) = false) :
    number text = none := by
  rw [number, h, Bool.and_false]
  rfl

theorem isDigit_of_number (h : number text = some n) {c : UInt8} (hc : c ∈ text) : IsDigit c :=
  (number_eq_some.mp h).2.1 c hc

end UntitledGame.Lib.Decimals
