import Mathlib.Data.List.Basic

/-!
# Loops that may give up

A loop whose body may leave it without a result is `foldlM` in `Option`: there is a
state at the end only if the body got through every item.
-/

namespace UntitledGame.Lib.Attempts

variable {σ τ α β : Type*} {f : σ → α → Option σ}

/-- What every step that gets through keeps. -/
theorem foldlM_invariant {Inv : σ → Prop}
    (hstep : ∀ s a s', Inv s → f s a = some s' → Inv s') {s s' : σ} {items : List α} (hs : Inv s)
    (h : items.foldlM f s = some s') : Inv s' := by
  induction items generalizing s with
  | nil =>
      cases h
      exact hs
  | cons a items ih =>
      rw [List.foldlM_cons] at h
      obtain ⟨t, ht, hrest⟩ := Option.bind_eq_some_iff.mp h
      exact ih (hstep s a t hs ht) hrest

/-- Where a view of the state follows each step, it follows the loop, and gives up with it. -/
theorem foldlM_view {g : τ → α → Option τ} {view : σ → τ}
    (hstep : ∀ s a, (f s a).map view = g (view s) a) (s : σ) (items : List α) :
    (items.foldlM f s).map view = items.foldlM g (view s) := by
  induction items generalizing s with
  | nil => rfl
  | cons a items ih =>
      rw [List.foldlM_cons, List.foldlM_cons, ← hstep]
      cases f s a with
      | none => rfl
      | some t => exact ih t

/-- A loop in a loop is a loop over all items in a row. -/
theorem foldlM_flatMap (g : β → List α) (s : σ) (items : List β) :
    (items.flatMap g).foldlM f s = items.foldlM (fun s b => (g b).foldlM f s) s := by
  induction items generalizing s with
  | nil => rfl
  | cons b items ih =>
      rw [List.flatMap_cons, List.foldlM_append, List.foldlM_cons]
      exact congrArg (Option.bind ((g b).foldlM f s)) (funext ih)

end UntitledGame.Lib.Attempts
