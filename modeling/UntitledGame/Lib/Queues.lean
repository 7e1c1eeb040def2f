import UntitledGame.Lib.Runs
import Mathlib.Data.List.TakeWhile
import Mathlib.Order.Basic

/-!
# Loops at the front of a queue

Two loops that take items from the front of a queue. `drain` handles items until
none is left or one of them ends the loop. A delay line lets items go as long as
the one in front is due.

Neither sees what stands behind the item that stops it. `drain_eq_run_iff` and
`dropWhile_eq_filter_iff` say for which queues that makes no difference.
-/

namespace UntitledGame.Lib.Queues

section Drain

variable {σ δ : Type*} (ends : δ → Bool) (handle : σ → δ → σ)

/-- Takes items and handles them, until none is left or one ends the loop. The item that ends the
loop is taken and not handled. -/
def drain : σ → List δ → σ × List δ
  | s, [] => (s, [])
  | s, d :: rest => if ends d then (s, rest) else drain (handle s d) rest

variable {ends handle}

/-- Nothing is left if and only if no item with another one behind it ends the loop. -/
theorem drain_left_iff {s : σ} {queue : List δ} :
    (drain ends handle s queue).2 = [] ↔ ∀ d ∈ queue.dropLast, ends d = false := by
  induction queue generalizing s with
  | nil => simp [drain]
  | cons d rest ih =>
      cases rest with
      | nil =>
          rw [drain]
          split
          · simp
          · simp [drain]
      | cons next rest =>
          rw [drain, List.dropLast_cons_cons, List.forall_mem_cons]
          split
          · rename_i hends
            simp [hends]
          · rename_i hgoes
            rw [ih]
            exact (and_iff_right (by simpa using hgoes)).symm

/-- A queue in which only the last item can end the loop is handled to its end. -/
theorem drain_state (hidle : ∀ s d, ends d = true → handle s d = s) {s : σ} {queue : List δ}
    (h : ∀ d ∈ queue.dropLast, ends d = false) :
    (drain ends handle s queue).1 = Lib.Runs.run handle s queue := by
  induction queue generalizing s with
  | nil => rfl
  | cons d rest ih =>
      cases rest with
      | nil =>
          rw [drain]
          split
          · rename_i hends
            exact (hidle s d hends).symm
          · rfl
      | cons next rest =>
          rw [List.dropLast_cons_cons, List.forall_mem_cons] at h
          rw [drain, if_neg (by simp [h.1])]
          exact ih h.2

/-- The loop handles the whole queue if and only if no item with another one behind it ends it. -/
theorem drain_eq_run_iff (hidle : ∀ s d, ends d = true → handle s d = s) {s : σ} {queue : List δ} :
    drain ends handle s queue = (Lib.Runs.run handle s queue, []) ↔
      ∀ d ∈ queue.dropLast, ends d = false := by
  constructor
  · intro h
    apply drain_left_iff.mp
    exact congrArg Prod.snd h
  · intro h
    exact Prod.ext (drain_state hidle h) (drain_left_iff.mpr h)

end Drain

section Delay

variable {α τ : Type*} [LE τ] [DecidableLE τ] (due : α → τ)

/-- No item that is due stands behind one that is not. -/
def InOrder (now : τ) (items : List α) : Prop :=
  items.Pairwise fun a b => due b ≤ now → due a ≤ now

instance (now : τ) (items : List α) : Decidable (InOrder due now items) :=
  inferInstanceAs (Decidable (items.Pairwise fun a b => due b ≤ now → due a ≤ now))

/-- What passes at these readings have left of the items held so far. -/
def Left (held queue : List α) (passes : List τ) : Prop :=
  ∃ gone, held = gone ++ queue ∧ ∀ a ∈ gone, ∃ now ∈ passes, due a ≤ now

variable {due} {now : τ} {queue : List α}

/-- The items let go are the due ones. -/
theorem takeWhile_eq_filter (h : InOrder due now queue) :
    queue.takeWhile (due · ≤ now) = queue.filter (due · ≤ now) := by
  induction queue with
  | nil => rfl
  | cons a rest ih =>
      obtain ⟨hfirst, hrest⟩ := List.pairwise_cons.mp h
      by_cases ha : due a ≤ now
      · rw [List.takeWhile_cons_of_pos (by simpa using ha),
          List.filter_cons_of_pos (by simpa using ha), ih hrest]
      · have hnone : rest.filter (due · ≤ now) = [] :=
          List.filter_eq_nil_iff.mpr fun b hb => by simpa using fun hdue => ha (hfirst b hb hdue)
        rw [List.takeWhile_cons_of_neg (by simpa using ha),
          List.filter_cons_of_neg (by simpa using ha), hnone]

/-- The items left are those that are not due, if and only if the queue is in order. -/
theorem dropWhile_eq_filter_iff :
    queue.dropWhile (due · ≤ now) = queue.filter (¬ due · ≤ now) ↔ InOrder due now queue := by
  induction queue with
  | nil => exact iff_of_true rfl List.Pairwise.nil
  | cons a rest ih =>
      rw [InOrder, List.pairwise_cons]
      by_cases ha : due a ≤ now
      · rw [List.dropWhile_cons_of_pos (by simpa using ha),
          List.filter_cons_of_neg (by simpa using ha), ih]
        exact (and_iff_right fun _ _ _ => ha).symm
      · rw [List.dropWhile_cons_of_neg (by simpa using ha),
          List.filter_cons_of_pos (by simpa using ha), List.cons_inj_right, eq_comm,
          List.filter_eq_self]
        have hall : (∀ b ∈ rest, decide (¬ due b ≤ now) = true) ↔
            ∀ b ∈ rest, due b ≤ now → due a ≤ now := by
          simp only [decide_eq_true_eq, ha, imp_false]
        rw [hall]
        refine (and_iff_left_of_imp fun h => ?_).symm
        rw [List.pairwise_iff_forall_sublist]
        intro b c hsub hc
        exact absurd (h c (hsub.subset (by simp)) hc) ha

section Left

variable {held : List α} {passes : List τ}

omit [DecidableLE τ] in
theorem left_nil : Left due [] [] passes := ⟨[], rfl, by simp⟩

omit [DecidableLE τ] in
/-- What is held goes to the back. -/
theorem Left.hold (h : Left due held queue passes) (items : List α) :
    Left due (held ++ items) (queue ++ items) passes := by
  obtain ⟨gone, hheld, hgone⟩ := h
  exact ⟨gone, by rw [hheld, List.append_assoc], hgone⟩

/-- A pass takes due items from the front. -/
theorem Left.pass (h : Left due held queue passes) (now : τ) :
    Left due held (queue.dropWhile (due · ≤ now)) (passes ++ [now]) := by
  obtain ⟨gone, hheld, hgone⟩ := h
  refine ⟨gone ++ queue.takeWhile (due · ≤ now), ?_, ?_⟩
  · rw [hheld, List.append_assoc, List.takeWhile_append_dropWhile]
  · intro a ha
    rcases List.mem_append.mp ha with hbefore | htaken
    · obtain ⟨t, ht, hdue⟩ := hgone a hbefore
      exact ⟨t, List.mem_append_left _ ht, hdue⟩
    · have hdue := List.mem_takeWhile_imp htaken
      exact ⟨now, by simp, by simpa using hdue⟩

end Left

end Delay

section Clock

variable {α τ : Type*} [LE τ] [DecidableLE τ] [IsTrans τ (· ≤ ·)] {due : α → τ} {now : τ}
  {held queue : List α} {passes : List τ}

omit [DecidableLE τ] in
/-- Once the clock has come to the last pass, the items that are gone do not matter for the
order. -/
theorem Left.inOrder_iff (h : Left due held queue passes) (hnow : ∀ t ∈ passes, t ≤ now) :
    InOrder due now held ↔ InOrder due now queue := by
  obtain ⟨gone, rfl, hgone⟩ := h
  have hdue : ∀ a ∈ gone, due a ≤ now := by
    intro a ha
    obtain ⟨t, ht, hle⟩ := hgone a ha
    exact IsTrans.trans _ _ _ hle (hnow t ht)
  rw [InOrder, List.pairwise_append]
  constructor
  · exact fun hall => hall.2.1
  · intro hqueue
    refine ⟨?_, hqueue, fun a ha b _ _ => hdue a ha⟩
    exact List.Pairwise.imp_of_mem (fun ha _ _ _ => hdue _ ha)
      (List.pairwise_of_forall (R := fun _ _ => True) fun _ _ => trivial)

end Clock

end UntitledGame.Lib.Queues
