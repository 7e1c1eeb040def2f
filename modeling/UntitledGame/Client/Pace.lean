import UntitledGame.Lib.Pacing
import UntitledGame.Client.Application

/-!
# The pace of the client

What a frame does to the accumulator of the client and to the number of its ticks.
Polling, following the network, replication and the screens leave both alone, so all
that counts is the tick loop.
-/

namespace UntitledGame.Client.Application

open Net Sim
open Lib.Pacing (Savings Settled Spends Paces)

variable {F : Type*} [Scalar F]

/-- The time that no tick has used up yet, and the ticks so far. -/
def savings (a : Application F) : Savings ℚ := ⟨a.mTickAccumulator, a.ticks⟩

section Frames

variable (host : Host F) (a : Application F)

theorem savings_transition : savings a.transition = savings a := by
  simp only [transition]
  split
  · split
    · rfl
    · split <;> rfl
  · split <;> rfl

theorem savings_predictOwn (e : EntityState F) : savings (a.predictOwn host e) = savings a := by
  simp only [predictOwn]
  split
  · rfl
  · split <;> rfl

theorem savings_replicateEntity (s : Application F × Std.ExtTreeSet UInt32)
    (entry : UInt32 × NetClient.Replicated) :
    savings (replicateEntity host s entry).1 = savings s.1 := by
  simp only [replicateEntity]
  split
  · split
    · exact savings_predictOwn host s.1 _
    · rfl
  · rfl

theorem savings_applyReplication : savings (a.applyReplication host) = savings a := by
  simp only [applyReplication]
  split
  · rfl
  · have hfold : savings (a.mNet.mEntities.toList.foldl (replicateEntity host) (a, ∅)).1 =
        savings a :=
      Lib.Runs.run_frame (f := fun s => savings s.1) (savings_replicateEntity host) (a, ∅)
        a.mNet.mEntities.toList
    exact hfold

theorem savings_drawUi (f : Frame F) : savings (a.drawUi host f) = savings a := by
  have hlogin : savings (a.drawLogin host f) = savings a := by
    simp only [drawLogin]
    split
    · rfl
    · split
      · simp only [beginLogin]
        split <;> rfl
      · rfl
  simp only [drawUi]
  split
  · exact hlogin
  · exact hlogin
  · split <;> rfl
  · split
    · rfl
    · split <;> rfl

/-- The accumulator as the tick loop of a frame finds it. -/
def charged (f : Frame F) : Application F :=
  let polled := transition { a with
    mElapsedSeconds := a.mElapsedSeconds + f.deltaSeconds
    mNet := a.mNet.poll (a.mElapsedSeconds + f.deltaSeconds) f.os }
  { polled with mTickAccumulator :=
      if 1 / 4 < polled.mTickAccumulator + f.deltaSeconds then 1 / 4
      else polled.mTickAccumulator + f.deltaSeconds }

theorem savings_charged (f : Frame F) :
    savings (charged a f) = ⟨min (a.mTickAccumulator + f.deltaSeconds) (1 / 4), a.ticks⟩ := by
  have hpolled := savings_transition { a with
    mElapsedSeconds := a.mElapsedSeconds + f.deltaSeconds
    mNet := a.mNet.poll (a.mElapsedSeconds + f.deltaSeconds) f.os }
  simp only [savings, Savings.mk.injEq] at hpolled
  simp only [savings, charged, hpolled, Savings.mk.injEq, and_true]
  split
  · rename_i hover
    exact (min_eq_right hover.le).symm
  · rename_i hfits
    exact (min_eq_left (not_lt.mp hfits)).symm

/-- A frame comes down to its tick loop. -/
theorem savings_frame (f : Frame F) :
    savings (a.frame host f) =
      savings ((charged a f).tickLoop host f.intent kMaxTicks f.dropped) := by
  rw [frame, savings_drawUi, update, savings_applyReplication]
  rfl

/-- The tick loop turns what is saved into ticks. -/
theorem tickLoop_balance (intent : Prediction.Intent F) (fuel : Nat) (dropped : List Bool) :
    (a.tickLoop host intent fuel dropped).mTickAccumulator +
        (a.tickLoop host intent fuel dropped).ticks * kTickSeconds =
      a.mTickAccumulator + a.ticks * kTickSeconds := by
  apply tickLoop_preserves (P := fun b =>
    b.mTickAccumulator + b.ticks * kTickSeconds = a.mTickAccumulator + a.ticks * kTickSeconds)
  · rfl
  · intro b drop hb _
    have hticks : (b.tick host intent drop).ticks = b.ticks + 1 := by
      simp only [tick]
      split <;> rfl
    rw [tick_accumulator, hticks, ← hb]
    push_cast
    ring

/-- The frames of the client spend the time that passes in ticks. -/
theorem frame_paces : Paces (frame host) savings Frame.deltaSeconds kTickSeconds (1 / 4) := by
  intro a f ha hf
  have hcharged := savings_charged a f
  simp only [savings, Savings.mk.injEq] at hcharged
  obtain ⟨hsaved, hticks⟩ := hcharged
  have hnonneg : 0 ≤ (charged a f).mTickAccumulator := by
    rw [hsaved]
    exact le_min (add_nonneg ha.nonneg hf) (by norm_num)
  have hcap : (charged a f).mTickAccumulator ≤ 1 / 4 := by
    rw [hsaved]
    exact min_le_right _ _
  rw [savings_frame]
  constructor
  · have hbalance := tickLoop_balance host (charged a f) f.intent kMaxTicks f.dropped
    rw [hsaved, hticks] at hbalance
    exact hbalance
  · constructor
    · apply tickLoop_preserves (P := fun b => 0 ≤ b.mTickAccumulator)
      · exact hnonneg
      · intro b drop _ hdue
        rw [tick_accumulator]
        exact sub_nonneg.mpr hdue
    · exact tickLoop_ends host f.intent f.dropped (charged a f) hcap

end Frames

end UntitledGame.Client.Application
