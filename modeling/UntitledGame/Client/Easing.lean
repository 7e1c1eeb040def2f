import UntitledGame.Client.Prediction
import Mathlib.Analysis.SpecialFunctions.Pow.Real
import Mathlib.Data.List.TakeWhile

/-!
# How far the character is drawn from where it is

A correction is eased out: the character is drawn where it was, and the offset from
where it is now decays. The limit on what is eased holds for one correction, and the
offset adds up over corrections that follow each other. It stays within the limit as
long as nothing is eased while an offset is left over; where one is left over, there is
a correction that leads past the limit.

The arithmetic is that of the reals.
-/

namespace UntitledGame.Client.Prediction

open Sim (Vec3 Character Physics)
open Net (EntityState)

def lengthSq (v : Vec3 ℝ) : ℝ := v.x * v.x + v.y * v.y + v.z * v.z

noncomputable def length (phys : Physics ℝ) (v : Vec3 ℝ) : ℝ := phys.sqrt (lengthSq v)

/-- Where the server's state leads with the inputs that the server has not seen. -/
noncomputable def led (phys : Physics ℝ) (s : Prediction ℝ) (authoritative : EntityState ℝ) :
    Vec3 ℝ :=
  (Sim.replay phys
    { s.mCharacter with position := authoritative.position, velocity := authoritative.velocity }
    (s.mPending.dropWhile (·.sequence ≤ authoritative.lastInputSequence)) kTickSeconds).position

/-- The server disagrees with the prediction, and by no more than is eased. -/
def Contradicts (phys : Physics ℝ) (s : Prediction ℝ) (authoritative : EntityState ℝ) : Prop :=
  kPositionTolerance < distance phys s.mCharacter.position (s.led phys authoritative) ∧
    distance phys s.mCharacter.position (s.led phys authoritative) ≤ kMaxSmoothedCorrection

/-- The character is drawn near where it is predicted to be. -/
def DrawnNear (phys : Physics ℝ) (s : Prediction ℝ) : Prop :=
  distance phys s.renderPosition s.mCharacter.position ≤ kMaxSmoothedCorrection ∧
    length phys s.mSmoothingOffset ≤ kMaxSmoothedCorrection

/-- What contradicts the prediction finds no offset left over from what did so before. -/
def Fresh (phys : Physics ℝ) (s : Prediction ℝ) : Call ℝ → Prop
  | .reconcile authoritative =>
      s.mActive = true → Contradicts phys s authoritative → s.mSmoothingOffset = Vec3.zero
  | .init _ => True
  | .shutdown => True
  | .step _ => True
  | .updateSmoothing _ => True

/-- A frame takes no negative time. -/
def Timed : Call ℝ → Prop
  | .updateSmoothing deltaSeconds => 0 ≤ deltaSeconds
  | .init _ => True
  | .shutdown => True
  | .step _ => True
  | .reconcile _ => True

/-- The offset is within the limit, and a character that is not predicted is at the origin. -/
structure Held (s : Prediction ℝ) : Prop where
  offset : lengthSq s.mSmoothingOffset ≤ 4
  idle : s.mActive = false → s.mCharacter = Character.default

theorem tolerance_eq : (kPositionTolerance : ℝ) = 2 / 100 := by norm_num [kPositionTolerance]

theorem limit_eq : (kMaxSmoothedCorrection : ℝ) = 2 := by norm_num [kMaxSmoothedCorrection]

section Lengths

variable {phys : Physics ℝ} (hsqrt : ∀ x, phys.sqrt x = √x)

include hsqrt

theorem length_le_iff (v : Vec3 ℝ) : length phys v ≤ kMaxSmoothedCorrection ↔ lengthSq v ≤ 4 := by
  rw [length, hsqrt, limit_eq, Real.sqrt_le_iff]
  norm_num

theorem distance_renderPosition {s : Prediction ℝ}
    (hidle : s.mActive = false → s.mCharacter = Character.default) :
    distance phys s.renderPosition s.mCharacter.position =
      if s.mActive then length phys s.mSmoothingOffset else 0 := by
  cases hactive : s.mActive with
  | true => simp [distance, renderPosition, hactive, length, lengthSq]
  | false => simp [distance, renderPosition, hactive, hidle hactive, Character.default, hsqrt]

theorem drawnNear_iff {s : Prediction ℝ}
    (hidle : s.mActive = false → s.mCharacter = Character.default) :
    DrawnNear phys s ↔ lengthSq s.mSmoothingOffset ≤ 4 := by
  rw [DrawnNear, distance_renderPosition hsqrt hidle, ← length_le_iff hsqrt]
  refine and_iff_right_of_imp fun hlength => ?_
  split
  · exact hlength
  · norm_num [kMaxSmoothedCorrection]

end Lengths

section Steps

theorem zero_eq : (Vec3.zero : Vec3 ℝ) = ⟨0, 0, 0⟩ := by
  norm_num [Vec3.zero]

theorem lengthSq_zero : lengthSq (Vec3.zero : Vec3 ℝ) = 0 := by
  simp [lengthSq, zero_eq]

theorem lengthSq_nonneg (v : Vec3 ℝ) : 0 ≤ lengthSq v :=
  add_nonneg (add_nonneg (mul_self_nonneg _) (mul_self_nonneg _)) (mul_self_nonneg _)

theorem lengthSq_scaled (v : Vec3 ℝ) (c : ℝ) :
    lengthSq ⟨v.x * c, v.y * c, v.z * c⟩ = c * c * lengthSq v := by
  simp only [lengthSq]
  ring

theorem lengthSq_decayed {v : Vec3 ℝ} {decay : ℝ} (h : 0 < decay ∧ decay ≤ 1) :
    lengthSq ⟨v.x * decay, v.y * decay, v.z * decay⟩ ≤ lengthSq v := by
  rw [lengthSq_scaled]
  calc decay * decay * lengthSq v
      ≤ 1 * lengthSq v :=
        mul_le_mul_of_nonneg_right (mul_le_one₀ h.2 h.1.le h.2) (lengthSq_nonneg v)
    _ = lengthSq v := one_mul _

variable (phys : Physics ℝ)

/-- What becomes of the offset of an active prediction. -/
theorem reconcile_offset {s : Prediction ℝ} (h : s.mActive = true)
    (authoritative : EntityState ℝ) :
    let p := s.mCharacter.position
    let q := s.led phys authoritative
    (s.reconcile phys authoritative).mSmoothingOffset =
      if distance phys p q ≤ kPositionTolerance then s.mSmoothingOffset
      else if distance phys p q > kMaxSmoothedCorrection then Vec3.zero
      else
        ⟨s.mSmoothingOffset.x + (p.x - q.x), s.mSmoothingOffset.y + (p.y - q.y),
          s.mSmoothingOffset.z + (p.z - q.z)⟩ := by
  have hled : (s.rollback phys authoritative).mCharacter.position = s.led phys authoritative := rfl
  have herror : (s.rollback phys authoritative).mLastCorrection =
      distance phys s.mCharacter.position (s.led phys authoritative) := rfl
  simp only [reconcile, h, Bool.not_true, Bool.false_eq_true, if_false, herror, hled, ease]
  split
  · rfl
  · split
    · rfl
    · rfl

/-- What is eased on its own is within the limit. -/
theorem lengthSq_reconcile {phys : Physics ℝ} (hsqrt : ∀ x, phys.sqrt x = √x) {s : Prediction ℝ}
    (hactive : s.mActive = true) (hoffset : lengthSq s.mSmoothingOffset ≤ 4)
    {authoritative : EntityState ℝ}
    (hfresh : Contradicts phys s authoritative → s.mSmoothingOffset = Vec3.zero) :
    lengthSq (s.reconcile phys authoritative).mSmoothingOffset ≤ 4 := by
  rw [reconcile_offset phys hactive]
  split
  · exact hoffset
  · rename_i hfar
    split
    · exact lengthSq_zero.le.trans (by norm_num)
    · rename_i hnear
      rw [hfresh ⟨not_le.mp hfar, not_lt.mp hnear⟩]
      have hgap := (length_le_iff hsqrt _).mp (not_lt.mp hnear : length phys
        ⟨s.mCharacter.position.x - (s.led phys authoritative).x,
          s.mCharacter.position.y - (s.led phys authoritative).y,
          s.mCharacter.position.z - (s.led phys authoritative).z⟩ ≤ kMaxSmoothedCorrection)
      simpa [zero_eq] using hgap

theorem step_inactive {s : Prediction ℝ} (h : s.mActive = false) (intent : Intent ℝ) :
    (s.step phys intent).1 = { s with mNextSequence := s.mNextSequence + 1 } := by
  simp [step, h]

theorem step_active {s : Prediction ℝ} (h : s.mActive = true) (intent : Intent ℝ) :
    (s.step phys intent).1.mActive = true ∧
      (s.step phys intent).1.mSmoothingOffset = s.mSmoothingOffset := by
  simp [step, h]

/-- A character that is not predicted stays at the origin. -/
theorem idle_call (exp2 : ℝ → ℝ) {s : Prediction ℝ}
    (hidle : s.mActive = false → s.mCharacter = Character.default) (c : Call ℝ)
    (h : (call phys exp2 s c).mActive = false) :
    (call phys exp2 s c).mCharacter = Character.default := by
  cases c with
  | init spawnPosition => exact nomatch h
  | shutdown => rfl
  | step intent =>
      cases hactive : s.mActive with
      | false =>
          rw [call, step_inactive phys hactive]
          exact hidle hactive
      | true => exact absurd ((step_active phys hactive intent).1.symm.trans h) (by decide)
  | reconcile authoritative =>
      cases hactive : s.mActive with
      | false =>
          rw [call, reconcile_inactive phys hactive]
          exact hidle hactive
      | true =>
          obtain ⟨_, _, heq⟩ := reconcile_eq phys hactive authoritative
          rw [call, heq] at h
          exact absurd (hactive.symm.trans h) (by decide)
  | updateSmoothing deltaSeconds => exact hidle h

/-- A call keeps the offset within the limit if nothing is eased on top of what is left over. -/
theorem lengthSq_call {phys : Physics ℝ} (hsqrt : ∀ x, phys.sqrt x = √x) {exp2 : ℝ → ℝ}
    (hexp2 : ∀ x ≤ 0, 0 < exp2 x ∧ exp2 x ≤ 1) {s : Prediction ℝ}
    (h : lengthSq s.mSmoothingOffset ≤ 4) {c : Call ℝ} (hc : Timed c) (hfresh : Fresh phys s c) :
    lengthSq (call phys exp2 s c).mSmoothingOffset ≤ 4 := by
  cases c with
  | init spawnPosition => exact lengthSq_zero.le.trans (by norm_num)
  | shutdown => exact h
  | step intent =>
      cases hactive : s.mActive with
      | false =>
          rw [call, step_inactive phys hactive]
          exact h
      | true =>
          rw [call, (step_active phys hactive intent).2]
          exact h
  | reconcile authoritative =>
      cases hactive : s.mActive with
      | false =>
          rw [call, reconcile_inactive phys hactive]
          exact h
      | true => exact lengthSq_reconcile hsqrt hactive h (hfresh hactive)
  | updateSmoothing deltaSeconds =>
      have hexponent : -deltaSeconds / kSmoothingHalfLife ≤ (0 : ℝ) := by
        refine div_nonpos_of_nonpos_of_nonneg (neg_nonpos.mpr hc) ?_
        norm_num [kSmoothingHalfLife]
      exact (lengthSq_decayed (hexp2 _ hexponent)).trans h

theorem held_call {phys : Physics ℝ} (hsqrt : ∀ x, phys.sqrt x = √x) {exp2 : ℝ → ℝ}
    (hexp2 : ∀ x ≤ 0, 0 < exp2 x ∧ exp2 x ≤ 1) {s : Prediction ℝ} (h : Held s) {c : Call ℝ}
    (hc : Timed c) (hfresh : Fresh phys s c) : Held (call phys exp2 s c) :=
  ⟨lengthSq_call hsqrt hexp2 h.offset hc hfresh, idle_call phys exp2 h.idle c⟩

/-- A server that has seen every input, and has the character elsewhere by this much. -/
noncomputable def disagreeing (s : Prediction ℝ) (gap : Vec3 ℝ) : EntityState ℝ :=
  ⟨1000, 0, ⟨s.mCharacter.position.x - gap.x, s.mCharacter.position.y - gap.y,
    s.mCharacter.position.z - gap.z⟩, ⟨0, 0, 0, 1⟩, ⟨0, 0, 0⟩, ⟨0, 0, 0⟩, 0xFFFFFFFF⟩

theorem led_disagreeing (s : Prediction ℝ) (gap : Vec3 ℝ) :
    s.led phys (s.disagreeing gap) = (s.disagreeing gap).position := by
  have hseen : s.mPending.dropWhile (·.sequence ≤ (s.disagreeing gap).lastInputSequence) = [] := by
    refine List.dropWhile_eq_nil_iff.mpr fun input _ => decide_eq_true ?_
    have hlast : (s.disagreeing gap).lastInputSequence.toNat = 4294967295 := rfl
    rw [UInt32.le_iff_toNat_le, hlast]
    exact Nat.le_pred_of_lt input.sequence.toNat_lt
  rw [led, hseen]
  rfl

theorem lengthSq_pos {v : Vec3 ℝ} (h : v ≠ Vec3.zero) : 0 < lengthSq v := by
  refine lt_of_le_of_ne (lengthSq_nonneg v) fun hzero => h ?_
  have hx := mul_self_nonneg v.x
  have hy := mul_self_nonneg v.y
  have hz := mul_self_nonneg v.z
  have hsum : v.x * v.x + v.y * v.y + v.z * v.z = 0 := hzero.symm
  rw [zero_eq, Vec3.mk.injEq]
  refine ⟨?_, ?_, ?_⟩
  · exact mul_self_eq_zero.mp (by linarith)
  · exact mul_self_eq_zero.mp (by linarith)
  · exact mul_self_eq_zero.mp (by linarith)

theorem distance_disagreeing (s : Prediction ℝ) (gap : Vec3 ℝ) :
    distance phys s.mCharacter.position (s.led phys (s.disagreeing gap)) = length phys gap := by
  rw [led_disagreeing, distance, length, lengthSq]
  simp [disagreeing]

/-- A vector, drawn out by a length of two the way it points. -/
theorem lengthSq_stretched {v : Vec3 ℝ} {l c : ℝ} (hl : lengthSq v = l * l) (hc : c * l = 2) :
    lengthSq ⟨v.x + v.x * c, v.y + v.y * c, v.z + v.z * c⟩ = (l + 2) * (l + 2) := by
  calc lengthSq ⟨v.x + v.x * c, v.y + v.y * c, v.z + v.z * c⟩
      = (1 + c) * (1 + c) * lengthSq v := by
        simp only [lengthSq]
        ring
    _ = (l + c * l) * (l + c * l) := by
        rw [hl]
        ring
    _ = (l + 2) * (l + 2) := by rw [hc]

/-- Where an offset is left over, a correction the same way as the offset leads past the limit. -/
theorem exists_past {phys : Physics ℝ} (hsqrt : ∀ x, phys.sqrt x = √x) {s : Prediction ℝ}
    (hactive : s.mActive = true) (hleft : s.mSmoothingOffset ≠ Vec3.zero) :
    ∃ authoritative, ¬ lengthSq (s.reconcile phys authoritative).mSmoothingOffset ≤ 4 := by
  obtain ⟨o, ho⟩ : ∃ o, s.mSmoothingOffset = o := ⟨_, rfl⟩
  rw [ho] at hleft
  obtain ⟨l, hl, hsq⟩ : ∃ l, 0 < l ∧ lengthSq o = l * l :=
    ⟨√(lengthSq o), Real.sqrt_pos.mpr (lengthSq_pos hleft),
      (Real.mul_self_sqrt (lengthSq_nonneg o)).symm⟩
  -- the gap is the offset, scaled to the length of two
  obtain ⟨c, hc⟩ : ∃ c, c * l = 2 := ⟨2 / l, div_mul_cancel₀ _ hl.ne'⟩
  have hgap : lengthSq ⟨o.x * c, o.y * c, o.z * c⟩ = 2 * 2 := by
    rw [lengthSq_scaled, hsq, ← hc]
    ring
  have hdistance := distance_disagreeing phys s ⟨o.x * c, o.y * c, o.z * c⟩
  rw [length, hsqrt, hgap, Real.sqrt_mul_self two_pos.le] at hdistance
  refine ⟨s.disagreeing ⟨o.x * c, o.y * c, o.z * c⟩, ?_⟩
  have hoffset := reconcile_offset phys hactive (s.disagreeing ⟨o.x * c, o.y * c, o.z * c⟩)
  dsimp only at hoffset
  rw [hdistance, if_neg, if_neg, led_disagreeing, ho] at hoffset
  · rw [hoffset]
    simp only [disagreeing, sub_sub_cancel]
    rw [lengthSq_stretched hsq hc]
    nlinarith
  · norm_num [kMaxSmoothedCorrection]
  · norm_num [kPositionTolerance]

theorem idle_run (exp2 : ℝ → ℝ) (calls : List (Call ℝ)) :
    (run phys exp2 calls).mActive = false →
      (run phys exp2 calls).mCharacter = Character.default := by
  have hstep : ∀ s c, (s.mActive = false → s.mCharacter = Character.default) →
      ((call phys exp2 s c).mActive = false →
        (call phys exp2 s c).mCharacter = Character.default) :=
    fun _ c hidle => idle_call phys exp2 hidle c
  exact Lib.Runs.run_preserves hstep (fun _ => rfl) calls

end Steps

/-- In a run in which nothing is eased on top of what is left over, the character is drawn near
where it is predicted to be. After any run that leaves it there, the next correction keeps it so,
whatever the server says, exactly if it finds no offset. -/
theorem drawnNear_of_fresh {phys : Physics ℝ} (hsqrt : ∀ x, phys.sqrt x = √x) {exp2 : ℝ → ℝ}
    (hexp2 : ∀ x ≤ 0, 0 < exp2 x ∧ exp2 x ≤ 1) (calls : List (Call ℝ))
    (hcalls : ∀ c ∈ calls, Timed c) :
    (Lib.Runs.Along (call phys exp2) (Fresh phys) blank calls →
        ∀ pre, pre <+: calls → DrawnNear phys (run phys exp2 pre)) ∧
      (DrawnNear phys (run phys exp2 calls) →
        ((∀ authoritative, DrawnNear phys (run phys exp2 (calls ++ [.reconcile authoritative]))) ↔
          ((run phys exp2 calls).mActive = true →
            (run phys exp2 calls).mSmoothingOffset = Vec3.zero))) := by
  constructor
  · rintro hfresh pre ⟨rest, rfl⟩
    have hblank : Held (blank : Prediction ℝ) :=
      ⟨lengthSq_zero.le.trans (by norm_num), fun _ => rfl⟩
    have hstep : ∀ s c, Timed c → Held s → Fresh phys s c → Held (call phys exp2 s c) :=
      fun _ _ hc hs => held_call hsqrt hexp2 hs hc
    have hheld : Held (run phys exp2 pre) :=
      Lib.Runs.run_invariant_of_legal hstep hblank
        (fun c hc => hcalls c (List.mem_append_left rest hc)) (Lib.Runs.along_append.mp hfresh).1
    exact (drawnNear_iff hsqrt hheld.idle).mpr hheld.offset
  · intro hnear
    have hoffset := (drawnNear_iff hsqrt (idle_run phys exp2 calls)).mp hnear
    have hnext : ∀ authoritative,
        DrawnNear phys (run phys exp2 (calls ++ [.reconcile authoritative])) ↔
          lengthSq ((run phys exp2 calls).reconcile phys authoritative).mSmoothingOffset ≤ 4 := by
      intro authoritative
      rw [drawnNear_iff hsqrt (idle_run phys exp2 _), run, Lib.Runs.run_concat]
      rfl
    constructor
    · intro h hactive
      by_contra hleft
      obtain ⟨authoritative, hpast⟩ := exists_past hsqrt hactive hleft
      exact hpast ((hnext authoritative).mp (h authoritative))
    · intro hfresh authoritative
      rw [hnext]
      cases hactive : (run phys exp2 calls).mActive with
      | false =>
          rw [reconcile_inactive phys hactive]
          exact hoffset
      | true => exact lengthSq_reconcile hsqrt hactive hoffset fun _ => hfresh hactive

section Corrections

/-- The C library's functions, exact, over level ground. -/
noncomputable def exact : Physics ℝ := ⟨Real.sin, Real.cos, Real.sqrt, fun x => ⌊x⌋, fun _ _ => 0⟩

/-- A server that has the character at rest this far to the east. -/
noncomputable def restingAt (x : ℝ) : EntityState ℝ :=
  ⟨1000, 0, ⟨x, 0, 0⟩, ⟨0, 0, 0, 1⟩, ⟨0, 0, 0⟩, ⟨0, 0, 0⟩, 0⟩

/-- A prediction without pending inputs, to the east, drawn at an offset along the same axis. -/
structure Resting (s : Prediction ℝ) (x offset : ℝ) : Prop where
  active : s.mActive = true
  pending : s.mPending = []
  position : s.mCharacter.position = ⟨x, 0, 0⟩
  offset : s.mSmoothingOffset = ⟨offset, 0, 0⟩

theorem resting_init (s : Prediction ℝ) : Resting (s.init ⟨0, 0, 0⟩) 0 0 :=
  ⟨rfl, rfl, rfl, by norm_num [init, Vec3.zero]⟩

theorem length_east (x : ℝ) : length exact ⟨x, 0, 0⟩ = |x| := by
  have hsq : lengthSq ⟨x, 0, 0⟩ = x * x := by simp [lengthSq]
  rw [length, hsq]
  exact Real.sqrt_mul_self_eq_abs x

variable {s : Prediction ℝ} {x offset : ℝ}

theorem Resting.led (h : Resting s x offset) (y : ℝ) :
    s.led exact (restingAt y) = ⟨y, 0, 0⟩ := by
  simp [Prediction.led, Sim.replay, restingAt, h.pending]

theorem Resting.distance_led (h : Resting s x offset) (y : ℝ) :
    distance exact s.mCharacter.position (s.led exact (restingAt y)) = |x - y| := by
  rw [h.led, h.position, ← length_east]
  simp [distance, length, lengthSq]

theorem Resting.not_contradicts (h : Resting s x offset) {y : ℝ}
    (hapart : |x - y| ≤ 2 / 100 ∨ 2 < |x - y|) : ¬ Contradicts exact s (restingAt y) := by
  rw [Contradicts, h.distance_led, tolerance_eq, limit_eq]
  rintro ⟨hfar, hnear⟩
  exact hapart.elim hfar.not_ge hnear.not_gt

/-- The correction moves the character. An agreement leaves the offset, a correction that is
eased adds to it and one that is not drops it. -/
theorem Resting.reconcile (h : Resting s x offset) (y : ℝ) :
    Resting (s.reconcile exact (restingAt y)) y
      (if |x - y| ≤ 2 / 100 then offset else if 2 < |x - y| then 0 else offset + (x - y)) := by
  obtain ⟨_, _, heq⟩ := reconcile_eq exact h.active (restingAt y)
  have hoffset := reconcile_offset exact h.active (restingAt y)
  dsimp only at hoffset
  rw [h.distance_led, h.led, h.position, h.offset, tolerance_eq, limit_eq, zero_eq] at hoffset
  refine ⟨?_, ?_, ?_, ?_⟩
  · rw [heq]
    exact h.active
  · rw [heq]
    simp [rollback, unacknowledged, h.pending]
  · rw [heq]
    simp [rollback, unacknowledged, rewind, restingAt, h.pending]
  · rw [hoffset]
    split
    · rfl
    · split
      · rfl
      · simp

theorem Resting.agreed (h : Resting s x offset) {y : ℝ} (hclose : |x - y| ≤ 2 / 100) :
    Resting (s.reconcile exact (restingAt y)) y offset := by
  have hnext := h.reconcile y
  rwa [if_pos hclose] at hnext

theorem Resting.jumped (h : Resting s x offset) {y : ℝ} (hfar : 2 < |x - y|) :
    Resting (s.reconcile exact (restingAt y)) y 0 := by
  have hnext := h.reconcile y
  rwa [if_neg (by linarith), if_pos hfar] at hnext

theorem Resting.eased (h : Resting s x offset) {y : ℝ} (hlow : 2 / 100 < |x - y|)
    (hhigh : |x - y| ≤ 2) :
    Resting (s.reconcile exact (restingAt y)) y (offset + (x - y)) := by
  have hnext := h.reconcile y
  rwa [if_neg hlow.not_ge, if_neg hhigh.not_gt] at hnext

theorem Resting.updateSmoothing (h : Resting s x offset) (exp2 : ℝ → ℝ) (deltaSeconds : ℝ) :
    Resting (s.updateSmoothing exp2 deltaSeconds) x
      (offset * exp2 (-deltaSeconds / kSmoothingHalfLife)) :=
  ⟨h.active, h.pending, h.position, by simp [Prediction.updateSmoothing, h.offset]⟩

end Corrections

/-- Two corrections in a row leave the character three units from where it is. -/
theorem corrections_add_up :
    ¬ DrawnNear exact (run exact (fun x => (2 : ℝ) ^ x)
      [.init ⟨0, 0, 0⟩, .reconcile (restingAt (3 / 2)), .reconcile (restingAt 3)]) := by
  intro h
  have hfirst := (resting_init blank).eased (y := 3 / 2) (by norm_num [abs_of_neg])
    (by norm_num [abs_of_neg])
  have hsecond := hfirst.eased (y := 3) (by norm_num [abs_of_neg]) (by norm_num [abs_of_neg])
  have hlength := h.2
  rw [run, Lib.Runs.run_cons, Lib.Runs.run_cons, Lib.Runs.run_cons, Lib.Runs.run_nil] at hlength
  simp only [call] at hlength
  rw [hsecond.offset, length_east] at hlength
  norm_num [kMaxSmoothedCorrection, abs_of_neg] at hlength

/-- A correction, half of which is left when the server agrees, a jump and a correction. -/
noncomputable def apart : List (Call ℝ) :=
  [.init ⟨0, 0, 0⟩, .reconcile (restingAt (3 / 2)), .updateSmoothing (8 / 100),
    .reconcile (restingAt (3 / 2)), .reconcile (restingAt 5), .reconcile (restingAt (11 / 2))]

theorem drawnNear_apart : DrawnNear exact (run exact (fun x => (2 : ℝ) ^ x) apart) := by
  have hexp2 : ∀ x ≤ (0 : ℝ), 0 < (2 : ℝ) ^ x ∧ (2 : ℝ) ^ x ≤ 1 := fun x hx =>
    ⟨Real.rpow_pos_of_pos two_pos x, Real.rpow_le_one_of_one_le_of_nonpos one_le_two hx⟩
  refine (drawnNear_of_fresh (fun _ => rfl) hexp2 apart ?_).1 ?_ apart (List.prefix_refl _)
  · simp only [apart, List.forall_mem_cons, Timed]
    norm_num
  · have hinit := resting_init (blank : Prediction ℝ)
    have hfirst := hinit.eased (y := 3 / 2) (by norm_num [abs_of_neg]) (by norm_num [abs_of_neg])
    have hdecayed := hfirst.updateSmoothing (fun x => (2 : ℝ) ^ x) (8 / 100)
    have hagreed := hdecayed.agreed (y := 3 / 2) (by norm_num)
    have hjumped := hagreed.jumped (y := 5) (by norm_num [abs_of_neg])
    refine ⟨trivial, fun _ _ => ?_, trivial, fun _ hcontradicts => ?_, fun _ hcontradicts => ?_,
      fun _ _ => ?_, trivial⟩
    · simp only [call, hinit.offset, zero_eq]
    · exact absurd hcontradicts (hdecayed.not_contradicts (.inl (by norm_num)))
    · exact absurd hcontradicts (hagreed.not_contradicts (.inr (by norm_num [abs_of_neg])))
    · simp only [call, hjumped.offset, zero_eq]

end UntitledGame.Client.Prediction
