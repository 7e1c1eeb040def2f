import UntitledGame.Net.Protocol
import UntitledGame.Sim.Simulation

/-!
# `game::Prediction`

Client-side prediction with rollback: the client moves its own character at
once, keeps the inputs that the server has not acknowledged, and rewinds and
replays when a snapshot arrives.

`std::exp2` is an argument of the one method that calls it. The deque of pending
inputs is a list whose head is the front.
-/

namespace UntitledGame.Client

open Sim (Vec3 Character CharacterInput Physics stepCharacter replay)
open Net (EntityState)

structure Prediction (F : Type*) where
  mCharacter : Character F
  mActive : Bool
  mPending : List (CharacterInput F)
  mNextSequence : UInt32
  mSmoothingOffset : Vec3 F
  mRollbacks : UInt32
  mLastCorrection : F
  deriving DecidableEq, Repr

namespace Prediction

variable {F : Type*} [Scalar F]

def kPositionTolerance : F := 0.02
def kSmoothingHalfLife : F := 0.08
def kMaxSmoothedCorrection : F := 2.0
def kMaxPending : Nat := 256

/-- One tick at the server's rate. -/
def kTickSeconds : F := 1.0 / (Net.kServerTickHz : F)

def distance (phys : Physics F) (a b : Vec3 F) : F :=
  let dx := a.x - b.x
  let dy := a.y - b.y
  let dz := a.z - b.z
  phys.sqrt (dx * dx + dy * dy + dz * dz)

/-- A `Prediction` as it is constructed. -/
def blank : Prediction F := ⟨Character.default, false, [], 1, Vec3.zero, 0, 0.0⟩

/-- `shutdown` keeps the counter. -/
def shutdown (s : Prediction F) : Prediction F :=
  { s with mCharacter := Character.default, mPending := [], mActive := false }

def init (s : Prediction F) (spawnPosition : Vec3 F) : Prediction F :=
  { s.shutdown with
    mCharacter := { Character.default with position := spawnPosition }
    mPending := []
    mNextSequence := 1
    mSmoothingOffset := Vec3.zero
    mRollbacks := 0
    mLastCorrection := 0.0
    mActive := true }

def simulateTick (phys : Physics F) (c : Character F) (input : CharacterInput F) : Character F :=
  stepCharacter phys c input kTickSeconds

/-- The intent that a frame reads from the keyboard and the camera. -/
structure Intent (F : Type*) where
  moveForward : F
  moveRight : F
  yaw : F
  jump : Bool
  sprint : Bool
  deriving DecidableEq, Repr

/-- The intent stamped with the next sequence number. -/
def stamp (s : Prediction F) (intent : Intent F) : CharacterInput F :=
  ⟨s.mNextSequence, intent.moveForward, intent.moveRight, intent.yaw, intent.jump, intent.sprint⟩

/-- Bounds the history from the front. -/
def bounded (pending : List (CharacterInput F)) : List (CharacterInput F) :=
  pending.drop (pending.length - kMaxPending)

/-- One tick; the counter advances also while the prediction is inactive. -/
def step (phys : Physics F) (s : Prediction F) (intent : Intent F) :
    Prediction F × CharacterInput F :=
  let input := s.stamp intent
  let s := { s with mNextSequence := s.mNextSequence + 1 }
  if !s.mActive then (s, input)
  else
    ({ s with
        mCharacter := simulateTick phys s.mCharacter input
        mPending := bounded (s.mPending ++ [input]) }, input)

/-- The inputs left after the acknowledged ones are popped from the front. -/
def unacknowledged (pending : List (CharacterInput F)) (acked : UInt32) :
    List (CharacterInput F) :=
  pending.dropWhile (·.sequence ≤ acked)

/-- The character after the rewind: position and velocity are the server's. -/
def rewind (c : Character F) (authoritative : EntityState F) : Character F :=
  { c with position := authoritative.position, velocity := authoritative.velocity }

/-- The part of `reconcile` that eases a correction out. -/
def ease (s : Prediction F) (predictedBefore predictedAfter : Vec3 F) (error : F) :
    Prediction F :=
  if error ≤ kPositionTolerance then s
  else
    let s := { s with mRollbacks := s.mRollbacks + 1 }
    if error > kMaxSmoothedCorrection then { s with mSmoothingOffset := Vec3.zero }
    else
      { s with mSmoothingOffset :=
          ⟨s.mSmoothingOffset.x + (predictedBefore.x - predictedAfter.x),
            s.mSmoothingOffset.y + (predictedBefore.y - predictedAfter.y),
            s.mSmoothingOffset.z + (predictedBefore.z - predictedAfter.z)⟩ }

/-- The rollback itself: rewind, then replay what the server has not seen. -/
def rollback (phys : Physics F) (s : Prediction F) (authoritative : EntityState F) :
    Prediction F :=
  let pending := unacknowledged s.mPending authoritative.lastInputSequence
  let character := pending.foldl (simulateTick phys) (rewind s.mCharacter authoritative)
  { s with
    mPending := pending
    mCharacter := character
    mLastCorrection := distance phys s.mCharacter.position character.position }

def reconcile (phys : Physics F) (s : Prediction F) (authoritative : EntityState F) :
    Prediction F :=
  if !s.mActive then s
  else
    let after := s.rollback phys authoritative
    ease after s.mCharacter.position after.mCharacter.position after.mLastCorrection

def updateSmoothing (exp2 : F → F) (s : Prediction F) (deltaSeconds : F) : Prediction F :=
  let decay := exp2 (-deltaSeconds / kSmoothingHalfLife)
  { s with mSmoothingOffset :=
      ⟨s.mSmoothingOffset.x * decay, s.mSmoothingOffset.y * decay, s.mSmoothingOffset.z * decay⟩ }

def renderPosition (s : Prediction F) : Vec3 F :=
  if !s.mActive then Vec3.zero
  else
    ⟨s.mCharacter.position.x + s.mSmoothingOffset.x, s.mCharacter.position.y + s.mSmoothingOffset.y,
      s.mCharacter.position.z + s.mSmoothingOffset.z⟩

/-- Easing touches the offset and the counter of rollbacks only. -/
theorem ease_eq (s : Prediction F) (before after : Vec3 F) (error : F) :
    ∃ offset rollbacks,
      s.ease before after error = { s with mSmoothingOffset := offset, mRollbacks := rollbacks } := by
  simp only [ease]
  split
  · exact ⟨_, _, rfl⟩
  · split
    · exact ⟨_, _, rfl⟩
    · exact ⟨_, _, rfl⟩

/-- What a reconciliation does to an active prediction. -/
theorem reconcile_eq (phys : Physics F) {s : Prediction F} (h : s.mActive = true)
    (authoritative : EntityState F) :
    ∃ offset rollbacks, s.reconcile phys authoritative =
      { s.rollback phys authoritative with
        mSmoothingOffset := offset, mRollbacks := rollbacks } := by
  simp only [reconcile, h, Bool.not_true, Bool.false_eq_true, if_false]
  exact ease_eq _ _ _ _

theorem reconcile_inactive (phys : Physics F) {s : Prediction F} (h : s.mActive = false)
    (authoritative : EntityState F) : s.reconcile phys authoritative = s := by
  simp [reconcile, h]

@[simp] theorem reconcile_nextSequence (phys : Physics F) (s : Prediction F)
    (authoritative : EntityState F) :
    (s.reconcile phys authoritative).mNextSequence = s.mNextSequence := by
  cases h : s.mActive with
  | false => rw [reconcile_inactive phys h]
  | true =>
      obtain ⟨_, _, heq⟩ := reconcile_eq phys h authoritative
      rw [heq]
      rfl

/-- Sequence numbers grow from the front to the back. -/
def Increasing (pending : List (CharacterInput F)) : Prop :=
  pending.Pairwise fun i j => i.sequence < j.sequence

instance (pending : List (CharacterInput F)) : Decidable (Increasing pending) :=
  inferInstanceAs (Decidable (pending.Pairwise fun i j => i.sequence < j.sequence))

omit [Scalar F] in
/-- Popping from the front finds every acknowledged input of an ordered history. -/
theorem unacknowledged_eq_filter {pending : List (CharacterInput F)} (h : Increasing pending)
    (acked : UInt32) : unacknowledged pending acked = pending.filter (acked < ·.sequence) := by
  induction pending with
  | nil => rfl
  | cons i rest ih =>
      obtain ⟨hfirst, hrest⟩ := List.pairwise_cons.mp h
      simp only [unacknowledged] at ih ⊢
      by_cases hi : i.sequence ≤ acked
      · rw [List.dropWhile_cons_of_pos (by simpa using hi), ih hrest,
          List.filter_cons_of_neg (by simpa using hi)]
      · have hlt : acked < i.sequence := UInt32.not_le.mp hi
        have hall : rest.filter (acked < ·.sequence) = rest :=
          List.filter_eq_self.mpr fun j hj => by
            simpa using UInt32.lt_trans hlt (hfirst j hj)
        rw [List.dropWhile_cons_of_neg (by simpa using hi),
          List.filter_cons_of_pos (by simpa using hlt), hall]

/-- The calls that the application makes on its prediction. -/
inductive Call (F : Type*) where
  | init (spawnPosition : Vec3 F)
  | shutdown
  | step (intent : Intent F)
  | reconcile (authoritative : EntityState F)
  | updateSmoothing (deltaSeconds : F)
  deriving DecidableEq, Repr

def call (phys : Physics F) (exp2 : F → F) (s : Prediction F) : Call F → Prediction F
  | .init spawnPosition => s.init spawnPosition
  | .shutdown => s.shutdown
  | .step intent => (s.step phys intent).1
  | .reconcile authoritative => s.reconcile phys authoritative
  | .updateSmoothing deltaSeconds => s.updateSmoothing exp2 deltaSeconds

def run (phys : Physics F) (exp2 : F → F) (calls : List (Call F)) : Prediction F :=
  Lib.Runs.run (call phys exp2) blank calls

/-- How many ticks a call makes. -/
def Call.ticks : Call F → Nat
  | .step _ => 1
  | _ => 0

def ticks (calls : List (Call F)) : Nat := (calls.map Call.ticks).sum

/-- The pending inputs are in order and older than the next one. -/
structure Numbered (s : Prediction F) : Prop where
  started : 1 ≤ s.mNextSequence.toNat
  older : ∀ i ∈ s.mPending, i.sequence < s.mNextSequence
  increasing : Increasing s.mPending

theorem numbered_blank : Numbered (blank : Prediction F) where
  started := Nat.le_refl 1
  older := by simp [blank]
  increasing := List.Pairwise.nil

omit [Scalar F] in
/-- Keeping a part of the history, in its order. -/
theorem Numbered.sublist {s t : Prediction F} (h : Numbered s)
    (hnext : t.mNextSequence = s.mNextSequence) (hsub : t.mPending.Sublist s.mPending) :
    Numbered t where
  started := hnext ▸ h.started
  older i hi := hnext ▸ h.older i (hsub.subset hi)
  increasing := h.increasing.sublist hsub

omit [Scalar F] in
theorem bounded_sublist (pending : List (CharacterInput F)) :
    (bounded pending).Sublist pending :=
  List.drop_sublist _ _

theorem Numbered.step {s : Prediction F} (h : Numbered s) (phys : Physics F) (intent : Intent F)
    (hlt : s.mNextSequence.toNat + 1 < 2 ^ 32) : Numbered (s.step phys intent).1 := by
  have hnext : (s.mNextSequence + 1).toNat = s.mNextSequence.toNat + 1 := by
    rw [UInt32.toNat_add]
    exact Nat.mod_eq_of_lt hlt
  have hgrow : s.mNextSequence < s.mNextSequence + 1 := by
    rw [UInt32.lt_iff_toNat_lt, hnext]
    omega
  have hadvanced : Numbered { s with
      mNextSequence := s.mNextSequence + 1, mPending := s.mPending ++ [s.stamp intent] } := by
    constructor
    · rw [hnext]
      omega
    · intro i hi
      cases List.mem_append.mp hi with
      | inl hi => exact UInt32.lt_trans (h.older i hi) hgrow
      | inr hi =>
          rw [List.mem_singleton.mp hi]
          exact hgrow
    · refine List.pairwise_append.mpr ⟨h.increasing, List.pairwise_singleton _ _, ?_⟩
      intro i hi j hj
      rw [List.mem_singleton.mp hj]
      exact h.older i hi
  cases hactive : s.mActive with
  | false =>
      simp only [Prediction.step, hactive, Bool.not_false, if_true]
      exact hadvanced.sublist rfl (List.sublist_append_left _ _)
  | true =>
      simp only [Prediction.step, hactive, Bool.not_true, Bool.false_eq_true, if_false]
      refine hadvanced.sublist rfl ?_
      dsimp only
      exact bounded_sublist (s.mPending ++ [s.stamp intent])

theorem Numbered.reconcile {s : Prediction F} (h : Numbered s) (phys : Physics F)
    (authoritative : EntityState F) : Numbered (s.reconcile phys authoritative) := by
  cases hactive : s.mActive with
  | false =>
      rw [reconcile_inactive phys hactive]
      exact h
  | true =>
      obtain ⟨_, _, heq⟩ := reconcile_eq phys hactive authoritative
      rw [heq]
      exact h.sublist rfl (List.dropWhile_sublist _)

/-- One call keeps the numbering and advances the counter by its ticks at most. -/
theorem Numbered.call {s : Prediction F} (h : Numbered s) (phys : Physics F) (exp2 : F → F)
    (c : Call F) (hlt : s.mNextSequence.toNat + c.ticks < 2 ^ 32) :
    Numbered (s.call phys exp2 c) ∧
      (s.call phys exp2 c).mNextSequence.toNat ≤ s.mNextSequence.toNat + c.ticks := by
  cases c with
  | init spawnPosition =>
      refine ⟨⟨Nat.le_refl 1, ?_, List.Pairwise.nil⟩, h.started⟩
      intro i hi
      cases hi
  | shutdown => exact ⟨h.sublist rfl (List.nil_sublist _), Nat.le_refl _⟩
  | step intent =>
      refine ⟨h.step phys intent hlt, ?_⟩
      have hnext : (s.mNextSequence + 1).toNat ≤ s.mNextSequence.toNat + 1 := by
        rw [UInt32.toNat_add]
        exact Nat.mod_le _ _
      simp only [Prediction.call, Prediction.step]
      split
      · exact hnext
      · exact hnext
  | reconcile authoritative =>
      refine ⟨h.reconcile phys authoritative, ?_⟩
      simp [Prediction.call]
  | updateSmoothing deltaSeconds =>
      exact ⟨h.sublist rfl (List.Sublist.refl _), Nat.le_refl _⟩

/-- The history is in order in every state that the counter reaches before it wraps. -/
theorem run_numbered (phys : Physics F) (exp2 : F → F) (calls : List (Call F))
    (h : ticks calls + 1 < 2 ^ 32) : Numbered (run phys exp2 calls) := by
  suffices hall : ∀ s : Prediction F, Numbered s → s.mNextSequence.toNat + ticks calls < 2 ^ 32 →
      Numbered (Lib.Runs.run (call phys exp2) s calls) by
    exact hall blank numbered_blank (by simp only [blank, UInt32.toNat_one]; omega)
  induction calls with
  | nil => exact fun s hs _ => hs
  | cons c calls ih =>
      intro s hs hlt
      simp only [ticks, List.map_cons, List.sum_cons] at ih hlt h
      obtain ⟨hs', hle⟩ := hs.call phys exp2 c (by omega)
      exact ih (by omega) _ hs' (by omega)

end Prediction

end UntitledGame.Client
