import UntitledGame.Lib.Scalars
import Mathlib.Algebra.Order.Field.Basic
import Mathlib.Tactic.NormNum

/-!
# `gamesim::stepCharacter`

The character controller that the world server and the client both run.

The scalar type `F` stands for `float`. The controller needs the arithmetic
operations and comparisons of `F` and nothing else, so the definitions below
take just these; results that rely on exact arithmetic assume an ordered field.
Square root and the trigonometric functions come from the C library and the
ground from the terrain heightfield, all of them through `Physics`.
-/

namespace UntitledGame.Sim

/-- The functions the simulation calls that are defined elsewhere. -/
structure Physics (F : Type*) where
  sin : F → F
  cos : F → F
  sqrt : F → F
  floor : F → F
  heightAt : F → F → F

/-- Level ground at height zero, seen from heading zero. -/
def Physics.level : Physics ℚ := ⟨fun _ => 0, fun _ => 1, fun x => x, fun x => x.floor, fun _ _ => 0⟩

structure Vec3 (F : Type*) where
  x : F
  y : F
  z : F
  deriving DecidableEq, Repr

/-- Movement intent for one tick. -/
structure CharacterInput (F : Type*) where
  sequence : UInt32
  moveForward : F
  moveRight : F
  yaw : F
  jump : Bool
  sprint : Bool
  deriving DecidableEq, Repr

/-- The complete state of a character. -/
structure Character (F : Type*) where
  position : Vec3 F
  velocity : Vec3 F
  grounded : Bool
  facingYaw : F
  deriving DecidableEq, Repr

section Controller

variable {F : Type*} [Scalar F]

def kGravity : F := -20.0
def kCapsuleRadius : F := 0.35
def kCapsuleHalfHeight : F := 0.5
def kRestHeight : F := kCapsuleHalfHeight + kCapsuleRadius
def kWalkSpeed : F := 5.0
def kSprintSpeed : F := 9.0
def kJumpSpeed : F := 7.5
def kAirControl : F := 0.35
def kTerminalVelocity : F := -50.0
def kGroundSnapDistance : F := 0.15

def Vec3.zero : Vec3 F := ⟨0.0, 0.0, 0.0⟩

/-- `CharacterInput{}`: no intent, sequence zero. -/
def CharacterInput.default : CharacterInput F := ⟨0, 0.0, 0.0, 0.0, false, false⟩

/-- `Character{}`. -/
def Character.default : Character F := ⟨Vec3.zero, Vec3.zero, false, 0.0⟩

variable (phys : Physics F)

/-- The wished direction in the ground plane, before it is normalised. -/
def wish (input : CharacterInput F) : F × F :=
  let sinYaw := phys.sin input.yaw
  let cosYaw := phys.cos input.yaw
  (sinYaw * input.moveForward + cosYaw * input.moveRight,
    -cosYaw * input.moveForward + sinYaw * input.moveRight)

def wishLength (input : CharacterInput F) : F :=
  let w := wish phys input
  phys.sqrt (w.1 * w.1 + w.2 * w.2)

/-- The horizontal velocity that the input asks for. -/
def target (input : CharacterInput F) : F × F :=
  let w := wish phys input
  let length := wishLength phys input
  let w := if length > 1.0 then (w.1 / length, w.2 / length) else w
  let speed := if input.sprint then kSprintSpeed else kWalkSpeed
  (w.1 * speed, w.2 * speed)

/-- Horizontal: velocity follows intent on the ground and blends toward it in the air. -/
def steer (c : Character F) (input : CharacterInput F) : Character F :=
  let t := target phys input
  if c.grounded then
    { c with velocity := ⟨t.1, c.velocity.y, t.2⟩ }
  else
    { c with velocity :=
        ⟨c.velocity.x + (t.1 - c.velocity.x) * kAirControl, c.velocity.y,
          c.velocity.z + (t.2 - c.velocity.z) * kAirControl⟩ }

/-- Vertical: a jump leaves the ground, and gravity acts in the air. -/
def fall (c : Character F) (input : CharacterInput F) (deltaSeconds : F) : Character F :=
  if input.jump && c.grounded then
    { c with velocity := ⟨c.velocity.x, kJumpSpeed, c.velocity.z⟩, grounded := false }
  else if !c.grounded then
    let vy := c.velocity.y + kGravity * deltaSeconds
    { c with velocity :=
        ⟨c.velocity.x, if vy < kTerminalVelocity then kTerminalVelocity else vy, c.velocity.z⟩ }
  else c

/-- Face where the camera faces, while there is movement intent. -/
def face (c : Character F) (input : CharacterInput F) : Character F :=
  if wishLength phys input > 0.0 then { c with facingYaw := input.yaw } else c

def move (c : Character F) (deltaSeconds : F) : Character F :=
  { c with position :=
      ⟨c.position.x + c.velocity.x * deltaSeconds, c.position.y + c.velocity.y * deltaSeconds,
        c.position.z + c.velocity.z * deltaSeconds⟩ }

/-- Sit exactly on the ground. -/
def sit (c : Character F) (restY : F) : Character F :=
  { c with
    position := ⟨c.position.x, restY, c.position.z⟩
    velocity := ⟨c.velocity.x, 0.0, c.velocity.z⟩
    grounded := true }

/-- Sit on the ground after penetrating it, or when just above it and not rising. -/
def resolveGround (c : Character F) : Character F :=
  let restY := phys.heightAt c.position.x c.position.z + kRestHeight
  if c.position.y ≤ restY then sit c restY
  else if c.velocity.y ≤ 0.0 ∧ c.position.y - restY ≤ kGroundSnapDistance then sit c restY
  else { c with grounded := false }

/-- Advances a character by one tick. -/
def stepCharacter (c : Character F) (input : CharacterInput F) (deltaSeconds : F) :
    Character F :=
  let c := steer phys c input
  let c := fall c input deltaSeconds
  let c := face phys c input
  let c := move c deltaSeconds
  resolveGround phys c

/-- The inputs applied in order, one tick each. -/
def replay (c : Character F) (inputs : List (CharacterInput F)) (deltaSeconds : F) :
    Character F :=
  inputs.foldl (fun c input => stepCharacter phys c input deltaSeconds) c

/-- The facing never feeds back into motion: characters that agree on everything else keep
agreeing on it. -/
def SameMotion (c d : Character F) : Prop :=
  c.position = d.position ∧ c.velocity = d.velocity ∧ c.grounded = d.grounded

theorem steer_sameMotion {c d : Character F} (h : SameMotion c d) (input : CharacterInput F) :
    SameMotion (steer phys c input) (steer phys d input) := by
  obtain ⟨hp, hv, hg⟩ := h
  unfold steer
  rw [hg, hv]
  split
  · exact ⟨hp, rfl, rfl⟩
  · exact ⟨hp, rfl, rfl⟩

theorem fall_sameMotion {c d : Character F} (h : SameMotion c d) (input : CharacterInput F)
    (deltaSeconds : F) : SameMotion (fall c input deltaSeconds) (fall d input deltaSeconds) := by
  obtain ⟨hp, hv, hg⟩ := h
  unfold fall
  rw [hg, hv]
  split
  · exact ⟨hp, rfl, rfl⟩
  · split
    · exact ⟨hp, rfl, rfl⟩
    · exact ⟨hp, hv, hg⟩

theorem face_sameMotion (c : Character F) (input : CharacterInput F) :
    SameMotion (face phys c input) c := by
  unfold face
  split
  · exact ⟨rfl, rfl, rfl⟩
  · exact ⟨rfl, rfl, rfl⟩

theorem move_sameMotion {c d : Character F} (h : SameMotion c d) (deltaSeconds : F) :
    SameMotion (move c deltaSeconds) (move d deltaSeconds) := by
  obtain ⟨hp, hv, hg⟩ := h
  exact ⟨by simp only [move, hp, hv], hv, hg⟩

theorem resolveGround_sameMotion {c d : Character F} (h : SameMotion c d) :
    SameMotion (resolveGround phys c) (resolveGround phys d) := by
  obtain ⟨hp, hv, -⟩ := h
  unfold resolveGround sit
  rw [hp, hv]
  dsimp only
  split
  · exact ⟨rfl, rfl, rfl⟩
  · split
    · exact ⟨rfl, rfl, rfl⟩
    · exact ⟨rfl, rfl, rfl⟩

omit [Scalar F] in
theorem SameMotion.symm {c d : Character F} (h : SameMotion c d) : SameMotion d c :=
  ⟨h.1.symm, h.2.1.symm, h.2.2.symm⟩

omit [Scalar F] in
theorem SameMotion.trans {c d e : Character F} (h : SameMotion c d) (k : SameMotion d e) :
    SameMotion c e :=
  ⟨h.1.trans k.1, h.2.1.trans k.2.1, h.2.2.trans k.2.2⟩

theorem stepCharacter_sameMotion {c d : Character F} (h : SameMotion c d)
    (input : CharacterInput F) (deltaSeconds : F) :
    SameMotion (stepCharacter phys c input deltaSeconds)
      (stepCharacter phys d input deltaSeconds) := by
  have hfall := fall_sameMotion (steer_sameMotion phys h input) input deltaSeconds
  have hface := (face_sameMotion phys _ input).trans
    (hfall.trans (face_sameMotion phys _ input).symm)
  exact resolveGround_sameMotion phys (move_sameMotion hface deltaSeconds)

theorem replay_sameMotion {c d : Character F} (h : SameMotion c d)
    (inputs : List (CharacterInput F)) (deltaSeconds : F) :
    SameMotion (replay phys c inputs deltaSeconds) (replay phys d inputs deltaSeconds) := by
  induction inputs generalizing c d with
  | nil => exact h
  | cons input inputs ih => exact ih (stepCharacter_sameMotion phys h input deltaSeconds)

end Controller

end UntitledGame.Sim
