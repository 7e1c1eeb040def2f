import UntitledGame.Sim.Simulation
import Mathlib.Tactic.Linarith

/-!
# A character and the ground

`resolveGround` comes last in a tick and looks at the ground below the place
where the tick has taken the character. So the height of the ground may change
from tick to tick in any way: what holds of the character and the ground holds
after every tick for the same reason.

The vertical velocity is that of a jump, of the ground, or of a fall, which is
bounded from below.
-/

namespace UntitledGame.Sim.GroundContact

open Simulation

variable {F : Type*} [Field F] [LinearOrder F] [IsStrictOrderedRing F]

section Vertical

omit [IsStrictOrderedRing F] in
/-- Falling leaves the horizontal velocity and the position alone. -/
theorem fall_frame (c : Character F) (input : CharacterInput F) (dt : F) :
    (fall c input dt).velocity.x = c.velocity.x ∧ (fall c input dt).position = c.position := by
  unfold fall
  split
  · exact ⟨rfl, rfl⟩
  · split
    · exact ⟨rfl, rfl⟩
    · exact ⟨rfl, rfl⟩

omit [IsStrictOrderedRing F] in
theorem steer_frame (phys : Physics F) (c : Character F) (input : CharacterInput F) :
    (steer phys c input).velocity.y = c.velocity.y ∧
      (steer phys c input).position = c.position := by
  unfold steer
  split
  · exact ⟨rfl, rfl⟩
  · exact ⟨rfl, rfl⟩

theorem fall_velocity_y_ge {c : Character F} (hc : kTerminalVelocity ≤ c.velocity.y)
    (input : CharacterInput F) (dt : F) : kTerminalVelocity ≤ (fall c input dt).velocity.y := by
  unfold fall
  split
  · simp only [kTerminalVelocity, kJumpSpeed]
    norm_num
  · split
    · dsimp only
      split
      · exact le_refl _
      · exact not_lt.mp ‹_›
    · exact hc

/-- Between the fastest fall and a jump. -/
def Bounded (c : Character F) : Prop :=
  kTerminalVelocity ≤ c.velocity.y ∧ c.velocity.y ≤ kJumpSpeed

theorem fall_velocity_y_le {c : Character F} (hc : c.velocity.y ≤ kJumpSpeed)
    (input : CharacterInput F) {dt : F} (hdt : 0 < dt) :
    (fall c input dt).velocity.y ≤ kJumpSpeed := by
  unfold fall
  split
  · exact le_refl _
  · split
    · dsimp only
      split
      · simp only [kTerminalVelocity, kJumpSpeed]
        norm_num
      · have hgravity : (kGravity : F) * dt ≤ 0 :=
          mul_nonpos_of_nonpos_of_nonneg (by norm_num [kGravity]) hdt.le
        linarith
    · exact hc

end Vertical

section Contact

variable (phys : Physics F)

/-- The height at which a character at this place sits on the ground. -/
def restY (c : Character F) : F := phys.heightAt c.position.x c.position.z + kRestHeight

/-- Not below the ground, grounded exactly when it sits on it, and then not moving up or down. -/
structure Contact (c : Character F) : Prop where
  above : restY phys c ≤ c.position.y
  touching : c.grounded = true ↔ c.position.y = restY phys c
  still : c.grounded = true → c.velocity.y = 0
  bounded : Bounded c

theorem contact_sit (c : Character F) : Contact phys (sit c (restY phys c)) where
  above := le_refl _
  touching := iff_of_true rfl rfl
  still _ := by norm_num [sit]
  bounded := by norm_num [Bounded, sit, kTerminalVelocity, kJumpSpeed]

/-- Whatever the ground below. -/
theorem contact_resolveGround {c : Character F} (hc : Bounded c) :
    Contact phys (resolveGround phys c) := by
  simp only [resolveGround]
  split
  · exact contact_sit phys c
  · rename_i habove
    split
    · exact contact_sit phys c
    · have hover : restY phys c < c.position.y := not_le.mp habove
      exact ⟨hover.le, iff_of_false Bool.false_ne_true hover.ne', nofun, hc⟩

theorem contact_stepCharacter {c : Character F} (hc : Contact phys c) (input : CharacterInput F)
    {dt : F} (hdt : 0 < dt) : Contact phys (stepCharacter phys c input dt) := by
  obtain ⟨hsteer, -⟩ := steer_frame phys c input
  obtain ⟨-, hface, -⟩ := face_sameMotion phys (fall (steer phys c input) input dt) input
  apply contact_resolveGround
  simp only [Bounded, move, hface]
  constructor
  · apply fall_velocity_y_ge
    rw [hsteer]
    exact hc.bounded.1
  · apply fall_velocity_y_le _ input hdt
    rw [hsteer]
    exact hc.bounded.2

/-- A player appears just above the ground. -/
theorem contact_spawn (s : Simulation F) :
    Contact phys { Character.default with position := spawnPosition phys s } := by
  have hclear : phys.heightAt (spawnPosition phys s).x (spawnPosition phys s).z + kRestHeight <
      (spawnPosition phys s).y := by
    have hclearance : (0 : F) < kSpawnClearance := by norm_num [kSpawnClearance]
    simp only [spawnPosition]
    linarith
  refine ⟨hclear.le, iff_of_false Bool.false_ne_true hclear.ne', nofun, ?_⟩
  norm_num [Bounded, Character.default, Vec3.zero, kTerminalVelocity, kJumpSpeed]

/-- One tick for each input, each of its own length. -/
def ticks (c : Character F) (inputs : List (CharacterInput F × F)) : Character F :=
  Lib.Runs.run (fun c (i : CharacterInput F × F) => stepCharacter phys c i.1 i.2) c inputs

/-- After every tick of a player that has been added, over any terrain, it is not below the ground,
it is grounded exactly when it sits on it, and its vertical velocity is between that of the fastest
fall and that of a jump, and zero on the ground. -/
theorem ground_contact (s : Simulation F) (p : Nat) (hnew : s.mPlayers[p]? = none)
    (player : SimPlayer F) (hadded : (s.addPlayer phys p).1.mPlayers[p]? = some player)
    (inputs : List (CharacterInput F × F)) (hpos : ∀ i ∈ inputs, 0 < i.2) :
    let c := ticks phys player.character inputs
    phys.heightAt c.position.x c.position.z + kRestHeight ≤ c.position.y ∧
      (c.grounded = true ↔
        c.position.y = phys.heightAt c.position.x c.position.z + kRestHeight) ∧
      (c.grounded = true → c.velocity.y = 0) ∧
      kTerminalVelocity ≤ c.velocity.y ∧ c.velocity.y ≤ kJumpSpeed := by
  intro c
  have hstart : Contact phys player.character := by
    rw [addPlayer_entry phys hnew] at hadded
    rw [← Option.some.inj hadded]
    exact contact_spawn phys s
  have hkeep : ∀ (d : Character F) (i : CharacterInput F × F), Contact phys d → 0 < i.2 →
      Contact phys (stepCharacter phys d i.1 i.2) :=
    fun d i hd hi => contact_stepCharacter phys hd i.1 hi
  have hcontact : Contact phys (ticks phys player.character inputs) :=
    Lib.Runs.run_invariant hkeep hstart (Lib.Runs.along_of_forall hpos _)
  exact ⟨hcontact.above, hcontact.touching, hcontact.still, hcontact.bounded⟩

end Contact

section Jump

/-- Ground that rises to the east. -/
def rising : Physics ℚ := { Physics.level with heightAt := fun x _ => x / 10 }

/-- A fall to the ground, a jump, and some of the way. -/
def jump : List (CharacterInput ℚ × ℚ) :=
  [(⟨1, 0, 1, 0, false, false⟩, 1 / 2), (⟨2, 0, 1, 0, true, true⟩, 1 / 60),
    (⟨3, 0, 1, 0, false, true⟩, 1 / 30)]

theorem ground_contact_jump :
    ∃ player, ((Simulation.init rising 1 ⟨0, 0⟩).addPlayer rising 7).1.mPlayers[7]? = some player ∧
      rising.heightAt (ticks rising player.character jump).position.x
          (ticks rising player.character jump).position.z + kRestHeight ≤
        (ticks rising player.character jump).position.y := by
  have hnew : (Simulation.init rising 1 ⟨0, 0⟩).mPlayers[7]? = none := by
    simp [Simulation.init, blank, resetClock, reanchor]
  refine ⟨_, addPlayer_entry rising hnew, ?_⟩
  exact (ground_contact rising _ 7 hnew _ (addPlayer_entry rising hnew) jump
    (by norm_num [jump])).1

end Jump

end UntitledGame.Sim.GroundContact
