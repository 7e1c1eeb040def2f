import UntitledGame.Client.Prediction
import UntitledGame.Sim.GroundContact
import Mathlib.Tactic.Linarith
import Mathlib.Tactic.Ring

/-!
# Rollback against the server's state

The server sends a character's position and velocity; whether the character
stands on the ground stays behind. After a rewind the client's own flag decides
how the first replayed input acts: a grounded character takes its velocity from
the input and may jump, an airborne one only steers and falls.

`rolledBack_iff` says when the replay is the server's own continuation for every
terrain and every state that agree with the given flags and inputs.
-/

namespace UntitledGame.Client.Rollback

open Sim Sim.Simulation Sim.GroundContact Prediction

section Statement

variable {F : Type*} [Scalar F]

/-- After it is reconciled with the entity of `player`, the client's character is where the
server's would be after the pending inputs that are newer than the acknowledgement. -/
def RolledBack (phys : Physics F) (s : Prediction F) (player : SimPlayer F) : Prop :=
  let after := (s.reconcile phys (playerEntity phys player)).mCharacter
  let truth := replay phys player.character
    (s.mPending.filter (player.lastInputSequence < ·.sequence)) kTickSeconds
  after.position = truth.position ∧ after.velocity = truth.velocity

/-- The same world over another terrain. -/
def onTerrain (phys : Physics F) (heightAt : F → F → F) : Physics F := { phys with heightAt := heightAt }

/-- The flag is all that the rewound character can lack. -/
theorem rewind_sameMotion (phys : Physics F) {c : Character F} {player : SimPlayer F}
    (h : c.grounded = player.character.grounded) :
    SameMotion (rewind c (playerEntity phys player)) player.character :=
  ⟨rfl, rfl, h⟩

/-- A rollback is exact when the client's flag in the server's state makes no difference to the
replay of the inputs that are newer than the acknowledgement. -/
theorem rolledBack_iff_replay (phys : Physics F) {s : Prediction F} (hactive : s.mActive = true)
    (hinc : Increasing s.mPending) (player : SimPlayer F) :
    RolledBack phys s player ↔
      let todo := s.mPending.filter (player.lastInputSequence < ·.sequence)
      let replayed := replay phys (rewind s.mCharacter (playerEntity phys player)) todo kTickSeconds
      let truth := replay phys player.character todo kTickSeconds
      replayed.position = truth.position ∧ replayed.velocity = truth.velocity := by
  obtain ⟨_, _, heq⟩ := reconcile_eq phys hactive (playerEntity phys player)
  have hleft := unacknowledged_eq_filter hinc player.lastInputSequence
  simp only [RolledBack, heq, ← hleft]
  rfl

/-- With the right flag, or nothing to replay, the rollback is exact. -/
theorem rolledBack_of_flag (phys : Physics F) {s : Prediction F} (hactive : s.mActive = true)
    (hinc : Increasing s.mPending) {player : SimPlayer F}
    (h : s.mCharacter.grounded = player.character.grounded ∨
      ∀ i ∈ s.mPending, i.sequence ≤ player.lastInputSequence) :
    RolledBack phys s player := by
  rw [rolledBack_iff_replay phys hactive hinc]
  cases h with
  | inl hflag =>
      have hsame := replay_sameMotion phys (rewind_sameMotion phys hflag)
        (s.mPending.filter (player.lastInputSequence < ·.sequence)) kTickSeconds
      exact ⟨hsame.1, hsame.2.1⟩
  | inr hnone =>
      have hempty : s.mPending.filter (player.lastInputSequence < ·.sequence) = [] :=
        List.filter_eq_nil_iff.mpr fun i hi => by simpa using hnone i hi
      rw [hempty]
      exact ⟨rfl, rfl⟩

end Statement

section HighFlight

variable {F : Type*} [Field F] [LinearOrder F] [IsStrictOrderedRing F]

/-- High enough over the level `h` to fall for `t` seconds without touching the ground. -/
structure Aloft (h t : F) (c : Character F) : Prop where
  fall_ge : kTerminalVelocity ≤ c.velocity.y
  clear : h + kRestHeight + kGroundSnapDistance < c.position.y + kTerminalVelocity * t

/-- Out of reach of the ground a character is in the air. -/
theorem resolveGround_clear (phys : Physics F) {c : Character F}
    (h : phys.heightAt c.position.x c.position.z + kRestHeight + kGroundSnapDistance <
      c.position.y) :
    resolveGround phys c = { c with grounded := false } := by
  have hsnap : (0 : F) < kGroundSnapDistance := by norm_num [kGroundSnapDistance]
  simp only [resolveGround]
  rw [if_neg (by linarith), if_neg (by intro hnear; linarith [hnear.2])]

/-- A tick high over the ground: nothing but steering touches the horizontal velocity, and the
character is in the air afterwards. -/
theorem stepCharacter_aloft (phys : Physics F) {h t dt : F} (hdt : 0 < dt) (ht : 0 ≤ t)
    {c : Character F} (hc : Aloft h (dt + t) c) (input : CharacterInput F) :
    let c' := stepCharacter (onTerrain phys fun _ _ => h) c input dt
    Aloft h t c' ∧ c'.grounded = false ∧ c'.velocity.x = (steer phys c input).velocity.x := by
  obtain ⟨hsteery, hsteerp⟩ := steer_frame phys c input
  obtain ⟨hfallx, hfallp⟩ := fall_frame (steer phys c input) input dt
  have hfally : kTerminalVelocity ≤ (fall (steer phys c input) input dt).velocity.y :=
    fall_velocity_y_ge (by rw [hsteery]; exact hc.fall_ge) input dt
  obtain ⟨hfacep, hfacev, -⟩ := face_sameMotion phys (fall (steer phys c input) input dt) input
  -- the height after the move, and that it is out of reach of the ground
  have hmove : c.position.y + kTerminalVelocity * dt ≤
      (move (face phys (fall (steer phys c input) input dt) input) dt).position.y := by
    simp only [move, hfacep, hfacev, hfallp, hsteerp]
    nlinarith
  have hterm : (kTerminalVelocity : F) * t ≤ 0 :=
    mul_nonpos_of_nonpos_of_nonneg (by norm_num [kTerminalVelocity]) ht
  have hclear := hc.clear
  rw [mul_add] at hclear
  have hresolve : stepCharacter (onTerrain phys fun _ _ => h) c input dt =
      { move (face phys (fall (steer phys c input) input dt) input) dt with grounded := false } := by
    apply resolveGround_clear (onTerrain phys fun _ _ => h)
    refine lt_of_lt_of_le (b := c.position.y + kTerminalVelocity * dt) ?_ hmove
    change h + kRestHeight + kGroundSnapDistance < _
    linarith
  rw [hresolve]
  refine ⟨⟨?_, ?_⟩, rfl, ?_⟩
  · simp only [move, hfacev]
    exact hfally
  · linarith
  · simp only [move, hfacev, hfallx]

/-- Air control only halves a difference of velocities, so it never closes one. -/
theorem steer_airborne_ne (phys : Physics F) {c d : Character F} (hc : c.grounded = false)
    (hd : d.grounded = false) (input : CharacterInput F) (hne : c.velocity.x ≠ d.velocity.x) :
    (steer phys c input).velocity.x ≠ (steer phys d input).velocity.x := by
  intro heq
  simp only [steer, hc, hd, Bool.false_eq_true, if_false, kAirControl] at heq
  apply hne
  norm_num at heq
  linarith

/-- Two characters in the air whose velocities differ keep different velocities. -/
theorem replay_airborne_ne (phys : Physics F) {h dt : F} (hdt : 0 < dt)
    (inputs : List (CharacterInput F)) {c d : Character F} (hc : Aloft h (dt * inputs.length) c)
    (hd : Aloft h (dt * inputs.length) d) (hcair : c.grounded = false) (hdair : d.grounded = false)
    (hne : c.velocity.x ≠ d.velocity.x) :
    (replay (onTerrain phys fun _ _ => h) c inputs dt).velocity.x ≠
      (replay (onTerrain phys fun _ _ => h) d inputs dt).velocity.x := by
  induction inputs generalizing c d with
  | nil => exact hne
  | cons input inputs ih =>
      have hsum : dt * ((input :: inputs).length : F) = dt + dt * (inputs.length : F) := by
        push_cast [List.length_cons]
        ring
      rw [hsum] at hc hd
      have hnonneg : 0 ≤ dt * (inputs.length : F) := mul_nonneg hdt.le (Nat.cast_nonneg _)
      obtain ⟨hc', hcair', hcx⟩ := stepCharacter_aloft phys hdt hnonneg hc input
      obtain ⟨hd', hdair', hdx⟩ := stepCharacter_aloft phys hdt hnonneg hd input
      apply ih hc' hd' hcair' hdair'
      rw [hcx, hdx]
      exact steer_airborne_ne phys hcair hdair input hne

/-- On the ground the input sets the velocity, in the air it does not reach it at once. -/
theorem steer_flag_ne (phys : Physics F) {c d : Character F} (input : CharacterInput F)
    (hflag : c.grounded ≠ d.grounded) (hc : c.velocity.x = (target phys input).1 + 1)
    (hd : d.velocity.x = (target phys input).1 + 1) :
    (steer phys c input).velocity.x ≠ (steer phys d input).velocity.x := by
  have hair : ∀ e : Character F, e.grounded = false → e.velocity.x = (target phys input).1 + 1 →
      (steer phys e input).velocity.x = (target phys input).1 + 0.65 := by
    intro e he hx
    simp only [steer, he, Bool.false_eq_true, if_false, hx, kAirControl]
    norm_num
    ring
  have hground : ∀ e : Character F, e.grounded = true →
      (steer phys e input).velocity.x = (target phys input).1 := by
    intro e he
    simp only [steer, he, if_true]
  cases hg : c.grounded with
  | false =>
      have hdg : d.grounded = true := by simpa [hg] using hflag
      rw [hair c hg hc, hground d hdg]
      norm_num
  | true =>
      have hdg : d.grounded = false := by simpa [hg] using hflag
      rw [hground c hg, hair d hdg hd]
      norm_num

/-- One tick over low ground separates a grounded character from an airborne one that wants to
move slower, whatever the input. -/
theorem replay_flag_ne (phys : Physics F) {dt : F} (hdt : 0 < dt) (input : CharacterInput F)
    (inputs : List (CharacterInput F)) {g gc : Bool} (hflag : g ≠ gc) :
    ∃ (h : F) (position velocity : Vec3 F), ∀ yaw yawc : F,
      (replay (onTerrain phys fun _ _ => h) ⟨position, velocity, g, yaw⟩ (input :: inputs) dt).velocity.x ≠
        (replay (onTerrain phys fun _ _ => h) ⟨position, velocity, gc, yawc⟩ (input :: inputs) dt).velocity.x := by
  set t : F := dt * (inputs.length : F) with ht
  have hnonneg : 0 ≤ t := mul_nonneg hdt.le (Nat.cast_nonneg _)
  let h : F := kTerminalVelocity * (dt + t) - kRestHeight - kGroundSnapDistance - 1
  have hstart : ∀ (flag : Bool) (yaw : F),
      Aloft h (dt + t) ⟨⟨0, 0, 0⟩, ⟨(target phys input).1 + 1, 0, 0⟩, flag, yaw⟩ := by
    intro flag yaw
    constructor
    · norm_num [kTerminalVelocity]
    · simp only [h]
      linarith
  refine ⟨h, ⟨0, 0, 0⟩, ⟨(target phys input).1 + 1, 0, 0⟩, fun yaw yawc => ?_⟩
  obtain ⟨hc, hcair, hcx⟩ := stepCharacter_aloft phys hdt hnonneg (hstart g yaw) input
  obtain ⟨hd, hdair, hdx⟩ := stepCharacter_aloft phys hdt hnonneg (hstart gc yawc) input
  apply replay_airborne_ne phys hdt inputs hc hd hcair hdair
  rw [hcx, hdx]
  exact steer_flag_ne phys input hflag rfl rfl

/-- For given flags, pending inputs and acknowledgement, the rollback is the server's own
continuation over every terrain and from every position and velocity if and only if the flags
agree or no pending input is left to replay. -/
theorem rolledBack_iff (phys : Physics F) (pending : List (CharacterInput F))
    (hinc : Increasing pending) (acked : UInt32) (g gc : Bool) :
    (∀ (heightAt : F → F → F) (s : Prediction F) (player : SimPlayer F), s.mActive = true →
        s.mPending = pending → s.mCharacter.grounded = g → player.character.grounded = gc →
        player.lastInputSequence = acked →
          RolledBack (onTerrain phys heightAt) s player) ↔
      g = gc ∨ ∀ i ∈ pending, i.sequence ≤ acked := by
  constructor
  · intro hall
    by_contra hnot
    obtain ⟨hflag, hleft⟩ := not_or.mp hnot
    have hleft : pending.filter (acked < ·.sequence) ≠ [] := by
      intro hempty
      exact hleft fun i hi => by simpa using List.filter_eq_nil_iff.mp hempty i hi
    obtain ⟨input, inputs, hcons⟩ := List.exists_cons_of_ne_nil hleft
    have hdt : (0 : F) < kTickSeconds := by
      norm_num [kTickSeconds, Net.kServerTickHz]
    obtain ⟨h, position, velocity, hne⟩ := replay_flag_ne phys hdt input inputs hflag
    let s : Prediction F :=
      ⟨⟨position, velocity, g, 0⟩, true, pending, 1, ⟨0, 0, 0⟩, 0, 0⟩
    let player : SimPlayer F := ⟨0, ⟨position, velocity, gc, 0⟩, CharacterInput.default, acked⟩
    have hrolled := (rolledBack_iff_replay (onTerrain phys fun _ _ => h) (s := s) rfl hinc player).mp
      (hall (fun _ _ => h) s player rfl rfl rfl rfl rfl)
    have hvelocity := congrArg Vec3.x hrolled.2
    simp only [s, player, hcons] at hvelocity
    exact hne 0 0 hvelocity
  · rintro hcond heightAt s player hactive rfl rfl rfl rfl
    exact rolledBack_of_flag _ hactive hinc hcond

end HighFlight

/-- A prediction that stands on the ground after its first tick and then jumps. -/
def jumped : Prediction ℚ :=
  Prediction.run .level (fun _ => 1)
    [.init ⟨0, kRestHeight, 0⟩, .step ⟨0, 0, 0, false, false⟩, .step ⟨0, 0, 0, true, false⟩]

/-- The server's player after the first of the two inputs: standing, not moving. -/
def standing : SimPlayer ℚ :=
  ⟨kFirstPlayerEntityId, ⟨⟨0, kRestHeight, 0⟩, ⟨0, 0, 0⟩, true, 0⟩, ⟨1, 0, 0, 0, false, false⟩, 1⟩

/-- With both inputs acknowledged nothing is replayed, so the flag does not matter. -/
theorem rolledBack_iff_acknowledged :
    RolledBack .level jumped { standing with lastInputSequence := 2 } :=
  (rolledBack_iff .level jumped.mPending (by decide +kernel) 2 false true).mpr
    (Or.inr (by decide +kernel)) Physics.level.heightAt jumped { standing with lastInputSequence := 2 }
    (by decide +kernel) rfl (by decide +kernel) rfl rfl

/-- With the jump still to be replayed, the client replays it from the air and stays down. -/
theorem replayed_jump_lost : ¬ RolledBack .level jumped standing := by
  intro h
  have hvelocity := h.2
  revert hvelocity
  decide +kernel

end UntitledGame.Client.Rollback
