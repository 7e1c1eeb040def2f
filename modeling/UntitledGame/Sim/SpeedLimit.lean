import UntitledGame.Sim.Acknowledgement
import Mathlib.Analysis.Complex.Basic
import Mathlib.Analysis.SpecialFunctions.Trigonometric.Basic

/-!
# The speed of a character

The server takes a client's axes and yaw as they come and lets `stepCharacter`
decide how fast the body moves. Over the reals, with exact square roots, the
horizontal velocity stays in the disc of radius `kSprintSpeed`: on the ground it
is a wish of length at most one times a speed, and in the air it is a point
between the old velocity and such a target.

The ground plane is `ℂ`, so that the horizontal speed is a norm.
-/

namespace UntitledGame.Sim.SpeedLimit

open Simulation Acknowledgement
open Std (ExtTreeMap)

/-- `sqrt(vx^2 + vz^2)`. -/
noncomputable def horizontalSpeed (velocity : Vec3 ℝ) : ℝ := √(velocity.x ^ 2 + velocity.z ^ 2)

/-- How far apart two positions are on the map. -/
noncomputable def horizontalDistance (a b : Vec3 ℝ) : ℝ := √((b.x - a.x) ^ 2 + (b.z - a.z) ^ 2)

/-- The horizontal part of a vector. -/
def ground (v : Vec3 ℝ) : ℂ := ⟨v.x, v.z⟩

/-- The wished direction, in the plane. -/
noncomputable def wished (phys : Physics ℝ) (input : CharacterInput ℝ) : ℂ :=
  ⟨(wish phys input).1, (wish phys input).2⟩

/-- The velocity that an input asks for, in the plane. -/
noncomputable def targeted (phys : Physics ℝ) (input : CharacterInput ℝ) : ℂ :=
  ⟨(target phys input).1, (target phys input).2⟩

theorem horizontalSpeed_eq_norm (v : Vec3 ℝ) : horizontalSpeed v = ‖ground v‖ :=
  (Complex.norm_eq_sqrt_sq_add_sq (ground v)).symm

theorem horizontalDistance_eq_norm (a b : Vec3 ℝ) :
    horizontalDistance a b = ‖ground b - ground a‖ :=
  (Complex.norm_eq_sqrt_sq_add_sq (ground b - ground a)).symm

/-- Blending toward a target in the same disc does not leave it. -/
theorem norm_blend_le {u v : ℂ} {a r : ℝ} (ha₀ : 0 ≤ a) (ha₁ : a ≤ 1) (hu : ‖u‖ ≤ r)
    (hv : ‖v‖ ≤ r) : ‖u + (v - u) * a‖ ≤ r := by
  have hsplit : u + (v - u) * a = (1 - a : ℝ) * u + a * v := by
    push_cast
    ring
  calc
    ‖u + (v - u) * a‖ ≤ ‖((1 - a : ℝ) : ℂ) * u‖ + ‖(a : ℂ) * v‖ := by
      rw [hsplit]
      exact norm_add_le _ _
    _ = (1 - a) * ‖u‖ + a * ‖v‖ := by
      rw [norm_mul, norm_mul, Complex.norm_of_nonneg (by linarith), Complex.norm_of_nonneg ha₀]
    _ ≤ (1 - a) * r + a * r :=
      add_le_add (mul_le_mul_of_nonneg_left hu (by linarith)) (mul_le_mul_of_nonneg_left hv ha₀)
    _ = r := by ring

/-- A direction of length at most one, at one of the two speeds. -/
theorem norm_scaled_le {w : ℂ} (hw : ‖w‖ ≤ 1) (sprint : Bool) :
    ‖w * ((if sprint then kSprintSpeed else kWalkSpeed : ℝ) : ℂ)‖ ≤ kSprintSpeed := by
  have hpos : (0 : ℝ) ≤ if sprint then kSprintSpeed else kWalkSpeed := by
    split
    · norm_num [kSprintSpeed]
    · norm_num [kWalkSpeed]
  have hle : (if sprint then kSprintSpeed else kWalkSpeed : ℝ) ≤ kSprintSpeed := by
    split
    · exact le_refl _
    · norm_num [kWalkSpeed, kSprintSpeed]
  calc
    ‖w * ((if sprint then kSprintSpeed else kWalkSpeed : ℝ) : ℂ)‖ =
        ‖w‖ * if sprint then kSprintSpeed else kWalkSpeed := by
      rw [norm_mul, Complex.norm_of_nonneg hpos]
    _ ≤ 1 * if sprint then kSprintSpeed else kWalkSpeed := mul_le_mul_of_nonneg_right hw hpos
    _ ≤ kSprintSpeed := by rwa [one_mul]

section Controller

variable {phys : Physics ℝ} (hsqrt : ∀ x, phys.sqrt x = √x)

include hsqrt

theorem wishLength_eq_norm (input : CharacterInput ℝ) :
    wishLength phys input = ‖wished phys input‖ := by
  rw [wishLength, hsqrt, wished, Complex.norm_def, Complex.normSq_mk]

/-- No input asks for more than the sprint speed, whatever its axes and its yaw. -/
theorem norm_targeted_le (input : CharacterInput ℝ) : ‖targeted phys input‖ ≤ kSprintSpeed := by
  have hlength := wishLength_eq_norm hsqrt input
  by_cases hlong : wishLength phys input > 1.0
  · -- a longer wish is divided by its length
    have hpos : 0 < wishLength phys input := by
      norm_num at hlong
      linarith
    have htarget : targeted phys input = wished phys input / ((wishLength phys input : ℝ) : ℂ) *
        ((if input.sprint then kSprintSpeed else kWalkSpeed : ℝ) : ℂ) := by
      apply Complex.ext
      · rw [Complex.re_mul_ofReal, Complex.div_ofReal_re]
        simp only [targeted, target, if_pos hlong, wished]
      · rw [Complex.im_mul_ofReal, Complex.div_ofReal_im]
        simp only [targeted, target, if_pos hlong, wished]
    rw [htarget]
    apply norm_scaled_le
    rw [norm_div, Complex.norm_of_nonneg hpos.le, ← hlength, div_self hpos.ne']
  · have htarget : targeted phys input = wished phys input *
        ((if input.sprint then kSprintSpeed else kWalkSpeed : ℝ) : ℂ) := by
      apply Complex.ext
      · rw [Complex.re_mul_ofReal]
        simp only [targeted, target, if_neg hlong, wished]
      · rw [Complex.im_mul_ofReal]
        simp only [targeted, target, if_neg hlong, wished]
    rw [htarget]
    apply norm_scaled_le
    rw [← hlength]
    norm_num at hlong
    exact hlong

theorem norm_steer_le {c : Character ℝ} (hc : ‖ground c.velocity‖ ≤ kSprintSpeed)
    (input : CharacterInput ℝ) : ‖ground (steer phys c input).velocity‖ ≤ kSprintSpeed := by
  have htarget := norm_targeted_le hsqrt input
  simp only [steer]
  split
  · exact htarget
  · have hblend : ground ⟨c.velocity.x + ((target phys input).1 - c.velocity.x) * kAirControl,
        c.velocity.y, c.velocity.z + ((target phys input).2 - c.velocity.z) * kAirControl⟩ =
          ground c.velocity + (targeted phys input - ground c.velocity) *
            ((kAirControl : ℝ) : ℂ) :=
      Complex.ext (by simp [ground, targeted]) (by simp [ground, targeted])
    rw [hblend]
    exact norm_blend_le (by norm_num [kAirControl]) (by norm_num [kAirControl]) hc htarget

omit hsqrt

theorem fall_ground (c : Character ℝ) (input : CharacterInput ℝ) (dt : ℝ) :
    ground (fall c input dt).velocity = ground c.velocity ∧
      (fall c input dt).position = c.position := by
  simp only [fall]
  split
  · exact ⟨rfl, rfl⟩
  · split
    · exact ⟨rfl, rfl⟩
    · exact ⟨rfl, rfl⟩

theorem resolveGround_ground (phys : Physics ℝ) (c : Character ℝ) :
    ground (resolveGround phys c).velocity = ground c.velocity ∧
      ground (resolveGround phys c).position = ground c.position := by
  simp only [resolveGround, sit]
  split
  · exact ⟨rfl, rfl⟩
  · split
    · exact ⟨rfl, rfl⟩
    · exact ⟨rfl, rfl⟩

theorem move_ground (c : Character ℝ) (dt : ℝ) :
    ground (move c dt).position = ground c.position + ground c.velocity * (dt : ℂ) :=
  Complex.ext (by simp [ground, move]) (by simp [ground, move])

/-- Falling, turning and landing leave the horizontal velocity as the steering made it, and the
body moves by it. -/
theorem stepCharacter_ground (phys : Physics ℝ) (c : Character ℝ) (input : CharacterInput ℝ)
    (dt : ℝ) :
    ground (stepCharacter phys c input dt).velocity = ground (steer phys c input).velocity ∧
      ground (stepCharacter phys c input dt).position =
        ground c.position + ground (steer phys c input).velocity * (dt : ℂ) := by
  obtain ⟨hfall, hstill⟩ := fall_ground (steer phys c input) input dt
  obtain ⟨hfaceP, hfaceV, -⟩ := face_sameMotion phys (fall (steer phys c input) input dt) input
  obtain ⟨hlandV, hlandP⟩ := resolveGround_ground phys
    (move (face phys (fall (steer phys c input) input dt) input) dt)
  have hsteer : (steer phys c input).position = c.position := by
    simp only [steer]
    split
    · rfl
    · rfl
  constructor
  · calc
      ground (stepCharacter phys c input dt).velocity =
          ground (face phys (fall (steer phys c input) input dt) input).velocity := hlandV
      _ = ground (steer phys c input).velocity := by rw [hfaceV, hfall]
  · calc
      ground (stepCharacter phys c input dt).position =
          ground (move (face phys (fall (steer phys c input) input dt) input) dt).position := hlandP
      _ = ground c.position + ground (steer phys c input).velocity * (dt : ℂ) := by
        rw [move_ground, hfaceP, hfaceV, hstill, hsteer, hfall]

end Controller

section Runs

/-- Every player is within the speed limit. -/
def Limited (s : Simulation ℝ) : Prop :=
  ∀ (p : Nat) (player : SimPlayer ℝ), s.mPlayers[p]? = some player →
    ‖ground player.character.velocity‖ ≤ kSprintSpeed

/-- The ticks among a sequence of calls. -/
def ticks (calls : List (Call ℝ)) : Nat :=
  calls.countP fun
    | .step _ _ => true
    | _ => false

theorem ticks_append (calls next : List (Call ℝ)) :
    ticks (calls ++ next) = ticks calls + ticks next :=
  List.countP_append

/-- Every tick among these calls has length `dt`. -/
def StepsBy (dt : ℝ) (calls : List (Call ℝ)) : Prop :=
  ∀ deltaSeconds now, .step deltaSeconds now ∈ calls → deltaSeconds = dt

variable {phys : Physics ℝ} (hsqrt : ∀ x, phys.sqrt x = √x)

theorem limited_init (timeSpeed : ℝ) (now : ClockReading ℝ) :
    Limited (Simulation.init phys timeSpeed now) := by
  intro p player h
  simp [Simulation.init, Simulation.blank, Simulation.resetClock, Simulation.reanchor] at h

/-- A call on the simulation, for one player that it does not remove: the body stays as it is, or
the call is a tick and the body moves by one. -/
theorem call_slot (phys : Physics ℝ) {s : Simulation ℝ} {p : Nat} {player : SimPlayer ℝ}
    (h : s.mPlayers[p]? = some player) {c : Call ℝ} (hc : c ≠ .removePlayer p) :
    ∃ player', (s.call phys c).mPlayers[p]? = some player' ∧
      (player'.character = player.character ∨ ∃ deltaSeconds now,
        c = .step deltaSeconds now ∧
          player'.character = stepCharacter phys player.character player.input deltaSeconds) := by
  have hslot : (⟨s, ⟨[], [], []⟩⟩ : Tracked ℝ).sim.mPlayers[p]? = some player := h
  obtain ⟨player', hplayer', e⟩ := track_effect phys p hslot hc
  refine ⟨player', hplayer', ?_⟩
  generalize (track phys p ⟨s, ⟨[], [], []⟩⟩ c).ledger = ledger at e
  cases e with
  | none => exact Or.inl rfl
  | stored => exact Or.inl rfl
  | ticked deltaSeconds now => exact Or.inr ⟨deltaSeconds, now, rfl, rfl⟩

include hsqrt

/-- No call takes a player over the limit. -/
theorem limited_call {s : Simulation ℝ} (hs : Limited s) (c : Call ℝ) :
    Limited (s.call phys c) := by
  intro p player h
  cases call_made h with
  | kept _ hbefore => exact hs p player hbefore
  | added hnone =>
      have hstill : ground (Character.default : Character ℝ).velocity = 0 :=
        Complex.ext (by norm_num [ground, Character.default, Vec3.zero])
          (by norm_num [ground, Character.default, Vec3.zero])
      rw [hstill, norm_zero]
      norm_num [kSprintSpeed]
  | @stored before hbefore input haccepts => exact hs p before hbefore
  | @stepped before hbefore deltaSeconds now =>
      rw [stepPlayer, (stepCharacter_ground phys _ _ _).1]
      exact norm_steer_le hsqrt (hs p before hbefore) _

theorem limited_run (timeSpeed : ℝ) (now : ClockReading ℝ) (calls : List (Call ℝ)) :
    Limited (Simulation.run phys timeSpeed now calls) :=
  Lib.Runs.run_preserves (fun s c (hs : Limited s) => limited_call hsqrt hs c)
    (limited_init timeSpeed now) calls

/-- Over a sequence of calls with ticks of one length, a player that stays moves on the map by at
most the sprint speed for each tick. -/
theorem drift_le {s : Simulation ℝ} (hs : Limited s) {p : Nat} {player : SimPlayer ℝ}
    (hplayer : s.mPlayers[p]? = some player) {dt : ℝ} (hdt : 0 < dt) (calls : List (Call ℝ))
    (hsteps : StepsBy dt calls) (hstays : ∀ c ∈ calls, c ≠ .removePlayer p) :
    ∃ later, (Lib.Runs.run (call phys) s calls).mPlayers[p]? = some later ∧
      ‖ground later.character.position - ground player.character.position‖ ≤
        ticks calls * kSprintSpeed * dt := by
  induction calls using List.reverseRecOn with
  | nil => exact ⟨player, hplayer, by simp [ticks]⟩
  | append_singleton calls c ih =>
      obtain ⟨before, hbefore, hdrift⟩ := ih
        (fun deltaSeconds now hc => hsteps deltaSeconds now (List.mem_append_left _ hc))
        fun d hd => hstays d (by simp [hd])
      have hlimited : Limited (Lib.Runs.run (call phys) s calls) :=
        Lib.Runs.run_preserves (fun s c (hs : Limited s) => limited_call hsqrt hs c) hs calls
      obtain ⟨later, hlater, hmoved⟩ := call_slot phys hbefore (hstays c (by simp))
      refine ⟨later, by rw [Lib.Runs.run_concat]; exact hlater, ?_⟩
      have hspeed : (0 : ℝ) < kSprintSpeed := by norm_num [kSprintSpeed]
      rcases hmoved with hsame | ⟨deltaSeconds, now, rfl, hstep⟩
      · rw [hsame]
        apply hdrift.trans
        have hcount : (ticks calls : ℝ) ≤ ticks (calls ++ [c]) := by
          rw [ticks_append]
          exact_mod_cast Nat.le_add_right _ _
        have hreach : 0 ≤ kSprintSpeed * dt := (mul_pos hspeed hdt).le
        calc
          ticks calls * kSprintSpeed * dt = ticks calls * (kSprintSpeed * dt) := mul_assoc _ _ _
          _ ≤ ticks (calls ++ [c]) * (kSprintSpeed * dt) :=
            mul_le_mul_of_nonneg_right hcount hreach
          _ = ticks (calls ++ [c]) * kSprintSpeed * dt := (mul_assoc _ _ _).symm
      · obtain rfl : deltaSeconds = dt := hsteps deltaSeconds now (by simp)
        have hvelocity : ‖ground (steer phys before.character before.input).velocity‖ ≤
            kSprintSpeed := norm_steer_le hsqrt (hlimited p before hbefore) _
        have hcount : (ticks (calls ++ [.step deltaSeconds now]) : ℝ) = ticks calls + 1 := by
          rw [ticks_append]
          exact Nat.cast_succ _
        rw [hstep, (stepCharacter_ground phys _ _ _).2, hcount]
        calc
          ‖ground before.character.position +
                ground (steer phys before.character before.input).velocity * (deltaSeconds : ℂ) -
              ground player.character.position‖ =
              ‖ground before.character.position - ground player.character.position +
                ground (steer phys before.character before.input).velocity * (deltaSeconds : ℂ)‖ := by
            rw [add_sub_right_comm]
          _ ≤ ‖ground before.character.position - ground player.character.position‖ +
                ‖ground (steer phys before.character before.input).velocity‖ * deltaSeconds := by
            refine (norm_add_le _ _).trans (le_of_eq ?_)
            rw [norm_mul, Complex.norm_of_nonneg hdt.le]
          _ ≤ ticks calls * kSprintSpeed * deltaSeconds + kSprintSpeed * deltaSeconds :=
            add_le_add hdrift (mul_le_mul_of_nonneg_right hvelocity hdt.le)
          _ = (ticks calls + 1) * kSprintSpeed * deltaSeconds := by ring

/-- In every state of every run a player is within the sprint speed, and over the calls that
follow while it stays, with ticks of one positive length, it moves on the map by at most the
sprint speed for each tick. -/
theorem speed_limited (timeSpeed : ℝ) (now : ClockReading ℝ) (calls : List (Call ℝ)) (p : Nat)
    (player : SimPlayer ℝ)
    (hplayer : (Simulation.run phys timeSpeed now calls).mPlayers[p]? = some player) :
    horizontalSpeed player.character.velocity ≤ kSprintSpeed ∧
      ∀ (dt : ℝ) (next : List (Call ℝ)), 0 < dt → StepsBy dt next →
        (∀ c ∈ next, c ≠ .removePlayer p) →
          ∃ later, (Simulation.run phys timeSpeed now (calls ++ next)).mPlayers[p]? = some later ∧
            horizontalDistance player.character.position later.character.position ≤
              ticks next * kSprintSpeed * dt := by
  have hlimited := limited_run hsqrt timeSpeed now calls
  refine ⟨?_, fun dt next hdt hsteps hstays => ?_⟩
  · rw [horizontalSpeed_eq_norm]
    exact hlimited p player hplayer
  · obtain ⟨later, hlater, hdrift⟩ := drift_le hsqrt hlimited hplayer hdt next hsteps hstays
    refine ⟨later, ?_, ?_⟩
    · rw [Simulation.run, Lib.Runs.run_append]
      exact hlater
    · rw [horizontalDistance_eq_norm]
      exact hdrift

end Runs

section Slope

/-- The C library's functions, exact, over ground that rises to the east. -/
noncomputable def onSlope : Physics ℝ :=
  ⟨Real.sin, Real.cos, Real.sqrt, fun x => ⌊x⌋, fun x _ => x / 10⟩

/-- A sprinting jump off to the side, with both axes at full stick. -/
def sideways : CharacterInput ℝ := ⟨1, 1, 1, 7, true, true⟩

theorem speed_limited_sideways :
    ∃ player, (Simulation.run onSlope 1 ⟨0, 0⟩ [.addPlayer 7]).mPlayers[7]? = some player ∧
      horizontalSpeed player.character.velocity ≤ kSprintSpeed ∧
      ∃ later, (Simulation.run onSlope 1 ⟨0, 0⟩ ([.addPlayer 7] ++ [.setInput 7 sideways,
          .step (1 / 60) ⟨1, 0⟩, .step (1 / 60) ⟨2, 0⟩])).mPlayers[7]? = some later ∧
        horizontalDistance player.character.position later.character.position ≤
          2 * kSprintSpeed * (1 / 60) := by
  have hnone : (Simulation.init onSlope 1 ⟨0, 0⟩).mPlayers[7]? = none := by
    simp [Simulation.init, Simulation.blank, Simulation.resetClock, Simulation.reanchor]
  obtain ⟨player, hplayer, -⟩ := addPlayer_fresh onSlope hnone
  have hexact : ∀ x, onSlope.sqrt x = √x := fun _ => rfl
  have hlimit := speed_limited hexact 1 ⟨0, 0⟩ [.addPlayer 7] 7 player hplayer
  have hsteps : StepsBy (1 / 60) [.setInput 7 sideways, .step (1 / 60) ⟨1, 0⟩,
      .step (1 / 60) ⟨2, 0⟩] := by
    intro deltaSeconds now h
    simp only [List.mem_cons, reduceCtorEq, Call.step.injEq, List.not_mem_nil] at h
    rcases h with h | ⟨h, -⟩ | ⟨h, -⟩ | h
    · exact h.elim
    · exact h
    · exact h
    · exact h.elim
  obtain ⟨later, hlater, hdrift⟩ := hlimit.2 (1 / 60) _ (by norm_num) hsteps (by simp)
  exact ⟨player, hplayer, hlimit.1, later, hlater, by simpa [ticks] using hdrift⟩

end Slope

end UntitledGame.Sim.SpeedLimit
