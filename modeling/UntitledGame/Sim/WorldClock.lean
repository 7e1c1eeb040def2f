import UntitledGame.Lib.Rates
import UntitledGame.Sim.Simulation
import Mathlib.Algebra.Order.Floor.Ring
import Mathlib.Analysis.SpecialFunctions.Trigonometric.Basic

/-!
# The world clock

`step` shows the time of day that the anchor and the speed give, and a change of
speed moves the anchor to the moment of the change. But the anchor then has the
time of day of the last step and not that of the moment, so what the clock would
have run in between is lost. `init` sets the speed before it resets the clock,
and a reset sets the speed.

`shows_integral_iff` says which runs show the integral of the speed, and
`configured_iff` at which configured speed the clock runs at it.

A day is one, and a clock of speed one takes 86400 seconds for it.
-/

namespace UntitledGame.Sim.WorldClock

open Simulation
open Lib.Rates (accrued accrued_later rateAt)

section Calls

variable {F : Type*}

/-- The calls between two commands that set the clock: those that read it, change its speed or
leave it alone. -/
def Running : Call F → Prop
  | .setTimeOfDay _ _ => False
  | .resetClock _ => False
  | _ => True

/-- Those of them that do not change its speed either. -/
def Steady : Call F → Prop
  | .setTimeSpeed _ _ => False
  | c => Running c

/-- The moment of a step or of a change of speed. -/
def moment : Call F → Option F
  | .step _ now => some now.realSeconds
  | .setTimeSpeed _ now => some now.realSeconds
  | _ => none

/-- The changes of speed, with their moments. -/
def change : Call F → Option (F × F)
  | .setTimeSpeed speed now => some (now.realSeconds, speed)
  | _ => none

/-- What the clock ran, in seconds of its own, between each change of speed and the call before
it. -/
def lost [Zero F] [Add F] [Sub F] [Mul F] (last speed : F) : List (Call F) → F
  | [] => 0
  | c :: calls =>
      match c with
      | .step _ now => lost now.realSeconds speed calls
      | .setTimeSpeed next now =>
          (now.realSeconds - last) * speed + lost now.realSeconds next calls
      | _ => lost last speed calls

/-- Each change of speed has its moment. -/
theorem changes_sublist (calls : List (Call F)) :
    ((calls.filterMap change).map (·.1)).Sublist (calls.filterMap moment) := by
  induction calls with
  | nil => exact List.Sublist.slnil
  | cons c calls ih =>
      cases c with
      | step dt now => exact ih.cons _
      | setTimeSpeed speed now => exact ih.cons_cons _
      | addPlayer _ | removePlayer _ | setInput _ _ | setTimeOfDay _ _ | resetClock _ => exact ih

end Calls

section Law

variable {F : Type*} [Field F] [LinearOrder F] [IsStrictOrderedRing F] [FloorRing F]

/-- The fields of the clock. -/
def dial (s : Simulation F) : F × F × F × F :=
  (s.mTimeOfDay, s.mAnchorRealSeconds, s.mAnchorTimeOfDay, s.mTimeSpeed)

/-- What the anchor and the speed give for a moment, in days. -/
def law (s : Simulation F) (t : F) : F :=
  s.mAnchorTimeOfDay + (t - s.mAnchorRealSeconds) * s.mTimeSpeed / 86400

/-- The clock shows the moment, up to whole days. -/
def Shows (s : Simulation F) (t : F) : Prop := Int.fract s.mTimeOfDay = Int.fract (law s t)

theorem fract_add_right {a b : F} (h : Int.fract a = Int.fract b) (x : F) :
    Int.fract (a + x) = Int.fract (b + x) := by
  obtain ⟨z, hz⟩ := Int.fract_eq_fract.mp h
  exact Int.fract_eq_fract.mpr ⟨z, by rw [add_sub_add_right_eq_sub, hz]⟩

omit [IsStrictOrderedRing F] in
/-- The law is linear in time. -/
theorem law_later (s : Simulation F) (last t : F) :
    law s t = law s last + (t - last) * s.mTimeSpeed / 86400 := by
  simp only [law]
  ring

omit [LinearOrder F] [IsStrictOrderedRing F] [FloorRing F] in
theorem law_congr {s s' : Simulation F} (h : dial s' = dial s) (t : F) : law s' t = law s t := by
  simp only [dial, Prod.mk.injEq] at h
  rw [law, law, h.2.1, h.2.2.1, h.2.2.2]

omit [IsStrictOrderedRing F] [FloorRing F] [Field F] [LinearOrder F] in
theorem setInput_dial (s : Simulation F) (playerId : Nat) (input : CharacterInput F) :
    dial (s.setInput playerId input) = dial s := by
  obtain ⟨players, heq⟩ := s.setInput_eq playerId input
  rw [heq]
  rfl

omit [IsStrictOrderedRing F] [FloorRing F] in
theorem addPlayer_dial (phys : Physics F) (s : Simulation F) (playerId : Nat) :
    dial (s.addPlayer phys playerId).1 = dial s := by
  obtain ⟨players, next, heq⟩ := s.addPlayer_eq phys playerId
  rw [heq]
  rfl

omit [IsStrictOrderedRing F] [FloorRing F] in
/-- Steady calls leave the law alone. -/
theorem law_steady (phys : Physics F) (s : Simulation F) {calls : List (Call F)}
    (hsteady : ∀ c ∈ calls, Steady c) :
    (Lib.Runs.run (call phys) s calls).mTimeSpeed = s.mTimeSpeed ∧
      ∀ t, law (Lib.Runs.run (call phys) s calls) t = law s t := by
  induction calls generalizing s with
  | nil => exact ⟨rfl, fun t => rfl⟩
  | cons c calls ih =>
      have hone : (s.call phys c).mTimeSpeed = s.mTimeSpeed ∧
          ∀ t, law (s.call phys c) t = law s t := by
        have hquiet : ∀ s' : Simulation F, dial s' = dial s →
            s'.mTimeSpeed = s.mTimeSpeed ∧ ∀ t, law s' t = law s t :=
          fun s' hdial => ⟨congrArg (·.2.2.2) hdial, law_congr hdial⟩
        have hsteady' : Steady c := hsteady c List.mem_cons_self
        cases c with
        | addPlayer playerId => exact hquiet _ (addPlayer_dial phys s playerId)
        | removePlayer playerId => exact hquiet _ rfl
        | setInput playerId input => exact hquiet _ (setInput_dial s playerId input)
        | step dt now => exact ⟨rfl, fun t => rfl⟩
        | setTimeSpeed speed now => exact hsteady'.elim
        | setTimeOfDay timeOfDay now => exact hsteady'.elim
        | resetClock now => exact hsteady'.elim
      obtain ⟨hspeed, hlaw⟩ := ih (s.call phys c) fun d hd => hsteady d (List.mem_cons_of_mem c hd)
      exact ⟨hspeed.trans hone.1, fun t => (hlaw t).trans (hone.2 t)⟩

section Runs

variable {phys : Physics F} (hfloor : ∀ x, phys.floor x = (⌊x⌋ : F))

include hfloor

omit [IsStrictOrderedRing F] in
/-- A step reads the clock. -/
theorem step_timeOfDay (s : Simulation F) (dt : F) (now : ClockReading F) :
    (s.step phys dt now).mTimeOfDay = Int.fract (law s now.realSeconds) := by
  have hday : (86400.0 : F) = 86400 := by norm_num
  simp only [Simulation.step, hfloor, law, hday]
  exact Int.self_sub_floor _

/-- The clock after a run, and after `t` more: what the speed adds up to, without what is lost. -/
theorem law_run {s : Simulation F} {last : F} (hshows : Shows s last) {calls : List (Call F)}
    (hrunning : ∀ c ∈ calls, Running c) (t : F) :
    Int.fract (law (Lib.Runs.run (call phys) s calls) t) =
      Int.fract (law s last + (accrued last s.mTimeSpeed t (calls.filterMap change) -
        lost last s.mTimeSpeed calls) / 86400) := by
  induction calls generalizing s last with
  | nil =>
      rw [Lib.Runs.run_nil, law_later s last t, List.filterMap_nil, accrued, lost, sub_zero]
  | cons c calls ih =>
      have hrest : ∀ d ∈ calls, Running d := fun d hd => hrunning d (List.mem_cons_of_mem c hd)
      have hone : Running c := hrunning c List.mem_cons_self
      -- a call that only touches players
      have hquiet : ∀ s' : Simulation F, dial s' = dial s →
          Int.fract (law (Lib.Runs.run (call phys) s' calls) t) =
            Int.fract (law s last + (accrued last s.mTimeSpeed t (calls.filterMap change) -
              lost last s.mTimeSpeed calls) / 86400) := by
        intro s' hdial
        have hsame := hdial
        simp only [dial, Prod.mk.injEq] at hsame
        have hshows' : Shows s' last := by
          rw [Shows, law_congr hdial, hsame.1]
          exact hshows
        rw [ih hshows' hrest, law_congr hdial, hsame.2.2.2]
      rw [Lib.Runs.run_cons]
      cases c with
      | addPlayer playerId => exact hquiet _ (addPlayer_dial phys s playerId)
      | removePlayer playerId => exact hquiet _ rfl
      | setInput playerId input => exact hquiet _ (setInput_dial s playerId input)
      | step dt now =>
          have hshows' : Shows (s.step phys dt now) now.realSeconds := by
            rw [Shows, step_timeOfDay hfloor, Int.fract_fract]
            rfl
          have hlaw : law (s.step phys dt now) now.realSeconds =
              law s last + (now.realSeconds - last) * s.mTimeSpeed / 86400 :=
            law_later s last now.realSeconds
          have hchange : change (.step dt now) = (none : Option (F × F)) := rfl
          rw [call, ih hshows' hrest, hlaw, List.filterMap_cons_none hchange, lost,
            accrued_later last now.realSeconds]
          congr 1
          simp only [Simulation.step]
          ring
      | setTimeSpeed next now =>
          have hlaw : law (s.setTimeSpeed next now) now.realSeconds = s.mTimeOfDay := by
            simp [law, setTimeSpeed, reanchor]
          have hshows' : Shows (s.setTimeSpeed next now) now.realSeconds := by
            rw [Shows, hlaw]
            rfl
          have hchange : change (.setTimeSpeed next now) = some (now.realSeconds, next) := rfl
          rw [call, ih hshows' hrest, hlaw, List.filterMap_cons_some hchange, lost, accrued,
            add_sub_add_left_eq_sub]
          exact fract_add_right hshows _
      | setTimeOfDay timeOfDay now => exact hone.elim
      | resetClock now => exact hone.elim

/-- What a step shows, some calls after the clock was set. -/
theorem timeOfDay_run (s : Simulation F) (d : F) (now : ClockReading F) {calls : List (Call F)}
    (hrunning : ∀ c ∈ calls, Running c) (dt : F) (later : ClockReading F) :
    (Lib.Runs.run (call phys) (s.setTimeOfDay phys d now)
        (calls ++ [.step dt later])).mTimeOfDay =
      Int.fract (d + (accrued now.realSeconds s.mTimeSpeed later.realSeconds
        (calls.filterMap change) - lost now.realSeconds s.mTimeSpeed calls) / 86400) := by
  have hset : (s.setTimeOfDay phys d now).mTimeOfDay = Int.fract d := by
    simp only [setTimeOfDay, reanchor, hfloor]
    exact Int.self_sub_floor d
  have hlaw : law (s.setTimeOfDay phys d now) now.realSeconds = Int.fract d := by
    rw [← hset]
    simp [law, setTimeOfDay, reanchor]
  have hshows : Shows (s.setTimeOfDay phys d now) now.realSeconds := by
    rw [Shows, hset, hlaw]
  have hstep := step_timeOfDay hfloor (Lib.Runs.run (call phys) (s.setTimeOfDay phys d now) calls)
    dt later
  rw [Lib.Runs.run_concat, call, hstep, law_run hfloor hshows hrunning, hlaw]
  exact fract_add_right (Int.fract_fract d) _

end Runs

end Law

section Configured

variable {F : Type*} [Field F] [LinearOrder F] [IsStrictOrderedRing F] [FloorRing F]

omit [IsStrictOrderedRing F] in
/-- A clock that is configured to run at a positive speed runs at it, and a step shows what it
gives, if and only if that speed is the real one. -/
theorem configured_iff {phys : Physics F} (hfloor : ∀ x, phys.floor x = (⌊x⌋ : F)) {timeSpeed : F}
    (hpos : 0 < timeSpeed) (now : ClockReading F) (calls : List (Call F))
    (hsteady : ∀ c ∈ calls, Steady c) (dt : F) (later : ClockReading F) :
    let after := Simulation.run phys timeSpeed now (calls ++ [.step dt later])
    after.mTimeSpeed = timeSpeed ∧
        after.mTimeOfDay = Int.fract (now.wallClockTimeOfDay +
          (later.realSeconds - now.realSeconds) * timeSpeed / 86400) ↔
      timeSpeed = 1 := by
  intro after
  obtain ⟨hspeed, hlaw⟩ := law_steady phys (Simulation.init phys timeSpeed now) hsteady
  have hone : (1.0 : F) = 1 := by norm_num
  have hafter : after = (Lib.Runs.run (call phys) (Simulation.init phys timeSpeed now) calls).step
      phys dt later :=
    Lib.Runs.run_concat _ _ _ _
  have hinit : (Simulation.init phys timeSpeed now).mTimeSpeed = 1 := hone
  have hreal : after.mTimeSpeed = 1 := by
    rw [hafter]
    exact hspeed.trans hinit
  have hshown : after.mTimeOfDay = Int.fract (now.wallClockTimeOfDay +
      (later.realSeconds - now.realSeconds) / 86400) := by
    rw [hafter, step_timeOfDay hfloor, hlaw, law, hinit, mul_one]
    rfl
  rw [hreal, hshown]
  constructor
  · exact fun h => h.1.symm
  · rintro rfl
    exact ⟨rfl, by rw [mul_one]⟩

theorem configured_iff_real :
    (Simulation.run Physics.level 1 ⟨100, 1 / 2⟩ [.addPlayer 7, .step (1 / 60) ⟨200, 0⟩,
        .step (1 / 60) ⟨43300, 0⟩]).mTimeSpeed = 1 ∧
      (Simulation.run Physics.level 1 ⟨100, 1 / 2⟩ [.addPlayer 7, .step (1 / 60) ⟨200, 0⟩,
        .step (1 / 60) ⟨43300, 0⟩]).mTimeOfDay = Int.fract (1 / 2 + (43300 - 100) * 1 / 86400) :=
  (configured_iff (fun _ => rfl) one_pos ⟨100, 1 / 2⟩
    [.addPlayer 7, .step (1 / 60) ⟨200, 0⟩] (by simp [Steady, Running]) (1 / 60)
    ⟨43300, 0⟩).mpr rfl

/-- A one hour day runs at the real speed: an hour after noon it is one o'clock and not noon. -/
theorem hour_long_day_ignored :
    (Simulation.run Physics.level 24 ⟨0, 1 / 2⟩ [.step (1 / 60) ⟨3600, 0⟩]).mTimeSpeed ≠ 24 ∧
      (Simulation.run Physics.level 24 ⟨0, 1 / 2⟩ [.step (1 / 60) ⟨3600, 0⟩]).mTimeOfDay ≠
        Int.fract (1 / 2 + (3600 - 0) * 24 / 86400) := by
  decide +kernel

end Configured

section Integral

/-- A set clock shows the integral of its speed if and only if what it ran between each change of
speed and the call before it adds up to whole days. -/
theorem shows_integral_iff {phys : Physics ℝ} (hfloor : ∀ x, phys.floor x = ⌊x⌋)
    (s : Simulation ℝ) (d : ℝ) (now : ClockReading ℝ) (calls : List (Call ℝ))
    (hrunning : ∀ c ∈ calls, Running c) (dt : ℝ) (later : ClockReading ℝ)
    (hordered : (now.realSeconds :: (calls.filterMap moment ++ [later.realSeconds])).Pairwise
      (· ≤ ·)) :
    (Lib.Runs.run (call phys) (s.setTimeOfDay phys d now)
          (calls ++ [.step dt later])).mTimeOfDay =
        Int.fract (d + (∫ t in now.realSeconds..later.realSeconds,
          rateAt s.mTimeSpeed (calls.filterMap change) t) / 86400) ↔
      ∃ days : ℤ, lost now.realSeconds s.mTimeSpeed calls = days * 86400 := by
  have hchanges : Lib.Rates.Ordered now.realSeconds later.realSeconds (calls.filterMap change) := by
    refine hordered.sublist (List.Sublist.cons_cons _ (List.Sublist.append_right ?_ _))
    exact changes_sublist calls
  rw [← Lib.Rates.accrued_eq_integral hchanges, timeOfDay_run hfloor s d now hrunning,
    Int.fract_eq_fract]
  constructor
  · rintro ⟨z, hz⟩
    refine ⟨-z, ?_⟩
    push_cast
    linarith
  · rintro ⟨days, hdays⟩
    refine ⟨-days, ?_⟩
    rw [hdays]
    push_cast
    ring

/-- The C library's functions, exact, over level ground. -/
noncomputable def exact : Physics ℝ :=
  ⟨Real.sin, Real.cos, Real.sqrt, fun x => ⌊x⌋, fun _ _ => 0⟩

/-- Twice the speed from the moment of a step on. -/
theorem shows_integral_iff_doubled :
    (Lib.Runs.run (call exact) ((Simulation.init exact 1 ⟨0, 0⟩).setTimeOfDay exact (1 / 4) ⟨0, 0⟩)
        ([.step (1 / 60) ⟨10, 0⟩, .setTimeSpeed 2 ⟨10, 0⟩] ++
          [.step (1 / 60) ⟨20, 0⟩])).mTimeOfDay =
      Int.fract (1 / 4 + (∫ t in (0)..20, rateAt 1 [(10, 2)] t) / 86400) := by
  have hspeed : (Simulation.init exact 1 ⟨0, 0⟩).mTimeSpeed = 1 := by
    norm_num [Simulation.init, resetClock, reanchor]
  have hfloor : ∀ x, exact.floor x = ⌊x⌋ := fun _ => rfl
  have hordered : [(0 : ℝ), 10, 10, 20].Pairwise (· ≤ ·) := by norm_num
  have hshows := shows_integral_iff hfloor (Simulation.init exact 1 ⟨0, 0⟩) (1 / 4) ⟨0, 0⟩
    [.step (1 / 60) ⟨10, 0⟩, .setTimeSpeed 2 ⟨10, 0⟩] (by simp [Running]) (1 / 60) ⟨20, 0⟩
    hordered
  rw [hspeed] at hshows
  exact hshows.mpr ⟨0, by simp [lost]⟩

/-- The clock ran at 864 times the real speed for a second since the last step, and is then
stopped: it has lost the hundredth of a day that it ran. -/
theorem second_lost :
    (Lib.Runs.run (call exact) ((Simulation.init exact 1 ⟨0, 0⟩).setTimeOfDay exact 0 ⟨0, 0⟩)
        [.setTimeSpeed 864 ⟨0, 0⟩, .step (1 / 60) ⟨0, 0⟩, .setTimeSpeed 0 ⟨1, 0⟩,
          .step (1 / 60) ⟨1, 0⟩]).mTimeOfDay ≠
      Int.fract (0 + (∫ t in (0)..1, rateAt 1 [(0, 864), (1, 0)] t) / 86400) := by
  have hshown : (Lib.Runs.run (call exact)
      ((Simulation.init exact 1 ⟨0, 0⟩).setTimeOfDay exact 0 ⟨0, 0⟩)
        [.setTimeSpeed 864 ⟨0, 0⟩, .step (1 / 60) ⟨0, 0⟩, .setTimeSpeed 0 ⟨1, 0⟩,
          .step (1 / 60) ⟨1, 0⟩]).mTimeOfDay = 0 := by
    simp [call, setTimeOfDay, setTimeSpeed, reanchor, Simulation.step, exact]
  have hran : Int.fract (0 + (∫ t in (0)..1, rateAt 1 [(0, 864), (1, 0)] t) / 86400) = 1 / 100 := by
    rw [← Lib.Rates.accrued_eq_integral (by norm_num [Lib.Rates.Ordered])]
    norm_num [accrued, Int.fract_eq_iff]
  rw [hshown, hran]
  norm_num

end Integral

end UntitledGame.Sim.WorldClock
