import UntitledGame.Lib.Binary32
import UntitledGame.Server.UdpSteps

/-!
# The numbers in an input

The floats of a `ClientInput` are 32-bit patterns that the sender chooses. The
axes go through `std::clamp`, which compares twice and lets through what
compares with nothing, and the yaw goes through as it is.

The scalar type is `Float32` here, whose comparison and whose reading of a
pattern follow IEEE 754. `sanitised_iff` says which runs keep every input that
the server holds within what full-stick movement allows.
-/

namespace UntitledGame.Server.InputSanity

open Net Sim WorldServer Endpoints
open Client (Address)
open Lib.Binary32 (IsNumber IsFinite)
open Std (ExtTreeMap)

/-- Axes between minus one and one, which only a number can be, and a finite yaw. -/
structure Sane (input : CharacterInput Float32) : Prop where
  moveForward : -1.0 ≤ input.moveForward ∧ input.moveForward ≤ 1.0
  moveRight : -1.0 ≤ input.moveRight ∧ input.moveRight ≤ 1.0
  yaw : input.yaw.isFinite = true

/-- Every input that the simulation holds. -/
def Stored (s : Simulation Float32) : Prop :=
  ∀ (p : Nat) (player : SimPlayer Float32), s.mPlayers[p]? = some player → Sane player.input

/-- Every input that the server holds, in the simulation or in the queue of the simulated
latency. -/
structure Sanitised (w : WorldServer Float32) : Prop where
  stored : Stored w.simulation
  queued : ∀ d ∈ w.delayedInputs, Sane d.input

/-- The patterns of the axes stand for numbers, and that of the yaw for a finite one. -/
def Numeric (body : ClientInput) : Prop :=
  IsNumber body.moveForward ∧ IsNumber body.moveRight ∧ IsFinite body.yaw

instance : DecidablePred Numeric := fun body =>
  inferInstanceAs (Decidable (IsNumber body.moveForward ∧ IsNumber body.moveRight ∧
    IsFinite body.yaw))

/-- The input would go straight to the simulation, which has no such player or a newer input. -/
def Ignored (w : WorldServer Float32) (p : Nat) (body : ClientInput) : Prop :=
  w.simulatedLatencyMs = 0 ∧ ∀ player ∈ w.simulation.mPlayers[p]?,
    body.sequence ≠ 0 ∧ body.sequence < player.input.sequence

instance (w : WorldServer Float32) (p : Nat) (body : ClientInput) : Decidable (Ignored w p body) :=
  inferInstanceAs (Decidable (_ ∧ ∀ player ∈ w.simulation.mPlayers[p]?, _ ∧ _))

/-- A `ClientInput` of a bound player, under its own id, is numeric or ignored. -/
def Clean (w : WorldServer Float32) : Event Float32 → Prop
  | .datagram data source _ =>
      ∀ p ∈ w.findPlayerByUdp source, ∀ body ∈ decodeClientInput (data.take kDatagramSize),
        body.claimedId.toNat = p.2.playerId → Numeric body ∨ Ignored w p.2.playerId body
  | _ => True

instance (w : WorldServer Float32) : DecidablePred (Clean w) := fun e =>
  match e with
  | .datagram data source _ => inferInstanceAs (Decidable (∀ p ∈ w.findPlayerByUdp source,
      ∀ body ∈ decodeClientInput (data.take kDatagramSize),
        body.claimedId.toNat = p.2.playerId → Numeric body ∨ Ignored w p.2.playerId body))
  | .accept | .message _ _ | .hangUp _ | .closeDeferred | .reply _ _ _ | .dbLost _ | .tick _
  | .release _ | .sweep _ => inferInstanceAs (Decidable True)

/-- The input that the server makes of a body is sane exactly when the body is numeric. -/
theorem sane_playerInput_iff {setup : Setup Float32} (hbits : setup.ofBits = Float32.ofBits)
    (body : ClientInput) : Sane (playerInput setup body) ↔ Numeric body := by
  have hbounds : (-1.0 : Float32) ≤ 1.0 := by decide +kernel
  have haxis : ∀ bits : UInt32,
      (-1.0 ≤ WorldServer.clamp (Float32.ofBits bits) (-1.0) 1.0 ∧
        WorldServer.clamp (Float32.ofBits bits) (-1.0) 1.0 ≤ 1.0) ↔ IsNumber bits := by
    intro bits
    exact (Lib.Binary32.clamp_mem_iff hbounds).trans (Lib.Binary32.isNaN_ofBits_iff bits)
  have hyaw := Lib.Binary32.isFinite_ofBits_iff body.yaw
  constructor
  · intro h
    have hforward := h.moveForward
    have hright := h.moveRight
    have hfinite := h.yaw
    simp only [playerInput, hbits] at hforward hright hfinite
    exact ⟨(haxis _).mp hforward, (haxis _).mp hright, hyaw.mp hfinite⟩
  · rintro ⟨hforward, hright, hfinite⟩
    refine ⟨?_, ?_, ?_⟩
    · simp only [playerInput, hbits]
      exact (haxis _).mpr hforward
    · simp only [playerInput, hbits]
      exact (haxis _).mpr hright
    · simp only [playerInput, hbits]
      exact hyaw.mpr hfinite

section Steps

theorem sane_default : Sane CharacterInput.default :=
  ⟨by decide +kernel, by decide +kernel, by decide +kernel⟩

/-- A call keeps what the simulation holds sane, if it sets nothing else. -/
theorem stored_call {phys : Physics Float32} {s : Simulation Float32} (h : Stored s)
    {c : Simulation.Call Float32} (hc : ∀ i, inputOf c = some i → Sane i.2) :
    Stored (s.call phys c) := by
  intro p player hplayer
  cases Simulation.call_made hplayer with
  | kept _ hbefore => exact h p player hbefore
  | added hnone => exact sane_default
  | @stored before hbefore input haccepts => exact hc (p, input) rfl
  | @stepped before hbefore deltaSeconds now =>
      obtain ⟨hforward, hright, hyaw⟩ := h p before hbefore
      exact ⟨hforward, hright, hyaw⟩

theorem stored_drives {setup : Setup Float32} {s s' : Simulation Float32}
    {inputs : List (Nat × CharacterInput Float32)} (h : Stored s)
    (hdrives : Drives setup s s' inputs) (hinputs : ∀ i ∈ inputs, Sane i.2) : Stored s' := by
  obtain ⟨calls, rfl, rfl⟩ := hdrives
  induction calls generalizing s with
  | nil => exact h
  | cons c calls ih =>
      refine ih (stored_call h fun i hi => ?_) fun i hi => ?_
      · exact hinputs i (List.mem_filterMap.mpr ⟨c, List.mem_cons_self, hi⟩)
      · obtain ⟨d, hd, hdi⟩ := List.mem_filterMap.mp hi
        exact hinputs i (List.mem_filterMap.mpr ⟨d, List.mem_cons_of_mem c hd, hdi⟩)

variable {setup : Setup Float32}

theorem sanitised_init (now : ClockReading Float32) : Sanitised (init setup now) := by
  constructor
  · intro p player h
    simp [init, Simulation.init, Simulation.blank, Simulation.resetClock,
      Simulation.reanchor] at h
  · intro d hd
    simp [init] at hd

/-- An input that is set and ignored leaves the simulation as it is. -/
theorem setInput_ignored {w : WorldServer Float32} {p : Nat} {body : ClientInput}
    (h : Ignored w p body) : w.simulation.setInput p (playerInput setup body) = w.simulation := by
  cases hp : w.simulation.mPlayers[p]? with
  | none => simp only [Simulation.setInput, hp]
  | some player =>
      obtain ⟨hpos, hlt⟩ := h.2 player hp
      have hrefused : Simulation.accepts player.input (playerInput setup body) = false := by
        simp [Simulation.accepts, playerInput, hpos, hlt]
      simp only [Simulation.setInput, hp, hrefused, Bool.false_eq_true, if_false]

/-- What a clean datagram makes the server take is sane, or changes nothing. -/
theorem clean_submitted (hbits : setup.ofBits = Float32.ofBits) {w : WorldServer Float32}
    {data : Bytes} {source : Address} {now : Clocks Float32}
    (hclean : Clean w (.datagram data source now)) {p : Nat} {input : CharacterInput Float32}
    (h : submitted setup w data source = some (p, input)) :
    Sane input ∨ w.simulatedLatencyMs = 0 ∧ w.simulation.setInput p input = w.simulation := by
  obtain ⟨c, player, body, hfound, hbody, hnamed, rfl, rfl⟩ := (submitted_eq_some setup).mp h
  rcases hclean (c, player) hfound body hbody hnamed with hnumeric | hignored
  · exact Or.inl ((sane_playerInput_iff hbits body).mpr hnumeric)
  · exact Or.inr ⟨hignored.1, setInput_ignored hignored⟩

/-- The inputs that wait were sane, and one that joins them is. -/
theorem queued_step {w : WorldServer Float32} {e : Event Float32} (h : Sanitised w)
    (he : ∀ data source now, e ≠ .datagram data source now) :
    ∀ d ∈ (step setup w e).delayedInputs, Sane d.input := by
  intro d hd
  rcases step_delayedInputs setup w e hd with hold | ⟨data, source, now, rfl, -⟩
  · exact h.queued d hold
  · exact absurd rfl (he data source now)

/-- A clean step keeps what the server holds sane. -/
theorem sanitised_step (hbits : setup.ofBits = Float32.ofBits) {w : WorldServer Float32}
    {e : Event Float32} (h : Sanitised w) (hclean : Clean w e) : Sanitised (step setup w e) := by
  have hdrives := step_drives setup w e
  have hqueued : (∀ data source now, e ≠ .datagram data source now) →
      ∀ d ∈ (step setup w e).delayedInputs, Sane d.input := queued_step h
  have heffect := step_effect setup w e
  generalize step setup w e = w' at heffect hdrives hqueued ⊢
  cases heffect with
  | quiet htaken hinputs hsnapshots haccepted hquiet =>
      refine ⟨stored_drives h.stored hquiet.drives (by simp), fun d hd => ?_⟩
      exact h.queued d (hquiet.delayedInputs ▸ hd)
  | joined token session now hjoining hquiet =>
      obtain ⟨requestId, session', now', token', rfl, -⟩ := joining_eq_some hjoining
      exact ⟨stored_drives h.stored hdrives (by simp [setInputs]), hqueued (by simp)⟩
  | bound haccepted => exact ⟨h.stored, h.queued⟩
  | queued haccepted hsubmitted hlatency hquiet =>
      rcases clean_submitted hbits hclean hsubmitted with hsane | ⟨hzero, -⟩
      · refine ⟨stored_drives h.stored hquiet.drives (by simp), fun d hd => ?_⟩
        rcases List.mem_append.mp hd with hd | hd
        · exact h.queued d hd
        · rw [List.mem_singleton.mp hd]
          exact hsane
      · rw [hzero] at hlatency
        exact absurd hlatency (by decide)
  | @applied data source now p input haccepted hsubmitted hlatency w' hquiet =>
      have hwaiting : ∀ d ∈ w'.delayedInputs, Sane d.input := fun d hd =>
        h.queued d (hquiet.delayedInputs ▸ hd)
      rcases clean_submitted hbits hclean hsubmitted with hsane | ⟨-, hsame⟩
      · refine ⟨stored_drives h.stored (Drives.setInputs setup _ [(p, input)]) ?_, hwaiting⟩
        intro i hi
        rw [List.mem_singleton.mp hi]
        exact hsane
      · refine ⟨?_, hwaiting⟩
        dsimp only
        rw [hsame]
        exact h.stored
  | tick now => exact ⟨stored_drives h.stored hdrives (by simp [setInputs]), hqueued (by simp)⟩
  | release now =>
      refine ⟨stored_drives h.stored hdrives fun i hi => ?_, hqueued (by simp)⟩
      obtain ⟨d, hd, rfl⟩ := List.mem_map.mp hi
      exact h.queued d ((List.takeWhile_sublist _).subset hd)

/-- An input that leaves everything sane was numeric, or it was ignored. -/
theorem numeric_or_ignored (hbits : setup.ofBits = Float32.ofBits) {w : WorldServer Float32}
    {data : Bytes} {source : Address} {now : Clocks Float32}
    (h : Sanitised (step setup w (.datagram data source now))) {c : Nat} {player : Player Float32}
    (hfound : w.findPlayerByUdp source = some (c, player)) {body : ClientInput}
    (hbody : decodeClientInput (data.take kDatagramSize) = some body)
    (hnamed : body.claimedId.toNat = player.playerId) :
    Numeric body ∨ Ignored w player.playerId body := by
  have hsubmitted := (submitted_eq_some setup).mpr ⟨c, player, body, hfound, hbody, hnamed, rfl, rfl⟩
  have hstep := step_submitted setup w now hsubmitted
  split at hstep
  · have hsane : Sane (playerInput setup body) :=
      h.queued _ (hstep ▸ List.mem_append_right _ List.mem_cons_self)
    exact Or.inl ((sane_playerInput_iff hbits body).mp hsane)
  · rename_i hlatency
    have hzero : w.simulatedLatencyMs = 0 := by
      simpa [UInt32.pos_iff_ne_zero] using hlatency
    by_cases hignored : Ignored w player.playerId body
    · exact Or.inr hignored
    · -- some player of that id takes the input, and holds it afterwards
      simp only [Ignored, hzero, true_and, not_forall] at hignored
      obtain ⟨target, htarget, hnewer⟩ := hignored
      rw [Option.mem_def] at htarget
      rw [not_and_or, not_not, UInt32.not_lt] at hnewer
      have haccepts : Simulation.accepts target.input (playerInput setup body) = true := by
        simpa [Simulation.accepts, playerInput] using hnewer
      have hslot : (step setup w (.datagram data source now)).simulation.mPlayers[player.playerId]? =
          some { target with input := playerInput setup body } := by
        rw [hstep]
        simp [Simulation.setInput, htarget, haccepts]
      exact Or.inl ((sane_playerInput_iff hbits body).mp (h.stored _ _ hslot))

/-- A step that leaves everything sane was clean. -/
theorem clean_of_sanitised (hbits : setup.ofBits = Float32.ofBits) {w : WorldServer Float32}
    {e : Event Float32} (h : Sanitised (step setup w e)) : Clean w e := by
  cases e with
  | datagram data source now =>
      rintro ⟨c, player⟩ hfound body hbody hnamed
      exact numeric_or_ignored hbits h hfound hbody hnamed
  | _ => trivial

end Steps

section Runs

/-- Every input that the server holds, in every state of a run, has axes between minus one and one
and a finite yaw, if and only if every `ClientInput` that a bound player sends in the run has
patterns that stand for numbers, a finite one for the yaw, or goes to a simulation that ignores
it. -/
theorem sanitised_iff (setup : Setup Float32) (hbits : setup.ofBits = Float32.ofBits)
    (now : ClockReading Float32) (events : List (Event Float32)) :
    (∀ pre, pre <+: events → Sanitised (run setup now pre)) ↔
      Lib.Runs.Along (step setup) Clean (init setup now) events :=
  Lib.Runs.always_iff_along (sanitised_init now)
    (fun _ _ h hclean => sanitised_step hbits h hclean)
    (fun _ _ _ hafter => clean_of_sanitised hbits hafter) (fun _ h => h) events

/-- Single precision over level ground. -/
def singleSetup : Setup Float32 :=
  ⟨Client.Replication.single, Float32.toBits, Float32.ofBits, 7003, 30, 1.0⟩

def singleNoon : Clocks Float32 := ⟨⟨0.0, 0.5⟩, 0.0, 0⟩

/-- A player joins and binds its address, and sends an input with these patterns. -/
def sendingInput (moveForward moveRight yaw : UInt32) : List (Event Float32) :=
  [.accept, .message 1 (joinMessage [1]), .reply 1 (.sessionLookup true ⟨1, [97], 0⟩) singleNoon,
    .datagram (Client.NetClient.helloPacket 1 [1]) ⟨1, 7⟩ singleNoon,
    .datagram (Client.NetClient.inputPacket 1 ⟨1, moveForward, moveRight, yaw, false, true⟩) ⟨1, 7⟩
      singleNoon]

/-- An axis of two, one of minus infinity and a yaw of three are harmless. -/
theorem sanitised_iff_large :
    Sanitised (run singleSetup singleNoon.clock
      (sendingInput 0x40000000 0xFF800000 0x40400000)) :=
  (sanitised_iff singleSetup rfl singleNoon.clock _).mpr (by decide +kernel) _ List.prefix_rfl

/-- A pattern that is no number passes the clamp, and an infinite yaw is not looked at. -/
theorem not_a_number_stored :
    ¬ Sanitised (run singleSetup singleNoon.clock (sendingInput 0x7FC00000 0 0)) ∧
      ¬ Sanitised (run singleSetup singleNoon.clock (sendingInput 0 0 0x7F800000)) := by
  constructor
  · intro h
    have hinput : ((run singleSetup singleNoon.clock
        (sendingInput 0x7FC00000 0 0)).simulation.mPlayers[1]?).map
          (·.input.moveForward.isNaN) = some true := by
      decide +kernel
    obtain ⟨player, hplayer, hnan⟩ := Option.map_eq_some_iff.mp hinput
    have hnumber := (Lib.Binary32.isNaN_of_le (h.stored 1 player hplayer).moveForward.1).2
    exact absurd (hnan.symm.trans hnumber) (by decide)
  · intro h
    have hinput : ((run singleSetup singleNoon.clock
        (sendingInput 0 0 0x7F800000)).simulation.mPlayers[1]?).map
          (·.input.yaw.isFinite) = some false := by
      decide +kernel
    obtain ⟨player, hplayer, hinfinite⟩ := Option.map_eq_some_iff.mp hinput
    exact absurd (hinfinite.symm.trans (h.stored 1 player hplayer).yaw) (by decide)

end Runs

end UntitledGame.Server.InputSanity
