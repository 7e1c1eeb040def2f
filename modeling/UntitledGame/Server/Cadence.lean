import UntitledGame.Server.Clock
import UntitledGame.Server.MainLoop
import UntitledGame.Client.Numbering
import UntitledGame.Client.Pace

/-!
# Sixty ticks a second

The ticks of the simulation are those of the main loop: no message, reply, datagram or
line at the console moves its counter. So over every run of turns the simulation has
made as many steps as the time that has passed makes room for, whatever the clients
send, and loses time only in turns that take longer than fourteen ticks. The tick loop
of the client keeps the same pace, and neither gets ahead of the other. Times are exact,
on both sides.
-/

namespace UntitledGame.Server

open Net Sim Client
open Lib.Pacing (Savings Settled Spends Paces overrun)

variable {F : Type*} [Scalar F]

namespace WorldServer

section Counter

variable {atof : Bytes → F} {setup : Setup F} {w : WorldServer F}

/-- The counter of the simulation. -/
def tickCounter (w : WorldServer F) : UInt32 := w.simulation.mTick

section Counter

omit [Scalar F]

theorem setInput_mTick (s : Simulation F) (playerId : Nat) (input : CharacterInput F) :
    (s.setInput playerId input).mTick = s.mTick := by
  obtain ⟨players, heq⟩ := s.setInput_eq playerId input
  rw [heq]

theorem removePlayer_tickCounter (w : WorldServer F) (id : Nat) :
    (w.removePlayer id).tickCounter = w.tickCounter := by
  rw [removePlayer]
  split
  · rfl
  · rfl

theorem replyCommand_tickCounter (w : WorldServer F) (id : Nat) (command : WorldMessage)
    (result : UInt8) : (w.replyCommand setup id command result).tickCounter = w.tickCounter := by
  rw [replyCommand]
  split
  · rfl
  · rfl

theorem onMessage_tickCounter (id : Nat) (m : Message) :
    (w.onMessage setup id m).tickCounter = w.tickCounter := by
  simp only [onMessage, onJoinRequest, onSetLatencyRequest, onCommandRequest]
  repeat' split
  all_goals
    first
    | rfl
    | exact replyCommand_tickCounter _ _ _ _
    | exact removePlayer_tickCounter _ _

end Counter

theorem runCommand_mTick (s : Simulation F) (command : WorldMessage) (timeCommand : UInt8)
    (value : F) (now : ClockReading F) :
    (runCommand setup s command timeCommand value now).mTick = s.mTick := by
  rw [runCommand]
  split
  · split <;> rfl
  · rfl

theorem onReply_tickCounter (w : WorldServer F) (now : Clocks F) (handler : Handler)
    (reply : Option DbReply) : (onReply setup w now handler reply).tickCounter = w.tickCounter := by
  cases handler with
  | join request id token =>
      rw [onReply, onJoinLookup.eq_def]
      split
      · rfl
      · rfl
      · obtain ⟨players, next, heq⟩ := w.simulation.addPlayer_eq setup.phys w.nextPlayerId
        have hadded : (w.simulation.addPlayer setup.phys w.nextPlayerId).1.mTick =
            w.simulation.mTick := by rw [heq]
        exact hadded
  | setLatency request id milliseconds =>
      rw [onReply, onLatencyLookup.eq_def]
      split
      · split <;> rfl
      · rfl
  | command request id command timeCommand value =>
      rw [onReply, onCommandLookup.eq_def]
      split
      · split
        · exact replyCommand_tickCounter w _ _ _
        · rw [replyCommand_tickCounter]
          exact runCommand_mTick _ _ _ _ _
      · exact replyCommand_tickCounter w _ _ _
  | sessionDeleted request => rfl

theorem onDatagram_tickCounter (data : Bytes) (source : Address) (now : Clocks F) :
    (w.onDatagram setup data source now).tickCounter = w.tickCounter := by
  simp only [onDatagram, onClientHello, onClientInput]
  repeat' split
  all_goals
    first
    | rfl
    | exact setInput_mTick _ _ _

theorem onTick_tickCounter (now : Clocks F) :
    (w.onTick setup now).tickCounter = w.tickCounter + 1 := by
  have hsend : ∀ (v : WorldServer F) (entry : Nat × Player F),
      (sendSnapshot (Client.Replication.outgoing setup.phys setup.toBits
        (w.simulation.step setup.phys tickSeconds now.clock) now.nowMs) now v entry).tickCounter =
          v.tickCounter := by
    intro v entry
    simp only [sendSnapshot]
    repeat' split
    all_goals rfl
  have hsends := Lib.Runs.run_frame (f := tickCounter) hsend
    { w with simulation := w.simulation.step setup.phys tickSeconds now.clock }
    w.playersByConnection.toList
  exact hsends

theorem release_tickCounter (now : F) : (w.release now).tickCounter = w.tickCounter :=
  Lib.Runs.run_frame (f := Simulation.mTick)
    (fun s (d : DelayedInput F) => setInput_mTick s d.playerId d.input) w.simulation
    (w.delayedInputs.takeWhile (·.dueAt ≤ now))

omit [Scalar F] in
theorem closeDeferred_tickCounter : w.closeDeferred.tickCounter = w.tickCounter := by
  apply Lib.Runs.run_frame (f := tickCounter)
  intro v id
  rw [disconnect]
  split
  · exact removePlayer_tickCounter v id
  · rfl

theorem sweep_tickCounter (now : F) : (w.sweep setup now).tickCounter = w.tickCounter := by
  apply Lib.Runs.run_frame (f := tickCounter)
  intro v id
  exact removePlayer_tickCounter v id

theorem line_tickCounter (text : Bytes) (hashed : Option Bytes) (now : ClockReading F) :
    (Console.runConsoleCommand atof setup w text hashed now).tickCounter = w.tickCounter := by
  simp only [Console.runConsoleCommand, Console.latencyCommand.eq_def, Console.timeCommand.eq_def,
    Console.setClock, Console.accountCommand.eq_def, Console.createAccount, Console.setLevel]
  repeat' split
  all_goals rfl

/-- The ticks of a piece of work. -/
def ticksOf : SimulatedLink.Event F → Nat
  | .loop e => if e.isTick then 1 else 0
  | .line _ _ _ => 0

/-- Nothing but a tick moves the counter. -/
theorem step_tickCounter (w : WorldServer F) (e : SimulatedLink.Event F) :
    (SimulatedLink.step atof setup w e).tickCounter = w.tickCounter + UInt32.ofNat (ticksOf e) := by
  cases e with
  | line text hashed now => exact (line_tickCounter text hashed now).trans (UInt32.add_zero _).symm
  | loop e =>
      have hsame : ∀ w' : WorldServer F, w'.tickCounter = w.tickCounter →
          w'.tickCounter = w.tickCounter + UInt32.ofNat 0 :=
        fun w' h => h.trans (UInt32.add_zero _).symm
      cases e with
      | accept => exact hsame _ rfl
      | message id m =>
          apply hsame
          rw [SimulatedLink.step, step]
          split
          · exact onMessage_tickCounter id m
          · rfl
      | hangUp id =>
          apply hsame
          rw [SimulatedLink.step, step]
          split <;> rfl
      | closeDeferred => exact hsame _ closeDeferred_tickCounter
      | reply requestId reply now =>
          apply hsame
          rw [SimulatedLink.step, step, onDbReply]
          split
          · rfl
          · exact onReply_tickCounter _ _ _ _
      | dbLost now =>
          apply hsame
          apply Lib.Runs.run_frame (f := tickCounter)
          exact fun v handler => onReply_tickCounter v now handler none
      | datagram data source now => exact hsame _ (onDatagram_tickCounter data source now)
      | tick now => exact onTick_tickCounter now
      | release now => exact hsame _ (release_tickCounter now)
      | sweep now => exact hsame _ (sweep_tickCounter now)

theorem run_tickCounter (w : WorldServer F) (events : List (SimulatedLink.Event F)) :
    (Lib.Runs.run (SimulatedLink.step atof setup) w events).tickCounter =
      w.tickCounter + UInt32.ofNat (events.map ticksOf).sum := by
  induction events generalizing w with
  | nil => exact (UInt32.add_zero _).symm
  | cons e events ih =>
      rw [Lib.Runs.run_cons, ih, step_tickCounter, List.map_cons, List.sum_cons, UInt32.ofNat_add,
        UInt32.add_assoc]

end Counter

end WorldServer

namespace MainLoop

section Turns

variable (atof : Bytes → F) (setup : Setup F)

/-- The time that no tick has used up yet, and the ticks so far. -/
def savings (m : MainLoop F) : Savings ℚ := ⟨m.accumulator, m.ticks⟩

theorem due_nonneg {fuel : Nat} {accumulator : ℚ} (h : 0 ≤ accumulator) :
    0 ≤ accumulator - due fuel accumulator * kTickSeconds := by
  induction fuel generalizing accumulator with
  | zero => simpa [due] using h
  | succ fuel ih =>
      rw [due]
      split
      · simpa using h
      · rename_i hdue
        have hrest := ih (sub_nonneg.mpr (not_lt.mp hdue))
        push_cast
        linarith only [hrest]

theorem due_short {fuel : Nat} {accumulator : ℚ} (h : accumulator < (fuel + 1) * kTickSeconds) :
    accumulator - due fuel accumulator * kTickSeconds < kTickSeconds := by
  induction fuel generalizing accumulator with
  | zero => simpa [due] using h
  | succ fuel ih =>
      rw [due]
      split
      · rename_i hshort
        simpa using hshort
      · push_cast at h ⊢
        have hless : accumulator - kTickSeconds < (fuel + 1) * kTickSeconds := by
          linarith only [h]
        have hrest := ih hless
        linarith only [hrest]

/-- What a turn does to the books. -/
theorem turn_account (m : MainLoop F) (t : LoopTurn F) :
    savings (turn atof setup m t) =
      ⟨charged m t - due kMaxTicks (charged m t) * kTickSeconds,
        m.ticks + due kMaxTicks (charged m t)⟩ := by
  simp only [savings, turn, tickLoop_eq, drainUdp]
  rfl

omit [Scalar F] in
theorem charged_eq (m : MainLoop F) (t : LoopTurn F) :
    charged m t = min (m.accumulator + t.elapsed) (1 / 4) := by
  rw [charged]
  split
  · rename_i hover
    exact (min_eq_right hover.le).symm
  · rename_i hfits
    exact (min_eq_left (not_lt.mp hfits)).symm

theorem turn_paces : Paces (turn atof setup) savings LoopTurn.elapsed kTickSeconds (1 / 4) := by
  intro m t hm ht
  have hcharged : 0 ≤ charged m t := by
    rw [charged_eq]
    exact le_min (add_nonneg hm.nonneg ht) (by norm_num)
  have hfuel : charged m t < (kMaxTicks + 1 : ℚ) * kTickSeconds := by
    rw [charged_eq]
    exact lt_of_le_of_lt (min_le_right _ _) (by norm_num [kMaxTicks, kTickSeconds, kServerTickHz])
  rw [turn_account]
  constructor
  · rw [savings, ← charged_eq]
    push_cast
    ring
  · exact ⟨due_nonneg hcharged, due_short (by exact_mod_cast hfuel)⟩

omit [Scalar F] in
/-- The ticks of a turn are those that are due. -/
theorem work_ticks (m : MainLoop F) (t : LoopTurn F) :
    ((work m t).map WorldServer.ticksOf).sum = due kMaxTicks (charged m t) := by
  have hzero : ∀ events : List (SimulatedLink.Event F),
      (∀ e ∈ events, WorldServer.ticksOf e = 0) → (events.map WorldServer.ticksOf).sum = 0 := by
    intro events h
    apply List.sum_eq_zero
    intro n hn
    obtain ⟨e, he, rfl⟩ := List.mem_map.mp hn
    exact h e he
  have hpolled : ((polledWork t).map WorldServer.ticksOf).sum = 0 := by
    apply hzero
    intro e he
    simp only [polledWork, List.mem_append, List.mem_map, List.mem_singleton] at he
    rcases he with (((⟨w, -, rfl⟩ | rfl) | ⟨r, -, rfl⟩) | hlost) | ⟨l, -, rfl⟩
    · cases w <;> rfl
    · rfl
    · rfl
    · split at hlost
      · rw [List.mem_singleton.mp hlost]
        rfl
      · cases hlost
    · rfl
  have hhandled : (((handled (queued m t)).map fun d =>
      (.loop (.datagram d.data d.source d.now) : SimulatedLink.Event F)).map
        WorldServer.ticksOf).sum = 0 := by
    apply hzero
    intro e he
    obtain ⟨d, -, rfl⟩ := List.mem_map.mp he
    rfl
  have hticks : ∀ n, (((List.range n).map fun i =>
      (.loop (.tick (t.tickedAt i)) : SimulatedLink.Event F)).map WorldServer.ticksOf).sum = n := by
    intro n
    induction n with
    | zero => rfl
    | succ n ih =>
        rw [List.range_succ, List.map_append, List.map_append, List.sum_append, ih]
        rfl
  rw [work, List.map_append, List.map_append, List.map_append, List.sum_append, List.sum_append,
    List.sum_append, hpolled, hhandled, hticks]
  simp [WorldServer.ticksOf, WorldServer.Event.isTick]

/-- The counter of the simulation and that of the loop. -/
theorem run_counter (start : ClockReading F) (turns : List (LoopTurn F)) :
    (run atof setup start turns).world.simulation.mTick =
      UInt32.ofNat (run atof setup start turns).ticks := by
  induction turns using List.reverseRecOn with
  | nil => rfl
  | append_singleton turns t ih =>
      have hticks := congrArg Savings.steps
        (turn_account atof setup (run atof setup start turns) t)
      rw [run, Lib.Runs.run_concat, turn_world]
      refine (WorldServer.run_tickCounter _ _).trans ?_
      rw [work_ticks]
      refine Eq.trans ?_ (congrArg UInt32.ofNat hticks).symm
      rw [UInt32.ofNat_add]
      exact congrArg (· + _) ih

end Turns

section Runs

variable (atof : Bytes → F) (setup : Setup F) (start : ClockReading F)

/-- The work of a run of turns. -/
def workOf (m : MainLoop F) : List (LoopTurn F) → List (SimulatedLink.Event F)
  | [] => []
  | t :: turns => work m t ++ workOf (turn atof setup m t) turns

/-- A run of turns is a run of the pieces of its work. -/
theorem run_world (m : MainLoop F) (turns : List (LoopTurn F)) :
    (Lib.Runs.run (turn atof setup) m turns).world =
      Lib.Runs.run (SimulatedLink.step atof setup) m.world (workOf atof setup m turns) := by
  induction turns generalizing m with
  | nil => rfl
  | cons t turns ih => rw [Lib.Runs.run_cons, ih, turn_world, workOf, Lib.Runs.run_append]

theorem settled_init : Settled kTickSeconds (savings (init setup start)) := by
  constructor
  · exact le_refl 0
  · norm_num [savings, init, kTickSeconds, kServerTickHz]

/-- In every run of turns the world is what the pieces of work make of it, in their order; the
simulation has counted the ticks of the loop; a turn runs at most 15; and they are as many as fit
into the time that has passed, less than one and the overruns of the turns short of it. -/
theorem paced {turns : List (LoopTurn F)} (hturns : ∀ t ∈ turns, 0 ≤ t.elapsed) :
    let m := run atof setup start turns
    let passed := (turns.map LoopTurn.elapsed).sum
    m.world = SimulatedLink.run atof setup start
        (workOf atof setup (init setup start) turns) ∧
      m.world.simulation.mTick = UInt32.ofNat m.ticks ∧
      (∀ t, 0 ≤ t.elapsed → (turn atof setup m t).ticks ≤ m.ticks + 15) ∧
      m.ticks * kTickSeconds ≤ passed ∧
      passed < (m.ticks + 1) * kTickSeconds +
        (turns.map fun t => overrun kTickSeconds (1 / 4) t.elapsed).sum := by
  intro m passed
  have hbalance := Lib.Pacing.run_balance (turn_paces atof setup)
    (settled_init setup start) hturns
  obtain ⟨hsettled, hmost, hleast⟩ := hbalance
  simp only [savings, init, Nat.cast_zero, zero_mul, add_zero, zero_add] at hmost hleast
  have hnonneg : 0 ≤ m.accumulator := hsettled.nonneg
  have hshort : m.accumulator < kTickSeconds := hsettled.short
  refine ⟨run_world atof setup (init setup start) turns, run_counter atof setup start turns,
    ?_, ?_, ?_⟩
  · intro t ht
    apply (turn_paces atof setup m t hsettled ht).steps_le
    · norm_num [kTickSeconds, kServerTickHz]
    · norm_num [kTickSeconds, kServerTickHz]
  · have hspent : m.accumulator + m.ticks * kTickSeconds ≤ passed := hmost
    linarith only [hspent, hnonneg]
  · have hkept : passed ≤ m.accumulator + m.ticks * kTickSeconds +
        (turns.map fun t => overrun kTickSeconds (1 / 4) t.elapsed).sum := hleast
    linarith only [hkept, hshort]

/-- However the frames of a client and the turns of the server fall, over the same time neither has
more ticks than the other by two or more, and by what the overruns of that other one have cost. -/
theorem in_step (host : Host F) {m : MainLoop F} {a : Application F}
    (hm : Settled kTickSeconds (savings m)) (ha : Settled kTickSeconds a.savings)
    {turns : List (LoopTurn F)} {frames : List (Frame F)} (hturns : ∀ t ∈ turns, 0 ≤ t.elapsed)
    (hframes : ∀ f ∈ frames, 0 ≤ f.deltaSeconds)
    (htime : (turns.map LoopTurn.elapsed).sum = (frames.map Frame.deltaSeconds).sum) :
    let served : ℚ := (Lib.Runs.run (turn atof setup) m turns).ticks - m.ticks
    let played : ℚ := (Lib.Runs.run (Application.frame host) a frames).ticks - a.ticks
    (served - played) * kTickSeconds < 2 * kTickSeconds +
        (frames.map fun f => overrun kTickSeconds (1 / 4) f.deltaSeconds).sum ∧
      (played - served) * kTickSeconds < 2 * kTickSeconds +
        (turns.map fun t => overrun kTickSeconds (1 / 4) t.elapsed).sum := by
  have hserver := turn_paces atof setup
  have hclient := Application.frame_paces host
  exact ⟨Lib.Pacing.run_ahead hserver hclient hm ha hturns hframes htime,
    Lib.Pacing.run_ahead hclient hserver ha hm hframes hturns htime.symm⟩

end Runs

/-- A turn in which nothing but time passes. -/
def idle (elapsed : ℚ) : LoopTurn ℚ :=
  ⟨[], [], false, [], [], elapsed, fun _ => .noon, .noon, fun _ => Clocks.noon.clock,
    fun _ => .noon, fun _ => .noon, 0, 0⟩

/-- A tenth of a second makes six ticks, and a second in one turn no more than fifteen. -/
theorem paced_stalled :
    let m := run (fun _ => 0) .level Clocks.noon.clock [idle (1 / 10), idle 1]
    m.ticks = 21 ∧ m.world.simulation.mTick = UInt32.ofNat m.ticks := by
  intro m
  have hturns : ∀ t ∈ [idle (1 / 10), idle 1], 0 ≤ t.elapsed := by decide +kernel
  have hpaced := paced (fun _ => 0) .level Clocks.noon.clock hturns
  exact ⟨by decide +kernel, hpaced.2.1⟩

/-- A client whose frames are short gets ahead of a server that stalls. -/
theorem in_step_stalled :
    let m := MainLoop.init .level Clocks.noon.clock
    let a : Application ℚ := Application.init 0 0
    let turns := [idle 1]
    let frames := List.replicate 10 (Numbering.still (1 / 10))
    ((Lib.Runs.run (turn (fun _ => 0) .level) m turns).ticks,
        (Lib.Runs.run (Application.frame Numbering.levelHost) a frames).ticks) = (15, 60) ∧
      ((60 : ℚ) - 15) * kTickSeconds < 2 * kTickSeconds + (1 - (1 / 4 - kTickSeconds)) := by
  intro m a turns frames
  have hserved : (Lib.Runs.run (turn (fun _ => 0) .level) m turns).ticks = 15 := by decide +kernel
  have hplayed : (Lib.Runs.run (Application.frame Numbering.levelHost) a frames).ticks = 60 := by
    decide +kernel
  have hm : Settled kTickSeconds (savings m) := settled_init _ _
  have ha : Settled kTickSeconds a.savings :=
    ⟨le_refl 0, by norm_num [a, Application.savings, Application.init, kTickSeconds,
      kServerTickHz]⟩
  have hturns : ∀ t ∈ turns, 0 ≤ t.elapsed := by decide +kernel
  have hframes : ∀ f ∈ frames, 0 ≤ f.deltaSeconds := by decide +kernel
  have htime : (turns.map LoopTurn.elapsed).sum = (frames.map Frame.deltaSeconds).sum := by
    decide +kernel
  have hstep := (in_step (fun _ => 0) .level Numbering.levelHost hm ha hturns hframes htime).2
  have hoverrun : (turns.map fun t => overrun kTickSeconds (1 / 4) t.elapsed).sum =
      1 - (1 / 4 - kTickSeconds) := by decide +kernel
  rw [hserved, hplayed, hoverrun] at hstep
  refine ⟨by rw [hserved, hplayed], ?_⟩
  have hfresh : (((60 : ℕ) : ℚ) - ((0 : ℕ) : ℚ) - (((15 : ℕ) : ℚ) - ((0 : ℕ) : ℚ))) *
      kTickSeconds < 2 * kTickSeconds + (1 - (1 / 4 - kTickSeconds)) := hstep
  linarith only [hfresh]

end MainLoop

end UntitledGame.Server
