import UntitledGame.Lib.Pacing
import UntitledGame.Server.UdpDrain
import UntitledGame.Server.SimulatedLink

/-!
# The turns of the main loop

A turn of `while (gRunning)` polls the sockets and the database, reads the console,
drains the UDP socket, runs the ticks that are due, lets the simulated link go on
and drops the players that are silent, in this order. What a turn leaves behind it
is the world, the datagrams that its drain did not reach, and the time that no tick
has used up yet.

A turn is a list of the events that `SimulatedLink` runs (`turn_world`), so what
holds of every list of events holds of every run of turns.

## Implementation notes

`ticks`, the ticks so far, is not part of the program. A turn is given the readings
of the clocks that its work takes, one function for each kind of work. Times are exact:
the accumulator and the seconds of a turn are rationals where the program has doubles.
A drain ends where the socket is empty or has an empty datagram in front; that `recvfrom`
reports an error, which would end it as well, is assumed not to happen.
-/

namespace UntitledGame.Server

open Net Sim
open Client (Address)

/-- What `TcpServer::poll` finds on the sockets. -/
inductive TcpWork where
  | accept
  | message (id : Nat) (m : Message)
  | hangUp (id : Nat)
  deriving DecidableEq, Repr

/-- What a turn finds. -/
structure LoopTurn (F : Type*) where
  tcp : List TcpWork
  replies : List (Nat × DbReply)
  lost : Bool
  lines : List (Bytes × Option Bytes)
  arrived : List (Address × Bytes)
  elapsed : ℚ
  repliedAt : Nat → Clocks F
  lostAt : Clocks F
  typedAt : Nat → ClockReading F
  handledAt : Nat → Clocks F
  tickedAt : Nat → Clocks F
  releasedAt : F
  sweptAt : F

structure MainLoop (F : Type*) where
  world : WorldServer F
  socket : List (Address × Bytes)
  accumulator : ℚ
  ticks : Nat

namespace MainLoop

variable {F : Type*} [Scalar F] (atof : Bytes → F) (setup : Setup F)

def kTickSeconds : ℚ := 1 / kServerTickHz

/-- The turns of the tick loop that the cap on the accumulator leaves. -/
def kMaxTicks : Nat := 15

def TcpWork.event : TcpWork → WorldServer.Event F
  | .accept => .accept
  | .message id m => .message id m
  | .hangUp id => .hangUp id

/-- `server.poll(1)`. -/
def pollTcp (w : WorldServer F) (t : LoopTurn F) : WorldServer F :=
  (t.tcp.foldl (fun w work => w.step setup (TcpWork.event work)) w).closeDeferred

/-- `dbClient.poll()`, and the wait for the link when it is down. -/
def pollDatabase (w : WorldServer F) (t : LoopTurn F) : WorldServer F :=
  let w := t.replies.zipIdx.foldl
    (fun w reply => w.onDbReply setup reply.1.1 reply.1.2 (t.repliedAt reply.2)) w
  if t.lost then w.onDbLost setup t.lostAt else w

/-- The lines that were typed since the last turn. -/
def readConsole (w : WorldServer F) (t : LoopTurn F) : WorldServer F :=
  t.lines.zipIdx.foldl (fun w line =>
    Console.runConsoleCommand atof setup w line.1.1 line.1.2 (t.typedAt line.2)) w

/-- What waits in the socket, with the clocks when it is handled. -/
def queued (m : MainLoop F) (t : LoopTurn F) : List (UdpDrain.Waiting F) :=
  (m.socket ++ t.arrived).zipIdx.map fun d => ⟨d.1.1, d.1.2, t.handledAt d.2⟩

def drainUdp (w : WorldServer F) (queue : List (UdpDrain.Waiting F)) (m : MainLoop F) :
    MainLoop F :=
  let drained := UdpDrain.drainInbound setup w queue
  { m with world := drained.1, socket := drained.2.map fun d => (d.source, d.data) }

/-- One turn of the tick loop. -/
def tick (now : Clocks F) (m : MainLoop F) : MainLoop F :=
  { m with
    accumulator := m.accumulator - kTickSeconds
    world := m.world.onTick setup now
    ticks := m.ticks + 1 }

/-- `while (accumulator >= tickSeconds)`, for at most `fuel` turns. -/
def tickLoop (tickedAt : Nat → Clocks F) : Nat → MainLoop F → MainLoop F
  | 0, m => m
  | fuel + 1, m =>
      if m.accumulator < kTickSeconds then m
      else tickLoop (fun i => tickedAt (i + 1)) fuel (tick setup (tickedAt 0) m)

/-- One turn of the main loop. -/
def turn (m : MainLoop F) (t : LoopTurn F) : MainLoop F :=
  let polled := readConsole atof setup (pollDatabase setup (pollTcp setup m.world t) t) t
  let m := drainUdp setup polled (queued m t) m
  let accumulated := m.accumulator + t.elapsed
  let m := { m with accumulator := if 1 / 4 < accumulated then 1 / 4 else accumulated }
  let m := tickLoop setup t.tickedAt kMaxTicks m
  { m with world := (m.world.release t.releasedAt).sweep setup t.sweptAt }

/-- The state in which the loop is entered. -/
def init (start : ClockReading F) : MainLoop F := ⟨WorldServer.init setup start, [], 0, 0⟩

def run (start : ClockReading F) (turns : List (LoopTurn F)) : MainLoop F :=
  Lib.Runs.run (turn atof setup) (init setup start) turns

section Events

open SimulatedLink (Event)

/-- The ticks that are due. -/
def due : Nat → ℚ → Nat
  | 0, _ => 0
  | fuel + 1, accumulator =>
      if accumulator < kTickSeconds then 0 else due fuel (accumulator - kTickSeconds) + 1

/-- The datagrams that a drain handles. -/
def handled (queue : List (UdpDrain.Waiting F)) : List (UdpDrain.Waiting F) :=
  queue.takeWhile fun d => d.data ≠ []

/-- The accumulator as the tick loop finds it. -/
def charged (m : MainLoop F) (t : LoopTurn F) : ℚ :=
  if 1 / 4 < m.accumulator + t.elapsed then 1 / 4 else m.accumulator + t.elapsed

/-- The work of a turn up to its drain. -/
def polledWork (t : LoopTurn F) : List (Event F) :=
  t.tcp.map (fun work => .loop (TcpWork.event work)) ++ [.loop .closeDeferred] ++
    (t.replies.zipIdx.map fun reply => .loop (.reply reply.1.1 reply.1.2 (t.repliedAt reply.2))) ++
    (if t.lost then [.loop (.dbLost t.lostAt)] else []) ++
    t.lines.zipIdx.map fun line => .line line.1.1 line.1.2 (t.typedAt line.2)

/-- The work of a turn, in the order in which it is done. -/
def work (m : MainLoop F) (t : LoopTurn F) : List (Event F) :=
  polledWork t ++
    ((handled (queued m t)).map fun d => .loop (.datagram d.data d.source d.now)) ++
    ((List.range (due kMaxTicks (charged m t))).map fun i => .loop (.tick (t.tickedAt i))) ++
    [.loop (.release t.releasedAt), .loop (.sweep t.sweptAt)]

theorem pollTcp_run (w : WorldServer F) (t : LoopTurn F) :
    pollTcp setup w t = Lib.Runs.run (SimulatedLink.step atof setup) w
      (t.tcp.map (fun work => .loop (TcpWork.event work)) ++ [.loop .closeDeferred]) := by
  rw [Lib.Runs.run_concat, Lib.Runs.run, List.foldl_map]
  rfl

theorem pollDatabase_run (w : WorldServer F) (t : LoopTurn F) :
    pollDatabase setup w t = Lib.Runs.run (SimulatedLink.step atof setup) w
      ((t.replies.zipIdx.map fun reply =>
          .loop (.reply reply.1.1 reply.1.2 (t.repliedAt reply.2))) ++
        if t.lost then [.loop (.dbLost t.lostAt)] else []) := by
  rw [Lib.Runs.run_append, pollDatabase]
  cases t.lost with
  | false =>
      rw [Lib.Runs.run, Lib.Runs.run, List.foldl_map]
      rfl
  | true =>
      rw [Lib.Runs.run, Lib.Runs.run, List.foldl_map]
      rfl

theorem readConsole_run (w : WorldServer F) (t : LoopTurn F) :
    readConsole atof setup w t = Lib.Runs.run (SimulatedLink.step atof setup) w
      (t.lines.zipIdx.map fun line => .line line.1.1 line.1.2 (t.typedAt line.2)) := by
  rw [Lib.Runs.run, List.foldl_map]
  rfl

/-- A drain handles the datagrams in front of the first that is empty. -/
theorem drainInbound_eq (w : WorldServer F) (queue : List (UdpDrain.Waiting F)) :
    UdpDrain.drainInbound setup w queue =
      (UdpDrain.handleInbound setup w (handled queue),
        (queue.dropWhile fun d => d.data ≠ []).tail) := by
  induction queue generalizing w with
  | nil => rfl
  | cons d rest ih =>
      have hcapacity : WorldServer.kDatagramSize ≠ 0 := by decide
      have hexits := UdpDrain.exits_received hcapacity d.source d.data
      rw [UdpDrain.drainInbound, Lib.Queues.drain]
      by_cases hdata : d.data = []
      · rw [if_pos (by simpa [hdata] using hexits), handled, List.takeWhile_cons_of_neg (by simpa),
          List.dropWhile_cons_of_neg (by simpa)]
        rfl
      · rw [if_neg (by simpa using hexits.mpr hdata), handled,
          List.takeWhile_cons_of_pos (by simpa), List.dropWhile_cons_of_pos (by simpa)]
        exact ih _

theorem tickLoop_eq (tickedAt : Nat → Clocks F) (fuel : Nat) (m : MainLoop F) :
    tickLoop setup tickedAt fuel m =
      { m with
        accumulator := m.accumulator - due fuel m.accumulator * kTickSeconds
        world := Lib.Runs.run (WorldServer.step setup) m.world
          ((List.range (due fuel m.accumulator)).map fun i => .tick (tickedAt i))
        ticks := m.ticks + due fuel m.accumulator } := by
  induction fuel generalizing tickedAt m with
  | zero => simp [tickLoop, due]
  | succ fuel ih =>
      rw [tickLoop, due]
      split
      · simp
      · rw [ih]
        simp only [tick, List.range_succ_eq_map, List.map_cons, List.map_map, Lib.Runs.run_cons,
          Nat.cast_succ, Nat.add_assoc, Nat.add_comm 1, MainLoop.mk.injEq, true_and, and_true]
        refine ⟨rfl, ?_⟩
        ring

/-- A turn is a run of the pieces of its work. -/
theorem turn_world (m : MainLoop F) (t : LoopTurn F) :
    (turn atof setup m t).world =
      Lib.Runs.run (SimulatedLink.step atof setup) m.world (work m t) := by
  have hloop : ∀ (w : WorldServer F) (events : List (WorldServer.Event F)),
      Lib.Runs.run (WorldServer.step setup) w events =
        Lib.Runs.run (SimulatedLink.step atof setup) w (events.map .loop) := by
    intro w events
    rw [Lib.Runs.run, Lib.Runs.run, List.foldl_map]
    rfl
  rw [turn, work, polledWork]
  simp only [Lib.Runs.run_append, tickLoop_eq, drainUdp, drainInbound_eq,
    pollTcp_run atof, pollDatabase_run atof, readConsole_run atof, UdpDrain.handleInbound, hloop,
    List.map_map]
  rfl

end Events

end MainLoop

end UntitledGame.Server
