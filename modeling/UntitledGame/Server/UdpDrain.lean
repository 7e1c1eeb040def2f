import UntitledGame.Lib.Queues
import UntitledGame.Client.Isolation
import UntitledGame.Server.WorldServer

/-!
# The loops that drain a UDP socket

The world server and the client each take datagrams from their socket until
nothing is waiting. They learn that from `UdpSocket::receiveFrom`, which sets the
size to zero then, after a refusal by the peer, and for a datagram that is empty.
So an empty datagram, which anyone can send, ends the loop as an empty queue
does, and what waits behind it stays there until the next turn.

A socket holds a queue of datagrams. `recvfrom` returns them in order and would
block after the last, which ends the loops (`exits_wouldBlock`), as the end of
the list ends `Queues.drain`.
-/

namespace UntitledGame.Server.UdpDrain

open Net Client WorldServer
open Lib.Queues (drain)

/-- What `recvfrom` on a socket that does not block comes to. -/
inductive Recvfrom where
  | received (source : Address) (data : Bytes)
  | wouldBlock
  | connRefused
  | error
  deriving DecidableEq, Repr

/-- `UdpSocket::receiveFrom`: whether it succeeded, what it wrote to the buffer, and the sender. -/
def receiveFrom (capacity : Nat) : Recvfrom → Bool × Bytes × Option Address
  | .received source data => (true, data.take capacity, some source)
  | .wouldBlock => (true, [], none)
  | .connRefused => (true, [], none)
  | .error => (false, [], none)

/-- The exit test of the loops, `!receiveFrom(...) || size == 0`. -/
def exits (capacity : Nat) (result : Recvfrom) : Bool :=
  let (ok, buffer, _) := receiveFrom capacity result
  !ok || buffer.length = 0

/-- A datagram in the queue of the server's socket, and the clocks when it is handled. -/
structure Waiting (F : Type*) where
  source : Address
  data : Bytes
  now : Clocks F
  deriving DecidableEq, Repr

section Loops

variable {F : Type*} [Scalar F]

/-- The inbound loop of the world server, and what it leaves in the socket. -/
def drainInbound (setup : Setup F) (w : WorldServer F) (queue : List (Waiting F)) :
    WorldServer F × List (Waiting F) :=
  drain (fun d => exits kDatagramSize (.received d.source d.data))
    (fun w d => w.onDatagram setup d.data d.source d.now) w queue

/-- The world server after each datagram in turn. -/
def handleInbound (setup : Setup F) (w : WorldServer F) (queue : List (Waiting F)) :
    WorldServer F :=
  Lib.Runs.run (step setup) w (queue.map fun d => .datagram d.data d.source d.now)

/-- The receive loop of `NetClient::pumpWorld`, and what it leaves in the socket. -/
def drainSnapshots (c : NetClient) (now : ℚ) (queue : List (Address × Bytes)) :
    NetClient × List (Address × Bytes) :=
  drain (fun d => exits NetClient.kReceiveBuffer (.received d.1 d.2))
    (fun c d => c.handleDatagram now (NetClient.receiveFrom d.2)) c queue

/-- The client after each datagram in turn. -/
def handleSnapshots (c : NetClient) (now : ℚ) (queue : List (Address × Bytes)) : NetClient :=
  Lib.Runs.run (fun c d => c.handleDatagram now (NetClient.receiveFrom d.2)) c queue

theorem exits_wouldBlock (capacity : Nat) : exits capacity .wouldBlock = true := rfl

/-- A datagram goes on with the loop if and only if it is not empty. -/
theorem exits_received {capacity : Nat} (hcapacity : capacity ≠ 0) (source : Address)
    (data : Bytes) : exits capacity (.received source data) = false ↔ data ≠ [] := by
  cases data with
  | nil => simp [exits, receiveFrom]
  | cons b rest => simp [exits, receiveFrom, hcapacity]

/-- There is no header in an empty datagram. -/
theorem onDatagram_nil (setup : Setup F) (w : WorldServer F) (source : Address)
    (now : Clocks F) : w.onDatagram setup [] source now = w := rfl

theorem handleDatagram_nil (c : NetClient) (now : ℚ) : c.handleDatagram now [] = c := rfl

/-- The loop of `NetClient` is the one that its polls run. -/
theorem drainSnapshots_eq (c : NetClient) (now : ℚ) (queue : List (Address × Bytes)) :
    drainSnapshots c now queue = (c.receiveDatagrams now queue, Isolation.leftover queue) := by
  induction queue generalizing c with
  | nil => rfl
  | cons d rest ih =>
      have hexits : exits NetClient.kReceiveBuffer (.received d.1 d.2) =
          decide ((NetClient.receiveFrom d.2).length = 0) := rfl
      rw [drainSnapshots, drain, hexits]
      by_cases hempty : (NetClient.receiveFrom d.2).length = 0
      · rw [if_pos (by simpa using hempty), Isolation.receiveDatagrams_cons_empty hempty,
          Isolation.leftover_cons_empty hempty]
      · rw [if_neg (by simpa using hempty), Isolation.receiveDatagrams_cons hempty,
          Isolation.leftover_cons hempty]
        exact ih _

/-- Each loop handles every datagram that waits, in order, before it exits, if and only if none of
them with another one behind it is empty. -/
theorem drains_iff (setup : Setup F) (w : WorldServer F) (inbound : List (Waiting F))
    (c : NetClient) (now : ℚ) (snapshots : List (Address × Bytes)) :
    (drainInbound setup w inbound = (handleInbound setup w inbound, []) ↔
        ∀ d ∈ inbound.dropLast, d.data ≠ []) ∧
      (drainSnapshots c now snapshots = (handleSnapshots c now snapshots, []) ↔
        ∀ d ∈ snapshots.dropLast, d.2 ≠ []) := by
  have hserver : kDatagramSize ≠ 0 := by decide
  have hclient : NetClient.kReceiveBuffer ≠ 0 := by decide
  have hempty : ∀ {capacity : Nat}, capacity ≠ 0 → ∀ {source : Address} {data : Bytes},
      exits capacity (.received source data) = true → data = [] := by
    intro capacity hcapacity source data hexits
    by_contra hdata
    rw [(exits_received hcapacity source data).mpr hdata] at hexits
    cases hexits
  constructor
  · rw [handleInbound, Lib.Runs.run, List.foldl_map]
    refine (Lib.Queues.drain_eq_run_iff ?_).trans ?_
    · intro v d hexits
      rw [hempty hserver hexits]
      exact onDatagram_nil setup v d.source d.now
    · exact forall₂_congr fun d _ => exits_received hserver d.source d.data
  · refine (Lib.Queues.drain_eq_run_iff ?_).trans ?_
    · intro v d hexits
      rw [hempty hclient hexits]
      exact handleDatagram_nil v now
    · exact forall₂_congr fun d _ => exits_received hclient d.1 d.2

end Loops

section Runs

/-- A player that has joined and bound its address. -/
def bound : WorldServer ℚ :=
  run .level Clocks.noon.clock
    [.accept, .message 1 (joinMessage [1]), .reply 1 (.sessionLookup true ⟨1, [97], 0⟩) .noon,
      .datagram (NetClient.helloPacket 1 [1]) ⟨1, 7⟩ .noon]

/-- An empty datagram from somebody else, and an input behind it. -/
def stalled : List (Waiting ℚ) :=
  [⟨⟨9, 9⟩, [], .noon⟩, ⟨⟨1, 7⟩, NetClient.inputPacket 1 ⟨1, 0, 0, 0, false, false⟩, .noon⟩]

/-- The input stays in the socket, and so does a snapshot for the client. -/
theorem empty_datagram_stalls :
    drainInbound .level bound stalled ≠ (handleInbound .level bound stalled, []) ∧
      (((drainInbound .level bound stalled).1.simulation.mPlayers[1]?).map (·.input.sequence),
        (drainInbound .level bound stalled).2.length) = (some 0, 1) ∧
      ((handleInbound .level bound stalled).simulation.mPlayers[1]?).map (·.input.sequence) =
        some 1 ∧
      (drainSnapshots (NetClient.init 0 0) 0
        [(⟨9, 9⟩, []), (⟨1, 7⟩, Replication.snapshotPacket 1 ⟨1, 0, 0, []⟩)]).2.length = 1 := by
  refine ⟨?_, by decide +kernel, by decide +kernel, by decide +kernel⟩
  intro h
  have hleft : (drainInbound .level bound stalled).2.length = 1 := by decide +kernel
  rw [h] at hleft
  exact absurd hleft (by decide)

end Runs

end UntitledGame.Server.UdpDrain
