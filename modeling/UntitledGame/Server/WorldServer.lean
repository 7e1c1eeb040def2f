import UntitledGame.Server.DbLink
import UntitledGame.Server.TcpServer
import UntitledGame.Server.Datagrams
import UntitledGame.Client.Replication

/-!
# The world server

The main loop of the world server as a step function: its state is the set of
local variables of `main`, and an event is one piece of work that an iteration of
the loop does (a connection accepted, a message popped from a stream, a reply
from the database, a datagram, a tick, a release or timeout pass). Every
iteration is a sequence of events, so a statement about every list of events
covers every iteration, whatever the sockets and the clock do. The console on
stdin is in `Console`.

A callback that waits for a reply is a `Handler`: it holds what the closure
captured.

## Implementation notes

`arrivals` (the TCP messages handled so far), `joins` (the tokens that players
were created with) and the `request` numbers, which count `arrivals`, are not
part of the program. No step reads them.
-/

namespace UntitledGame.Server

open Net Sim Client
open Std (ExtTreeMap)

/-- A player in the world. -/
structure Player (F : Type*) where
  playerId : Nat
  accountId : Nat
  username : Bytes
  token : Bytes
  connection : Nat
  udpBound : Bool
  udpAddress : Address
  outgoingSequence : UInt32
  lastUdpPacket : F
  request : Nat
  deriving DecidableEq, Repr

structure DelayedPacket (F : Type*) where
  dueAt : F
  address : Address
  data : Bytes
  deriving DecidableEq, Repr

structure DelayedInput (F : Type*) where
  dueAt : F
  playerId : Nat
  input : CharacterInput F
  deriving DecidableEq, Repr

/-- The callbacks of the world server, with what they captured. -/
inductive Handler where
  | join (request id : Nat) (token : Bytes)
  | setLatency (request id : Nat) (milliseconds : UInt32)
  | command (request id : Nat) (command : WorldMessage) (timeCommand : UInt8) (value : UInt32)
  | sessionDeleted (request : Nat)
  deriving DecidableEq, Repr

/-- The configuration, and the functions that are defined elsewhere. -/
structure Setup (F : Type*) where
  phys : Physics F
  toBits : F → UInt32
  ofBits : UInt32 → F
  udpPort : UInt16
  udpTimeoutSeconds : UInt32
  timeSpeed : F

/-- The readings of the clocks that one piece of work takes. -/
structure Clocks (F : Type*) where
  clock : ClockReading F
  steadySeconds : F
  nowMs : UInt64
  deriving DecidableEq, Repr

structure WorldServer (F : Type*) where
  server : TcpServer
  dbClient : DbClient Handler
  simulation : Simulation F
  simulatedLatencyMs : UInt32
  delayedOutgoing : List (DelayedPacket F)
  delayedInputs : List (DelayedInput F)
  playersByConnection : ExtTreeMap Nat (Player F)
  connectionByPlayer : ExtTreeMap Nat Nat
  nextPlayerId : Nat
  datagrams : List (Address × Bytes)
  arrivals : List (Nat × Message)
  joins : List Bytes

namespace WorldServer

section Payloads

open ByteReader

/-- The fields of a `JoinRequest`, and whether a read failed. -/
def readJoinRequest : StateM ByteReader (UInt32 × Bytes × Bool) := do
  let version ← u32
  let token ← string
  return (version, token, ← failed)

def readSetLatencyRequest : StateM ByteReader (Bytes × UInt32 × Bool) := do
  let token ← string
  let milliseconds ← u32
  return (token, milliseconds, ← failed)

/-- Only an `AdminSetTimeRequest` has fields behind the token. -/
def readCommandRequest (command : WorldMessage) : StateM ByteReader (Bytes × UInt8 × UInt32 × Bool) :=
  do
  let token ← string
  let timeCommand ← if command = .adminSetTimeRequest then u8 else pure 0
  let value ← if command = .adminSetTimeRequest then f32 else pure 0
  return (token, timeCommand, value, ← failed)

def joinResponse (result : JoinResult) (playerId : Nat) (udpPort : UInt16) (username : Bytes)
    (entityId : UInt32) : Bytes :=
  ByteWriter.u8 result.toU8 ++ ByteWriter.u64 (UInt64.ofNat playerId) ++ ByteWriter.u16 udpPort ++
    ByteWriter.string username ++ ByteWriter.u32 entityId

/-- Compares without an early exit. -/
def constantTimeEquals (a b : Bytes) : Bool :=
  if a.length ≠ b.length then false
  else (List.zipWith (· ^^^ ·) a b).foldl (· ||| ·) 0 = 0

end Payloads

variable {F : Type*} [Scalar F] (setup : Setup F)

/-- The state in which the main loop starts. -/
def init (now : ClockReading F) : WorldServer F where
  server := .listening
  dbClient := .connected
  simulation := Simulation.init setup.phys setup.timeSpeed now
  simulatedLatencyMs := 0
  delayedOutgoing := []
  delayedInputs := []
  playersByConnection := ∅
  connectionByPlayer := ∅
  nextPlayerId := 1
  datagrams := []
  arrivals := []
  joins := []

/-- The entry of the first player that is bound to the address. -/
def findPlayerByUdp (w : WorldServer F) (source : Address) : Option (Nat × Player F) :=
  w.playersByConnection.toList.find? fun p => p.2.udpBound && p.2.udpAddress = source

/-- Takes the player of a connection out of the three tables. -/
def removePlayer (w : WorldServer F) (id : Nat) : WorldServer F :=
  match w.playersByConnection[id]? with
  | none => w
  | some player =>
      { w with
        simulation := w.simulation.removePlayer player.playerId
        connectionByPlayer := w.connectionByPlayer.erase player.playerId
        playersByConnection := w.playersByConnection.erase id }

def send (w : WorldServer F) (id : Nat) (type : WorldMessage) (payload : Bytes) : WorldServer F :=
  { w with server := w.server.send id type.toU16 payload }

/-- A refusal: no player, no port, no body. -/
def refuseJoin (w : WorldServer F) (id : Nat) (result : JoinResult) : WorldServer F :=
  w.send id .joinResponse (joinResponse result 0 0 [] 0)

def replyLatency (w : WorldServer F) (id : Nat) (result : UInt8) : WorldServer F :=
  w.send id .adminSetLatencyResponse (ByteWriter.u8 result ++ ByteWriter.u32 w.simulatedLatencyMs)

/-- Only a status response says more than the clock. -/
def replyCommand (w : WorldServer F) (id : Nat) (command : WorldMessage) (result : UInt8) :
    WorldServer F :=
  let clock := ByteWriter.u8 result ++ ByteWriter.f32 (setup.toBits w.simulation.mTimeOfDay) ++
    ByteWriter.f32 (setup.toBits w.simulation.mTimeSpeed)
  if command = .adminSetTimeRequest then w.send id .adminSetTimeResponse clock
  else
    w.send id .adminStatusResponse (clock ++
      ByteWriter.u16 (UInt16.ofNat w.simulation.mPlayers.size) ++
      ByteWriter.u32 w.simulation.mTick ++ ByteWriter.u32 w.simulatedLatencyMs)

def lookupSession (w : WorldServer F) (request : Nat) (token : Bytes) (handler : Handler) :
    WorldServer F :=
  { w with dbClient := w.dbClient.call request (.sessionLookup token) handler }

/-- `WorldMessage::JoinRequest`: everything but the last branch answers at once or not at all. -/
def onJoinRequest (w : WorldServer F) (request id : Nat) (data : Bytes) : WorldServer F :=
  let (version, token, failed) := (readJoinRequest (.start data)).1
  if failed then w.refuseJoin id .serverError
  else if version ≠ kProtocolVersion then w.refuseJoin id .versionMismatch
  else if id ∈ w.playersByConnection then w
  else w.lookupSession request token (.join request id token)

def onSetLatencyRequest (w : WorldServer F) (request id : Nat) (data : Bytes) : WorldServer F :=
  let (token, milliseconds, failed) := (readSetLatencyRequest (.start data)).1
  if failed then w.replyLatency id 1
  else w.lookupSession request token (.setLatency request id milliseconds)

/-- `AdminSetTimeRequest` and `AdminStatusRequest`. -/
def onCommandRequest (w : WorldServer F) (request id : Nat) (command : WorldMessage)
    (data : Bytes) : WorldServer F :=
  let (token, timeCommand, value, failed) := (readCommandRequest command (.start data)).1
  if failed then w.replyCommand setup id command 1
  else w.lookupSession request token (.command request id command timeCommand value)

def onLogoutRequest (w : WorldServer F) (id : Nat) : WorldServer F :=
  (w.send id .logoutResponse []).removePlayer id

/-- `callbacks.onMessage`. -/
def onMessage (w : WorldServer F) (id : Nat) (m : Message) : WorldServer F :=
  let request := w.arrivals.length
  let w := { w with arrivals := w.arrivals ++ [(id, m)] }
  match WorldMessage.ofU16 m.type with
  | some .joinRequest => w.onJoinRequest request id m.payload
  | some .adminSetLatencyRequest => w.onSetLatencyRequest request id m.payload
  | some .adminSetTimeRequest => w.onCommandRequest setup request id .adminSetTimeRequest m.payload
  | some .adminStatusRequest => w.onCommandRequest setup request id .adminStatusRequest m.payload
  | some .logoutRequest => w.onLogoutRequest id
  | _ => w

/-- The end of a successful join. The player's entry is emplaced, the other two are not. -/
def join (w : WorldServer F) (request id : Nat) (token : Bytes) (session : Session) (now : F) :
    WorldServer F :=
  let playerId := w.nextPlayerId
  let player : Player F :=
    ⟨playerId, session.accountId, session.username, token, id, false, ⟨0, 0⟩, 0, now, request⟩
  let added := w.simulation.addPlayer setup.phys playerId
  let w := { w with
    nextPlayerId := playerId + 1
    connectionByPlayer := w.connectionByPlayer.insert playerId id
    playersByConnection := w.playersByConnection.insertIfNew id player
    simulation := added.1
    joins := w.joins ++ [token] }
  let w := w.send id .joinResponse
    (joinResponse .success playerId setup.udpPort session.username added.2)
  { w with dbClient := w.dbClient.call request (.sessionDelete token) (.sessionDeleted request) }

def onJoinLookup (w : WorldServer F) (request id : Nat) (token : Bytes) (now : Clocks F) :
    Option (Bool × Session) → WorldServer F
  | none => w.refuseJoin id .serverError
  | some (false, _) => w.refuseJoin id .invalidSession
  | some (true, session) => w.join setup request id token session now.steadySeconds

def onLatencyLookup (w : WorldServer F) (id : Nat) (milliseconds : UInt32) :
    Option (Bool × Session) → WorldServer F
  | some (true, session) =>
      if session.permissionLevel < PermissionLevel.gameMaster.toU8 then w.replyLatency id 2
      else ({ w with simulatedLatencyMs := min milliseconds 2000 } : WorldServer F).replyLatency id 0
  | _ => w.replyLatency id 1

def clamp (value low high : F) : F := if value < low then low else if high < value then high else value

/-- What an authorised command does to the clock; a status request does nothing. -/
def runCommand (s : Simulation F) (command : WorldMessage) (timeCommand : UInt8) (value : F)
    (now : ClockReading F) : Simulation F :=
  if command = .adminSetTimeRequest then
    match TimeCommand.ofU8 timeCommand with
    | some .reset => s.resetClock now
    | some .speed => s.setTimeSpeed (clamp value 0.0 20000.0) now
    | _ => s.setTimeOfDay setup.phys value now
  else s

def onCommandLookup (w : WorldServer F) (id : Nat) (command : WorldMessage) (timeCommand : UInt8)
    (value : UInt32) (now : Clocks F) : Option (Bool × Session) → WorldServer F
  | some (true, session) =>
      if session.permissionLevel < PermissionLevel.gameMaster.toU8 then
        w.replyCommand setup id command 2
      else
        ({ w with
            simulation := runCommand setup w.simulation command timeCommand (setup.ofBits value)
              now.clock } : WorldServer F).replyCommand setup id command 0
  | _ => w.replyCommand setup id command 1

/-- A callback is invoked; `none` stands for `ok = false`. -/
def onReply (w : WorldServer F) (now : Clocks F) (handler : Handler) (reply : Option DbReply) :
    WorldServer F :=
  match handler with
  | .join request id token => w.onJoinLookup setup request id token now (sessionLookupResult reply)
  | .setLatency _ id milliseconds => w.onLatencyLookup id milliseconds (sessionLookupResult reply)
  | .command _ id command timeCommand value =>
      w.onCommandLookup setup id command timeCommand value now (sessionLookupResult reply)
  | .sessionDeleted _ => w

/-- `dbClient.poll()` on a reply. -/
def onDbReply (w : WorldServer F) (requestId : Nat) (reply : DbReply) (now : Clocks F) :
    WorldServer F :=
  match w.dbClient.answer requestId with
  | none => w
  | some (handler, dbClient) => onReply setup { w with dbClient := dbClient } now handler (some reply)

/-- The link drops, every callback fails, and the loop waits until the link is up again. -/
def onDbLost (w : WorldServer F) (now : Clocks F) : WorldServer F :=
  w.dbClient.pendingHandlers.foldl (fun w handler => onReply setup w now handler none)
    { w with dbClient := w.dbClient.reconnected }

/-- `ClientHello`: binds the address if the token is the player's. -/
def onClientHello (w : WorldServer F) (body : Bytes) (source : Address) (now : Clocks F) :
    WorldServer F :=
  let (hello, failed) := (readClientHello (.start body)).1
  if failed then w
  else
    match w.connectionByPlayer[hello.playerId.toNat]? with
    | none => w
    | some connection =>
        match w.playersByConnection[connection]? with
        | none => w
        | some player =>
            if !constantTimeEquals player.token hello.token then w
            else
              { w with
                playersByConnection := w.playersByConnection.insert connection
                  { player with
                    udpBound := true
                    udpAddress := source
                    lastUdpPacket := now.steadySeconds } }

/-- The input of a `ClientInput`, as it is handed on. -/
def playerInput (input : ClientInput) : CharacterInput F where
  sequence := input.sequence
  moveForward := clamp (setup.ofBits input.moveForward) (-1.0) 1.0
  moveRight := clamp (setup.ofBits input.moveRight) (-1.0) 1.0
  yaw := setup.ofBits input.yaw
  jump := input.buttons &&& kInputJump ≠ 0
  sprint := input.buttons &&& kInputSprint ≠ 0

def latencySeconds (w : WorldServer F) : F := (w.simulatedLatencyMs.toNat : F) / 1000.0

def onClientInput (w : WorldServer F) (player : Player F) (body : Bytes) (now : Clocks F) :
    WorldServer F :=
  let (input, failed) := (readClientInput (.start body)).1
  if failed || input.claimedId.toNat ≠ player.playerId then w
  else if 0 < w.simulatedLatencyMs then
    { w with delayedInputs := w.delayedInputs ++
        [⟨now.steadySeconds + w.latencySeconds, player.playerId, playerInput setup input⟩] }
  else
    { w with simulation := w.simulation.setInput player.playerId (playerInput setup input) }

/-- The server's receive buffer. -/
def kDatagramSize : Nat := 2048

/-- One turn of the loop that drains inbound UDP. -/
def onDatagram (w : WorldServer F) (data : Bytes) (source : Address) (now : Clocks F) :
    WorldServer F :=
  let data := data.take kDatagramSize
  match readUdpHeader data with
  | none => w
  | some (header, bodyOffset) =>
      let body := data.drop bodyOffset
      if WorldMessage.ofU16 header.type = some .clientHello then w.onClientHello body source now
      else
        match w.findPlayerByUdp source with
        | none => w
        | some (connection, player) =>
            let player := { player with lastUdpPacket := now.steadySeconds }
            let w := { w with
              playersByConnection := w.playersByConnection.insert connection player }
            if WorldMessage.ofU16 header.type = some .clientInput then
              w.onClientInput setup player body now
            else w

/-- The snapshot goes to one player, now or after the simulated latency. -/
def sendSnapshot (snapshot : Snapshot UInt32) (now : Clocks F) (w : WorldServer F)
    (entry : Nat × Player F) : WorldServer F :=
  let (connection, player) := entry
  if !player.udpBound then w
  else
    let packet := Replication.snapshotPacket player.outgoingSequence snapshot
    let w : WorldServer F := { w with
      playersByConnection := w.playersByConnection.insert connection
        { player with outgoingSequence := player.outgoingSequence + 1 } }
    if 0 < w.simulatedLatencyMs then
      { w with delayedOutgoing := w.delayedOutgoing ++
          [⟨now.steadySeconds + w.latencySeconds, player.udpAddress, packet⟩] }
    else { w with datagrams := w.datagrams ++ [(player.udpAddress, packet)] }

def tickSeconds : F := 1.0 / (kServerTickHz : F)

/-- One turn of the tick loop. -/
def onTick (w : WorldServer F) (now : Clocks F) : WorldServer F :=
  let w := { w with simulation := w.simulation.step setup.phys tickSeconds now.clock }
  let snapshot := Replication.outgoing setup.phys setup.toBits w.simulation now.nowMs
  w.playersByConnection.toList.foldl (sendSnapshot snapshot now) w

/-- What the simulated link has held long enough goes on. -/
def release (w : WorldServer F) (now : F) : WorldServer F :=
  { w with
    simulation := (w.delayedInputs.takeWhile (·.dueAt ≤ now)).foldl
      (fun s d => s.setInput d.playerId d.input) w.simulation
    delayedInputs := w.delayedInputs.dropWhile (·.dueAt ≤ now)
    datagrams := w.datagrams ++
      (w.delayedOutgoing.takeWhile (·.dueAt ≤ now)).map fun d => (d.address, d.data)
    delayedOutgoing := w.delayedOutgoing.dropWhile (·.dueAt ≤ now) }

/-- A player whose UDP has gone silent is removed and its connection closed. -/
def timeOut (w : WorldServer F) (connection : Nat) : WorldServer F :=
  let w := w.removePlayer connection
  { w with server := w.server.closeConnection connection }

def sweep (w : WorldServer F) (now : F) : WorldServer F :=
  let deadline := now - (setup.udpTimeoutSeconds.toNat : F)
  let timedOut := (w.playersByConnection.toList.filter fun p =>
    p.2.udpBound && p.2.lastUdpPacket < deadline).map (·.1)
  timedOut.foldl timeOut w

/-- One entry of the list of connections to close. -/
def disconnect (w : WorldServer F) (id : Nat) : WorldServer F :=
  if id ∈ w.server.mConnections then
    let w := w.removePlayer id
    { w with server := w.server.erase id }
  else w

/-- The end of `TcpServer::poll`. -/
def closeDeferred (w : WorldServer F) : WorldServer F :=
  let w := w.server.mClosing.foldl disconnect w
  { w with server := { w.server with mClosing := [] } }

inductive Event (F : Type*) where
  | accept
  | message (id : Nat) (m : Message)
  | hangUp (id : Nat)
  | closeDeferred
  | reply (requestId : Nat) (reply : DbReply) (now : Clocks F)
  | dbLost (now : Clocks F)
  | datagram (data : Bytes) (source : Address) (now : Clocks F)
  | tick (now : Clocks F)
  | release (now : F)
  | sweep (now : F)
  deriving DecidableEq, Repr

/-- Messages come, and a stream fails, on connections that are there. -/
def step (w : WorldServer F) : Event F → WorldServer F
  | .accept => { w with server := w.server.accept }
  | .message id m => if id ∈ w.server.mConnections then w.onMessage setup id m else w
  | .hangUp id =>
      if id ∈ w.server.mConnections then { w with server := w.server.closeConnection id } else w
  | .closeDeferred => w.closeDeferred
  | .reply requestId reply now => w.onDbReply setup requestId reply now
  | .dbLost now => w.onDbLost setup now
  | .datagram data source now => w.onDatagram setup data source now
  | .tick now => w.onTick setup now
  | .release now => w.release now
  | .sweep now => w.sweep setup now

def run (now : ClockReading F) (events : List (Event F)) : WorldServer F :=
  Lib.Runs.run (step setup) (init setup now) events

/-- What a client sends to join. -/
def joinMessage (token : Bytes) : Message :=
  ⟨WorldMessage.joinRequest.toU16, NetClient.joinRequest token⟩

end WorldServer

/-- Level ground, and a float for every whole number. -/
def Setup.level : Setup ℚ := ⟨.level, fun _ => 0, fun bits => bits.toNat, 7003, 30, 1⟩

def Clocks.noon : Clocks ℚ := ⟨⟨0, 1 / 2⟩, 0, 0⟩

end UntitledGame.Server
