import UntitledGame.Net.Framing
import UntitledGame.Net.Protocol
import UntitledGame.Net.Snapshot

/-!
# `game::NetClient`

Client-side networking: login against the auth server, joining the world with
the token, and the stream of snapshots. The client is driven by `poll`, once a
frame, and never waits.

What the operating system answers during a call is an argument, `Os`: which
sockets are ready, which bytes and datagrams have arrived, and whether a name
resolves or a socket opens. A socket that the client owns is the flag `valid()`.
Floats stay the bit patterns that they are on the wire, and times are exact.

## Implementation notes

`outbox` records the datagrams handed to the UDP socket since the last
`disconnect`; nothing reads it. The bytes that the TCP streams write are not
recorded. A consumer loop pops all messages first and then handles them: every
path that leaves the loop early also drops the stream.
-/

namespace UntitledGame.Client

open Net
open Std (ExtTreeMap)

structure Address where
  ip : UInt32
  port : UInt16
  deriving DecidableEq, Repr

namespace NetClient

inductive State where
  | idle
  | connectingAuth
  | awaitingLogin
  | connectingWorld
  | awaitingJoin
  | inWorld
  | failed
  deriving DecidableEq, Repr

/-- An entity as last reported, and when that report arrived. -/
structure Replicated where
  state : EntityState UInt32
  receivedAt : ℚ
  deriving DecidableEq, Repr

/-- A packet held back to simulate latency. -/
structure DelayedPacket where
  dueAt : ℚ
  data : Bytes
  deriving DecidableEq, Repr

/-- What the operating system does during one call. `udpOpens` has one entry for each UDP
socket that is asked for: whether it opens, and what its peer's name resolves to. -/
structure Os where
  writable : Bool
  connectResult : Bool
  arriving : Bytes
  receives : List Receive
  sends : List Send
  resolve : Option Address
  connect : Bool
  udpOpens : List (Bool × Option Address)
  datagrams : List (Address × Bytes)
  deriving DecidableEq, Repr

/-- A call during which nothing is ready and nothing has arrived. -/
def Os.quiet : Os := ⟨false, false, [], [], [], none, false, [], []⟩

end NetClient

open NetClient in
structure NetClient where
  mState : State
  mError : String
  mAuth : Option MessageStream
  mWorld : Option MessageStream
  mPendingAuthSocket : Bool
  mPendingWorldSocket : Bool
  mUdp : Bool
  mUdpTarget : Address
  mUsername : Bytes
  mPassword : Bytes
  mToken : Bytes
  mWorldHost : Bytes
  mWorldPort : UInt16
  mPlayerId : UInt64
  mOwnEntityId : UInt32
  mInputSequence : UInt32
  mDelayedOutgoing : List DelayedPacket
  mDelayedIncoming : List DelayedPacket
  mFakeLatency : ℚ
  mFakeLoss : ℚ
  mLastPollTime : ℚ
  mEntities : ExtTreeMap UInt32 Replicated
  mTimeOfDay : UInt32
  mLastSnapshotAt : ℚ
  mLastHelloAt : ℚ
  mLastSnapshotSequence : UInt32
  mSnapshotsReceived : UInt32
  outbox : List (Address × Bytes)

namespace NetClient

def kHelloRetrySeconds : ℚ := 1 / 4

/-- The size of the buffer that `pumpWorld` receives datagrams into. -/
def kReceiveBuffer : Nat := 2048

/-- The client after `init` with these settings in its environment. -/
def init (mFakeLatency mFakeLoss : ℚ) : NetClient where
  mState := .idle
  mError := ""
  mAuth := none
  mWorld := none
  mPendingAuthSocket := false
  mPendingWorldSocket := false
  mUdp := false
  mUdpTarget := ⟨0, 0⟩
  mUsername := []
  mPassword := []
  mToken := []
  mWorldHost := []
  mWorldPort := 0
  mPlayerId := 0
  mOwnEntityId := 0
  mInputSequence := 1
  mDelayedOutgoing := []
  mDelayedIncoming := []
  mFakeLatency := mFakeLatency
  mFakeLoss := mFakeLoss
  mLastPollTime := 0
  mEntities := ∅
  mTimeOfDay := 0
  mLastSnapshotAt := 0
  mLastHelloAt := 0
  mLastSnapshotSequence := 0
  mSnapshotsReceived := 0
  outbox := []

def fail (c : NetClient) (message : String) : NetClient :=
  { c with
    mError := message
    mState := .failed
    mAuth := none
    mWorld := none
    mPendingAuthSocket := false
    mPendingWorldSocket := false
    mUdp := false }

/-- Drops every connection, and everything that belongs to the session. -/
def disconnect (c : NetClient) : NetClient :=
  { c with
    mAuth := none
    mWorld := none
    mPendingAuthSocket := false
    mPendingWorldSocket := false
    mUdp := false
    mEntities := ∅
    mDelayedOutgoing := []
    mDelayedIncoming := []
    mToken := []
    mPassword := []
    mPlayerId := 0
    mOwnEntityId := 0
    mInputSequence := 1
    mSnapshotsReceived := 0
    mLastSnapshotSequence := 0
    mState := .idle
    outbox := [] }

def login (c : NetClient) (host : String) (username password : Bytes) (os : Os) : NetClient :=
  let c := { c.disconnect with
    mError := ""
    mUsername := username
    mPassword := password
    mEntities := ∅
    mSnapshotsReceived := 0 }
  match os.resolve with
  | none => c.fail ("cannot resolve " ++ host)
  | some _ =>
      if !os.connect then c.fail "cannot reach auth server"
      else { c with mPendingAuthSocket := true, mState := .connectingAuth }

/-- `sendTo` on the UDP socket; without one the call fails, which nothing looks at. -/
def sendTo (c : NetClient) (packet : Bytes) : NetClient :=
  if c.mUdp then { c with outbox := c.outbox ++ [(c.mUdpTarget, packet)] } else c

def loginRequest (username password : Bytes) : Bytes :=
  ByteWriter.u32 kProtocolVersion ++ ByteWriter.string username ++ ByteWriter.string password

def joinRequest (token : Bytes) : Bytes := ByteWriter.u32 kProtocolVersion ++ ByteWriter.string token

/-- The part of `poll` for the state `ConnectingAuth`. -/
def pollConnectingAuth (c : NetClient) (os : Os) : NetClient :=
  if !os.writable then c
  else if !os.connectResult then c.fail "cannot reach auth server"
  else
    let payload := loginRequest c.mUsername c.mPassword
    let stream := MessageStream.fresh.send ⟨AuthMessage.loginRequest.toU16, payload⟩ [] os.sends
    { c with
      mPendingAuthSocket := false
      mAuth := some stream.1
      mPassword := []
      mState := .awaitingLogin }

/-- The part of `poll` for the state `ConnectingWorld`. -/
def pollConnectingWorld (c : NetClient) (os : Os) : NetClient :=
  if !os.writable then c
  else if !os.connectResult then c.fail "cannot reach world server"
  else
    let payload := joinRequest c.mToken
    let stream := MessageStream.fresh.send ⟨WorldMessage.joinRequest.toU16, payload⟩ [] os.sends
    { c with
      mPendingWorldSocket := false
      mWorld := some stream.1
      mState := .awaitingJoin }

structure LoginResponse where
  result : UInt8
  token : Bytes
  worldHost : Bytes
  worldPort : UInt16
  deriving DecidableEq, Repr

/-- The reads that `pumpAuth` makes, and whether one of them failed. -/
def readLoginResponse : StateM ByteReader (LoginResponse × Bool) := do
  let result ← ByteReader.u8
  let token ← ByteReader.string
  let worldHost ← ByteReader.string
  let worldPort ← ByteReader.u16
  let _accountId ← ByteReader.u64
  return (⟨result, token, worldHost, worldPort⟩, ← ByteReader.failed)

def handleLoginResponse (c : NetClient) (os : Os) (payload : Bytes) : NetClient :=
  let (response, failed) := (readLoginResponse (ByteReader.start payload)).1
  let c := { c with
    mToken := response.token, mWorldHost := response.worldHost, mWorldPort := response.worldPort }
  if failed then c.fail "malformed login response"
  else if response.result ≠ AuthResult.success.toU8 then c.fail (authResultText response.result)
  else
    let c := { c with mAuth := none }
    match os.resolve with
    | none => c.fail "cannot resolve world server"
    | some _ =>
        if !os.connect then c.fail "cannot reach world server"
        else { c with mPendingWorldSocket := true, mState := .connectingWorld }

/-- The loop of `pumpAuth`: the first login response decides. -/
def handleAuth (c : NetClient) (os : Os) : List Message → NetClient
  | [] => c
  | m :: rest =>
      if m.type ≠ AuthMessage.loginResponse.toU16 then handleAuth c os rest
      else handleLoginResponse c os m.payload

def pumpAuth (c : NetClient) (os : Os) : NetClient :=
  match c.mAuth with
  | none => c.fail "auth server closed the connection"
  | some stream =>
      let (stream, _, open_) := stream.pump os.arriving os.receives
      if !open_ then c.fail "auth server closed the connection"
      else handleAuth { c with mAuth := some stream.drain.2 } os stream.drain.1

/-- The datagram that binds this client's UDP address to its session. -/
def helloPacket (playerId : UInt64) (token : Bytes) : Bytes :=
  writeUdpHeader WorldMessage.clientHello.toU16 0 ++ ByteWriter.u64 playerId ++
    ByteWriter.string token

def sendUdpHello (c : NetClient) : NetClient := c.sendTo (helloPacket c.mPlayerId c.mToken)

structure JoinResponse where
  result : UInt8
  playerId : UInt64
  udpPort : UInt16
  username : Bytes
  entityId : UInt32
  deriving DecidableEq, Repr

def readJoinResponse : StateM ByteReader (JoinResponse × Bool) := do
  let result ← ByteReader.u8
  let playerId ← ByteReader.u64
  let udpPort ← ByteReader.u16
  let username ← ByteReader.string
  let entityId ← ByteReader.u32
  return (⟨result, playerId, udpPort, username, entityId⟩, ← ByteReader.failed)

/-- A join response, with what asking for a UDP socket and for its peer gives. -/
def handleJoinResponse (c : NetClient) (now : ℚ) (udpOpen : Bool × Option Address)
    (payload : Bytes) : NetClient :=
  let (response, failed) := (readJoinResponse (ByteReader.start payload)).1
  let c := { c with
    mPlayerId := response.playerId, mUsername := response.username
    mOwnEntityId := response.entityId }
  if failed then c.fail "malformed join response"
  else if response.result ≠ JoinResult.success.toU8 then
    c.fail (if response.result = JoinResult.invalidSession.toU8 then "session rejected"
      else "could not join the world")
  else if !udpOpen.1 then { c with mUdp := false }.fail "cannot open a UDP socket"
  else
    match udpOpen.2 with
    | none => { c with mUdp := true }.fail "cannot resolve the world server's UDP address"
    | some target =>
        { { c with mUdp := true, mUdpTarget := target, mState := .inWorld }.sendUdpHello with
          mLastHelloAt := now, mLastSnapshotAt := now }

/-- The loop over messages in `pumpWorld`; a failure leaves it, and `pumpWorld` with it. -/
def handleWorld (c : NetClient) (now : ℚ) :
    List (Bool × Option Address) → List Message → NetClient
  | _, [] => c
  | udpOpens, m :: rest =>
      match WorldMessage.ofU16 m.type with
      | some .joinResponse =>
          let c := handleJoinResponse c now (udpOpens.headD (false, none)) m.payload
          if c.mState = .failed then c else handleWorld c now udpOpens.tail rest
      | some .disconnect => c.fail "disconnected by the server"
      | _ => handleWorld c now udpOpens rest

/-- `mEntities[entity.id]` is overwritten, or created, with what the snapshot says. -/
def putEntity (now : ℚ) (entities : ExtTreeMap UInt32 Replicated) (entity : EntityState UInt32) :
    ExtTreeMap UInt32 Replicated :=
  entities.insert entity.id ⟨entity, now⟩

def applySnapshotPacket (c : NetClient) (data : Bytes) (sequence : UInt32) (now : ℚ) : NetClient :=
  match decodeSnapshot data with
  | none => c
  | some snapshot =>
      { c with
        mTimeOfDay := snapshot.timeOfDay
        mEntities := snapshot.entities.foldl (putEntity now) c.mEntities
        mLastSnapshotSequence := sequence
        mLastSnapshotAt := now
        mSnapshotsReceived := c.mSnapshotsReceived + 1 }

/-- The body of the loop that receives datagrams; `buffer` holds what was received. -/
def handleDatagram (c : NetClient) (now : ℚ) (buffer : Bytes) : NetClient :=
  match readUdpHeader buffer with
  | none => c
  | some (header, bodyOffset) =>
      if WorldMessage.ofU16 header.type ≠ some .snapshot then c
      else if 0 < c.mSnapshotsReceived && header.sequence ≤ c.mLastSnapshotSequence then c
      else if 0 < c.mFakeLatency then
        { c with
          mDelayedIncoming := c.mDelayedIncoming ++ [⟨now + c.mFakeLatency, buffer.drop bodyOffset⟩]
          mLastSnapshotSequence := header.sequence }
      else c.applySnapshotPacket (buffer.drop bodyOffset) header.sequence now

/-- What `receiveFrom` writes into the client's buffer: the datagram, cut off at its size. -/
def receiveFrom (datagram : Bytes) : Bytes := datagram.take kReceiveBuffer

/-- The loop that receives datagrams; it stops at one of size zero, as at an empty queue. -/
def receiveDatagrams (c : NetClient) (now : ℚ) : List (Address × Bytes) → NetClient
  | [] => c
  | (_, datagram) :: rest =>
      let buffer := receiveFrom datagram
      if buffer.length = 0 then c else receiveDatagrams (c.handleDatagram now buffer) now rest

def flushOutgoing (c : NetClient) (now : ℚ) : NetClient :=
  { (c.mDelayedOutgoing.takeWhile (·.dueAt ≤ now)).foldl (fun c p => c.sendTo p.data) c with
    mDelayedOutgoing := c.mDelayedOutgoing.dropWhile (·.dueAt ≤ now) }

def flushIncoming (c : NetClient) (now : ℚ) : NetClient :=
  { (c.mDelayedIncoming.takeWhile (·.dueAt ≤ now)).foldl
      (fun c p => c.applySnapshotPacket p.data c.mLastSnapshotSequence now) c with
    mDelayedIncoming := c.mDelayedIncoming.dropWhile (·.dueAt ≤ now) }

def flushDelayed (c : NetClient) (now : ℚ) : NetClient := (c.flushOutgoing now).flushIncoming now

/-- The part of `pumpWorld` behind the message loop. -/
def pumpUdp (c : NetClient) (now : ℚ) (datagrams : List (Address × Bytes)) : NetClient :=
  let c :=
    if c.mSnapshotsReceived = 0 && kHelloRetrySeconds < now - c.mLastHelloAt then
      { c.sendUdpHello with mLastHelloAt := now }
    else c
  (c.receiveDatagrams now datagrams).flushDelayed now

def pumpWorld (c : NetClient) (now : ℚ) (os : Os) : NetClient :=
  match c.mWorld with
  | none => c.fail "world server closed the connection"
  | some stream =>
      let (stream, _, open_) := stream.pump os.arriving os.receives
      if !open_ then c.fail "world server closed the connection"
      else
        let c := handleWorld { c with mWorld := some stream.drain.2 } now os.udpOpens stream.drain.1
        if c.mState ≠ .inWorld then c else c.pumpUdp now os.datagrams

/-- One step of the login, join and stream machine. -/
def poll (c : NetClient) (now : ℚ) (os : Os) : NetClient :=
  let c := { c with mLastPollTime := now }
  match c.mState with
  | .connectingAuth => c.pollConnectingAuth os
  | .awaitingLogin => c.pumpAuth os
  | .connectingWorld => c.pollConnectingWorld os
  | .awaitingJoin => c.pumpWorld now os
  | .inWorld => c.pumpWorld now os
  | .idle => c
  | .failed => c

/-- Movement intent as it goes on the wire. -/
structure InputBits where
  sequence : UInt32
  moveForward : UInt32
  moveRight : UInt32
  yaw : UInt32
  jump : Bool
  sprint : Bool
  deriving DecidableEq, Repr

def buttons (jump sprint : Bool) : UInt8 :=
  (if jump then kInputJump else 0) ||| (if sprint then kInputSprint else 0)

def inputPacket (playerId : UInt64) (input : InputBits) : Bytes :=
  writeUdpHeader WorldMessage.clientInput.toU16 input.sequence ++ (ByteWriter.u64 playerId ++
    ByteWriter.u32 input.sequence ++ ByteWriter.f32 input.moveForward ++
    ByteWriter.f32 input.moveRight ++ ByteWriter.f32 input.yaw ++
    ByteWriter.u8 (buttons input.jump input.sprint))

/-- Sends one input. `dropped` is the draw of the simulated loss. -/
def sendInput (c : NetClient) (input : InputBits) (dropped : Bool) : NetClient :=
  if c.mState ≠ .inWorld || !c.mUdp then c
  else if 0 < c.mFakeLoss && dropped then c
  else
    let packet := inputPacket c.mPlayerId input
    if 0 < c.mFakeLatency then
      { c with
        mDelayedOutgoing := c.mDelayedOutgoing ++ [⟨c.mLastPollTime + c.mFakeLatency, packet⟩] }
    else c.sendTo packet

/-- The logout message goes into a stream that is dropped with what it could not write. -/
def logout (c : NetClient) : NetClient := c.disconnect

end NetClient

end UntitledGame.Client
