import UntitledGame.Server.Membership
import UntitledGame.Server.Tasks

/-!
# The turns of the world server

A message that is handled, or a callback that is invoked, answers, admits a player
and answers, asks the database and leaves a callback, or does none of these. `hear`
and `resume` are these choices. They depend on the players and the clock as well as
on the message, but what they do to the connections and to the link is the turn
alone: `onMessage_turn` and `onReply_turn`.
-/

namespace UntitledGame.Server.WorldServer

open Net Sim
open Std (ExtTreeMap)

/-- What a successful join response says, and the token that the player is created with. -/
structure Admission where
  playerId : Nat
  token : Bytes
  username : Bytes
  entityId : UInt32
  deriving DecidableEq, Repr

/-- What handling a message or a reply comes to. `skip` is a join request on a connection that has
a player: nobody answers it. -/
inductive Turn where
  | answer (id : Nat) (type : WorldMessage) (payload : Bytes)
  | welcome (id : Nat) (admission : Admission)
  | ask (token : Bytes) (handler : Handler)
  | skip (id : Nat)
  | ignore
  deriving DecidableEq, Repr

def Admission.payload (udpPort : UInt16) (a : Admission) : Bytes :=
  joinResponse .success a.playerId udpPort a.username a.entityId

namespace Turn

/-- What is sent. -/
def speak (udpPort : UInt16) (s : TcpServer) : Turn → TcpServer
  | .answer id type payload => s.send id type.toU16 payload
  | .welcome id admission => s.send id WorldMessage.joinResponse.toU16 (admission.payload udpPort)
  | .ask _ _ => s
  | .skip _ => s
  | .ignore => s

/-- What goes to the database, for the message with this number. -/
def consult (request : Nat) (c : DbClient Handler) : Turn → DbClient Handler
  | .ask token handler => c.call request (.sessionLookup token) handler
  | .welcome _ admission =>
      c.call request (.sessionDelete admission.token) (.sessionDeleted request)
  | .answer _ _ _ => c
  | .skip _ => c
  | .ignore => c

/-- A refused join. -/
def refuse (id : Nat) (result : JoinResult) : Turn :=
  .answer id .joinResponse (joinResponse result 0 0 [] 0)

@[simp] theorem speak_mConnections (udpPort : UInt16) (s : TcpServer) (turn : Turn) :
    (turn.speak udpPort s).mConnections = s.mConnections := by
  cases turn with
  | answer id type payload => exact TcpServer.send_mConnections _ _ _ _
  | welcome id admission => exact TcpServer.send_mConnections _ _ _ _
  | ask token handler => rfl
  | skip id => rfl
  | ignore => rfl

end Turn

/-- The message type that a command is answered with. -/
def commandResponse (command : WorldMessage) : WorldMessage :=
  if command = .adminSetTimeRequest then .adminSetTimeResponse else .adminStatusResponse

variable {F : Type*} [Scalar F] (setup : Setup F)

/-- The server and its link. -/
def dialogue (w : WorldServer F) : TcpServer × DbClient Handler := (w.server, w.dbClient)

/-- The server takes a turn. -/
def Takes (request : Nat) (turn : Turn) (w w' : WorldServer F) : Prop :=
  dialogue w' = (turn.speak setup.udpPort w.server, turn.consult request w.dbClient)

def latencyPayload (simulatedLatencyMs : UInt32) (result : UInt8) : Bytes :=
  ByteWriter.u8 result ++ ByteWriter.u32 simulatedLatencyMs

/-- What `replyCommand` writes. -/
def commandPayload (w : WorldServer F) (command : WorldMessage) (result : UInt8) : Bytes :=
  let clock := ByteWriter.u8 result ++ ByteWriter.f32 (setup.toBits w.simulation.mTimeOfDay) ++
    ByteWriter.f32 (setup.toBits w.simulation.mTimeSpeed)
  if command = .adminSetTimeRequest then clock
  else
    clock ++ ByteWriter.u16 (UInt16.ofNat w.simulation.mPlayers.size) ++
      ByteWriter.u32 w.simulation.mTick ++ ByteWriter.u32 w.simulatedLatencyMs

omit [Scalar F] in
theorem replyCommand_eq (w : WorldServer F) (id : Nat) (command : WorldMessage) (result : UInt8) :
    w.replyCommand setup id command result =
      w.send id (commandResponse command) (commandPayload setup w command result) := by
  simp only [replyCommand, commandResponse, commandPayload]
  split
  · rfl
  · simp only [List.append_assoc]

omit [Scalar F] in
@[simp] theorem removePlayer_dialogue (w : WorldServer F) (id : Nat) :
    dialogue (w.removePlayer id) = dialogue w := by
  rw [removePlayer]
  split <;> rfl

section Messages

variable (w : WorldServer F) (request id : Nat) (data : Bytes)

def hearJoin : Turn :=
  let (version, token, failed) := (readJoinRequest (.start data)).1
  if failed then .refuse id .serverError
  else if version ≠ kProtocolVersion then .refuse id .versionMismatch
  else if id ∈ w.playersByConnection then .skip id
  else .ask token (.join request id token)

def hearSetLatency : Turn :=
  let (token, milliseconds, failed) := (readSetLatencyRequest (.start data)).1
  if failed then .answer id .adminSetLatencyResponse (latencyPayload w.simulatedLatencyMs 1)
  else .ask token (.setLatency request id milliseconds)

def hearCommand (command : WorldMessage) : Turn :=
  let (token, timeCommand, value, failed) := (readCommandRequest command (.start data)).1
  if failed then .answer id (commandResponse command) (commandPayload setup w command 1)
  else .ask token (.command request id command timeCommand value)

/-- The turn on a message. -/
def hear (m : Message) : Turn :=
  match WorldMessage.ofU16 m.type with
  | some .joinRequest => hearJoin w request id m.payload
  | some .adminSetLatencyRequest => hearSetLatency w request id m.payload
  | some .adminSetTimeRequest => hearCommand setup w request id m.payload .adminSetTimeRequest
  | some .adminStatusRequest => hearCommand setup w request id m.payload .adminStatusRequest
  | some .logoutRequest => .answer id .logoutResponse []
  | _ => .ignore

section Messages

omit [Scalar F]

theorem onJoinRequest_turn :
    Takes setup request (hearJoin w request id data) w (w.onJoinRequest request id data) := by
  simp only [Takes, onJoinRequest, hearJoin]
  split
  · rfl
  · split
    · rfl
    · split <;> rfl

theorem onSetLatencyRequest_turn :
    Takes setup request (hearSetLatency w request id data) w
      (w.onSetLatencyRequest request id data) := by
  simp only [Takes, onSetLatencyRequest, hearSetLatency]
  split <;> rfl

theorem onCommandRequest_turn (command : WorldMessage) :
    Takes setup request (hearCommand setup w request id data command) w
      (w.onCommandRequest setup request id command data) := by
  simp only [Takes, onCommandRequest, hearCommand, replyCommand_eq]
  split <;> rfl

/-- A message is put on record, and a turn is taken. -/
theorem onMessage_turn (m : Message) :
    Takes setup w.arrivals.length (hear setup w w.arrivals.length id m) w
      (w.onMessage setup id m) := by
  let heard : WorldServer F := { w with arrivals := w.arrivals ++ [(id, m)] }
  rw [onMessage, hear]
  cases WorldMessage.ofU16 m.type with
  | none => rfl
  | some type =>
      cases type with
      | joinRequest => exact onJoinRequest_turn setup heard _ _ _
      | adminSetLatencyRequest => exact onSetLatencyRequest_turn setup heard _ _ _
      | adminSetTimeRequest => exact onCommandRequest_turn setup heard _ _ _ _
      | adminStatusRequest => exact onCommandRequest_turn setup heard _ _ _ _
      | logoutRequest =>
          rw [Takes]
          exact removePlayer_dialogue _ _
      | _ => rfl

theorem onMessage_arrivals (m : Message) :
    (w.onMessage setup id m).arrivals = w.arrivals ++ [(id, m)] := by
  simp only [onMessage, onJoinRequest, onSetLatencyRequest, onCommandRequest, onLogoutRequest,
    replyCommand_eq]
  repeat' split
  all_goals simp only [refuseJoin, send, lookupSession, replyLatency, removePlayer_arrivals]

end Messages

end Messages

section Replies

variable (w : WorldServer F) (now : Clocks F)

/-- What the lookup for a join leads to. -/
def resumeJoin (id : Nat) (token : Bytes) : Option (Bool × Session) → Turn
  | none => .refuse id .serverError
  | some (false, _) => .refuse id .invalidSession
  | some (true, session) =>
      .welcome id ⟨w.nextPlayerId, token, session.username,
        (w.simulation.addPlayer setup.phys w.nextPlayerId).2⟩

def resumeLatency (id : Nat) (milliseconds : UInt32) : Option (Bool × Session) → Turn
  | some (true, session) =>
      .answer id .adminSetLatencyResponse
        (if session.permissionLevel < PermissionLevel.gameMaster.toU8 then
          latencyPayload w.simulatedLatencyMs 2
        else latencyPayload (min milliseconds 2000) 0)
  | _ => .answer id .adminSetLatencyResponse (latencyPayload w.simulatedLatencyMs 1)

def resumeCommand (id : Nat) (command : WorldMessage) (timeCommand : UInt8) (value : UInt32) :
    Option (Bool × Session) → Turn
  | some (true, session) =>
      .answer id (commandResponse command)
        (if session.permissionLevel < PermissionLevel.gameMaster.toU8 then
          commandPayload setup w command 2
        else
          commandPayload setup
            { w with
              simulation := runCommand setup w.simulation command timeCommand (setup.ofBits value)
                now.clock } command 0)
  | _ => .answer id (commandResponse command) (commandPayload setup w command 1)

/-- The turn of a callback. -/
def resume (handler : Handler) (reply : Option DbReply) : Turn :=
  match handler with
  | .join _ id token => resumeJoin setup w id token (sessionLookupResult reply)
  | .setLatency _ id milliseconds => resumeLatency w id milliseconds (sessionLookupResult reply)
  | .command _ id command timeCommand value =>
      resumeCommand setup w now id command timeCommand value (sessionLookupResult reply)
  | .sessionDeleted _ => .ignore

/-- The number of the message that a callback works for. -/
def Handler.request : Handler → Nat
  | .join request _ _ => request
  | .setLatency request _ _ => request
  | .command request _ _ _ _ => request
  | .sessionDeleted request => request

theorem onReply_turn (handler : Handler) (reply : Option DbReply) :
    Takes setup (Handler.request handler) (resume setup w now handler reply) w
      (onReply setup w now handler reply) := by
  cases handler with
  | join request id token =>
      rw [Takes, onReply, resume]
      rcases sessionLookupResult reply with _ | ⟨_ | _, session⟩
      · rfl
      · rfl
      · rfl
  | setLatency request id milliseconds =>
      rw [Takes, onReply, resume]
      rcases sessionLookupResult reply with _ | ⟨_ | _, session⟩
      · rfl
      · rfl
      · simp only [onLatencyLookup, resumeLatency]
        split <;> rfl
  | command request id command timeCommand value =>
      rw [Takes, onReply, resume]
      rcases sessionLookupResult reply with _ | ⟨_ | _, session⟩
      · simp only [onCommandLookup, resumeCommand, replyCommand_eq]
        rfl
      · simp only [onCommandLookup, resumeCommand, replyCommand_eq]
        rfl
      · simp only [onCommandLookup, resumeCommand, replyCommand_eq]
        split <;> rfl
  | sessionDeleted request => rfl

theorem onReply_arrivals (handler : Handler) (reply : Option DbReply) :
    (onReply setup w now handler reply).arrivals = w.arrivals := by
  simp only [onReply, onJoinLookup, onLatencyLookup, onCommandLookup, replyCommand_eq]
  repeat' split
  all_goals rfl

end Replies

section Conversations

/-- What a callback has to answer; the one of a deletion has nothing to say. -/
def Handler.task : Handler → Option (Task WorldMessage)
  | .join request id _ => some ⟨request, id, .joinResponse⟩
  | .setLatency request id _ => some ⟨request, id, .adminSetLatencyResponse⟩
  | .command request id command _ _ => some ⟨request, id, commandResponse command⟩
  | .sessionDeleted _ => none

/-- The message type that a message is to be answered with. -/
def responseTo (m : Message) : Option WorldMessage :=
  match WorldMessage.ofU16 m.type with
  | some .joinRequest => some .joinResponse
  | some .adminSetLatencyRequest => some .adminSetLatencyResponse
  | some .adminSetTimeRequest => some .adminSetTimeResponse
  | some .adminStatusRequest => some .adminStatusResponse
  | some .logoutRequest => some .logoutResponse
  | _ => none

/-- A turn that settles a task, or leaves it to a callback. A join response that admits nobody
refuses. -/
def Settles (t : Task WorldMessage) : Turn → Prop
  | .answer id type payload => id = t.id ∧ type = t.type ∧
      (type = .joinResponse → ∃ result ≠ .success, payload = joinResponse result 0 0 [] 0)
  | .welcome id _ => id = t.id ∧ t.type = .joinResponse
  | .ask _ handler => Handler.task handler = some t
  | .skip id => id = t.id ∧ t.type = .joinResponse
  | .ignore => False

theorem settles_refuse {request id : Nat} {result : JoinResult} (h : result ≠ .success) :
    Settles ⟨request, id, .joinResponse⟩ (.refuse id result) :=
  ⟨rfl, rfl, fun _ => ⟨result, h, rfl⟩⟩

/-- Any answer of another type. -/
theorem settles_answer {request id : Nat} {type : WorldMessage} (h : type ≠ .joinResponse)
    (payload : Bytes) : Settles ⟨request, id, type⟩ (.answer id type payload) :=
  ⟨rfl, rfl, fun hjoin => absurd hjoin h⟩

theorem commandResponse_ne_join (command : WorldMessage) :
    commandResponse command ≠ .joinResponse := by
  rw [commandResponse]
  split
  · exact WorldMessage.noConfusion
  · exact WorldMessage.noConfusion

omit [Scalar F] in
/-- A message that is to be answered is answered, skipped, or handed over to a callback. -/
theorem hear_settles {m : Message} {type : WorldMessage} (h : responseTo m = some type)
    (w : WorldServer F) (request id : Nat) :
    Settles ⟨request, id, type⟩ (hear setup w request id m) := by
  rw [responseTo] at h
  rw [hear]
  split at h
  · cases h
    simp only [hearJoin]
    split
    · exact settles_refuse (by decide)
    · split
      · exact settles_refuse (by decide)
      · split
        · exact ⟨rfl, rfl⟩
        · rfl
  · cases h
    simp only [hearSetLatency]
    split
    · exact settles_answer (by decide) _
    · rfl
  · cases h
    simp only [hearCommand]
    split
    · exact settles_answer (by decide) _
    · rfl
  · cases h
    simp only [hearCommand]
    split
    · exact settles_answer (by decide) _
    · rfl
  · cases h
    exact settles_answer (by decide) _
  · cases h

omit [Scalar F] in
/-- Any other message is ignored. -/
theorem hear_ignore {m : Message} (h : responseTo m = none) (w : WorldServer F)
    (request id : Nat) : hear setup w request id m = .ignore := by
  rw [responseTo] at h
  rw [hear]
  cases htype : WorldMessage.ofU16 m.type with
  | none => rfl
  | some type => cases type <;> simp_all

/-- A callback with a task settles it. -/
theorem resume_settles {handler : Handler} {t : Task WorldMessage}
    (h : Handler.task handler = some t) (w : WorldServer F) (now : Clocks F)
    (reply : Option DbReply) :
    Settles t (resume setup w now handler reply) := by
  cases handler with
  | join request id token =>
      obtain rfl := Option.some.inj h
      rw [resume]
      rcases sessionLookupResult reply with _ | ⟨_ | _, session⟩
      · exact settles_refuse (by decide)
      · exact settles_refuse (by decide)
      · exact ⟨rfl, rfl⟩
  | setLatency request id milliseconds =>
      obtain rfl := Option.some.inj h
      rw [resume]
      rcases sessionLookupResult reply with _ | ⟨_ | _, session⟩
      · exact settles_answer (by decide) _
      · exact settles_answer (by decide) _
      · exact settles_answer (by decide) _
  | command request id command timeCommand value =>
      obtain rfl := Option.some.inj h
      rw [resume]
      rcases sessionLookupResult reply with _ | ⟨_ | _, session⟩
      · exact settles_answer (commandResponse_ne_join command) _
      · exact settles_answer (commandResponse_ne_join command) _
      · exact settles_answer (commandResponse_ne_join command) _
  | sessionDeleted request => cases h

end Conversations

end UntitledGame.Server.WorldServer
