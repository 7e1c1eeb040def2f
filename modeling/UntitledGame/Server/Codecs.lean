import UntitledGame.Server.AuthServer
import UntitledGame.Server.DbServer
import UntitledGame.Server.WorldServer

/-!
# Writers against readers

Every message between two programs of the repository is written by one sequence of
calls and read by another one, in another file. `Codecs.agree` goes through the pairs:
the requests and replies of the database RPC, the login, the join, and the two
datagrams that a client sends.

The rule for a sequence of reads is `Yields.bind`. What is left for a pair is that
the writer's strings are not cut off, and that a number fits its field.
-/

namespace UntitledGame.Server

open Net ByteReader Client

/-- A string that the writer does not cut off. -/
def Short (s : Bytes) : Prop := s.length ≤ ByteWriter.kMaxStringLength

instance decidableShort (s : Bytes) : Decidable (Short s) :=
  inferInstanceAs (Decidable (s.length ≤ ByteWriter.kMaxStringLength))

theorem Short.take {s : Bytes} (h : Short s) : s.take ByteWriter.kMaxStringLength = s :=
  List.take_of_length_le h

theorem Short.capped_eq {s : Bytes} (h : Short s) : capped s = s := h.take

theorem Short.yields_string {s : Bytes} (h : Short s) (rest : Bytes) :
    Yields string (ByteWriter.string s ++ rest) s rest := by
  have hread := ByteReader.yields_string s rest
  rwa [h.take] at hread

theorem wrapped_of_lt {n : Nat} (h : n < 2 ^ 64) : wrapped n = n := by
  rw [wrapped]
  exact UInt64.toNat_ofNat_of_lt' h

/-- The fields of a request are values of the types that the code has for them. -/
def DbRequest.Fits : DbRequest → Prop
  | .accountLookup username => Short username
  | .adminExists => True
  | .accountSetLevel username _ => Short username
  | .accountCreate username passwordHash => Short username ∧ Short passwordHash
  | .accountCreateWithLevel username passwordHash _ => Short username ∧ Short passwordHash
  | .accountDelete username => Short username
  | .sessionCreate accountId token _ => accountId < 2 ^ 64 ∧ Short token
  | .sessionLookup token => Short token
  | .sessionDelete token => Short token

def DbReply.Fits : DbReply → Prop
  | .accountLookup _ _ passwordHash _ => Short passwordHash
  | .sessionLookup _ session => Short session.username
  | _ => True

/-- The values that the server wrote into a reply, in the order of the callback's arguments. -/
def DbReply.written : DbReply → Callback
  | .accountLookup found accountId passwordHash level =>
      .account true found (UInt64.ofNat accountId) passwordHash level
  | .adminExists found => .exists true found
  | .accountSetLevel result => .result true result.toU8
  | .accountCreate result accountId => .created true result.toU8 (UInt64.ofNat accountId)
  | .accountDelete result => .result true result.toU8
  | .sessionCreate result => .result true result.toU8
  | .sessionLookup found session =>
      .session true found (UInt64.ofNat session.accountId) session.username
        session.permissionLevel
  | .sessionDelete result => .result true result.toU8

theorem DbRequest.Fits.arrived_eq {body : DbRequest} (h : body.Fits) : body.arrived = body := by
  cases body with
  | accountLookup username => exact congrArg DbRequest.accountLookup h.capped_eq
  | adminExists => rfl
  | accountSetLevel username level =>
      exact congrArg (DbRequest.accountSetLevel · level) h.capped_eq
  | accountCreate username passwordHash => rw [arrived, h.1.capped_eq, h.2.capped_eq]
  | accountCreateWithLevel username passwordHash level =>
      rw [arrived, h.1.capped_eq, h.2.capped_eq]
  | accountDelete username => exact congrArg DbRequest.accountDelete h.capped_eq
  | sessionCreate accountId token ttlSeconds =>
      rw [arrived, wrapped_of_lt h.1, h.2.capped_eq]
  | sessionLookup token => exact congrArg DbRequest.sessionLookup h.capped_eq
  | sessionDelete token => exact congrArg DbRequest.sessionDelete h.capped_eq

theorem DbReply.Fits.told_eq {reply : DbReply} (h : reply.Fits) : reply.told = reply.written := by
  cases reply with
  | accountLookup found accountId passwordHash level => rw [told, written, h.capped_eq]
  | sessionLookup found session => rw [told, written, h.capped_eq]
  | _ => rfl

namespace Codecs

section Login

theorem readCredentials_loginRequest {username password : Bytes} (husername : Short username)
    (hpassword : Short password) :
    (AuthServer.readCredentials (start (NetClient.loginRequest username password))).1 =
      (kProtocolVersion, username, password, false) := by
  apply Yields.whole
  rw [NetClient.loginRequest, List.append_assoc, ← List.append_nil (ByteWriter.string password)]
  exact (yields_u32 _ _).bind <| (husername.yields_string _).bind <|
    (hpassword.yields_string _).bind <| (yields_failed _).bind <| Yields.pure _ _

/-- The client leaves the permission level at the end of the response unread. -/
theorem readLoginResponse_loginResponse (result : AuthResult) {token worldHost : Bytes}
    (worldPort : UInt16) (accountId : Nat) (permissionLevel : UInt8) (htoken : Short token)
    (hworldHost : Short worldHost) :
    (NetClient.readLoginResponse (start (AuthServer.loginResponse result token worldHost worldPort
        accountId permissionLevel))).1 =
      (⟨result.toU8, token, worldHost, worldPort⟩, false) := by
  apply Yields.whole
  simp only [AuthServer.loginResponse, List.append_assoc]
  exact (yields_u8 _ _).bind <| (htoken.yields_string _).bind <|
    (hworldHost.yields_string _).bind <| (yields_u16 _ _).bind <| (yields_u64 _ _).bind <|
    (yields_failed _).bind <| Yields.pure _ _

end Login

section Join

theorem readJoinRequest_joinRequest {token : Bytes} (htoken : Short token) :
    (WorldServer.readJoinRequest (start (NetClient.joinRequest token))).1 =
      (kProtocolVersion, token, false) := by
  apply Yields.whole
  rw [NetClient.joinRequest, ← List.append_nil (ByteWriter.string token)]
  exact (yields_u32 _ _).bind <| (htoken.yields_string _).bind <| (yields_failed _).bind <|
    Yields.pure _ _

theorem readJoinResponse_joinResponse (result : JoinResult) (playerId : Nat) (udpPort : UInt16)
    {username : Bytes} (entityId : UInt32) (husername : Short username) :
    (NetClient.readJoinResponse (start (WorldServer.joinResponse result playerId udpPort username
        entityId))).1 =
      (⟨result.toU8, UInt64.ofNat playerId, udpPort, username, entityId⟩, false) := by
  apply Yields.whole
  simp only [WorldServer.joinResponse, List.append_assoc]
  rw [← List.append_nil (ByteWriter.u32 entityId)]
  exact (yields_u8 _ _).bind <| (yields_u64 _ _).bind <| (yields_u16 _ _).bind <|
    (husername.yields_string _).bind <| (yields_u32 _ _).bind <| (yields_failed _).bind <|
    Yields.pure _ _

end Join

section Datagrams

/-- A datagram that fits the server's buffer is taken apart where it was put together. -/
theorem readUdpHeader_received (type : UInt16) (sequence : UInt32) {body : Bytes}
    (hfits : body.length + 10 ≤ WorldServer.kDatagramSize) :
    readUdpHeader ((writeUdpHeader type sequence ++ body).take WorldServer.kDatagramSize) =
        some (⟨type, sequence⟩, 10) ∧
      ((writeUdpHeader type sequence ++ body).take WorldServer.kDatagramSize).drop 10 = body := by
  have hwhole : (writeUdpHeader type sequence ++ body).take WorldServer.kDatagramSize =
      writeUdpHeader type sequence ++ body := by
    apply List.take_of_length_le
    rw [List.length_append, writeUdpHeader_length]
    omega
  rw [hwhole]
  constructor
  · exact readUdpHeader_writeUdpHeader type sequence body
  · exact List.drop_left' (writeUdpHeader_length type sequence)

theorem string_length {s : Bytes} (h : Short s) : (ByteWriter.string s).length = 2 + s.length := by
  simp only [ByteWriter.string, List.length_append, ByteWriter.u16_length, List.length_take]
  rw [if_neg (Nat.not_lt.mpr h), Nat.min_self]

/-- The header and the body that the world server reads of a datagram. -/
def ReadsDatagram {α : Type} (read : StateM ByteReader (α × Bool)) (datagram : Bytes)
    (header : UdpHeader) (body : α) : Prop :=
  readUdpHeader (datagram.take WorldServer.kDatagramSize) = some (header, 10) ∧
    (read (start ((datagram.take WorldServer.kDatagramSize).drop 10))).1 = (body, false)

theorem reads_helloPacket (playerId : UInt64) {token : Bytes} (htoken : Short token) :
    ReadsDatagram readClientHello (NetClient.helloPacket playerId token)
      ⟨WorldMessage.clientHello.toU16, 0⟩ ⟨playerId, token⟩ := by
  have hfits : (ByteWriter.u64 playerId ++ ByteWriter.string token).length + 10 ≤
      WorldServer.kDatagramSize := by
    have hcap : token.length ≤ 1024 := htoken
    have hsize : WorldServer.kDatagramSize = 2048 := rfl
    rw [List.length_append, ByteWriter.u64_length, string_length htoken]
    omega
  obtain ⟨hheader, hbody⟩ := readUdpHeader_received WorldMessage.clientHello.toU16 0 hfits
  rw [ReadsDatagram, NetClient.helloPacket, List.append_assoc, hheader, hbody]
  refine ⟨rfl, ?_⟩
  apply Yields.whole
  rw [← List.append_nil (ByteWriter.string token)]
  exact (yields_u64 _ _).bind <| (htoken.yields_string _).bind <| (yields_failed _).bind <|
    Yields.pure _ _

theorem reads_inputPacket (playerId : UInt64) (input : NetClient.InputBits) :
    ReadsDatagram readClientInput (NetClient.inputPacket playerId input)
      ⟨WorldMessage.clientInput.toU16, input.sequence⟩
      ⟨playerId, input.sequence, input.moveForward, input.moveRight, input.yaw,
        NetClient.buttons input.jump input.sprint⟩ := by
  have hfits : (ByteWriter.u64 playerId ++ ByteWriter.u32 input.sequence ++
      ByteWriter.f32 input.moveForward ++ ByteWriter.f32 input.moveRight ++
      ByteWriter.f32 input.yaw ++
      ByteWriter.u8 (NetClient.buttons input.jump input.sprint)).length + 10 ≤
        WorldServer.kDatagramSize := by
    simp [WorldServer.kDatagramSize]
  obtain ⟨hheader, hbody⟩ :=
    readUdpHeader_received WorldMessage.clientInput.toU16 input.sequence hfits
  rw [ReadsDatagram, NetClient.inputPacket, hheader, hbody]
  refine ⟨rfl, ?_⟩
  apply Yields.whole
  simp only [List.append_assoc]
  rw [← List.append_nil (ByteWriter.u8 _)]
  exact (yields_u64 _ _).bind <| (yields_u32 _ _).bind <| (yields_f32 _ _).bind <|
    (yields_f32 _ _).bind <| (yields_f32 _ _).bind <| (yields_u8 _ _).bind <|
    (yields_failed _).bind <| Yields.pure _ _

end Datagrams

section Rpc

theorem parse_request (requestId : UInt32) {body : DbRequest} (hfits : body.Fits) :
    DbServer.parse ⟨body.type.toU16, body.payload requestId⟩ = some (requestId, body, false) := by
  rw [DbServer.parse_payload, hfits.arrived_eq]

/-- The reads of `DbClient::poll`, which finds the waiting callback by them. -/
def readRequestId : StateM ByteReader (UInt32 × Bool) := do
  let requestId ← u32
  return (requestId, ← failed)

theorem readRequestId_reply (requestId : UInt32) (reply : DbReply) :
    (readRequestId (start (reply.payload requestId))).1 = (requestId, false) := by
  apply Yields.whole
  exact (yields_u32 requestId reply.fields).bind <| (yields_failed _).bind <| Yields.pure _ _

theorem callback_response (requestId : UInt32) {body : DbRequest} {reply : DbReply}
    (htype : reply.type = DbClient.responseType body) (hfits : reply.Fits) :
    DbClient.callback body true reply.type.toU16 (reply.payload requestId) = reply.written := by
  rw [callback_reply requestId htype, hfits.told_eq]

end Rpc

/-- For each pair, the reads of the receiver do not fail on what the writer wrote, and give the
values that it wrote. -/
structure Agree : Prop where
  dbRequest : ∀ (requestId : UInt32) (body : DbRequest), body.Fits →
    DbServer.parse ⟨body.type.toU16, body.payload requestId⟩ = some (requestId, body, false)
  dbReply : ∀ (requestId : UInt32) (body : DbRequest) (reply : DbReply),
    reply.type = DbClient.responseType body → reply.Fits →
    (readRequestId (start (reply.payload requestId))).1 = (requestId, false) ∧
      DbClient.callback body true reply.type.toU16 (reply.payload requestId) = reply.written
  loginRequest : ∀ username password : Bytes, Short username → Short password →
    (AuthServer.readCredentials (start (NetClient.loginRequest username password))).1 =
      (kProtocolVersion, username, password, false)
  loginResponse : ∀ (result : AuthResult) (token worldHost : Bytes) (worldPort : UInt16)
    (accountId : Nat) (permissionLevel : UInt8), Short token → Short worldHost →
    (NetClient.readLoginResponse (start (AuthServer.loginResponse result token worldHost worldPort
        accountId permissionLevel))).1 =
      (⟨result.toU8, token, worldHost, worldPort⟩, false)
  joinRequest : ∀ token : Bytes, Short token →
    (WorldServer.readJoinRequest (start (NetClient.joinRequest token))).1 =
      (kProtocolVersion, token, false)
  joinResponse : ∀ (result : JoinResult) (playerId : Nat) (udpPort : UInt16) (username : Bytes)
    (entityId : UInt32), Short username →
    (NetClient.readJoinResponse (start (WorldServer.joinResponse result playerId udpPort username
        entityId))).1 =
      (⟨result.toU8, UInt64.ofNat playerId, udpPort, username, entityId⟩, false)
  clientHello : ∀ (playerId : UInt64) (token : Bytes), Short token →
    ReadsDatagram readClientHello (NetClient.helloPacket playerId token)
      ⟨WorldMessage.clientHello.toU16, 0⟩ ⟨playerId, token⟩
  clientInput : ∀ (playerId : UInt64) (input : NetClient.InputBits),
    ReadsDatagram readClientInput (NetClient.inputPacket playerId input)
      ⟨WorldMessage.clientInput.toU16, input.sequence⟩
      ⟨playerId, input.sequence, input.moveForward, input.moveRight, input.yaw,
        NetClient.buttons input.jump input.sprint⟩

theorem agree : Agree where
  dbRequest requestId _ hfits := parse_request requestId hfits
  dbReply requestId _ reply htype hfits :=
    ⟨readRequestId_reply requestId reply, callback_response requestId htype hfits⟩
  loginRequest _ _ husername hpassword := readCredentials_loginRequest husername hpassword
  loginResponse result _ _ worldPort accountId permissionLevel htoken hworldHost :=
    readLoginResponse_loginResponse result worldPort accountId permissionLevel htoken hworldHost
  joinRequest _ htoken := readJoinRequest_joinRequest htoken
  joinResponse result playerId udpPort _ entityId husername :=
    readJoinResponse_joinResponse result playerId udpPort entityId husername
  clientHello playerId _ htoken := reads_helloPacket playerId htoken
  clientInput playerId input := reads_inputPacket playerId input

/-- A creation with a level, and the reply to it. -/
theorem agree_createWithLevel :
    DbServer.parse ⟨DbMessage.accountCreateWithLevelRequest.toU16,
        (DbRequest.accountCreateWithLevel [97, 98] [104] 2).payload 7⟩ =
        some (7, .accountCreateWithLevel [97, 98] [104] 2, false) ∧
      DbClient.callback (.accountCreateWithLevel [97, 98] [104] 2) true
          DbMessage.accountCreateResponse.toU16 ((DbReply.accountCreate .ok 5).payload 7) =
        .created true 0 5 := by
  constructor
  · exact agree.dbRequest 7 (.accountCreateWithLevel [97, 98] [104] 2)
      ⟨by decide, by decide⟩
  · exact (agree.dbReply 7 (.accountCreateWithLevel [97, 98] [104] 2) (.accountCreate .ok 5) rfl
      True.intro).2

end Codecs

end UntitledGame.Server
