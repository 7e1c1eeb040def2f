import UntitledGame.Server.DbLink

/-!
# The messages of the database RPC

What `DbClient` and the database server write to each other, byte for byte, and
the reads that each makes of the other's messages. `DbServer.onMessage` is the
handler of the database server on any message, and `DbClient.callback` what the
handler that an RPC method registers makes of any reply.

The two results of the module connect these to the requests and replies of
`DbLink`: the server reads the request that the client wrote, and the client's
callback is told what the server replied.
-/

namespace UntitledGame.Server

open Net ByteReader

/-- `a ? 1 : 0`. -/
def flag (b : Bool) : UInt8 := if b then 1 else 0

theorem flag_ne_zero (b : Bool) : (flag b != 0) = b := by
  cases b <;> decide

section Requests

/-- The message type that an RPC method sends. -/
def DbRequest.type : DbRequest → DbMessage
  | .accountLookup _ => .accountLookupRequest
  | .adminExists => .adminExistsRequest
  | .accountSetLevel _ _ => .accountSetLevelRequest
  | .accountCreate _ _ => .accountCreateRequest
  | .accountCreateWithLevel _ _ _ => .accountCreateWithLevelRequest
  | .accountDelete _ => .accountDeleteRequest
  | .sessionCreate _ _ _ => .sessionCreateRequest
  | .sessionLookup _ => .sessionLookupRequest
  | .sessionDelete _ => .sessionDeleteRequest

/-- What an RPC method writes after the request id. -/
def DbRequest.fields : DbRequest → Bytes
  | .accountLookup username => ByteWriter.string username
  | .adminExists => []
  | .accountSetLevel username level => ByteWriter.string username ++ ByteWriter.u8 level
  | .accountCreate username passwordHash =>
      ByteWriter.string username ++ ByteWriter.string passwordHash
  | .accountCreateWithLevel username passwordHash level =>
      ByteWriter.string username ++ ByteWriter.string passwordHash ++ ByteWriter.u8 level
  | .accountDelete username => ByteWriter.string username
  | .sessionCreate accountId token ttlSeconds =>
      ByteWriter.u64 (UInt64.ofNat accountId) ++ ByteWriter.string token ++
        ByteWriter.u32 ttlSeconds
  | .sessionLookup token => ByteWriter.string token
  | .sessionDelete token => ByteWriter.string token

def DbRequest.payload (requestId : UInt32) (body : DbRequest) : Bytes :=
  ByteWriter.u32 requestId ++ body.fields

/-- The reads of one request, and whether one of them failed. Both account creations share a
handler, in which only the one with a level reads it. -/
def DbServer.readRequest : DbMessage → Option (StateM ByteReader (DbRequest × Bool))
  | .accountLookupRequest => some do
      let username ← string
      return (.accountLookup username, ← failed)
  | .adminExistsRequest => some do
      return (.adminExists, ← failed)
  | .accountSetLevelRequest => some do
      let username ← string
      let level ← u8
      return (.accountSetLevel username level, ← failed)
  | .accountCreateWithLevelRequest => some do
      let username ← string
      let passwordHash ← string
      let level ← u8
      return (.accountCreateWithLevel username passwordHash level, ← failed)
  | .accountCreateRequest => some do
      let username ← string
      let passwordHash ← string
      return (.accountCreate username passwordHash, ← failed)
  | .accountDeleteRequest => some do
      let username ← string
      return (.accountDelete username, ← failed)
  | .sessionCreateRequest => some do
      let accountId ← u64
      let token ← string
      let ttl ← u32
      return (.sessionCreate accountId.toNat token ttl, ← failed)
  | .sessionLookupRequest => some do
      let token ← string
      return (.sessionLookup token, ← failed)
  | .sessionDeleteRequest => some do
      let token ← string
      return (.sessionDelete token, ← failed)
  | _ => none

/-- A string as it arrives: cut off at the writer's cap. -/
def capped (s : Bytes) : Bytes := s.take ByteWriter.kMaxStringLength

/-- A number as it arrives, in 64 bits. -/
def wrapped (n : Nat) : Nat := (UInt64.ofNat n).toNat

/-- A request as it arrives. -/
def DbRequest.arrived : DbRequest → DbRequest
  | .accountLookup username => .accountLookup (capped username)
  | .adminExists => .adminExists
  | .accountSetLevel username level => .accountSetLevel (capped username) level
  | .accountCreate username passwordHash => .accountCreate (capped username) (capped passwordHash)
  | .accountCreateWithLevel username passwordHash level =>
      .accountCreateWithLevel (capped username) (capped passwordHash) level
  | .accountDelete username => .accountDelete (capped username)
  | .sessionCreate accountId token ttlSeconds =>
      .sessionCreate (wrapped accountId) (capped token) ttlSeconds
  | .sessionLookup token => .sessionLookup (capped token)
  | .sessionDelete token => .sessionDelete (capped token)

/-- The server reads the fields that the client wrote. -/
theorem yields_request (body : DbRequest) (rest : Bytes) :
    ∃ read, DbServer.readRequest body.type = some read ∧
      Yields read (body.fields ++ rest) (body.arrived, false) rest := by
  cases body with
  | accountLookup username =>
      refine ⟨_, rfl, ?_⟩
      exact (yields_string _ _).bind <| (yields_failed _).bind <| Yields.pure _ _
  | adminExists =>
      refine ⟨_, rfl, ?_⟩
      exact (yields_failed _).bind <| Yields.pure _ _
  | accountSetLevel username level =>
      refine ⟨_, rfl, ?_⟩
      simp only [DbRequest.fields, List.append_assoc]
      exact (yields_string _ _).bind <| (yields_u8 _ _).bind <| (yields_failed _).bind <|
        Yields.pure _ _
  | accountCreate username passwordHash =>
      refine ⟨_, rfl, ?_⟩
      simp only [DbRequest.fields, List.append_assoc]
      exact (yields_string _ _).bind <| (yields_string _ _).bind <| (yields_failed _).bind <|
        Yields.pure _ _
  | accountCreateWithLevel username passwordHash level =>
      refine ⟨_, rfl, ?_⟩
      simp only [DbRequest.fields, List.append_assoc]
      exact (yields_string _ _).bind <| (yields_string _ _).bind <| (yields_u8 _ _).bind <|
        (yields_failed _).bind <| Yields.pure _ _
  | accountDelete username =>
      refine ⟨_, rfl, ?_⟩
      exact (yields_string _ _).bind <| (yields_failed _).bind <| Yields.pure _ _
  | sessionCreate accountId token ttlSeconds =>
      refine ⟨_, rfl, ?_⟩
      simp only [DbRequest.fields, List.append_assoc]
      exact (yields_u64 _ _).bind <| (yields_string _ _).bind <| (yields_u32 _ _).bind <|
        (yields_failed _).bind <| Yields.pure _ _
  | sessionLookup token =>
      refine ⟨_, rfl, ?_⟩
      exact (yields_string _ _).bind <| (yields_failed _).bind <| Yields.pure _ _
  | sessionDelete token =>
      refine ⟨_, rfl, ?_⟩
      exact (yields_string _ _).bind <| (yields_failed _).bind <| Yields.pure _ _

end Requests

section Replies

def DbReply.type : DbReply → DbMessage
  | .accountLookup _ _ _ _ => .accountLookupResponse
  | .adminExists _ => .adminExistsResponse
  | .accountSetLevel _ => .accountSetLevelResponse
  | .accountCreate _ _ => .accountCreateResponse
  | .accountDelete _ => .accountDeleteResponse
  | .sessionCreate _ => .sessionCreateResponse
  | .sessionLookup _ _ => .sessionLookupResponse
  | .sessionDelete _ => .sessionDeleteResponse

/-- What the database server writes after the request id. -/
def DbReply.fields : DbReply → Bytes
  | .accountLookup found accountId passwordHash level =>
      ByteWriter.u8 (flag found) ++ ByteWriter.u64 (UInt64.ofNat accountId) ++
        ByteWriter.string passwordHash ++ ByteWriter.u8 level
  | .adminExists found => ByteWriter.u8 (flag found)
  | .accountSetLevel result => ByteWriter.u8 result.toU8
  | .accountCreate result accountId =>
      ByteWriter.u8 result.toU8 ++ ByteWriter.u64 (UInt64.ofNat accountId)
  | .accountDelete result => ByteWriter.u8 result.toU8
  | .sessionCreate result => ByteWriter.u8 result.toU8
  | .sessionLookup found session =>
      ByteWriter.u8 (flag found) ++ ByteWriter.u64 (UInt64.ofNat session.accountId) ++
        ByteWriter.string session.username ++ ByteWriter.u8 session.permissionLevel
  | .sessionDelete result => ByteWriter.u8 result.toU8

def DbReply.payload (requestId : UInt32) (reply : DbReply) : Bytes :=
  ByteWriter.u32 requestId ++ reply.fields

/-- What a callback is invoked with. A result is the byte that `static_cast<DbResult>` takes. -/
inductive Callback where
  | account (ok found : Bool) (accountId : UInt64) (passwordHash : Bytes) (permissionLevel : UInt8)
  | exists (ok : Bool) (found : Bool)
  | result (ok : Bool) (result : UInt8)
  | created (ok : Bool) (result : UInt8) (accountId : UInt64)
  | session (ok found : Bool) (accountId : UInt64) (username : Bytes) (permissionLevel : UInt8)
  deriving DecidableEq, Repr

namespace DbClient

/-- The message type that the handler of a request accepts. -/
def responseType : DbRequest → DbMessage
  | .accountLookup _ => .accountLookupResponse
  | .adminExists => .adminExistsResponse
  | .accountSetLevel _ _ => .accountSetLevelResponse
  | .accountCreate _ _ => .accountCreateResponse
  | .accountCreateWithLevel _ _ _ => .accountCreateResponse
  | .accountDelete _ => .accountDeleteResponse
  | .sessionCreate _ _ _ => .sessionCreateResponse
  | .sessionLookup _ => .sessionLookupResponse
  | .sessionDelete _ => .sessionDeleteResponse

/-- What the callback of a request is told when there is no reply. -/
def failure : DbRequest → Callback
  | .accountLookup _ => .account false false 0 [] 0
  | .adminExists => .exists false false
  | .accountSetLevel _ _ => .result false DbResult.error.toU8
  | .accountCreate _ _ => .created false DbResult.error.toU8 0
  | .accountCreateWithLevel _ _ _ => .created false DbResult.error.toU8 0
  | .accountDelete _ => .result false DbResult.error.toU8
  | .sessionCreate _ _ _ => .result false DbResult.error.toU8
  | .sessionLookup _ => .session false false 0 [] 0
  | .sessionDelete _ => .result false DbResult.error.toU8

/-- The reads of a reply that carries a result and nothing else. -/
def readResult : StateM ByteReader Callback := do
  let _requestId ← u32
  let result ← u8
  return .result (!(← failed)) result

def readCreated : StateM ByteReader Callback := do
  let _requestId ← u32
  let result ← u8
  let accountId ← u64
  return .created (!(← failed)) result accountId

/-- The reads that the handler of a request makes. -/
def readReply : DbRequest → StateM ByteReader Callback
  | .accountLookup _ => do
      let _requestId ← u32
      let found ← u8
      let accountId ← u64
      let passwordHash ← string
      let permissionLevel ← u8
      return .account (!(← failed)) (found != 0) accountId passwordHash permissionLevel
  | .adminExists => do
      let _requestId ← u32
      let found ← u8
      return .exists (!(← failed)) (found != 0)
  | .accountSetLevel _ _ => readResult
  | .accountCreate _ _ => readCreated
  | .accountCreateWithLevel _ _ _ => readCreated
  | .accountDelete _ => readResult
  | .sessionCreate _ _ _ => readResult
  | .sessionLookup _ => do
      let _requestId ← u32
      let found ← u8
      let accountId ← u64
      let username ← string
      let permissionLevel ← u8
      return .session (!(← failed)) (found != 0) accountId username permissionLevel
  | .sessionDelete _ => readResult

/-- What the handler of a request makes of a reply, or of the lack of one. -/
def callback (body : DbRequest) (ok : Bool) (type : UInt16) (data : Bytes) : Callback :=
  if !ok || type ≠ (responseType body).toU16 then failure body
  else (readReply body (.start data)).1

end DbClient

/-- What a callback is told of a reply that arrives whole. -/
def DbReply.told : DbReply → Callback
  | .accountLookup found accountId passwordHash level =>
      .account true found (UInt64.ofNat accountId) (capped passwordHash) level
  | .adminExists found => .exists true found
  | .accountSetLevel result => .result true result.toU8
  | .accountCreate result accountId => .created true result.toU8 (UInt64.ofNat accountId)
  | .accountDelete result => .result true result.toU8
  | .sessionCreate result => .result true result.toU8
  | .sessionLookup found session =>
      .session true found (UInt64.ofNat session.accountId) (capped session.username)
        session.permissionLevel
  | .sessionDelete result => .result true result.toU8

theorem yields_result (requestId : UInt32) (result : DbResult) (rest : Bytes) :
    Yields DbClient.readResult (ByteWriter.u32 requestId ++ ByteWriter.u8 result.toU8 ++ rest)
      (.result true result.toU8) rest := by
  simp only [List.append_assoc]
  exact (yields_u32 _ _).bind <| (yields_u8 _ _).bind <| (yields_failed _).bind <| Yields.pure _ _

theorem yields_created (requestId : UInt32) (result : DbResult) (accountId : Nat) (rest : Bytes) :
    Yields DbClient.readCreated
      (ByteWriter.u32 requestId ++ (ByteWriter.u8 result.toU8 ++
        ByteWriter.u64 (UInt64.ofNat accountId)) ++ rest)
      (.created true result.toU8 (UInt64.ofNat accountId)) rest := by
  simp only [List.append_assoc]
  exact (yields_u32 _ _).bind <| (yields_u8 _ _).bind <| (yields_u64 _ _).bind <|
    (yields_failed _).bind <| Yields.pure _ _

/-- The client reads the fields that the server wrote. -/
theorem yields_reply (requestId : UInt32) {body : DbRequest} {reply : DbReply}
    (h : reply.type = DbClient.responseType body) (rest : Bytes) :
    Yields (DbClient.readReply body) (reply.payload requestId ++ rest) reply.told rest := by
  cases reply with
  | accountLookup found accountId passwordHash level =>
      cases body <;> cases h
      rw [DbReply.told, ← congrArg (Callback.account true · _ _ _) (flag_ne_zero found)]
      simp only [DbReply.payload, DbReply.fields, List.append_assoc]
      exact (yields_u32 _ _).bind <| (yields_u8 _ _).bind <| (yields_u64 _ _).bind <|
        (yields_string _ _).bind <| (yields_u8 _ _).bind <| (yields_failed _).bind <|
        Yields.pure _ _
  | adminExists found =>
      cases body <;> cases h
      rw [DbReply.told, ← congrArg (Callback.exists true) (flag_ne_zero found)]
      simp only [DbReply.payload, DbReply.fields, List.append_assoc]
      exact (yields_u32 _ _).bind <| (yields_u8 _ _).bind <| (yields_failed _).bind <|
        Yields.pure _ _
  | sessionLookup found session =>
      cases body <;> cases h
      rw [DbReply.told, ← congrArg (Callback.session true · _ _ _) (flag_ne_zero found)]
      simp only [DbReply.payload, DbReply.fields, List.append_assoc]
      exact (yields_u32 _ _).bind <| (yields_u8 _ _).bind <| (yields_u64 _ _).bind <|
        (yields_string _ _).bind <| (yields_u8 _ _).bind <| (yields_failed _).bind <|
        Yields.pure _ _
  | accountCreate result accountId =>
      cases body <;> cases h
      · exact yields_created requestId result accountId rest
      · exact yields_created requestId result accountId rest
  | accountSetLevel result =>
      cases body <;> cases h
      exact yields_result requestId result rest
  | accountDelete result =>
      cases body <;> cases h
      exact yields_result requestId result rest
  | sessionCreate result =>
      cases body <;> cases h
      exact yields_result requestId result rest
  | sessionDelete result =>
      cases body <;> cases h
      exact yields_result requestId result rest

/-- The callback of a request is told what the server replied. -/
theorem callback_reply (requestId : UInt32) {body : DbRequest} {reply : DbReply}
    (h : reply.type = DbClient.responseType body) :
    DbClient.callback body true reply.type.toU16 (reply.payload requestId) = reply.told := by
  have hread := yields_reply requestId h []
  rw [List.append_nil] at hread
  obtain ⟨r, hr, -⟩ := hread _ (start_at _)
  rw [DbClient.callback, h, hr]
  simp

end Replies

end UntitledGame.Server
