import UntitledGame.Server.AuthServer

/-!
# The turns of the auth server

A message that is handled, or a callback that is invoked, ends in one of three
ways: a response is sent, a request goes to the database with a new callback, or
nothing happens. Which one it is depends on the message, or on the callback and
what it is told, and not on the state of the server. `hear` and `resume` are these
choices; `onMessage_turn` and `onReply_turn` say that the server takes them.
-/

namespace UntitledGame.Server

open Net

/-- What handling a message or a reply ends in. -/
inductive Turn where
  | answer (id : Nat) (type : AuthMessage) (payload : Bytes)
  | ask (body : DbRequest) (handler : AuthHandler)
  | ignore
  deriving DecidableEq, Repr

/-- The number of the message that a callback works for. -/
def AuthHandler.request : AuthHandler → Nat
  | .login request _ _ _ => request
  | .sessionCreated request _ _ _ _ _ => request
  | .registered request _ _ => request
  | .admin request _ _ _ _ _ => request
  | .accountCreated request _ _ _ _ => request
  | .accountDeleted request _ _ _ => request
  | .levelSet request _ _ _ _ => request

/-- The connection that a callback answers on. -/
def AuthHandler.connection : AuthHandler → Nat
  | .login _ id _ _ => id
  | .sessionCreated _ id _ _ _ _ => id
  | .registered _ id _ => id
  | .admin _ id _ _ _ _ => id
  | .accountCreated _ id _ _ _ => id
  | .accountDeleted _ id _ _ => id
  | .levelSet _ id _ _ _ => id

/-- The message type that a callback answers with. -/
def AuthHandler.responseType : AuthHandler → AuthMessage
  | .login _ _ _ _ => .loginResponse
  | .sessionCreated _ _ _ _ _ _ => .loginResponse
  | .registered _ _ _ => .registerResponse
  | .admin _ _ command _ _ _ => AuthServer.responseType command
  | .accountCreated _ _ _ _ _ => .adminAccountCreateResponse
  | .accountDeleted _ _ _ _ => .adminAccountDeleteResponse
  | .levelSet _ _ _ _ _ => .adminSetLevelResponse

namespace Turn

/-- A refused login. -/
def refuse (id : Nat) (result : AuthResult) : Turn :=
  .answer id .loginResponse (AuthServer.loginResponse result [] [] 0 0 0)

/-- A response that carries a result and nothing else. -/
def report (id : Nat) (type : AuthMessage) (result : AuthResult) : Turn :=
  .answer id type (ByteWriter.u8 result.toU8)

/-- The server takes a turn, for the message with this number. -/
def take (a : AuthServer) (request : Nat) : Turn → AuthServer
  | .answer id type payload => a.send id type payload
  | .ask body handler => a.call request body handler
  | .ignore => a

end Turn

namespace AuthServer

section Messages

def hearLogin (request id : Nat) (data : Bytes) : Turn :=
  let (version, username, password, failed) := (readCredentials (.start data)).1
  if failed then .refuse id .malformedRequest
  else if version ≠ kProtocolVersion then .refuse id .versionMismatch
  else .ask (.accountLookup username) (.login request id password username)

def hearRegister (request id : Nat) (data : Bytes) (random : Entropy) : Turn :=
  let (version, username, password, failed) := (readCredentials (.start data)).1
  if failed then .report id .registerResponse .malformedRequest
  else if version ≠ kProtocolVersion then .report id .registerResponse .versionMismatch
  else if !validUsername username || password.length < kMinPasswordLength then
    .report id .registerResponse .malformedRequest
  else
    match random.passwordHash with
    | none => .report id .registerResponse .serverError
    | some hash => .ask (.accountCreate username hash) (.registered request id username)

def hearAdmin (request id : Nat) (command : AuthMessage) (data : Bytes) : Turn :=
  let (token, target, password, level, failed) := (readAdminRequest command (.start data)).1
  if failed || target.isEmpty then .report id (responseType command) .malformedRequest
  else .ask (.sessionLookup token) (.admin request id command target password level)

/-- The turn on a message. -/
def hear (request id : Nat) (m : Message) (random : Entropy) : Turn :=
  match AuthMessage.ofU16 m.type with
  | some .loginRequest => hearLogin request id m.payload
  | some .registerRequest => hearRegister request id m.payload random
  | some .adminAccountCreateRequest => hearAdmin request id .adminAccountCreateRequest m.payload
  | some .adminAccountDeleteRequest => hearAdmin request id .adminAccountDeleteRequest m.payload
  | some .adminSetLevelRequest => hearAdmin request id .adminSetLevelRequest m.payload
  | _ => .ignore

variable (a : AuthServer) (request id : Nat) (data : Bytes) (random : Entropy)

theorem onLoginRequest_turn :
    a.onLoginRequest request id data = (hearLogin request id data).take a request := by
  simp only [onLoginRequest, hearLogin]
  split
  · rfl
  · split <;> rfl

theorem onRegisterRequest_turn :
    a.onRegisterRequest request id data random =
      (hearRegister request id data random).take a request := by
  simp only [onRegisterRequest, hearRegister]
  split
  · rfl
  · split
    · rfl
    · split
      · rfl
      · cases random.passwordHash <;> rfl

theorem onAdminRequest_turn (command : AuthMessage) :
    a.onAdminRequest request id command data = (hearAdmin request id command data).take a request := by
  simp only [onAdminRequest, hearAdmin]
  split <;> rfl

theorem onMessage_turn (m : Message) :
    a.onMessage id m random =
      (hear a.arrivals.length id m random).take { a with arrivals := a.arrivals ++ [(id, m)] }
        a.arrivals.length := by
  rw [onMessage, hear]
  cases AuthMessage.ofU16 m.type with
  | none => rfl
  | some type =>
      cases type with
      | loginRequest => exact onLoginRequest_turn _ _ _ _
      | registerRequest => exact onRegisterRequest_turn _ _ _ _ _
      | adminAccountCreateRequest => exact onAdminRequest_turn _ _ _ _ _
      | adminAccountDeleteRequest => exact onAdminRequest_turn _ _ _ _ _
      | adminSetLevelRequest => exact onAdminRequest_turn _ _ _ _ _
      | _ => rfl

end Messages

section Replies

variable (setup : AuthSetup)

def resumeLogin (request id : Nat) (password username : Bytes) (random : Entropy) :
    Option (Bool × Nat × Bytes × UInt8) → Turn
  | none => .refuse id .serverError
  | some (found, accountId, passwordHash, level) =>
      if !found || !setup.verifyPassword passwordHash password then .refuse id .invalidCredentials
      else
        let token := generateToken random.tokenBytes
        .ask (.sessionCreate accountId token setup.sessionTtl)
          (.sessionCreated request id token username accountId level)

def resumeSessionCreated (id : Nat) (token : Bytes) (accountId : Nat) (level : UInt8) :
    Option DbResult → Turn
  | some .ok =>
      .answer id .loginResponse
        (loginResponse .success token setup.worldHost setup.worldPort accountId level)
  | _ => .refuse id .serverError

def resumeCommand (request id : Nat) (command : AuthMessage) (target password : Bytes)
    (level : UInt8) (actor : Bytes) (random : Entropy) : Turn :=
  if command = .adminAccountCreateRequest then
    if !validUsername target || password.length < kMinPasswordLength ||
        PermissionLevel.admin.toU8 < level then
      .report id (responseType command) .malformedRequest
    else
      match random.passwordHash with
      | none => .report id (responseType command) .serverError
      | some hash =>
          .ask (.accountCreateWithLevel target hash level)
            (.accountCreated request id target level actor)
  else if command = .adminAccountDeleteRequest then
    .ask (.accountDelete target) (.accountDeleted request id target actor)
  else if PermissionLevel.admin.toU8 < level then
    .report id (responseType command) .malformedRequest
  else .ask (.accountSetLevel target level) (.levelSet request id target level actor)

def resumeAdmin (request id : Nat) (command : AuthMessage) (target password : Bytes)
    (level : UInt8) (random : Entropy) : Option (Bool × Session) → Turn
  | none => .report id (responseType command) .serverError
  | some (false, _) => .report id (responseType command) .sessionExpired
  | some (true, session) =>
      if session.permissionLevel < PermissionLevel.admin.toU8 then
        .report id (responseType command) .insufficientPermission
      else resumeCommand request id command target password level session.username random

/-- The turn of a callback. -/
def resume (random : Entropy) (handler : AuthHandler) (reply : Option DbReply) : Turn :=
  match handler with
  | .login request id password username =>
      resumeLogin setup request id password username random (accountLookupResult reply)
  | .sessionCreated _ id token _ accountId level =>
      resumeSessionCreated setup id token accountId level (sessionCreateResult reply)
  | .registered _ id _ =>
      .report id .registerResponse
        (changeResult .conflict .accountExists (accountCreateResult reply))
  | .admin request id command target password level =>
      resumeAdmin request id command target password level random (sessionLookupResult reply)
  | .accountCreated _ id _ _ _ =>
      .report id .adminAccountCreateResponse
        (changeResult .conflict .accountExists (accountCreateResult reply))
  | .accountDeleted _ id _ _ =>
      .report id .adminAccountDeleteResponse
        (changeResult .notFound .noSuchAccount (accountDeleteResult reply))
  | .levelSet _ id _ _ _ =>
      .report id .adminSetLevelResponse
        (changeResult .notFound .noSuchAccount (accountSetLevelResult reply))

theorem runCommand_turn (a : AuthServer) (request id : Nat) (command : AuthMessage)
    (target password : Bytes) (level : UInt8) (actor : Bytes) (random : Entropy) :
    a.runCommand request id command target password level actor random =
      (resumeCommand request id command target password level actor random).take a request := by
  rw [runCommand, resumeCommand]
  split
  · split
    · rfl
    · cases random.passwordHash <;> rfl
  · split
    · rfl
    · split <;> rfl

theorem onReply_turn (a : AuthServer) (random : Entropy) (handler : AuthHandler)
    (reply : Option DbReply) :
    onReply setup a random handler reply =
      (resume setup random handler reply).take a handler.request := by
  cases handler with
  | login request id password username =>
      rw [onReply, resume]
      rcases accountLookupResult reply with _ | ⟨found, accountId, passwordHash, level⟩
      · rfl
      · simp only [onLoginLookup, resumeLogin]
        split <;> rfl
  | sessionCreated request id token username accountId level =>
      rw [onReply, resume]
      cases sessionCreateResult reply with
      | none => rfl
      | some result => cases result <;> rfl
  | admin request id command target password level =>
      rw [onReply, resume]
      rcases sessionLookupResult reply with _ | ⟨found, session⟩
      · rfl
      · cases found with
        | false => rfl
        | true =>
            simp only [onAdminLookup, resumeAdmin]
            split
            · rfl
            · exact runCommand_turn _ _ _ _ _ _ _ _ _
  | _ => rfl

end Replies

section Conversations

/-- The message type that a message is to be answered with. -/
def responseTo (m : Message) : Option AuthMessage :=
  match AuthMessage.ofU16 m.type with
  | some .loginRequest => some .loginResponse
  | some .registerRequest => some .registerResponse
  | some .adminAccountCreateRequest => some .adminAccountCreateResponse
  | some .adminAccountDeleteRequest => some .adminAccountDeleteResponse
  | some .adminSetLevelRequest => some .adminSetLevelResponse
  | _ => none

/-- A turn that answers, or lets a callback answer, on this connection and with this type, what the
message with this number asked. -/
def Keeps (request id : Nat) (type : AuthMessage) : Turn → Prop
  | .answer id' type' _ => id' = id ∧ type' = type
  | .ask _ handler =>
      handler.request = request ∧ handler.connection = id ∧ handler.responseType = type
  | .ignore => False

/-- An answer of the right type keeps. -/
theorem keeps_answer (request id : Nat) (type : AuthMessage) (payload : Bytes) :
    Keeps request id type (.answer id type payload) :=
  ⟨rfl, rfl⟩

theorem hearAdmin_keeps (request id : Nat) (command : AuthMessage) (data : Bytes) :
    Keeps request id (responseType command) (hearAdmin request id command data) := by
  simp only [hearAdmin]
  split
  · exact keeps_answer _ _ _ _
  · exact ⟨rfl, rfl, rfl⟩

/-- A message that is to be answered is answered, or hands over to a callback that will. -/
theorem hear_keeps {m : Message} {type : AuthMessage} (h : responseTo m = some type)
    (request id : Nat) (random : Entropy) : Keeps request id type (hear request id m random) := by
  rw [responseTo] at h
  rw [hear]
  split at h
  · cases h
    simp only [hearLogin]
    split
    · exact keeps_answer _ _ _ _
    · split
      · exact keeps_answer _ _ _ _
      · exact ⟨rfl, rfl, rfl⟩
  · cases h
    simp only [hearRegister]
    split
    · exact keeps_answer _ _ _ _
    · split
      · exact keeps_answer _ _ _ _
      · split
        · exact keeps_answer _ _ _ _
        · cases random.passwordHash with
          | none => exact keeps_answer _ _ _ _
          | some hash => exact ⟨rfl, rfl, rfl⟩
  · cases h
    exact hearAdmin_keeps _ _ _ _
  · cases h
    exact hearAdmin_keeps _ _ _ _
  · cases h
    exact hearAdmin_keeps _ _ _ _
  · cases h

/-- Any other message is ignored. -/
theorem hear_ignore {m : Message} (h : responseTo m = none) (request id : Nat) (random : Entropy) :
    hear request id m random = .ignore := by
  rw [responseTo] at h
  rw [hear]
  cases htype : AuthMessage.ofU16 m.type with
  | none => rfl
  | some type => cases type <;> simp_all

variable (setup : AuthSetup) (random : Entropy)

theorem resumeCommand_keeps (request id : Nat) (command : AuthMessage) (target password : Bytes)
    (level : UInt8) (actor : Bytes) :
    Keeps request id (responseType command)
      (resumeCommand request id command target password level actor random) := by
  rw [resumeCommand]
  split
  · rename_i hcreate
    split
    · exact keeps_answer _ _ _ _
    · cases random.passwordHash with
      | none => exact keeps_answer _ _ _ _
      | some hash => exact ⟨rfl, rfl, by rw [hcreate]; rfl⟩
  · rename_i hcreate
    split
    · rename_i hdelete
      exact ⟨rfl, rfl, by rw [hdelete]; rfl⟩
    · rename_i hdelete
      split
      · exact keeps_answer _ _ _ _
      · exact ⟨rfl, rfl, by rw [responseType, if_neg hcreate, if_neg hdelete]; rfl⟩

/-- A callback answers for itself or hands over to one that will. -/
theorem resume_keeps (handler : AuthHandler) (reply : Option DbReply) :
    Keeps handler.request handler.connection handler.responseType
      (resume setup random handler reply) := by
  cases handler with
  | login request id password username =>
      rw [resume]
      rcases accountLookupResult reply with _ | ⟨found, accountId, passwordHash, level⟩
      · exact keeps_answer _ _ _ _
      · simp only [resumeLogin]
        split
        · exact keeps_answer _ _ _ _
        · exact ⟨rfl, rfl, rfl⟩
  | sessionCreated request id token username accountId level =>
      rw [resume]
      cases sessionCreateResult reply with
      | none => exact keeps_answer _ _ _ _
      | some result => cases result <;> exact keeps_answer _ _ _ _
  | admin request id command target password level =>
      rw [resume]
      rcases sessionLookupResult reply with _ | ⟨found, session⟩
      · exact keeps_answer _ _ _ _
      · cases found with
        | false => exact keeps_answer _ _ _ _
        | true =>
            simp only [resumeAdmin]
            split
            · exact keeps_answer _ _ _ _
            · exact resumeCommand_keeps _ _ _ _ _ _ _ _
  | registered request id username => exact keeps_answer _ _ _ _
  | accountCreated request id target level actor => exact keeps_answer _ _ _ _
  | accountDeleted request id target actor => exact keeps_answer _ _ _ _
  | levelSet request id target level actor => exact keeps_answer _ _ _ _

/-- A callback that fails answers. -/
theorem resume_none (handler : AuthHandler) :
    ∃ payload, resume setup random handler none =
      .answer handler.connection handler.responseType payload := by
  cases handler <;> exact ⟨_, rfl⟩

end Conversations

section Inversion

/-- The turns on a message, each with what was checked before it. -/
inductive Heard (request id : Nat) (m : Message) (random : Entropy) : Turn → Prop
  | refused {result : AuthResult} (hresult : result ≠ .success) :
      Heard request id m random (.refuse id result)
  | rejected {type : AuthMessage} {result : AuthResult} (htype : type ≠ .loginResponse)
      (hresult : result ≠ .success) : Heard request id m random (.report id type result)
  | login {username password : Bytes} (htype : AuthMessage.ofU16 m.type = some .loginRequest)
      (hread : (readCredentials (.start m.payload)).1 = (kProtocolVersion, username, password, false)) :
      Heard request id m random
        (.ask (.accountLookup username) (.login request id password username))
  | register {username password passwordHash : Bytes}
      (htype : AuthMessage.ofU16 m.type = some .registerRequest)
      (hread : (readCredentials (.start m.payload)).1 = (kProtocolVersion, username, password, false))
      (hvalid : validUsername username = true) (hhash : random.passwordHash = some passwordHash) :
      Heard request id m random
        (.ask (.accountCreate username passwordHash) (.registered request id username))
  | admin {command : AuthMessage} {token target password : Bytes} {level : UInt8}
      (hcommand : command = .adminAccountCreateRequest ∨ command = .adminAccountDeleteRequest ∨
        command = .adminSetLevelRequest)
      (htype : AuthMessage.ofU16 m.type = some command)
      (hread : (readAdminRequest command (.start m.payload)).1 =
        (token, target, password, level, false)) :
      Heard request id m random
        (.ask (.sessionLookup token) (.admin request id command target password level))
  | ignored : Heard request id m random .ignore

/-- The answer of a callback that waits for a change of an account. -/
def changeAnswer (handler : AuthHandler) (reply : Option DbReply) : Option AuthResult :=
  match handler with
  | .registered _ _ _ => some (changeResult .conflict .accountExists (accountCreateResult reply))
  | .accountCreated _ _ _ _ _ =>
      some (changeResult .conflict .accountExists (accountCreateResult reply))
  | .accountDeleted _ _ _ _ =>
      some (changeResult .notFound .noSuchAccount (accountDeleteResult reply))
  | .levelSet _ _ _ _ _ =>
      some (changeResult .notFound .noSuchAccount (accountSetLevelResult reply))
  | _ => none

/-- The turns of a callback, each with what it was told and what was checked before it. -/
inductive Resumed (setup : AuthSetup) (random : Entropy) : AuthHandler → Option DbReply → Turn → Prop
  | refused {handler : AuthHandler} {reply : Option DbReply} {result : AuthResult}
      (hresult : result ≠ .success) :
      Resumed setup random handler reply (.refuse handler.connection result)
  | rejected {handler : AuthHandler} {reply : Option DbReply} {type : AuthMessage}
      {result : AuthResult} (htype : type ≠ .loginResponse) (hresult : result ≠ .success) :
      Resumed setup random handler reply (.report handler.connection type result)
  | verified {request id accountId : Nat} {password username passwordHash : Bytes} {level : UInt8}
      (hverifies : setup.verifyPassword passwordHash password = true) :
      Resumed setup random (.login request id password username)
        (some (.accountLookup true accountId passwordHash level))
        (.ask (.sessionCreate accountId (generateToken random.tokenBytes) setup.sessionTtl)
          (.sessionCreated request id (generateToken random.tokenBytes) username accountId level))
  | confirmed {request id accountId : Nat} {token username : Bytes} {level : UInt8} :
      Resumed setup random (.sessionCreated request id token username accountId level)
        (some (.sessionCreate .ok))
        (.answer id .loginResponse
          (loginResponse .success token setup.worldHost setup.worldPort accountId level))
  | create {request id : Nat} {target password passwordHash : Bytes} {level : UInt8}
      {session : Session} (hadmin : PermissionLevel.admin.toU8 ≤ session.permissionLevel)
      (hvalid : validUsername target = true) (hlevel : level ≤ PermissionLevel.admin.toU8)
      (hhash : random.passwordHash = some passwordHash) :
      Resumed setup random
        (.admin request id .adminAccountCreateRequest target password level)
        (some (.sessionLookup true session))
        (.ask (.accountCreateWithLevel target passwordHash level)
          (.accountCreated request id target level session.username))
  | delete {request id : Nat} {target password : Bytes} {level : UInt8} {session : Session}
      (hadmin : PermissionLevel.admin.toU8 ≤ session.permissionLevel) :
      Resumed setup random
        (.admin request id .adminAccountDeleteRequest target password level)
        (some (.sessionLookup true session))
        (.ask (.accountDelete target) (.accountDeleted request id target session.username))
  | setLevel {request id : Nat} {command : AuthMessage} {target password : Bytes} {level : UInt8}
      {session : Session} (hcreate : command ≠ .adminAccountCreateRequest)
      (hdelete : command ≠ .adminAccountDeleteRequest)
      (hadmin : PermissionLevel.admin.toU8 ≤ session.permissionLevel)
      (hlevel : level ≤ PermissionLevel.admin.toU8) :
      Resumed setup random (.admin request id command target password level)
        (some (.sessionLookup true session))
        (.ask (.accountSetLevel target level) (.levelSet request id target level session.username))
  | changed {handler : AuthHandler} {reply : Option DbReply} {result : AuthResult}
      (hchange : changeAnswer handler reply = some result) :
      Resumed setup random handler reply
        (.report handler.connection handler.responseType result)

theorem responseType_ne_login (command : AuthMessage) : responseType command ≠ .loginResponse := by
  rw [responseType]
  split
  · decide
  · split <;> decide

variable (request id : Nat) (random : Entropy)

theorem hearAdmin_heard {m : Message} {command : AuthMessage}
    (hcommand : command = .adminAccountCreateRequest ∨ command = .adminAccountDeleteRequest ∨
      command = .adminSetLevelRequest)
    (htype : AuthMessage.ofU16 m.type = some command) :
    Heard request id m random (hearAdmin request id command m.payload) := by
  rcases hread : (readAdminRequest command (.start m.payload)).1 with
    ⟨token, target, password, level, failed⟩
  simp only [hearAdmin, hread]
  split
  · exact .rejected (responseType_ne_login command) (by decide)
  · rename_i hfine
    apply Heard.admin hcommand htype
    simp only [Bool.or_eq_true, not_or, Bool.not_eq_true] at hfine
    rw [hread, hfine.1]

theorem hear_heard (m : Message) : Heard request id m random (hear request id m random) := by
  rcases hread : (readCredentials (.start m.payload)).1 with ⟨version, username, password, failed⟩
  cases htype : AuthMessage.ofU16 m.type with
  | none =>
      simp only [hear, htype]
      exact .ignored
  | some type =>
      cases type with
      | loginRequest =>
          simp only [hear, htype, hearLogin, hread]
          split
          · exact .refused (by decide)
          · rename_i hfailed
            split
            · exact .refused (by decide)
            · rename_i hversion
              apply Heard.login htype
              rw [hread, Bool.eq_false_of_not_eq_true hfailed, not_not.mp hversion]
      | registerRequest =>
          simp only [hear, htype, hearRegister, hread]
          split
          · exact .rejected (by decide) (by decide)
          · rename_i hfailed
            split
            · exact .rejected (by decide) (by decide)
            · rename_i hversion
              split
              · exact .rejected (by decide) (by decide)
              · rename_i hfine
                simp only [Bool.or_eq_true, Bool.not_eq_true', decide_eq_true_eq, not_or,
                  Bool.not_eq_false] at hfine
                cases hhash : random.passwordHash with
                | none => exact .rejected (by decide) (by decide)
                | some passwordHash =>
                    have hfields : (readCredentials (.start m.payload)).1 =
                        (kProtocolVersion, username, password, false) := by
                      rw [hread, Bool.eq_false_of_not_eq_true hfailed, not_not.mp hversion]
                    exact .register htype hfields hfine.1 hhash
      | adminAccountCreateRequest =>
          simp only [hear, htype]
          exact hearAdmin_heard request id random (by simp) htype
      | adminAccountDeleteRequest =>
          simp only [hear, htype]
          exact hearAdmin_heard request id random (by simp) htype
      | adminSetLevelRequest =>
          simp only [hear, htype]
          exact hearAdmin_heard request id random (by simp) htype
      | _ =>
          simp only [hear, htype]
          exact .ignored

variable (setup : AuthSetup)

theorem resumeCommand_resumed (command : AuthMessage) (target password : Bytes) (level : UInt8)
    {session : Session} (hadmin : PermissionLevel.admin.toU8 ≤ session.permissionLevel) :
    Resumed setup random (.admin request id command target password level)
      (some (.sessionLookup true session))
      (resumeCommand request id command target password level session.username random) := by
  rw [resumeCommand]
  split
  · rename_i hcommand
    subst hcommand
    split
    · exact .rejected (by decide) (by decide)
    · rename_i hfine
      simp only [Bool.or_eq_true, Bool.not_eq_true', decide_eq_true_eq, not_or, Bool.not_eq_false,
        UInt8.not_lt] at hfine
      cases hhash : random.passwordHash with
      | none => exact .rejected (by decide) (by decide)
      | some passwordHash => exact .create hadmin hfine.1.1 hfine.2 hhash
  · rename_i hcreate
    split
    · rename_i hcommand
      subst hcommand
      exact .delete hadmin
    · rename_i hdelete
      split
      · exact .rejected (responseType_ne_login command) (by decide)
      · rename_i hlevel
        exact .setLevel hcreate hdelete hadmin (UInt8.not_lt.mp hlevel)

theorem resume_resumed (handler : AuthHandler) (reply : Option DbReply) :
    Resumed setup random handler reply (resume setup random handler reply) := by
  cases handler with
  | login request id password username =>
      rw [resume]
      cases hreply : accountLookupResult reply with
      | none => exact .refused (by decide)
      | some result =>
          obtain ⟨found, accountId, passwordHash, level⟩ := result
          obtain rfl := accountLookupResult_eq_some.mp hreply
          simp only [resumeLogin]
          split
          · exact .refused (by decide)
          · rename_i hfine
            simp only [Bool.or_eq_true, Bool.not_eq_true', not_or, Bool.not_eq_false] at hfine
            obtain ⟨rfl, hverifies⟩ := hfine
            exact .verified hverifies
  | sessionCreated request id token username accountId level =>
      rw [resume]
      cases hreply : sessionCreateResult reply with
      | none => exact .refused (by decide)
      | some result =>
          obtain rfl := sessionCreateResult_eq_some.mp hreply
          cases result with
          | ok => exact .confirmed
          | _ => exact .refused (by decide)
  | admin request id command target password level =>
      rw [resume]
      cases hreply : sessionLookupResult reply with
      | none => exact .rejected (responseType_ne_login command) (by decide)
      | some result =>
          obtain ⟨found, session⟩ := result
          obtain rfl := sessionLookupResult_eq_some.mp hreply
          cases found with
          | false => exact .rejected (responseType_ne_login command) (by decide)
          | true =>
              simp only [resumeAdmin]
              split
              · exact .rejected (responseType_ne_login command) (by decide)
              · rename_i hadmin
                exact resumeCommand_resumed _ _ _ setup _ _ _ _ (UInt8.not_lt.mp hadmin)
  | _ => exact .changed rfl

end Inversion

end AuthServer

end UntitledGame.Server
