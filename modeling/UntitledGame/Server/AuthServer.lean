import UntitledGame.Server.DbLink
import UntitledGame.Server.TcpServer

/-!
# The auth server

The main loop of the auth server as a step function, in the way of `WorldServer`:
the callbacks are values, and every message gets a number, under which it stands
in `arrivals`.

The loop starts after the removal of the account `bootstrap`. Verifying a password
is a parameter. Hashing one and drawing a token are random, so what they return
comes with the event.
-/

namespace UntitledGame.Server

open Net
open Std (ExtTreeMap)

/-- The callbacks of the auth server, with what they captured. -/
inductive AuthHandler where
  | login (request id : Nat) (password username : Bytes)
  | sessionCreated (request id : Nat) (token username : Bytes) (accountId : Nat) (level : UInt8)
  | registered (request id : Nat) (username : Bytes)
  | admin (request id : Nat) (command : AuthMessage) (target password : Bytes) (level : UInt8)
  | accountCreated (request id : Nat) (target : Bytes) (level : UInt8) (actor : Bytes)
  | accountDeleted (request id : Nat) (target actor : Bytes)
  | levelSet (request id : Nat) (target : Bytes) (level : UInt8) (actor : Bytes)
  deriving DecidableEq, Repr

structure AuthSetup where
  verifyPassword : Bytes → Bytes → Bool
  worldHost : Bytes
  worldPort : UInt16
  sessionTtl : UInt32

/-- What libsodium's random functions return during one piece of work. -/
structure Entropy where
  tokenBytes : Bytes
  passwordHash : Option Bytes
  deriving DecidableEq, Repr

structure AuthServer where
  server : TcpServer
  dbClient : DbClient AuthHandler
  arrivals : List (Nat × Message)

namespace AuthServer

def kMinPasswordLength : Nat := 6
def kMaxUsernameLength : Nat := 32

section Payloads

open ByteReader

def hexDigit (n : UInt8) : UInt8 := if n < 10 then 48 + n else 87 + n

def generateToken (raw : Bytes) : Bytes :=
  raw.flatMap fun byte : UInt8 => [hexDigit (byte >>> 4), hexDigit (byte &&& 0x0F)]

def validUsername (username : Bytes) : Bool :=
  if username.isEmpty || kMaxUsernameLength < username.length then false
  else
    username.all fun c => (97 ≤ c && c ≤ 122) || (65 ≤ c && c ≤ 90) || (48 ≤ c && c ≤ 57) ||
      c == 95 || c == 45

/-- The fields of a `LoginRequest` or a `RegisterRequest`, and whether a read failed. -/
def readCredentials : StateM ByteReader (UInt32 × Bytes × Bytes × Bool) := do
  let version ← u32
  let username ← string
  let password ← string
  return (version, username, password, ← failed)

/-- The three commands share their first two fields. -/
def readAdminRequest (command : AuthMessage) :
    StateM ByteReader (Bytes × Bytes × Bytes × UInt8 × Bool) := do
  let token ← string
  let target ← string
  let password ← if command = .adminAccountCreateRequest then string else pure []
  let level ←
    if command = .adminAccountCreateRequest || command = .adminSetLevelRequest then u8 else pure 0
  return (token, target, password, level, ← failed)

/-- `responseType`. -/
def responseType (command : AuthMessage) : AuthMessage :=
  if command = .adminAccountCreateRequest then .adminAccountCreateResponse
  else if command = .adminAccountDeleteRequest then .adminAccountDeleteResponse
  else .adminSetLevelResponse

def loginResponse (result : AuthResult) (token worldHost : Bytes) (worldPort : UInt16)
    (accountId : Nat) (permissionLevel : UInt8) : Bytes :=
  ByteWriter.u8 result.toU8 ++ ByteWriter.string token ++ ByteWriter.string worldHost ++
    ByteWriter.u16 worldPort ++ ByteWriter.u64 (UInt64.ofNat accountId) ++
    ByteWriter.u8 permissionLevel

end Payloads

variable (setup : AuthSetup)

def init : AuthServer := ⟨.listening, .connected, []⟩

def send (a : AuthServer) (id : Nat) (type : AuthMessage) (payload : Bytes) : AuthServer :=
  { a with server := a.server.send id type.toU16 payload }

def refuseLogin (a : AuthServer) (id : Nat) (result : AuthResult) : AuthServer :=
  a.send id .loginResponse (loginResponse result [] [] 0 0 0)

def sendAdminResponse (a : AuthServer) (id : Nat) (type : AuthMessage) (result : AuthResult) :
    AuthServer :=
  a.send id type (ByteWriter.u8 result.toU8)

def sendRegisterResponse (a : AuthServer) (id : Nat) (result : AuthResult) : AuthServer :=
  a.send id .registerResponse (ByteWriter.u8 result.toU8)

def call (a : AuthServer) (request : Nat) (body : DbRequest) (handler : AuthHandler) : AuthServer :=
  { a with dbClient := a.dbClient.call request body handler }

def onLoginRequest (a : AuthServer) (request id : Nat) (data : Bytes) : AuthServer :=
  let (version, username, password, failed) := (readCredentials (.start data)).1
  if failed then a.refuseLogin id .malformedRequest
  else if version ≠ kProtocolVersion then a.refuseLogin id .versionMismatch
  else a.call request (.accountLookup username) (.login request id password username)

def onRegisterRequest (a : AuthServer) (request id : Nat) (data : Bytes) (random : Entropy) :
    AuthServer :=
  let (version, username, password, failed) := (readCredentials (.start data)).1
  if failed then a.sendRegisterResponse id .malformedRequest
  else if version ≠ kProtocolVersion then a.sendRegisterResponse id .versionMismatch
  else if !validUsername username || password.length < kMinPasswordLength then
    a.sendRegisterResponse id .malformedRequest
  else
    match random.passwordHash with
    | none => a.sendRegisterResponse id .serverError
    | some hash => a.call request (.accountCreate username hash) (.registered request id username)

/-- Every privileged command starts with a lookup of the caller's session. -/
def onAdminRequest (a : AuthServer) (request id : Nat) (command : AuthMessage) (data : Bytes) :
    AuthServer :=
  let (token, target, password, level, failed) := (readAdminRequest command (.start data)).1
  if failed || target.isEmpty then
    a.sendAdminResponse id (responseType command) .malformedRequest
  else a.call request (.sessionLookup token) (.admin request id command target password level)

/-- `callbacks.onMessage`. -/
def onMessage (a : AuthServer) (id : Nat) (m : Message) (random : Entropy) : AuthServer :=
  let request := a.arrivals.length
  let a := { a with arrivals := a.arrivals ++ [(id, m)] }
  match AuthMessage.ofU16 m.type with
  | some .loginRequest => a.onLoginRequest request id m.payload
  | some .registerRequest => a.onRegisterRequest request id m.payload random
  | some .adminAccountCreateRequest =>
      a.onAdminRequest request id .adminAccountCreateRequest m.payload
  | some .adminAccountDeleteRequest =>
      a.onAdminRequest request id .adminAccountDeleteRequest m.payload
  | some .adminSetLevelRequest => a.onAdminRequest request id .adminSetLevelRequest m.payload
  | _ => a

/-- The same answer for an unknown user and for a wrong password. -/
def onLoginLookup (a : AuthServer) (request id : Nat) (password username : Bytes)
    (random : Entropy) : Option (Bool × Nat × Bytes × UInt8) → AuthServer
  | none => a.refuseLogin id .serverError
  | some (found, accountId, passwordHash, level) =>
      if !found || !setup.verifyPassword passwordHash password then
        a.refuseLogin id .invalidCredentials
      else
        let token := generateToken random.tokenBytes
        a.call request (.sessionCreate accountId token setup.sessionTtl)
          (.sessionCreated request id token username accountId level)

def onSessionCreated (a : AuthServer) (id : Nat) (token : Bytes) (accountId : Nat) (level : UInt8) :
    Option DbResult → AuthServer
  | some .ok =>
      a.send id .loginResponse
        (loginResponse .success token setup.worldHost setup.worldPort accountId level)
  | _ => a.refuseLogin id .serverError

/-- The answer to a change of an account: any result but one counts as success. -/
def changeResult (refused : DbResult) (refusal : AuthResult) : Option DbResult → AuthResult
  | none => .serverError
  | some result => if result = refused then refusal else .success

/-- An authorised command. -/
def runCommand (a : AuthServer) (request id : Nat) (command : AuthMessage) (target password : Bytes)
    (level : UInt8) (actor : Bytes) (random : Entropy) : AuthServer :=
  if command = .adminAccountCreateRequest then
    if !validUsername target || password.length < kMinPasswordLength ||
        PermissionLevel.admin.toU8 < level then
      a.sendAdminResponse id (responseType command) .malformedRequest
    else
      match random.passwordHash with
      | none => a.sendAdminResponse id (responseType command) .serverError
      | some hash =>
          a.call request (.accountCreateWithLevel target hash level)
            (.accountCreated request id target level actor)
  else if command = .adminAccountDeleteRequest then
    a.call request (.accountDelete target) (.accountDeleted request id target actor)
  else if PermissionLevel.admin.toU8 < level then
    a.sendAdminResponse id (responseType command) .malformedRequest
  else a.call request (.accountSetLevel target level) (.levelSet request id target level actor)

/-- The authorisation: the caller's session names an account, whose level decides. -/
def onAdminLookup (a : AuthServer) (request id : Nat) (command : AuthMessage)
    (target password : Bytes) (level : UInt8) (random : Entropy) :
    Option (Bool × Session) → AuthServer
  | none => a.sendAdminResponse id (responseType command) .serverError
  | some (false, _) => a.sendAdminResponse id (responseType command) .sessionExpired
  | some (true, session) =>
      if session.permissionLevel < PermissionLevel.admin.toU8 then
        a.sendAdminResponse id (responseType command) .insufficientPermission
      else a.runCommand request id command target password level session.username random

/-- A callback is invoked; `none` stands for `ok = false`. -/
def onReply (a : AuthServer) (random : Entropy) (handler : AuthHandler) (reply : Option DbReply) :
    AuthServer :=
  match handler with
  | .login request id password username =>
      a.onLoginLookup setup request id password username random (accountLookupResult reply)
  | .sessionCreated _ id token _ accountId level =>
      a.onSessionCreated setup id token accountId level (sessionCreateResult reply)
  | .registered _ id _ =>
      a.sendRegisterResponse id (changeResult .conflict .accountExists (accountCreateResult reply))
  | .admin request id command target password level =>
      a.onAdminLookup request id command target password level random (sessionLookupResult reply)
  | .accountCreated _ id _ _ _ =>
      a.sendAdminResponse id .adminAccountCreateResponse
        (changeResult .conflict .accountExists (accountCreateResult reply))
  | .accountDeleted _ id _ _ =>
      a.sendAdminResponse id .adminAccountDeleteResponse
        (changeResult .notFound .noSuchAccount (accountDeleteResult reply))
  | .levelSet _ id _ _ _ =>
      a.sendAdminResponse id .adminSetLevelResponse
        (changeResult .notFound .noSuchAccount (accountSetLevelResult reply))

/-- `dbClient.poll()` on a reply. -/
def onDbReply (a : AuthServer) (requestId : Nat) (reply : DbReply) (random : Entropy) : AuthServer :=
  match a.dbClient.answer requestId with
  | none => a
  | some (handler, dbClient) =>
      onReply setup { a with dbClient := dbClient } random handler (some reply)

/-- The link drops, every callback fails, and the loop waits until the link is up again. -/
def onDbLost (a : AuthServer) (random : Entropy) : AuthServer :=
  a.dbClient.pendingHandlers.foldl (fun a handler => onReply setup a random handler none)
    { a with dbClient := a.dbClient.reconnected }

inductive Event where
  | accept
  | message (id : Nat) (m : Message) (random : Entropy)
  | hangUp (id : Nat)
  | closeDeferred
  | reply (requestId : Nat) (reply : DbReply) (random : Entropy)
  | dbLost (random : Entropy)
  deriving DecidableEq, Repr

/-- Messages come, and a stream fails, on connections that are there. -/
def step (a : AuthServer) : Event → AuthServer
  | .accept => { a with server := a.server.accept }
  | .message id m random => if id ∈ a.server.mConnections then a.onMessage id m random else a
  | .hangUp id =>
      if id ∈ a.server.mConnections then { a with server := a.server.closeConnection id } else a
  | .closeDeferred => { a with server := a.server.closeDeferred }
  | .reply requestId reply random => a.onDbReply setup requestId reply random
  | .dbLost random => a.onDbLost setup random

end AuthServer

end UntitledGame.Server
