import UntitledGame.Net.ByteStream

/-!
# Message kinds and result codes

The enumerations of `net/protocol.h` with their numbers on the wire. A message
whose number is none of these matches no handler, which `ofU16` models by
`none`.
-/

namespace UntitledGame.Net

/-- A server refuses a client of another version. -/
def kProtocolVersion : UInt32 := 8

/-- The rate of the simulation, on both sides. -/
def kServerTickHz : Nat := 60

/-- What an account is allowed to do; the levels are compared as numbers. -/
inductive PermissionLevel where
  | player
  | gameMaster
  | admin
  deriving DecidableEq, Repr

/-- The level as the database keeps it. -/
def PermissionLevel.toU8 : PermissionLevel → UInt8
  | .player => 0
  | .gameMaster => 1
  | .admin => 2

/-- Client and auth server. -/
inductive AuthMessage where
  | loginRequest
  | loginResponse
  | registerRequest
  | registerResponse
  | adminAccountCreateRequest
  | adminAccountCreateResponse
  | adminAccountDeleteRequest
  | adminAccountDeleteResponse
  | adminSetLevelRequest
  | adminSetLevelResponse
  deriving DecidableEq, Repr

def AuthMessage.toU16 : AuthMessage → UInt16
  | .loginRequest => 1
  | .loginResponse => 2
  | .registerRequest => 3
  | .registerResponse => 4
  | .adminAccountCreateRequest => 5
  | .adminAccountCreateResponse => 6
  | .adminAccountDeleteRequest => 7
  | .adminAccountDeleteResponse => 8
  | .adminSetLevelRequest => 9
  | .adminSetLevelResponse => 10

/-- What a server can recognise. -/
def AuthMessage.all : List AuthMessage :=
  [.loginRequest, .loginResponse, .registerRequest, .registerResponse, .adminAccountCreateRequest,
    .adminAccountCreateResponse, .adminAccountDeleteRequest, .adminAccountDeleteResponse,
    .adminSetLevelRequest, .adminSetLevelResponse]

def AuthMessage.ofU16 (type : UInt16) : Option AuthMessage := AuthMessage.all.find? (·.toU16 = type)

/-- What the auth server says to a request. -/
inductive AuthResult where
  | success
  | invalidCredentials
  | versionMismatch
  | accountExists
  | serverError
  | malformedRequest
  | notAuthorised
  | noSuchAccount
  | insufficientPermission
  | sessionExpired
  deriving DecidableEq, Repr

def AuthResult.toU8 : AuthResult → UInt8
  | .success => 0
  | .invalidCredentials => 1
  | .versionMismatch => 2
  | .accountExists => 3
  | .serverError => 4
  | .malformedRequest => 5
  | .notAuthorised => 6
  | .noSuchAccount => 7
  | .insufficientPermission => 8
  | .sessionExpired => 9

/-- `toString(AuthResult)` on the byte that a response carries. -/
def authResultText (result : UInt8) : String :=
  match result.toNat with
  | 0 => "success"
  | 1 => "invalid username or password"
  | 2 => "client/server protocol version mismatch"
  | 3 => "account already exists"
  | 4 => "server error"
  | 5 => "malformed request"
  | 6 => "not authorised (bad admin secret)"
  | 7 => "no such account"
  | 8 => "your account lacks permission"
  | 9 => "session expired -- log in again"
  | _ => "unknown"

/-- Auth server or world server, and database server. -/
inductive DbMessage where
  | accountLookupRequest
  | accountLookupResponse
  | accountCreateRequest
  | accountCreateResponse
  | sessionCreateRequest
  | sessionCreateResponse
  | sessionLookupRequest
  | sessionLookupResponse
  | sessionDeleteRequest
  | sessionDeleteResponse
  | accountDeleteRequest
  | accountDeleteResponse
  | accountSetLevelRequest
  | accountSetLevelResponse
  | accountCreateWithLevelRequest
  | adminExistsRequest
  | adminExistsResponse
  deriving DecidableEq, Repr

def DbMessage.toU16 : DbMessage → UInt16
  | .accountLookupRequest => 100
  | .accountLookupResponse => 101
  | .accountCreateRequest => 102
  | .accountCreateResponse => 103
  | .sessionCreateRequest => 104
  | .sessionCreateResponse => 105
  | .sessionLookupRequest => 106
  | .sessionLookupResponse => 107
  | .sessionDeleteRequest => 108
  | .sessionDeleteResponse => 109
  | .accountDeleteRequest => 110
  | .accountDeleteResponse => 111
  | .accountSetLevelRequest => 112
  | .accountSetLevelResponse => 113
  | .accountCreateWithLevelRequest => 114
  | .adminExistsRequest => 115
  | .adminExistsResponse => 116

def DbMessage.all : List DbMessage :=
  [.accountLookupRequest, .accountLookupResponse, .accountCreateRequest, .accountCreateResponse,
    .sessionCreateRequest, .sessionCreateResponse, .sessionLookupRequest, .sessionLookupResponse,
    .sessionDeleteRequest, .sessionDeleteResponse, .accountDeleteRequest, .accountDeleteResponse,
    .accountSetLevelRequest, .accountSetLevelResponse, .accountCreateWithLevelRequest,
    .adminExistsRequest, .adminExistsResponse]

def DbMessage.ofU16 (type : UInt16) : Option DbMessage := DbMessage.all.find? (·.toU16 = type)

/-- What the database server says to a request. -/
inductive DbResult where
  | ok
  | notFound
  | conflict
  | error
  deriving DecidableEq, Repr

def DbResult.toU8 : DbResult → UInt8
  | .ok => 0
  | .notFound => 1
  | .conflict => 2
  | .error => 3

/-- Client and world server, over TCP and UDP. -/
inductive WorldMessage where
  | joinRequest
  | joinResponse
  | logoutRequest
  | logoutResponse
  | disconnect
  | clientHello
  | snapshot
  | clientInput
  | adminSetTimeRequest
  | adminSetTimeResponse
  | adminStatusRequest
  | adminStatusResponse
  | adminSetLatencyRequest
  | adminSetLatencyResponse
  deriving DecidableEq, Repr

def WorldMessage.toU16 : WorldMessage → UInt16
  | .joinRequest => 200
  | .joinResponse => 201
  | .logoutRequest => 202
  | .logoutResponse => 203
  | .disconnect => 204
  | .clientHello => 210
  | .snapshot => 211
  | .clientInput => 212
  | .adminSetTimeRequest => 220
  | .adminSetTimeResponse => 221
  | .adminStatusRequest => 222
  | .adminStatusResponse => 223
  | .adminSetLatencyRequest => 224
  | .adminSetLatencyResponse => 225

def WorldMessage.all : List WorldMessage :=
  [.joinRequest, .joinResponse, .logoutRequest, .logoutResponse, .disconnect, .clientHello,
    .snapshot, .clientInput, .adminSetTimeRequest, .adminSetTimeResponse, .adminStatusRequest,
    .adminStatusResponse, .adminSetLatencyRequest, .adminSetLatencyResponse]

def WorldMessage.ofU16 (type : UInt16) : Option WorldMessage :=
  WorldMessage.all.find? (·.toU16 = type)

/-- What a command does to the clock. -/
inductive TimeCommand where
  | set
  | speed
  | reset
  deriving DecidableEq, Repr

/-- The handler takes any other number for `set`. -/
def TimeCommand.ofU8 (command : UInt8) : Option TimeCommand :=
  match command.toNat with
  | 0 => some .set
  | 1 => some .speed
  | 2 => some .reset
  | _ => none

/-- What the world server says to a join request. -/
inductive JoinResult where
  | success
  | invalidSession
  | versionMismatch
  | serverFull
  | serverError
  deriving DecidableEq, Repr

def JoinResult.toU8 : JoinResult → UInt8
  | .success => 0
  | .invalidSession => 1
  | .versionMismatch => 2
  | .serverFull => 3
  | .serverError => 4

/-- Bit flags in the `buttons` field of a `ClientInput`. -/
def kInputJump : UInt8 := 1
def kInputSprint : UInt8 := 2

/-- Every message kind is recognised by its own number. -/
theorem AuthMessage.ofU16_toU16 (m : AuthMessage) : AuthMessage.ofU16 m.toU16 = some m := by
  cases m <;> decide

/-- No two kinds share a number. -/
theorem AuthMessage.toU16_injective : Function.Injective AuthMessage.toU16 := by
  intro type type' heq
  have hsame := congrArg AuthMessage.ofU16 heq
  rw [AuthMessage.ofU16_toU16, AuthMessage.ofU16_toU16] at hsame
  exact Option.some.inj hsame

theorem DbMessage.ofU16_toU16 (m : DbMessage) : DbMessage.ofU16 m.toU16 = some m := by
  cases m <;> decide

theorem WorldMessage.ofU16_toU16 (m : WorldMessage) : WorldMessage.ofU16 m.toU16 = some m := by
  cases m <;> decide

end UntitledGame.Net
