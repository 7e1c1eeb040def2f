import UntitledGame.Server.AuthServer
import UntitledGame.Lib.Runs

/-!
# What the auth server asks of the database, and why

The counterpart of `Provenance` for the auth server: `Asks` lists the requests that
a message leads to, `Follows` the requests that a reply leads to, and `step_effect`
is the inversion of a step. A request that changes an account, other than a
registration, follows only the reply to the lookup of an administrator's session.
-/

namespace UntitledGame.Server.AuthServer

open Net

/-- The part of the state that deals with requests. -/
def ledger (a : AuthServer) : DbClient AuthHandler × List (Nat × Message) := (a.dbClient, a.arrivals)

theorem ledger_eq {a : AuthServer} {dbClient : DbClient AuthHandler}
    {arrivals : List (Nat × Message)} :
    a.ledger = (dbClient, arrivals) ↔ a.dbClient = dbClient ∧ a.arrivals = arrivals := by
  simp only [ledger, Prod.mk.injEq]

/-- The token in a message, as the handler of the message reads it. -/
def carriedToken (m : Message) : Option Bytes :=
  match AuthMessage.ofU16 m.type with
  | some .adminAccountCreateRequest =>
      some (readAdminRequest .adminAccountCreateRequest (.start m.payload)).1.1
  | some .adminAccountDeleteRequest =>
      some (readAdminRequest .adminAccountDeleteRequest (.start m.payload)).1.1
  | some .adminSetLevelRequest =>
      some (readAdminRequest .adminSetLevelRequest (.start m.payload)).1.1
  | _ => none

/-- The requests, with their callbacks, that handling the message with this number can issue. -/
inductive Asks (request id : Nat) (m : Message) : DbRequest → AuthHandler → Prop
  | login (username password : Bytes) :
      Asks request id m (.accountLookup username) (.login request id password username)
  | register (username passwordHash : Bytes) :
      Asks request id m (.accountCreate username passwordHash) (.registered request id username)
  | admin (token : Bytes) (command : AuthMessage) (target password : Bytes) (level : UInt8)
      (hcarries : carriedToken m = some token) :
      Asks request id m (.sessionLookup token) (.admin request id command target password level)

/-- The requests, with their callbacks, that a callback can issue on a reply. -/
inductive Follows : AuthHandler → DbReply → Nat → DbRequest → AuthHandler → Prop
  | session {request id : Nat} {password username : Bytes} {reply : DbReply} (token : Bytes)
      (accountId : Nat) (level : UInt8) (ttlSeconds : UInt32) :
      Follows (.login request id password username) reply request
        (.sessionCreate accountId token ttlSeconds)
        (.sessionCreated request id token username accountId level)
  | create {request id : Nat} {command : AuthMessage} {target password : Bytes} {level : UInt8}
      {session : Session} (passwordHash : Bytes)
      (hadmin : PermissionLevel.admin.toU8 ≤ session.permissionLevel) :
      Follows (.admin request id command target password level) (.sessionLookup true session)
        request (.accountCreateWithLevel target passwordHash level)
        (.accountCreated request id target level session.username)
  | delete {request id : Nat} {command : AuthMessage} {target password : Bytes} {level : UInt8}
      {session : Session} (hadmin : PermissionLevel.admin.toU8 ≤ session.permissionLevel) :
      Follows (.admin request id command target password level) (.sessionLookup true session)
        request (.accountDelete target) (.accountDeleted request id target session.username)
  | setLevel {request id : Nat} {command : AuthMessage} {target password : Bytes} {level : UInt8}
      {session : Session} (hadmin : PermissionLevel.admin.toU8 ≤ session.permissionLevel) :
      Follows (.admin request id command target password level) (.sessionLookup true session)
        request (.accountSetLevel target level) (.levelSet request id target level session.username)

/-- What an event can do to the link and the log. -/
inductive Effect (a : AuthServer) : Event → AuthServer → Prop
  | quiet {e : Event} {a' : AuthServer} (hclient : a'.dbClient = a.dbClient)
      (harrivals : a.arrivals <+: a'.arrivals) : Effect a e a'
  | asked {id : Nat} {m : Message} {random : Entropy} {body : DbRequest} {handler : AuthHandler}
      {a' : AuthServer} (hasks : Asks a.arrivals.length id m body handler)
      (hledger : a'.ledger = (a.dbClient.call a.arrivals.length body handler,
        a.arrivals ++ [(id, m)])) : Effect a (.message id m random) a'
  | answered {requestId : Nat} {reply : DbReply} {random : Entropy} {handler : AuthHandler}
      {dbClient : DbClient AuthHandler} {a' : AuthServer}
      (hanswer : a.dbClient.answer requestId = some (handler, dbClient))
      (hledger : a'.ledger = (dbClient, a.arrivals)) : Effect a (.reply requestId reply random) a'
  | followed {requestId : Nat} {reply : DbReply} {random : Entropy} {handler next : AuthHandler}
      {dbClient : DbClient AuthHandler} {request : Nat} {body : DbRequest} {a' : AuthServer}
      (hanswer : a.dbClient.answer requestId = some (handler, dbClient))
      (hfollows : Follows handler reply request body next)
      (hledger : a'.ledger = (dbClient.call request body next, a.arrivals)) :
      Effect a (.reply requestId reply random) a'
  | lost {random : Entropy} {a' : AuthServer}
      (hledger : a'.ledger = (a.dbClient.reconnected, a.arrivals)) : Effect a (.dbLost random) a'

variable (setup : AuthSetup) {a : AuthServer}

theorem Effect.of_ledger {e : Event} {a' : AuthServer} (h : a'.ledger = a.ledger) : Effect a e a' := by
  obtain ⟨hclient, harrivals⟩ := ledger_eq.mp h
  exact .quiet hclient (harrivals ▸ List.prefix_refl _)

/-- Handling a message that does not lead to a request. -/
theorem Effect.of_heard {id : Nat} {m : Message} {random : Entropy} {a' : AuthServer}
    (h : a'.ledger = (a.dbClient, a.arrivals ++ [(id, m)])) :
    Effect a (.message id m random) a' := by
  obtain ⟨hclient, harrivals⟩ := ledger_eq.mp h
  exact .quiet hclient (harrivals ▸ List.prefix_append _ _)

theorem onAdminRequest_effect {id : Nat} {m : Message} {random : Entropy} {command : AuthMessage}
    (hcarries : carriedToken m = some (readAdminRequest command (.start m.payload)).1.1) :
    Effect a (.message id m random)
      (({ a with arrivals := a.arrivals ++ [(id, m)] } : AuthServer).onAdminRequest
        a.arrivals.length id command m.payload) := by
  rw [onAdminRequest]
  rcases hread : (readAdminRequest command (.start m.payload)).1 with
    ⟨token, target, password, level, failed⟩
  rw [hread] at hcarries
  dsimp only
  split
  · exact .of_heard rfl
  · exact .asked (.admin token command target password level hcarries) rfl

theorem onMessage_effect (id : Nat) (m : Message) (random : Entropy) :
    Effect a (.message id m random) (a.onMessage id m random) := by
  rw [onMessage]
  split
  · rw [onLoginRequest]
    dsimp only
    split
    · exact .of_heard rfl
    · split
      · exact .of_heard rfl
      · exact .asked (.login _ _) rfl
  · rw [onRegisterRequest]
    dsimp only
    split
    · exact .of_heard rfl
    · split
      · exact .of_heard rfl
      · split
        · exact .of_heard rfl
        · split
          · exact .of_heard rfl
          · exact .asked (.register _ _) rfl
  · rename_i htype
    exact onAdminRequest_effect (by simp only [carriedToken, htype])
  · rename_i htype
    exact onAdminRequest_effect (by simp only [carriedToken, htype])
  · rename_i htype
    exact onAdminRequest_effect (by simp only [carriedToken, htype])
  · exact .of_heard rfl

/-- An authorised command answers at once or asks for the change. -/
theorem runCommand_effect {requestId : Nat} {random : Entropy} {request id : Nat}
    {command : AuthMessage} {target password : Bytes} {level : UInt8} {session : Session}
    {dbClient : DbClient AuthHandler}
    (hanswer : a.dbClient.answer requestId =
      some (.admin request id command target password level, dbClient))
    (hadmin : PermissionLevel.admin.toU8 ≤ session.permissionLevel) :
    Effect a (.reply requestId (.sessionLookup true session) random)
      (({ a with dbClient := dbClient } : AuthServer).runCommand request id command target password
        level session.username random) := by
  rw [runCommand]
  split
  · split
    · exact .answered hanswer rfl
    · split
      · exact .answered hanswer rfl
      · exact .followed hanswer (.create _ hadmin) rfl
  · split
    · exact .followed hanswer (.delete hadmin) rfl
    · split
      · exact .answered hanswer rfl
      · exact .followed hanswer (.setLevel hadmin) rfl

theorem onDbReply_effect (requestId : Nat) (reply : DbReply) (random : Entropy) :
    Effect a (.reply requestId reply random) (a.onDbReply setup requestId reply random) := by
  rw [onDbReply]
  split
  · exact .of_ledger rfl
  · rename_i handler dbClient hanswer
    cases handler with
    | login request id password username =>
        rw [onReply]
        cases hresult : accountLookupResult (some reply) with
        | none => exact .answered hanswer rfl
        | some result =>
            obtain ⟨found, accountId, passwordHash, level⟩ := result
            rw [onLoginLookup]
            split
            · exact .answered hanswer rfl
            · exact .followed hanswer (.session _ accountId level setup.sessionTtl) rfl
    | sessionCreated request id token username accountId level =>
        rw [onReply, onSessionCreated.eq_def]
        split
        · exact .answered hanswer rfl
        · exact .answered hanswer rfl
    | admin request id command target password level =>
        rw [onReply]
        cases hresult : sessionLookupResult (some reply) with
        | none => exact .answered hanswer rfl
        | some result =>
            obtain ⟨found, session⟩ := result
            cases found with
            | false => exact .answered hanswer rfl
            | true =>
                obtain rfl := Option.some.inj (sessionLookupResult_eq_some.mp hresult)
                rw [onAdminLookup]
                split
                · exact .answered hanswer rfl
                · rename_i hlevel
                  exact runCommand_effect hanswer (UInt8.not_lt.mp hlevel)
    | registered request id username => exact .answered hanswer rfl
    | accountCreated request id target level actor => exact .answered hanswer rfl
    | accountDeleted request id target actor => exact .answered hanswer rfl
    | levelSet request id target level actor => exact .answered hanswer rfl

/-- A callback that fails does no more than answer. -/
theorem onReply_none_ledger (random : Entropy) (handler : AuthHandler) :
    (onReply setup a random handler none).ledger = a.ledger := by
  cases handler <;> rfl

theorem onDbLost_ledger (random : Entropy) :
    (a.onDbLost setup random).ledger = (a.dbClient.reconnected, a.arrivals) := by
  exact Lib.Runs.run_frame (f := ledger) (fun b handler => onReply_none_ledger setup random handler)
    { a with dbClient := a.dbClient.reconnected } a.dbClient.pendingHandlers

/-- Every step has one of the listed effects. -/
theorem step_effect (e : Event) : Effect a e (step setup a e) := by
  cases e with
  | accept => exact .of_ledger rfl
  | message id m random =>
      rw [step]
      split
      · exact onMessage_effect id m random
      · exact .of_ledger rfl
  | hangUp id =>
      rw [step]
      split
      · exact .of_ledger rfl
      · exact .of_ledger rfl
  | closeDeferred => exact .of_ledger rfl
  | reply requestId reply random => exact onDbReply_effect setup requestId reply random
  | dbLost random => exact .lost (onDbLost_ledger setup random)

end UntitledGame.Server.AuthServer
