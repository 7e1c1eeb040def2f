import UntitledGame.Server.DbServer

/-!
# A call of the database, end to end

An RPC method writes a request, the database server runs it and writes a reply, and
the method's callback is told what it reads there. `rpc` is the whole way, over the
bytes in both directions, and `rpc_eq` what it comes to.

`honest_iff` is about failures on that way: the three lookups have no room for one
in their replies, and the creation with a level does not look at its second
statement.
-/

namespace UntitledGame.Server.DbCalls

open Net DbServer

variable (lower : Bytes → Bytes) (d : Database) (now : ℚ) (o : Outcome)

/-- What the callback of an RPC method is told of the reply, if there is one. -/
def rpc (requestId : UInt32) (body : DbRequest) : Option Callback :=
  (onMessage lower d now o ⟨body.type.toU16, body.payload requestId⟩).2.map fun m =>
    DbClient.callback body true m.type m.payload

/-- The tables after the call. -/
def tables (requestId : UInt32) (body : DbRequest) : Database :=
  (onMessage lower d now o ⟨body.type.toU16, body.payload requestId⟩).1

theorem responseType_arrived (body : DbRequest) :
    DbClient.responseType body.arrived = DbClient.responseType body := by
  cases body <;> rfl

theorem onMessage_payload (requestId : UInt32) (body : DbRequest) :
    onMessage lower d now o ⟨body.type.toU16, body.payload requestId⟩ =
      ((handle lower d now o body.arrived).1,
        some ⟨(handle lower d now o body.arrived).2.type.toU16,
          (handle lower d now o body.arrived).2.payload requestId⟩) := by
  simp only [onMessage, respond, parse_payload, Bool.false_eq_true, if_false]

/-- The callback is told what the handler of the request replied. -/
theorem rpc_eq (requestId : UInt32) (body : DbRequest) :
    rpc lower d now o requestId body = some (handle lower d now o body.arrived).2.told := by
  have htype : (handle lower d now o body.arrived).2.type = DbClient.responseType body := by
    rw [handle_type, responseType_arrived]
  rw [rpc, onMessage_payload, Option.map_some, callback_reply requestId htype]

theorem tables_eq (requestId : UInt32) (body : DbRequest) :
    tables lower d now o requestId body = (handle lower d now o body.arrived).1 := by
  rw [tables, onMessage_payload]

section Honesty

/-- A `Database` method that the handler of a request runs returns false. -/
def Failing : DbRequest → Prop
  | .accountLookup username => d.findAccount lower username o.first = none
  | .adminExists => d.hasAdmin o.first = none
  | .accountSetLevel username level => (d.setPermissionLevel lower username level o.first).2 = none
  | .accountCreate username passwordHash =>
      (d.createAccount lower username passwordHash o.first).2 = none
  | .accountCreateWithLevel username passwordHash level =>
      (d.createAccount lower username passwordHash o.first).2 = none ∨
        (∃ accountId, (d.createAccount lower username passwordHash o.first).2 = some (some accountId)) ∧
          level ≠ 0 ∧
          ((d.createAccount lower username passwordHash o.first).1.setPermissionLevel lower username
            level o.second).2 = none
  | .accountDelete username => (d.deleteAccount lower username o.first).2 = none
  | .sessionCreate accountId token ttlSeconds =>
      (d.createSession accountId token ttlSeconds now o.first).2 = false ∨
        Database.touchLastLogin o.second = false
  | .sessionLookup token => d.lookupSession token now o.first = none
  | .sessionDelete token => (d.deleteSession token o.first).2 = false

/-- A query that ran found nothing, or that the name is taken. -/
def Established : DbRequest → Prop
  | .accountLookup username => d.findAccount lower username o.first = some none
  | .adminExists => d.hasAdmin o.first = some false
  | .accountSetLevel username level =>
      (d.setPermissionLevel lower username level o.first).2 = some false
  | .accountCreate username passwordHash =>
      (d.createAccount lower username passwordHash o.first).2 = some none
  | .accountCreateWithLevel username passwordHash _ =>
      (d.createAccount lower username passwordHash o.first).2 = some none
  | .accountDelete username => (d.deleteAccount lower username o.first).2 = some false
  | .sessionLookup token => d.lookupSession token now o.first = some none
  | _ => False

/-- `ok = false` or `DbResult::Error`. -/
def saysFailure : Callback → Bool
  | .account ok _ _ _ _ => !ok
  | .exists ok _ => !ok
  | .result ok result => !ok || result = DbResult.error.toU8
  | .created ok result _ => !ok || result = DbResult.error.toU8
  | .session ok _ _ _ _ => !ok

/-- A definite negative. -/
def saysNo : Callback → Bool
  | .account ok found _ _ _ => ok && !found
  | .exists ok found => ok && !found
  | .result ok result => ok && (result = DbResult.notFound.toU8 || result = DbResult.conflict.toU8)
  | .created ok result _ =>
      ok && (result = DbResult.notFound.toU8 || result = DbResult.conflict.toU8)
  | .session ok found _ _ _ => ok && !found

/-- The caller is told of a failure, and of a negative only if a query established it. -/
def Honest (requestId : UInt32) (body : DbRequest) : Prop :=
  ∃ told, rpc lower d now o requestId body = some told ∧
    (Failing lower d now o body.arrived → saysFailure told = true) ∧
    (saysNo told = true → Established lower d now o body.arrived)

/-- A lookup that does not run, or a creation whose level is not set. -/
def Masked : DbRequest → Prop
  | .accountLookup _ => o.first = false
  | .adminExists => o.first = false
  | .sessionLookup _ => o.first = false
  | .accountCreateWithLevel username passwordHash level =>
      Halved lower d o (.accountCreateWithLevel username passwordHash level)
  | _ => False

variable {lower d now o}

/-- Whether somebody was found, or the failure to look, goes into a result byte. -/
theorem foundResult_says (found : Option Bool) :
    (saysFailure (.result true (foundResult found).toU8) = true ↔ found = none) ∧
      (saysNo (.result true (foundResult found).toU8) = true ↔ found = some false) := by
  rcases found with _ | found
  · decide
  · cases found <;> decide

theorem doneResult_says (done : Bool) :
    saysFailure (.result true (if done then DbResult.ok else DbResult.error).toU8) = !done ∧
      saysNo (.result true (if done then DbResult.ok else DbResult.error).toU8) = false := by
  cases done <;> decide

variable (lower d o) in
/-- What the caller of a creation is told, and what kept the level from being set. -/
theorem create_says (username passwordHash : Bytes) (level : UInt8) :
    (saysFailure (createAccount lower d o username passwordHash level).2.told = true ↔
        (d.createAccount lower username passwordHash o.first).2 = none) ∧
      (saysNo (createAccount lower d o username passwordHash level).2.told = true ↔
        (d.createAccount lower username passwordHash o.first).2 = some none) := by
  rw [createAccount_eq]
  cases hfirst : o.first with
  | false =>
      simp only [Database.createAccount, Bool.not_false, if_true]
      decide
  | true =>
      cases hnamed : d.accounts.any (Database.named lower username) with
      | true =>
          simp only [Database.createAccount, Bool.not_true, Bool.false_eq_true, if_false,
            Bool.true_eq_false, hnamed, if_true]
          decide
      | false =>
          simp only [Database.createAccount, Bool.not_true, Bool.false_eq_true, if_false,
            Bool.true_eq_false, hnamed, DbReply.told, saysFailure, saysNo]
          simp [DbResult.toU8]

variable (now) in
theorem honest_handle (body : DbRequest) :
    ((Failing lower d now o body → saysFailure (handle lower d now o body).2.told = true) ∧
        (saysNo (handle lower d now o body).2.told = true → Established lower d now o body)) ↔
      ¬ Masked lower d o body := by
  cases body with
  | accountLookup username =>
      rw [handle]
      cases hfirst : o.first with
      | false => simp [Failing, Masked, Database.findAccount, hfirst, DbReply.told, saysFailure]
      | true =>
          cases hfind : d.accounts.find? (Database.named lower username) with
          | none =>
              simp [Failing, Established, Masked, Database.findAccount, hfirst, hfind]
          | some a =>
              simp [Failing, Masked, Database.findAccount, hfirst, hfind, DbReply.told, saysNo]
  | adminExists =>
      cases hfirst : o.first with
      | false => simp [handle, Failing, Masked, Database.hasAdmin, hfirst, DbReply.told, saysFailure]
      | true =>
          simp [handle, Failing, Established, Masked, Database.hasAdmin, hfirst, DbReply.told, saysNo]
  | accountSetLevel username level =>
      have hsays := foundResult_says (d.setPermissionLevel lower username level o.first).2
      simp only [handle, DbReply.told, hsays, Failing, Established, Masked, imp_self, and_self,
        not_false_iff]
  | accountCreate username passwordHash =>
      have hsays := create_says lower d o username passwordHash 0
      simp only [handle, hsays, Failing, Established, Masked, imp_self, and_self, not_false_iff]
  | accountCreateWithLevel username passwordHash level =>
      have hsays := create_says lower d o username passwordHash level
      simp only [handle, hsays, Failing, Established, Masked, imp_self, and_true]
      obtain ⟨first, second⟩ := o
      cases first with
      | false => simp [Database.createAccount, Halved]
      | true =>
          cases hnamed : d.accounts.any (Database.named lower username) with
          | true => simp [Database.createAccount, hnamed, Halved]
          | false =>
              cases second <;>
                simp [Database.createAccount, hnamed, Halved, Database.setPermissionLevel]
  | accountDelete username =>
      have hsays := foundResult_says (d.deleteAccount lower username o.first).2
      simp only [handle, DbReply.told, hsays, Failing, Established, Masked, imp_self, and_self,
        not_false_iff]
  | sessionCreate accountId token ttlSeconds =>
      have hsays := doneResult_says
        ((d.createSession accountId token ttlSeconds now o.first).2 && Database.touchLastLogin o.second)
      simp only [handle, DbReply.told, hsays, Failing, Masked]
      simp
  | sessionLookup token =>
      rw [handle]
      cases hfirst : o.first with
      | false => simp [Failing, Masked, Database.lookupSession, hfirst, DbReply.told, saysFailure]
      | true =>
          cases hfound : d.lookupSession token now true with
          | none => simp [Database.lookupSession] at hfound
          | some found =>
              cases found with
              | none => simp [Failing, Established, Masked, hfirst, hfound]
              | some session => simp [Failing, Masked, hfirst, hfound, DbReply.told, saysNo]
  | sessionDelete token =>
      have hsays := doneResult_says (d.deleteSession token o.first).2
      simp only [handle, DbReply.told, hsays, Failing, Masked]
      simp

/-- A caller is deceived exactly by a lookup that does not run and by a level that is not set. -/
theorem honest_iff (requestId : UInt32) (body : DbRequest) :
    Honest lower d now o requestId body ↔ ¬ Masked lower d o body.arrived := by
  rw [← honest_handle now body.arrived, Honest, rpc_eq]
  simp only [Option.some.injEq, exists_eq_left']

/-- A name that is there is reported as unknown when the lookup of the account fails, and a session
as expired when the lookup of the session does. -/
theorem lookup_dishonest :
    ¬ Honest id ⟨[⟨1, [97], [104], 2⟩], [], 2⟩ 0 ⟨false, true⟩ 1 (.accountLookup [97]) ∧
      ¬ Honest id ⟨[⟨1, [97], [104], 2⟩], [⟨[116], 1, 60⟩], 2⟩ 0 ⟨false, true⟩ 1
        (.sessionLookup [116]) := by
  constructor
  · rintro ⟨told, hrpc, hfails, -⟩
    rw [rpc_eq] at hrpc
    obtain rfl := Option.some.inj hrpc
    exact absurd (hfails rfl) (by decide)
  · rintro ⟨told, hrpc, hfails, -⟩
    rw [rpc_eq] at hrpc
    obtain rfl := Option.some.inj hrpc
    exact absurd (hfails rfl) (by decide)

end Honesty

end UntitledGame.Server.DbCalls
