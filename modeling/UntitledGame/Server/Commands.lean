import UntitledGame.Server.Chronicle
import UntitledGame.Server.DbCalls

/-!
# A success that is reported for a change of an account

The four commands that change an account test what `DbClient` tells them for a
failed call and for one refusal, and take everything else for success. An error of
the database server is neither, since it comes as an answer. `truthful_iff` says
for which requests and statements the reported success is one.
-/

namespace UntitledGame.Server.Commands

open Net DbServer DbCalls

section Requests

/-- `!ok ? ServerError : result == refused ? refusal : Success`. -/
def judged (refused : DbResult) (refusal : AuthResult) (ok : Bool) (result : UInt8) : AuthResult :=
  if !ok then .serverError else if result = refused.toU8 then refusal else .success

/-- What the callback of a command makes of what it is told. -/
def judge : DbRequest → Callback → Option AuthResult
  | .accountCreate _ _, .created ok result _ => some (judged .conflict .accountExists ok result)
  | .accountCreateWithLevel _ _ _, .created ok result _ =>
      some (judged .conflict .accountExists ok result)
  | .accountDelete _, .result ok result => some (judged .notFound .noSuchAccount ok result)
  | .accountSetLevel _ _, .result ok result => some (judged .notFound .noSuchAccount ok result)
  | _, _ => none

/-- The callback that waits for a change, in the auth server. -/
inductive Awaits : AuthHandler → DbRequest → Prop
  | registered {request id : Nat} {username passwordHash : Bytes} :
      Awaits (.registered request id username) (.accountCreate username passwordHash)
  | accountCreated {request id : Nat} {target passwordHash actor : Bytes} {level : UInt8} :
      Awaits (.accountCreated request id target level actor)
        (.accountCreateWithLevel target passwordHash level)
  | accountDeleted {request id : Nat} {target actor : Bytes} :
      Awaits (.accountDeleted request id target actor) (.accountDelete target)
  | levelSet {request id : Nat} {target actor : Bytes} {level : UInt8} :
      Awaits (.levelSet request id target level actor) (.accountSetLevel target level)

theorem judged_toU8 (refused : DbResult) (refusal : AuthResult) (result : DbResult) :
    judged refused refusal true result.toU8 =
      AuthServer.changeResult refused refusal (some result) := by
  cases refused <;> cases result <;> rfl

/-- The two ways to say what a command answers agree. -/
theorem judge_told {handler : AuthHandler} {body : DbRequest} (h : Awaits handler body)
    {reply : DbReply} (htype : reply.type = DbClient.responseType body) :
    judge body reply.told = AuthServer.changeAnswer handler (some reply) := by
  cases h <;> cases reply <;> cases htype <;> exact congrArg some (judged_toU8 _ _ _)

variable (lower : Bytes → Bytes) (d : Database) (now : ℚ) (o : Outcome)

/-- The answer to a command, from the request to the database on. -/
def answer (requestId : UInt32) (body : DbRequest) : Option AuthResult :=
  (rpc lower d now o requestId body).bind (judge body)

/-- A success that is answered is one. -/
def Truthful (requestId : UInt32) (body : DbRequest) : Prop :=
  answer lower d now o requestId body = some .success →
    Performed lower d (tables lower d now o requestId body) body.arrived

/-- The change is not made, and this is not told: a statement fails, unless the accounts have the
level to be set already. -/
def Hidden : DbRequest → Prop
  | .accountCreate _ _ => o.first = false
  | .accountCreateWithLevel username passwordHash level =>
      o.first = false ∨ Halved lower d o (.accountCreateWithLevel username passwordHash level)
  | .accountDelete _ => o.first = false
  | .accountSetLevel username level =>
      o.first = false ∧ ¬ Performed lower d d (.accountSetLevel username level)
  | _ => False

/-- `Truthful`, for the handler of the request alone. -/
def Meant (body : DbRequest) : Prop :=
  judge body (handle lower d now o body).2.told = some .success →
    Performed lower d (handle lower d now o body).1 body

theorem truthful_iff_meant (requestId : UInt32) (body : DbRequest) :
    Truthful lower d now o requestId body ↔ Meant lower d now o body.arrived := by
  have hjudge : ∀ told, judge body told = judge body.arrived told := by
    intro told
    cases body <;> cases told <;> rfl
  rw [Truthful, Meant, answer, rpc_eq, tables_eq, Option.bind_some, hjudge]

variable {lower d now o}

/-- A name cannot be free and have an account. -/
theorem not_created (username passwordHash : Bytes) (level : UInt8) :
    ¬ Performed lower d d (.accountCreateWithLevel username passwordHash level) := by
  rintro ⟨hnone, id, hmem⟩
  exact absurd (named_self rfl) (List.any_eq_false.mp hnone _ hmem)

theorem not_deleted (username : Bytes) : ¬ Performed lower d d (.accountDelete username) := by
  rintro ⟨hsome, hnone⟩
  rw [hsome] at hnone
  cases hnone

theorem meant_create (username passwordHash : Bytes) (level : UInt8) :
    Meant lower d now o (.accountCreateWithLevel username passwordHash level) ↔
      ¬ Hidden lower d o (.accountCreateWithLevel username passwordHash level) := by
  rw [Meant]
  cases hfirst : o.first with
  | false =>
      rw [handle, createAccount_eq, if_pos hfirst]
      constructor
      · intro h _
        exact not_created username passwordHash level (h rfl)
      · intro h
        exact absurd (Or.inl hfirst) h
  | true =>
      have hruns : ¬ o.first = false := by simp [hfirst]
      by_cases hnamed : d.accounts.any (Database.named lower username) = true
      · rw [handle, createAccount_eq, if_neg hruns, if_pos hnamed]
        constructor
        · rintro - (hfails | hhalved)
          · exact hruns hfails
          · rw [hhalved.2.2] at hnamed
            cases hnamed
        · intro _ hanswer
          cases hanswer
      · have hreply : (handle lower d now o
            (.accountCreateWithLevel username passwordHash level)).2 =
              .accountCreate .ok d.nextAccountId := by
          rw [handle, createAccount_eq, if_neg hruns, if_neg hnamed]
        have hok := congrArg resultOf hreply
        constructor
        · rintro h (hfails | hhalved)
          · exact hruns hfails
          · cases halved_fails now hhalved with
            | inl hrow =>
                obtain ⟨result, hresult, hne, -⟩ := hrow
                rw [hok] at hresult
                exact hne (Option.some.inj hresult).symm
            | inr hlevel =>
                apply hlevel.2
                apply h
                rw [hreply]
                rfl
        · intro h _
          exact handle_ok (fun hhalved => h (Or.inr hhalved)) hok

/-- A plain creation is one with level zero, which is not set. -/
theorem hidden_create (username passwordHash : Bytes) :
    Hidden lower d o (.accountCreateWithLevel username passwordHash 0) ↔
      Hidden lower d o (.accountCreate username passwordHash) := by
  simp [Hidden, Halved]

theorem judge_create (username passwordHash : Bytes) (told : Callback) :
    judge (.accountCreateWithLevel username passwordHash 0) told =
      judge (.accountCreate username passwordHash) told := by
  cases told <;> rfl

/-- For a deletion or a level, what was found decides, if the statement ran. -/
theorem judged_found (found : Option Bool) :
    judged .notFound .noSuchAccount true (foundResult found).toU8 = .success ↔ found ≠ some false := by
  rcases found with _ | found
  · decide
  · cases found <;> decide

theorem meant_found {body : DbRequest} (found : Option Bool)
    (hanswer : judge body (handle lower d now o body).2.told =
      some (judged .notFound .noSuchAccount true (foundResult found).toU8))
    (hresult : resultOf (handle lower d now o body).2 = some (foundResult found))
    (hwhole : ¬ Halved lower d o body) (hfound : found ≠ none) : Meant lower d now o body := by
  intro hsuccess
  apply handle_ok hwhole
  rw [hanswer, Option.some.injEq, judged_found] at hsuccess
  rw [hresult]
  rcases found with _ | found
  · exact absurd rfl hfound
  · cases found with
    | true => rfl
    | false => exact absurd rfl hsuccess

variable (now) in
theorem meant_iff (body : DbRequest) : Meant lower d now o body ↔ ¬ Hidden lower d o body := by
  cases body with
  | accountCreate username passwordHash =>
      have hcreate : Meant lower d now o (.accountCreateWithLevel username passwordHash 0) ↔ _ :=
        meant_create username passwordHash 0
      rw [Meant, judge_create, hidden_create] at hcreate
      exact hcreate
  | accountCreateWithLevel username passwordHash level =>
      exact meant_create username passwordHash level
  | accountDelete username =>
      cases hfirst : o.first with
      | false =>
          constructor
          · intro h _
            rw [Meant, handle, hfirst] at h
            exact not_deleted username (h rfl)
          · intro h
            exact absurd hfirst h
      | true =>
          constructor
          · intro _ hhidden
            rw [Hidden, hfirst] at hhidden
            cases hhidden
          · intro _
            apply meant_found (d.deleteAccount lower username o.first).2 rfl rfl id
            simp [Database.deleteAccount, hfirst]
  | accountSetLevel username level =>
      cases hfirst : o.first with
      | false =>
          rw [Meant, handle, hfirst, Hidden, hfirst]
          constructor
          · intro h hhidden
            exact hhidden.2 (h rfl)
          · intro h _
            by_contra hnot
            exact h ⟨rfl, hnot⟩
      | true =>
          constructor
          · intro _ hhidden
            rw [Hidden, hfirst] at hhidden
            cases hhidden.1
          · intro _
            apply meant_found (d.setPermissionLevel lower username level o.first).2 rfl rfl id
            simp [Database.setPermissionLevel, hfirst]
  | sessionCreate accountId token ttlSeconds =>
      constructor
      · exact fun _ => id
      · intro _ hsuccess
        cases hsuccess
  | sessionDelete token =>
      constructor
      · exact fun _ => id
      · intro _ hsuccess
        cases hsuccess
  | _ => exact iff_of_true (fun _ => True.intro) id

/-- A success that is reported is one unless the failure is hidden. -/
theorem truthful_request (requestId : UInt32) (body : DbRequest) :
    Truthful lower d now o requestId body ↔ ¬ Hidden lower d o body.arrived := by
  rw [truthful_iff_meant, meant_iff]

end Requests

section Runs

open Backend Sim AuthServer

variable {setup : AuthSetup} {lower : Bytes → Bytes} {arrivals : List (Nat × Message)}
  {log : List Handling}

/-- The change that a message asks for, as a request to the database. -/
def Wants (m : Message) : DbRequest → Prop
  | .accountCreate username _ =>
      AuthMessage.ofU16 m.type = some .registerRequest ∧
        (readCredentials (.start m.payload)).1.2.1 = username
  | .accountCreateWithLevel target _ level =>
      AuthMessage.ofU16 m.type = some .adminAccountCreateRequest ∧
        (readAdminRequest .adminAccountCreateRequest (.start m.payload)).1.2.1 = target ∧
        (readAdminRequest .adminAccountCreateRequest (.start m.payload)).1.2.2.2.1 = level
  | .accountDelete target =>
      AuthMessage.ofU16 m.type = some .adminAccountDeleteRequest ∧
        (readAdminRequest .adminAccountDeleteRequest (.start m.payload)).1.2.1 = target
  | .accountSetLevel target level =>
      AuthMessage.ofU16 m.type = some .adminSetLevelRequest ∧
        (readAdminRequest .adminSetLevelRequest (.start m.payload)).1.2.1 = target ∧
        (readAdminRequest .adminSetLevelRequest (.start m.payload)).1.2.2.2.1 = level
  | _ => False

/-- The session that a command waits for was asked for by its message. -/
theorem commanded {k id request : Nat} {body : DbRequest} {command : AuthMessage}
    {target password : Bytes} {level : UInt8}
    (h : Reason setup lower arrivals log k
      (.ask body (.admin request id command target password level))) :
    k = request ∧ ∃ m token, arrivals[k]? = some (id, m) ∧ AuthMessage.ofU16 m.type = some command ∧
      (command = .adminAccountCreateRequest ∨ command = .adminAccountDeleteRequest ∨
        command = .adminSetLevelRequest) ∧
      (readAdminRequest command (.start m.payload)).1 = (token, target, password, level, false) := by
  cases h.inversion with
  | inl hheard =>
      obtain ⟨id', m, random, harrived, hheard⟩ := hheard
      cases hheard with
      | admin hcommand htype hread => exact ⟨rfl, m, _, harrived, htype, hcommand, hread⟩
  | inr hresumed =>
      obtain ⟨handler, reply, random, -, hresumed, -⟩ := hresumed
      cases hresumed

/-- A callback that waits for a change waits for the one that its message asks for. -/
theorem wanted {k : Nat} {body : DbRequest} {handler : AuthHandler} {reply : Option DbReply}
    {result : AuthResult} (h : Reason setup lower arrivals log k (.ask body handler))
    (hchange : changeAnswer handler reply = some result) :
    Awaits handler body ∧ ∃ m, arrivals[k]? = some (handler.connection, m) ∧
      responseTo m = some handler.responseType ∧ Wants m body := by
  cases h.inversion with
  | inl hheard =>
      obtain ⟨id, m, random, harrived, hheard⟩ := hheard
      cases hheard with
      | login htype hread => cases hchange
      | admin hcommand htype hread => cases hchange
      | register htype hread hvalid hhash =>
          refine ⟨.registered, m, harrived, ?_, htype, ?_⟩
          · rw [responseTo, htype]
            rfl
          · rw [hread]
  | inr hresumed =>
      obtain ⟨previous, told, random, hk, hresumed, htells⟩ := hresumed
      cases hresumed with
      | verified hverifies => cases hchange
      | create hadmin hvalid hlevel hhash =>
          obtain ⟨entry, -, -, -, hasks⟩ := htells _ rfl
          obtain ⟨horigin, m, token, harrived, htype, -, hread⟩ := commanded hasks
          rw [horigin] at harrived
          subst hk
          refine ⟨.accountCreated, m, harrived, ?_, htype, ?_, ?_⟩
          · rw [responseTo, htype]
            rfl
          · rw [hread]
          · rw [hread]
      | delete hadmin =>
          obtain ⟨entry, -, -, -, hasks⟩ := htells _ rfl
          obtain ⟨horigin, m, token, harrived, htype, -, hread⟩ := commanded hasks
          rw [horigin] at harrived
          subst hk
          refine ⟨.accountDeleted, m, harrived, ?_, htype, ?_⟩
          · rw [responseTo, htype]
            rfl
          · rw [hread]
      | setLevel hcreate hdelete hadmin hlevel =>
          obtain ⟨entry, -, -, -, hasks⟩ := htells _ rfl
          obtain ⟨horigin, m, token, harrived, htype, hcommand, hread⟩ := commanded hasks
          obtain rfl := (hcommand.resolve_left hcreate).resolve_left hdelete
          rw [horigin] at harrived
          subst hk
          refine ⟨.levelSet, m, harrived, ?_, htype, ?_, ?_⟩
          · rw [responseTo, htype]
            rfl
          · rw [hread]
          · rw [hread]

theorem result_injective {result : AuthResult}
    (h : ByteWriter.u8 AuthResult.success.toU8 = ByteWriter.u8 result.toU8) : result = .success := by
  cases result with
  | success => rfl
  | _ => cases h

/-- A success of a command rests on a request for the change that its message asks for. -/
theorem reported {k id : Nat} {type : AuthMessage} (hlogin : type ≠ .loginResponse)
    (h : Reason setup lower arrivals log k (.answer id type (ByteWriter.u8 AuthResult.success.toU8))) :
    ∃ entry ∈ log, entry.side = .auth ∧
      (∃ m, arrivals[entry.request.origin]? = some (id, m) ∧ responseTo m = some type ∧
        Wants m entry.request.body) ∧
      judge entry.request.body (entry.result lower).2.told = some .success := by
  generalize hpayload : ByteWriter.u8 AuthResult.success.toU8 = payload at h
  cases h.inversion with
  | inl hheard =>
      obtain ⟨id', m, random, -, hheard⟩ := hheard
      cases hheard with
      | refused hresult => exact absurd rfl hlogin
      | rejected htype hresult => exact absurd (result_injective hpayload) hresult
  | inr hresumed =>
      obtain ⟨handler, reply, random, -, hresumed, htells⟩ := hresumed
      cases hresumed with
      | refused hresult => exact absurd rfl hlogin
      | rejected htype hresult => exact absurd (result_injective hpayload) hresult
      | confirmed => exact absurd rfl hlogin
      | changed hchange =>
          obtain rfl := result_injective hpayload
          cases reply with
          | none => cases handler <;> cases hchange
          | some told =>
              obtain ⟨entry, hentry, hside, rfl, hasks⟩ := htells told rfl
              obtain ⟨hawaits, m, harrived, hresponse, hwants⟩ := wanted hasks hchange
              refine ⟨entry, hentry, hside, ⟨m, harrived, hresponse, hwants⟩, ?_⟩
              have htype : (entry.result lower).2.type = DbClient.responseType entry.request.body :=
                handle_type _ _ _ _ _
              rw [judge_told hawaits htype]
              exact hchange

variable {F : Type*} [Scalar F] (deployment : Deployment F)

/-- For every request to the database, a success that is answered is one unless a failure is hidden.
In every run, a success that is sent answers a message on its connection, the database has handled
the change that the message asks for, and has made it unless a failure was hidden. -/
theorem truthful_iff :
    (∀ lower d now o requestId body,
      Truthful lower d now o requestId body ↔ ¬ Hidden lower d o body.arrived) ∧
    ∀ (database : Database) (now : ClockReading F) (events : List (Event F)) (id : Nat)
      (type : AuthMessage), type ≠ .loginResponse →
      (id, ⟨type.toU16, ByteWriter.u8 AuthResult.success.toU8⟩) ∈
        (chronicle deployment database now events).1.auth.server.sent →
      ∃ entry ∈ (chronicle deployment database now events).2, entry.side = .auth ∧
        (∃ m, (chronicle deployment database now events).1.auth.arrivals[entry.request.origin]? =
            some (id, m) ∧ responseTo m = some type ∧ Wants m entry.request.body) ∧
        (Performed deployment.lower entry.before (entry.result deployment.lower).1
            entry.request.body ↔
          ¬ Hidden deployment.lower entry.before entry.outcome entry.request.body) := by
  constructor
  · intro lower d now o requestId body
    exact truthful_request requestId body
  · intro database now events id type hlogin hsent
    obtain ⟨k, type', payload, hreason, heq⟩ :=
      (grounded_chronicle deployment database now events).sent _ _ hsent
    rw [Message.mk.injEq] at heq
    obtain rfl := AuthMessage.toU16_injective heq.1
    obtain rfl := heq.2
    obtain ⟨entry, hentry, hside, hwants, hjudge⟩ := reported hlogin hreason
    refine ⟨entry, hentry, hside, hwants, ?_⟩
    rw [← meant_iff entry.now, Meant]
    exact ⟨fun hperformed _ => hperformed, fun hmeant => hmeant hjudge⟩

/-- The insert of an account fails, and the account is reported as registered. -/
theorem register_untruthful :
    ¬ Truthful id ⟨[], [], 1⟩ 0 ⟨false, true⟩ 1 (.accountCreate [97] [104]) := by
  rw [truthful_iff_meant]
  intro h
  exact not_created [97] [104] 0 (h rfl)

end Runs

end UntitledGame.Server.Commands
