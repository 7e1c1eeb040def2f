import UntitledGame.Server.AuthTurns
import UntitledGame.Server.Console
import UntitledGame.Server.DbServer
import UntitledGame.Server.Provenance
import Mathlib.Data.List.TakeWhile

/-!
# What may stand in the account table

A name is one that `validUsername` accepts, and a level one of the three. The
database checks neither, so everybody who writes to the table has to: the auth
server, on a registration and on the commands of administrators, and the console of
the world server.

`valid_iff` says that one writer does not. The auth server checks the name and the
level of every account that it creates, and both check a level that they set, but
the console creates accounts as they are typed.
-/

namespace UntitledGame.Server.AccountStore

open Net
open AuthServer (validUsername)

/-- A row with a name that may be registered and a level that there is. -/
def ValidAccount (a : Account) : Prop := validUsername a.username = true ∧ a.permissionLevel ≤ 2

instance decidableValidAccount (a : Account) : Decidable (ValidAccount a) :=
  inferInstanceAs (Decidable (_ ∧ _))

def Valid (d : Database) : Prop := ∀ a ∈ d.accounts, ValidAccount a

instance decidableValid (d : Database) : Decidable (Valid d) :=
  inferInstanceAs (Decidable (∀ a ∈ d.accounts, ValidAccount a))

section Statements

variable {lower : Bytes → Bytes} {d : Database} {o : Outcome} {username passwordHash : Bytes}

/-- A valid name has no zero byte that would end it. -/
theorem cString_of_valid (h : validUsername username = true) :
    Database.cString username = username := by
  rw [validUsername] at h
  split at h
  · cases h
  · apply List.takeWhile_eq_self_iff.mpr
    intro c hc
    have hallowed := List.all_eq_true.mp h c hc
    rw [decide_eq_true_iff]
    rintro rfl
    exact absurd hallowed (by decide)

theorem valid_inserted (h : Valid d) {level : Nat}
    (hname : validUsername (Database.cString username) = true) (hlevel : level ≤ 2) :
    Valid (DbServer.inserted d username passwordHash level) := by
  intro a ha
  cases List.mem_append.mp ha with
  | inl hold => exact h a hold
  | inr hnew =>
      obtain rfl := List.mem_singleton.mp hnew
      exact ⟨hname, hlevel⟩

theorem valid_setPermissionLevel (h : Valid d) {level : UInt8}
    (hlevel : level ≤ PermissionLevel.admin.toU8) (runs : Bool) :
    Valid (d.setPermissionLevel lower username level runs).1 := by
  rw [Database.setPermissionLevel]
  split
  · exact h
  · intro a ha
    obtain ⟨b, hb, rfl⟩ := List.mem_map.mp ha
    split
    · exact ⟨(h b hb).1, UInt8.le_iff_toNat_le.mp hlevel⟩
    · exact h b hb

theorem valid_deleteAccount (h : Valid d) (runs : Bool) :
    Valid (d.deleteAccount lower username runs).1 := by
  rw [Database.deleteAccount]
  split
  · exact h
  · intro a ha
    exact h a (List.mem_filter.mp ha).1

/-- The insert of a creation takes place. -/
def Inserts (lower : Bytes → Bytes) (d : Database) (o : Outcome) (username : Bytes) : Prop :=
  o.first = true ∧ d.accounts.any (Database.named lower username) = false

/-- What a creation that takes place has to meet; without its second statement the level is that of
a player. -/
def Sane (o : Outcome) (username : Bytes) (level : UInt8) : Prop :=
  validUsername (Database.cString username) = true ∧
    (o.second = true → level ≤ PermissionLevel.admin.toU8)

theorem createAccount_eq_inserted {level : UInt8} (h : Inserts lower d o username) :
    (DbServer.createAccount lower d o username passwordHash level).1 =
      DbServer.inserted d username passwordHash (if o.second = true then level.toNat else 0) := by
  rw [DbServer.createAccount_eq, if_neg (by rw [h.1]; decide), if_neg (by rw [h.2]; decide)]

theorem valid_createAccount (h : Valid d) {level : UInt8}
    (hsane : Inserts lower d o username → Sane o username level) :
    Valid (DbServer.createAccount lower d o username passwordHash level).1 := by
  rw [DbServer.createAccount_eq]
  split
  · exact h
  · split
    · exact h
    · rename_i hfirst hnamed
      obtain ⟨hname, hlevel⟩ := hsane ⟨Bool.not_eq_false _ ▸ hfirst, Bool.not_eq_true _ ▸ hnamed⟩
      apply valid_inserted h hname
      split
      · rename_i hsecond
        exact UInt8.le_iff_toNat_le.mp (hlevel hsecond)
      · exact Nat.zero_le 2

/-- A creation that takes place and leaves the table valid was sane. -/
theorem sane_of_valid {level : UInt8}
    (hafter : Valid (DbServer.createAccount lower d o username passwordHash level).1)
    (h : Inserts lower d o username) : Sane o username level := by
  rw [createAccount_eq_inserted h] at hafter
  obtain ⟨hname, hlevel⟩ := hafter _ (DbServer.mem_inserted username passwordHash _)
  refine ⟨hname, fun hsecond => ?_⟩
  rw [if_pos hsecond] at hlevel
  exact UInt8.le_iff_toNat_le.mpr hlevel

/-- The check that a request has passed before it is sent. -/
def Checked : DbRequest → Prop
  | .accountCreate username _ => validUsername username = true
  | .accountCreateWithLevel username _ level =>
      validUsername username = true ∧ level ≤ PermissionLevel.admin.toU8
  | .accountSetLevel _ level => level ≤ PermissionLevel.admin.toU8
  | _ => True

/-- The same for the world server, which asks for sessions and for what is typed. -/
def FromWorld : DbRequest → Prop
  | .accountCreate _ _ => False
  | .accountSetLevel _ level => level ≤ PermissionLevel.admin.toU8
  | _ => True

/-- A creation with a level that a request asks for. -/
def creation : DbRequest → Option (Bytes × UInt8)
  | .accountCreateWithLevel username _ level => some (username, level)
  | _ => none

/-- A request that the world server sends keeps the table valid if the creation in it is sane. -/
theorem valid_handle (h : Valid d) (now : ℚ) {body : DbRequest} (hworld : FromWorld body)
    (hsane : ∀ c ∈ creation body, Inserts lower d o c.1 → Sane o c.1 c.2) :
    Valid (DbServer.handle lower d now o body).1 := by
  cases body with
  | accountLookup username =>
      rw [DbServer.handle]
      split <;> exact h
  | adminExists => exact h
  | accountSetLevel username level => exact valid_setPermissionLevel h hworld o.first
  | accountCreate username passwordHash => cases hworld
  | accountCreateWithLevel username passwordHash level =>
      exact valid_createAccount h (hsane (username, level) rfl)
  | accountDelete username => exact valid_deleteAccount h o.first
  | sessionCreate accountId token ttlSeconds =>
      rw [DbServer.handle]
      cases DbServer.createSession_cases (d := d) accountId token ttlSeconds now o.first with
      | inl hrefused =>
          rw [hrefused]
          exact h
      | inr hcreated =>
          rw [hcreated.2.2.2]
          exact h
  | sessionLookup token =>
      rw [DbServer.handle]
      split <;> exact h
  | sessionDelete token =>
      rw [DbServer.handle, Database.deleteSession]
      split <;> exact h

/-- A request that has been checked keeps the table valid. -/
theorem Checked.valid_handle (h : Valid d) (now : ℚ) {body : DbRequest} (hchecked : Checked body) :
    Valid (DbServer.handle lower d now o body).1 := by
  cases body with
  | accountCreate username passwordHash =>
      refine valid_createAccount h fun _ => ⟨?_, fun _ => by decide⟩
      rw [cString_of_valid hchecked]
      exact hchecked
  | accountCreateWithLevel username passwordHash level =>
      refine valid_createAccount h fun _ => ⟨?_, fun _ => hchecked.2⟩
      rw [cString_of_valid hchecked.1]
      exact hchecked.1
  | accountSetLevel username level => exact valid_setPermissionLevel h hchecked o.first
  | _ => exact AccountStore.valid_handle h now True.intro (fun c hc => by cases hc)

end Statements

section Servers

/-- A turn sends at most the request that it asks. -/
theorem mem_take {a : AuthServer} {request : Nat} {turn : Turn} {r : Request}
    (h : r ∈ (turn.take a request).dbClient.requests) :
    r ∈ a.dbClient.requests ∨ ∃ handler, turn = .ask r.body handler := by
  cases turn with
  | answer id type payload => exact Or.inl h
  | ask body handler =>
      cases List.mem_append.mp h with
      | inl hold => exact Or.inl hold
      | inr hnew =>
          obtain rfl := List.mem_singleton.mp hnew
          exact Or.inr ⟨handler, rfl⟩
  | ignore => exact Or.inl h

/-- A message leads to a request that has been checked. -/
theorem hear_checked {request id : Nat} {m : Message} {random : Entropy} {body : DbRequest}
    {handler : AuthHandler} (h : AuthServer.hear request id m random = .ask body handler) :
    Checked body := by
  have hheard := AuthServer.hear_heard request id random m
  rw [h] at hheard
  cases hheard with
  | login htype hread => exact True.intro
  | register htype hread hvalid hhash => exact hvalid
  | admin hcommand htype hread => exact True.intro

/-- So does a reply. -/
theorem resume_checked {setup : AuthSetup} {random : Entropy} {handler next : AuthHandler}
    {reply : Option DbReply} {body : DbRequest}
    (h : AuthServer.resume setup random handler reply = .ask body next) : Checked body := by
  have hresumed := AuthServer.resume_resumed random setup handler reply
  rw [h] at hresumed
  cases hresumed with
  | verified hverifies => exact True.intro
  | create hadmin hvalid hlevel hhash => exact ⟨hvalid, hlevel⟩
  | delete hadmin => exact True.intro
  | setLevel hcreate hdelete hadmin hlevel => exact hlevel

variable (setup : AuthSetup) {a : AuthServer}

/-- Every request on the link of the auth server has been checked. -/
def AuthChecked (a : AuthServer) : Prop := ∀ r ∈ a.dbClient.requests, Checked r.body

theorem AuthChecked.resume (h : AuthChecked a) (random : Entropy) (handler : AuthHandler)
    (reply : Option DbReply) : AuthChecked (AuthServer.onReply setup a random handler reply) := by
  rw [AuthServer.onReply_turn]
  intro r hr
  cases mem_take hr with
  | inl hold => exact h r hold
  | inr hasked =>
      obtain ⟨next, hturn⟩ := hasked
      exact resume_checked hturn

theorem AuthChecked.step (h : AuthChecked a) (e : AuthServer.Event) :
    AuthChecked (a.step setup e) := by
  cases e with
  | accept => exact h
  | message id m random =>
      rw [AuthServer.step]
      split
      · rw [AuthServer.onMessage_turn]
        intro r hr
        cases mem_take hr with
        | inl hold => exact h r hold
        | inr hasked =>
            obtain ⟨next, hturn⟩ := hasked
            exact hear_checked hturn
      · exact h
  | hangUp id =>
      rw [AuthServer.step]
      split <;> exact h
  | closeDeferred => exact h
  | reply requestId reply random =>
      rw [AuthServer.step, AuthServer.onDbReply]
      split
      · exact h
      · rename_i handler c hanswer
        obtain ⟨-, rfl⟩ := DbClient.answer_eq_some hanswer
        have hanswered : AuthChecked { a with
            dbClient := { a.dbClient with mPending := a.dbClient.mPending.erase requestId } } := h
        exact hanswered.resume setup random handler (some reply)
  | dbLost random =>
      rw [AuthServer.step, AuthServer.onDbLost]
      have hdropped : AuthChecked { a with dbClient := a.dbClient.reconnected } := by
        intro r hr
        cases hr
      have hstep : ∀ (b : AuthServer) (handler : AuthHandler), AuthChecked b →
          AuthChecked (AuthServer.onReply setup b random handler none) :=
        fun b handler hb => hb.resume setup random handler none
      have hrun := Lib.Runs.run_preserves hstep hdropped a.dbClient.pendingHandlers
      exact hrun

variable {F : Type*} [Scalar F] {w : WorldServer F}

/-- Every request on the link of the world server is one that it sends. -/
def WorldSends (w : WorldServer F) : Prop := ∀ r ∈ w.dbClient.requests, FromWorld r.body

/-- A call, with a request for a session. -/
theorem worldSends_call {c c' : DbClient Handler} {request : Nat} {body : DbRequest}
    {handler : Handler} (h : ∀ r ∈ c.requests, FromWorld r.body)
    (hc' : c' = c.call request body handler) (hbody : FromWorld body) :
    ∀ r ∈ c'.requests, FromWorld r.body := by
  subst hc'
  intro r hr
  cases List.mem_append.mp hr with
  | inl hold => exact h r hold
  | inr hnew =>
      obtain rfl := List.mem_singleton.mp hnew
      exact hbody

theorem WorldSends.step (h : WorldSends w) (world : Setup F) (e : WorldServer.Event F) :
    WorldSends (w.step world e) := by
  have heffect := WorldServer.step_effect world (w := w) e
  generalize w.step world e = w' at heffect ⊢
  cases heffect with
  | quiet hclient harrivals hjoins =>
      intro r hr
      rw [hclient] at hr
      exact h r hr
  | asked hlive hasks hledger =>
      exact worldSends_call h (WorldServer.ledger_eq.mp hledger).1 True.intro
  | answered hanswer hledger =>
      obtain ⟨-, rfl⟩ := DbClient.answer_eq_some hanswer
      intro r hr
      rw [(WorldServer.ledger_eq.mp hledger).1] at hr
      exact h r hr
  | redeemed hanswer hledger =>
      rename_i requestId session now request id token dbClient
      obtain ⟨-, hclient⟩ := DbClient.answer_eq_some hanswer
      have hanswered : ∀ r ∈ dbClient.requests, FromWorld r.body := by
        rw [hclient]
        exact h
      exact worldSends_call hanswered (WorldServer.ledger_eq.mp hledger).1 True.intro
  | lost hledger =>
      intro r hr
      rw [(WorldServer.ledger_eq.mp hledger).1] at hr
      cases hr

/-- A line at the console sends what it may. -/
theorem WorldSends.line (h : WorldSends w) (atof : Bytes → F) (world : Setup F) (text : Bytes)
    (hashed : Option Bytes) (now : Sim.ClockReading F) :
    WorldSends (Console.runConsoleCommand atof world w text hashed now) := by
  intro r hr
  cases Console.runConsoleCommand_requests atof world text hashed now hr with
  | inl hold => exact h r hold
  | inr htyped =>
      generalize r.body = body at htyped
      cases htyped with
      | create name passwordHash level => exact True.intro
      | delete name => exact True.intro
      | setLevel name hlevel => exact hlevel

end Servers

section Runs

variable {F : Type*} [Scalar F] (deployment : Deployment F) (atof : Bytes → F)

/-- The request that an event has the database handle, with the outcome of its statements. -/
def executed (s : Backend F) : Console.Event F → Option (Side × DbRequest × Outcome)
  | .backend (.handle side now o) =>
      (Backend.handled s (.handle side now o)).map fun r => (r.1, r.2.body, o)
  | .backend (.handleStale side k now o) =>
      (Backend.handled s (.handleStale side k now o)).map fun r => (r.1, r.2.body, o)
  | _ => none

/-- The creation that an event has the database handle for the console: the name, the level, and
the outcome. -/
def typedCreation (s : Backend F) (e : Console.Event F) : Option (Bytes × UInt8 × Outcome) :=
  match executed s e with
  | some (.world, .accountCreateWithLevel username _ level, o) => some (username, level, o)
  | _ => none

/-- A creation for the console that takes place has a valid name and a level that there is. -/
def Sound (s : Backend F) (e : Console.Event F) : Prop :=
  ∀ c ∈ typedCreation s e, Inserts deployment.lower s.database c.2.2 c.1 → Sane c.2.2 c.1 c.2.1

instance decidableSound (s : Backend F) (e : Console.Event F) : Decidable (Sound deployment s e) :=
  inferInstanceAs (Decidable (∀ c ∈ typedCreation s e,
    c.2.2.first = true ∧ s.database.accounts.any (Database.named deployment.lower c.1) = false →
      validUsername (Database.cString c.1) = true ∧
        (c.2.2.second = true → c.2.1 ≤ PermissionLevel.admin.toU8)))

structure Inv (s : Backend F) : Prop where
  valid : Valid s.database
  auth : ∀ r ∈ Backend.outstanding s .auth, Checked r.body
  world : ∀ r ∈ Backend.outstanding s .world, FromWorld r.body

variable {s : Backend F}

/-- An event that has no request handled leaves the table alone. -/
theorem accounts_of_unhandled {e : Backend.Event F} (h : Backend.handled s e = none) :
    (s.step deployment e).database.accounts = s.database.accounts := by
  have heffect := Backend.step_effect deployment s e
  generalize s.step deployment e = s' at heffect ⊢
  cases heffect with
  | authHandled now o hrequests hhandled =>
      rw [h] at hhandled
      cases hhandled
  | worldHandled now o hrequests hhandled =>
      rw [h] at hhandled
      cases hhandled
  | authStale k now o hhandled =>
      rw [h] at hhandled
      cases hhandled
  | worldStale k now o hhandled =>
      rw [h] at hhandled
      cases hhandled
  | purge now runs =>
      dsimp only
      rw [Database.purgeExpiredSessions]
      split <;> rfl
  | _ => rfl

/-- An event that has a request handled takes it from its link and has the database handle it. -/
theorem step_handle {side side' : Side} {now : ℚ} {o : Outcome} {r : Request}
    (h : Backend.handled s (.handle side now o) = some (side', r)) :
    side' = side ∧ (s.step deployment (.handle side now o)).database =
      (DbServer.handle deployment.lower s.database now o r.body).1 := by
  cases side with
  | auth =>
      obtain ⟨q, hq, heq⟩ := Option.map_eq_some_iff.mp h
      obtain ⟨rfl, rfl⟩ := Prod.mk.inj heq
      obtain ⟨rest, hrest⟩ := List.head?_eq_some_iff.mp hq
      refine ⟨rfl, ?_⟩
      simp only [Backend.step, Backend.handle, hrest, Backend.serve]
  | world =>
      obtain ⟨q, hq, heq⟩ := Option.map_eq_some_iff.mp h
      obtain ⟨rfl, rfl⟩ := Prod.mk.inj heq
      obtain ⟨rest, hrest⟩ := List.head?_eq_some_iff.mp hq
      refine ⟨rfl, ?_⟩
      simp only [Backend.step, Backend.handle, hrest, Backend.serve]

theorem step_handleStale {side side' : Side} {k : Nat} {now : ℚ} {o : Outcome} {r : Request}
    (h : Backend.handled s (.handleStale side k now o) = some (side', r)) :
    side' = side ∧ (s.step deployment (.handleStale side k now o)).database =
      (DbServer.handle deployment.lower s.database now o r.body).1 := by
  cases side with
  | auth =>
      obtain ⟨q, hq, heq⟩ := Option.map_eq_some_iff.mp h
      obtain ⟨rfl, rfl⟩ := Prod.mk.inj heq
      refine ⟨rfl, ?_⟩
      simp only [Backend.step, Backend.handleStale, hq, Backend.serve]
  | world =>
      obtain ⟨q, hq, heq⟩ := Option.map_eq_some_iff.mp h
      obtain ⟨rfl, rfl⟩ := Prod.mk.inj heq
      refine ⟨rfl, ?_⟩
      simp only [Backend.step, Backend.handleStale, hq, Backend.serve]

/-- The tables are what the database makes of the request that it handles. -/
theorem step_executed {e : Console.Event F} {side : Side} {body : DbRequest} {o : Outcome}
    (h : executed s e = some (side, body, o)) :
    ∃ r now, r ∈ Backend.outstanding s side ∧ r.body = body ∧
      (Console.step deployment atof s e).database =
        (DbServer.handle deployment.lower s.database now o body).1 := by
  rw [executed.eq_def] at h
  split at h
  · rename_i side' now o'
    obtain ⟨⟨side'', r⟩, hhandled, heq⟩ := Option.map_eq_some_iff.mp h
    obtain ⟨rfl, rfl, rfl⟩ : side'' = side ∧ r.body = body ∧ o' = o := by simpa using heq
    obtain ⟨rfl, hdatabase⟩ := step_handle deployment hhandled
    exact ⟨r, now, Backend.mem_of_handled hhandled, rfl, hdatabase⟩
  · rename_i side' k now o'
    obtain ⟨⟨side'', r⟩, hhandled, heq⟩ := Option.map_eq_some_iff.mp h
    obtain ⟨rfl, rfl, rfl⟩ : side'' = side ∧ r.body = body ∧ o' = o := by simpa using heq
    obtain ⟨rfl, hdatabase⟩ := step_handleStale deployment hhandled
    exact ⟨r, now, Backend.mem_of_handled hhandled, rfl, hdatabase⟩
  · cases h

/-- If it handles none, the accounts stay as they are. -/
theorem step_unexecuted {e : Console.Event F} (h : executed s e = none) :
    (Console.step deployment atof s e).database.accounts = s.database.accounts := by
  cases e with
  | line text hashed now => rfl
  | backend e =>
      apply accounts_of_unhandled
      cases e with
      | handle side now o => exact Option.map_eq_none_iff.mp h
      | handleStale side k now o => exact Option.map_eq_none_iff.mp h
      | _ => rfl

/-- The links after a step carry what they carried, and what the servers have sent. -/
theorem outstanding_step (e : Console.Event F) (h : Inv s) :
    (∀ r ∈ Backend.outstanding (Console.step deployment atof s e) .auth, Checked r.body) ∧
      ∀ r ∈ Backend.outstanding (Console.step deployment atof s e) .world, FromWorld r.body := by
  obtain ⟨hrequests, hstale⟩ := List.forall_mem_append.mp h.auth
  obtain ⟨hrequests', hstale'⟩ := List.forall_mem_append.mp h.world
  simp only [Backend.outstanding, List.forall_mem_append]
  cases e with
  | line text hashed now =>
      have hline := WorldSends.line hrequests' atof deployment.world text hashed now
      exact ⟨⟨hrequests, hstale⟩, hline, hstale'⟩
  | backend e =>
      have heffect := Backend.step_effect deployment s e
      rw [Console.step]
      generalize s.step deployment e = s' at heffect ⊢
      cases heffect with
      | idle => exact ⟨⟨hrequests, hstale⟩, hrequests', hstale'⟩
      | auth hlocal =>
          exact ⟨⟨AuthChecked.step deployment.auth hrequests _, hstale⟩, hrequests', hstale'⟩
      | world hlocal =>
          exact ⟨⟨hrequests, hstale⟩, WorldSends.step hrequests' deployment.world _, hstale'⟩
      | authHandled now o hcons hhandled =>
          rw [hcons] at hrequests
          exact ⟨⟨(List.forall_mem_cons.mp hrequests).2, hstale⟩, hrequests', hstale'⟩
      | worldHandled now o hcons hhandled =>
          rw [hcons] at hrequests'
          exact ⟨⟨hrequests, hstale⟩, (List.forall_mem_cons.mp hrequests').2, hstale'⟩
      | authStale k now o hhandled =>
          exact ⟨⟨hrequests, fun r hr => hstale r (List.mem_of_mem_eraseIdx hr)⟩, hrequests', hstale'⟩
      | worldStale k now o hhandled =>
          exact ⟨⟨hrequests, hstale⟩, hrequests', fun r hr => hstale' r (List.mem_of_mem_eraseIdx hr)⟩
      | authReply random hreplies =>
          exact ⟨⟨AuthChecked.step deployment.auth hrequests _, hstale⟩, hrequests', hstale'⟩
      | worldReply now hreplies =>
          exact ⟨⟨hrequests, hstale⟩, WorldSends.step hrequests' deployment.world _, hstale'⟩
      | authLost random =>
          exact ⟨⟨AuthChecked.step deployment.auth hrequests _,
            List.forall_mem_append.mpr ⟨hstale, hrequests⟩⟩, hrequests', hstale'⟩
      | worldLost now =>
          exact ⟨⟨hrequests, hstale⟩, WorldSends.step hrequests' deployment.world _,
            List.forall_mem_append.mpr ⟨hstale', hrequests'⟩⟩
      | purge now runs => exact ⟨⟨hrequests, hstale⟩, hrequests', hstale'⟩

theorem Inv.step (h : Inv s) {e : Console.Event F} (hsound : Sound deployment s e) :
    Inv (Console.step deployment atof s e) := by
  obtain ⟨hauth, hworld⟩ := outstanding_step deployment atof e h
  refine ⟨?_, hauth, hworld⟩
  cases hexecuted : executed s e with
  | none =>
      intro a ha
      rw [step_unexecuted deployment atof hexecuted] at ha
      exact h.valid a ha
  | some handled =>
      obtain ⟨side, body, o⟩ := handled
      obtain ⟨r, now, hr, rfl, hdatabase⟩ := step_executed deployment atof hexecuted
      rw [hdatabase]
      cases side with
      | auth => exact (h.auth r hr).valid_handle h.valid now
      | world =>
          apply valid_handle h.valid now (h.world r hr)
          rintro ⟨username, level⟩ hcreation hinserts
          refine hsound (username, level, o) ?_ hinserts
          rw [typedCreation, hexecuted]
          generalize r.body = body at hcreation ⊢
          cases body <;> cases hcreation
          rfl

/-- A creation that takes place for the console and is not sane leaves an account that is not
valid. -/
theorem sound_of_valid {e : Console.Event F}
    (hafter : Valid (Console.step deployment atof s e).database) : Sound deployment s e := by
  rintro ⟨username, level, o⟩ hcreation hinserts
  simp only [Option.mem_def, typedCreation.eq_def] at hcreation
  split at hcreation
  · rename_i hexecuted
    obtain ⟨rfl, rfl, rfl⟩ : _ = username ∧ _ = level ∧ _ = o := by simpa using hcreation
    obtain ⟨r, now, hr, hbody, hdatabase⟩ := step_executed deployment atof hexecuted
    rw [hdatabase, DbServer.handle] at hafter
    exact sane_of_valid hafter hinserts
  · cases hcreation

/-- From a valid table, every row is valid in every state of a run if and only if every creation
that takes place for the console has a valid name and a level that there is. -/
theorem valid_iff {database : Database} (hdatabase : Valid database) (now : Sim.ClockReading F)
    (events : List (Console.Event F)) :
    (∀ pre, pre <+: events → Valid (Console.run deployment atof database now pre).database) ↔
      Lib.Runs.Along (Console.step deployment atof) (Sound deployment)
        (Backend.init deployment database now) events := by
  have hinit : Inv (Backend.init deployment database now) := by
    refine ⟨hdatabase, ?_, ?_⟩
    · intro r hr
      cases hr
    · intro r hr
      cases hr
  have hstep : ∀ (s : Backend F) (e : Console.Event F), Inv s → Sound deployment s e →
      Inv (Console.step deployment atof s e) := fun s e hs he => hs.step deployment atof he
  have hback : ∀ (s : Backend F) (e : Console.Event F), Inv s →
      Valid (Console.step deployment atof s e).database → Sound deployment s e :=
    fun s e _ hafter => sound_of_valid deployment atof hafter
  have hvalid : ∀ s : Backend F, Inv s → Valid s.database := fun s hs => hs.valid
  have hruns := Lib.Runs.always_iff_along hinit hstep hback hvalid events
  exact hruns

/-- A line at the console, and the request of it handled. -/
def typed (text : String) : List (Console.Event ℚ) :=
  [.line (Console.ascii text) (some [104]) ⟨0, 1 / 2⟩, .backend (.handle .world 0 ⟨true, true⟩)]

theorem valid_iff_typed :
    let run := typed "account create a-1 secret 2"
    ∀ pre, pre <+: run →
      Valid (Console.run .level (fun _ => 0) ⟨[], [], 1⟩ ⟨0, 1 / 2⟩ pre).database := by
  intro run
  have hvalid : Valid ⟨[], [], 1⟩ := by decide
  exact (valid_iff .level (fun _ => 0) hvalid ⟨0, 1 / 2⟩ run).mpr (by decide +kernel)

/-- An account with a name that cannot be registered, at a level that there is not. -/
theorem typed_invalid :
    Valid ⟨[], [], 1⟩ ∧
      ¬ Valid (Console.run .level (fun _ => 0) ⟨[], [], 1⟩ ⟨0, 1 / 2⟩
        (typed "account create a! secret 7")).database := by
  constructor
  · decide
  · decide +kernel

end Runs

end UntitledGame.Server.AccountStore
