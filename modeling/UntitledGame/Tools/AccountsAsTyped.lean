import UntitledGame.Tools.SameAsTyped

/-!
# Accounts, from afar and from the terminal

An account command at the terminal goes to the database at once. From the remote console
it goes to the auth server, which looks the session up and then asks the database itself.
Where an administrator is behind it, the database is asked for the same in the end
(`accounts_as_typed`), except that the auth server refuses to create an account with a
name or a level that it would not register, and that the remote console asks back before
it deletes.

The hash of a new account's password is drawn for each request; it is given, and the same on
both sides. That leaves out passwords of more than 1024 bytes, which the remote console cuts
before they are hashed.
-/

namespace UntitledGame.Tools.RemoteConsole

open Net Sim Server
open Server.Console (ascii words atoi)

variable {F : Type*} [Scalar F]

/-- What a line asks to do with the accounts. -/
inductive AccountCommand where
  | create (name password : Bytes) (level : UInt8)
  | delete (name : Bytes)
  | setLevel (name : Bytes) (level : UInt8)
  deriving DecidableEq, Repr

section Meaning

/-- The words behind `account`. -/
def accountMeaning : List Bytes → Option AccountCommand
  | verb :: name :: value :: more =>
      if verb = ascii "create" then
        some (.create name value
          (match more with
            | [] => 0
            | digits :: _ => UInt8.ofInt (atoi digits)))
      else if verb = ascii "delete" then some (.delete name)
      else if verb = ascii "level" then some (.setLevel name (UInt8.ofInt (atoi value)))
      else none
  | [verb, name] => if verb = ascii "delete" then some (.delete name) else none
  | _ => none

/-- What a line asks to do with the accounts, if it does. -/
def accountOf (line : Bytes) : Option AccountCommand :=
  match words line with
  | [] => none
  | command :: rest => if command = ascii "account" then accountMeaning rest else none

/-- What the terminal asks the database for. -/
def AccountCommand.typed (hashed : Option Bytes) : AccountCommand → Option DbRequest
  | .create name password level =>
      if password.length < 6 then none
      else hashed.map fun hash => DbRequest.arrived (.accountCreateWithLevel name hash level)
  | .delete name => some (DbRequest.arrived (.accountDelete name))
  | .setLevel name level =>
      if PermissionLevel.admin.toU8 < level then none
      else some (DbRequest.arrived (.accountSetLevel name level))

/-- An account that the auth server does not create. -/
def AccountCommand.refused : AccountCommand → Bool
  | .create name _ level =>
      !AuthServer.validUsername (capped name) || PermissionLevel.admin.toU8 < level
  | _ => false

variable (gToken : Bytes)

/-- The request for a command; a deletion is sent as if it were confirmed. -/
def AccountCommand.outgoing : AccountCommand → Outgoing
  | .create name password level => accountCreate gToken name password level
  | .delete name =>
      ⟨.auth, ⟨AuthMessage.adminAccountDeleteRequest.toU16,
        ByteWriter.string gToken ++ ByteWriter.string name⟩⟩
  | .setLevel name level => accountSetLevel gToken name level

/-- A command sends its request, or is a deletion that is not confirmed. -/
theorem accountWords_eq (answer : Option Bytes) (rest : List Bytes) :
    accountWords gToken answer rest = (accountMeaning rest).map (AccountCommand.outgoing gToken) ∨
      ∃ name, accountMeaning rest = some (.delete name) ∧ confirms answer = false ∧
        accountWords gToken answer rest = none := by
  have hdelete : ∀ (name : Bytes) (assumeYes : Bool),
      accountDelete gToken name assumeYes answer =
          some ((AccountCommand.delete name).outgoing gToken) ∨
        confirms answer = false ∧ accountDelete gToken name assumeYes answer = none := by
    intro name assumeYes
    rw [accountDelete]
    split
    · rename_i hasked
      simp only [Bool.and_eq_true, Bool.not_eq_true'] at hasked
      exact Or.inr ⟨hasked.2, rfl⟩
    · exact Or.inl rfl
  rcases rest with _ | ⟨verb, _ | ⟨name, _ | ⟨value, more⟩⟩⟩
  · exact Or.inl rfl
  · exact Or.inl rfl
  · simp only [accountWords, accountMeaning]
    split
    · rcases hdelete name _ with hsent | ⟨hanswer, hnone⟩
      · exact Or.inl hsent
      · exact Or.inr ⟨name, rfl, hanswer, hnone⟩
    · exact Or.inl rfl
  · simp only [accountWords, accountMeaning]
    split
    · exact Or.inl rfl
    · split
      · rcases hdelete name _ with hsent | ⟨hanswer, hnone⟩
        · exact Or.inl hsent
        · exact Or.inr ⟨name, rfl, hanswer, hnone⟩
      · split
        · exact Or.inl rfl
        · exact Or.inl rfl

end Meaning

section Sent

variable (strtof : Bytes → Option F) (toBits : F → UInt32) (gToken : Bytes) {line : Bytes}

theorem runCommand_account {c : AccountCommand} (answer : Option Bytes)
    (h : accountOf line = some c) :
    (runCommand strtof toBits gToken line answer).2 = some (c.outgoing gToken) ∨
      ∃ name, c = .delete name ∧ confirms answer = false ∧
        (runCommand strtof toBits gToken line answer).2 = none := by
  rw [accountOf] at h
  rw [runCommand]
  cases hwords : words line with
  | nil =>
      rw [hwords] at h
      cases h
  | cons command rest =>
      rw [hwords] at h
      dsimp only at h ⊢
      split at h
      · rename_i hcommand
        subst hcommand
        rcases accountWords_eq gToken answer rest with hsent | ⟨name, hname, hanswer, hnone⟩
        · rw [h] at hsent
          exact Or.inl hsent
        · rw [h] at hname
          exact Or.inr ⟨name, Option.some.inj hname, hanswer, hnone⟩
      · cases h

theorem runCommand_world {answer : Option Bytes} {o : Outgoing} (h : accountOf line = none)
    (hsent : (runCommand strtof toBits gToken line answer).2 = some o) :
    o.destination = .world := by
  cases hmeaning : meaning strtof line with
  | some c =>
      rw [runCommand_meaning strtof toBits gToken answer hmeaning] at hsent
      obtain rfl := Option.some.inj hsent
      exact WorldCommand.outgoing_destination toBits gToken c
  | none =>
      rw [runCommand] at hsent
      rw [meaning] at hmeaning
      rw [accountOf] at h
      cases hwords : words line with
      | nil =>
          rw [hwords] at hsent
          cases hsent
      | cons command rest =>
          rw [hwords] at hsent hmeaning h
          dsimp only at hsent hmeaning h
          split at hsent
          · cases hsent
          · split at hsent
            · cases hsent
            · split at hsent
              · rename_i hcommand
                rw [if_pos hcommand] at hmeaning
                cases hmeaning
              · rename_i hstatus
                rw [if_neg hstatus] at hmeaning
                split at hsent
                · rename_i hcommand
                  rw [if_pos hcommand] at hmeaning
                  rw [timeWords_eq, hmeaning] at hsent
                  cases hsent
                · rename_i htime
                  rw [if_neg htime] at hmeaning
                  split at hsent
                  · rename_i hcommand
                    rw [if_pos hcommand] at hmeaning
                    rw [latencyWords_eq toBits, hmeaning] at hsent
                    cases hsent
                  · split at hsent
                    · rename_i hcommand
                      rw [if_pos hcommand] at h
                      rcases accountWords_eq gToken answer rest with hnone | ⟨_, _, _, hnone⟩
                      · rw [hnone, h] at hsent
                        cases hsent
                      · rw [hnone] at hsent
                        cases hsent
                    · cases hsent

end Sent

section Requests

/-- What the database is asked for between two states of a client, as it arrives. -/
def Asks {H : Type*} (before after : DbClient H) (bodies : List DbRequest) : Prop :=
  after.requests.map (·.body.arrived) = before.requests.map (·.body.arrived) ++ bodies

theorem asks_nothing {H : Type*} (c : DbClient H) : Asks c c [] := (List.append_nil _).symm

theorem asks_call {H : Type*} (c : DbClient H) (origin : Nat) (body : DbRequest) (handler : H) :
    Asks c (c.call origin body handler) [body.arrived] := List.map_append

theorem capped_capped (s : Bytes) : capped (capped s) = capped s := by
  rw [capped, capped, List.take_take, min_self]

theorem capped_length_lt {s : Bytes} : (capped s).length < 6 ↔ s.length < 6 := by
  rw [capped, List.length_take, ByteWriter.kMaxStringLength]
  omega

theorem typed_arrived {hashed : Option Bytes} {c : AccountCommand} {body : DbRequest}
    (h : c.typed hashed = some body) : body.arrived = body := by
  cases c with
  | create name password level =>
      rw [AccountCommand.typed] at h
      split at h
      · cases h
      · obtain ⟨hash, -, rfl⟩ := Option.map_eq_some_iff.mp h
        simp only [DbRequest.arrived, capped_capped]
  | delete name =>
      obtain rfl := Option.some.inj h
      simp only [DbRequest.arrived, capped_capped]
  | setLevel name level =>
      rw [AccountCommand.typed] at h
      split at h
      · cases h
      · obtain rfl := Option.some.inj h
        simp only [DbRequest.arrived, capped_capped]

variable (atof : Bytes → F) (setup : Setup F) (line : Bytes) (w : WorldServer F)
  (hashed : Option Bytes)

/-- A request of the terminal, if it makes one. -/
def asked (body : Option DbRequest) : WorldServer F :=
  match body with
  | none => w
  | some body =>
      { w with dbClient :=
          w.dbClient.call w.arrivals.length body (.sessionDeleted w.arrivals.length) }

omit [Scalar F] in
theorem accountCommand_asked (rest : List Bytes) :
    Console.accountCommand w hashed rest =
      asked w ((accountMeaning rest).bind (AccountCommand.typed hashed)) := by
  have hcreate : ∀ name password more,
      Console.createAccount w hashed name password more =
        asked w ((AccountCommand.create name password
          (match more with
            | [] => 0
            | digits :: _ => UInt8.ofInt (atoi digits))).typed hashed) := by
    intro name password more
    simp only [Console.createAccount.eq_def, AccountCommand.typed]
    split
    · rfl
    · cases hashed <;> rfl
  have hlevel : ∀ name digits, Console.setLevel w name digits =
      asked w ((AccountCommand.setLevel name (UInt8.ofInt (atoi digits))).typed hashed) := by
    intro name digits
    rw [Console.setLevel, AccountCommand.typed]
    split <;> rfl
  rcases rest with _ | ⟨verb, _ | ⟨name, _ | ⟨value, more⟩⟩⟩
  · rfl
  · rfl
  · simp only [Console.accountCommand, accountMeaning]
    split <;> rfl
  · simp only [Console.accountCommand, accountMeaning]
    split
    · exact hcreate name value more
    · split
      · rfl
      · split
        · exact hlevel name value
        · rfl

/-- The link to the database, after a line at the terminal. -/
theorem terminal_asked (now : ClockReading F) :
    (Console.runConsoleCommand atof setup w line hashed now).dbClient =
      (asked w ((accountOf line).bind (AccountCommand.typed hashed))).dbClient := by
  rw [Console.runConsoleCommand, accountOf]
  cases words line with
  | nil => rfl
  | cons command rest =>
      dsimp only
      by_cases hlatency : command = ascii "latency"
      · subst hlatency
        rw [if_pos rfl, if_neg (by decide)]
        rcases rest with _ | ⟨verb, _ | ⟨value, rest⟩⟩
        · rfl
        · rfl
        · rw [Console.latencyCommand]
          split <;> rfl
      · rw [if_neg hlatency]
        by_cases htime : command = ascii "time"
        · subst htime
          rw [if_pos rfl, if_neg (by decide)]
          simp only [Console.timeCommand.eq_def, Console.setClock]
          repeat' split
          all_goals rfl
        · rw [if_neg htime]
          split
          · rw [accountCommand_asked]
          · rfl

/-- What a line at the terminal asks the database for. -/
theorem terminal_asks (now : ClockReading F) :
    Asks w.dbClient (Console.runConsoleCommand atof setup w line hashed now).dbClient
      ((accountOf line).bind (AccountCommand.typed hashed)).toList := by
  rw [terminal_asked]
  cases hbody : (accountOf line).bind (AccountCommand.typed hashed) with
  | none => exact asks_nothing w.dbClient
  | some body =>
      obtain ⟨c, -, hc⟩ := Option.bind_eq_some_iff.mp hbody
      have hcall := asks_call w.dbClient w.arrivals.length body
        (.sessionDeleted w.arrivals.length)
      rw [typed_arrived hc] at hcall
      exact hcall

end Requests

section Auth

open ByteReader

variable (setup : AuthSetup) (gToken : Bytes)

/-- The callback that a command leaves with the lookup of the session. -/
def AccountCommand.handler (request id : Nat) : AccountCommand → AuthHandler
  | .create name password level =>
      .admin request id .adminAccountCreateRequest (capped name) (capped password) level
  | .delete name => .admin request id .adminAccountDeleteRequest (capped name) [] 0
  | .setLevel name level => .admin request id .adminSetLevelRequest (capped name) [] level

def AccountCommand.name : AccountCommand → Bytes
  | .create name _ _ => name
  | .delete name => name
  | .setLevel name _ => name

theorem reads_create (name password : Bytes) (level : UInt8) :
    (AuthServer.readAdminRequest .adminAccountCreateRequest
        (start (accountCreate gToken name password level).message.payload)).1 =
      (capped gToken, capped name, capped password, level, false) := by
  apply Yields.whole
  simp only [accountCreate, List.append_assoc]
  rw [← List.append_nil (ByteWriter.u8 level)]
  exact (yields_string _ _).bind <| (yields_string _ _).bind <| (yields_string _ _).bind <|
    (yields_u8 _ _).bind <| (yields_failed _).bind <| Yields.pure _ _

theorem reads_delete (name : Bytes) :
    (AuthServer.readAdminRequest .adminAccountDeleteRequest
        (start ((AccountCommand.delete name).outgoing gToken).message.payload)).1 =
      (capped gToken, capped name, [], 0, false) := by
  apply Yields.whole
  rw [AccountCommand.outgoing, ← List.append_nil (ByteWriter.string name)]
  exact (yields_string _ _).bind <| (yields_string _ _).bind <| (Yields.pure _ _).bind <|
    (Yields.pure _ _).bind <| (yields_failed _).bind <| Yields.pure _ _

theorem reads_setLevel (name : Bytes) (level : UInt8) :
    (AuthServer.readAdminRequest .adminSetLevelRequest
        (start (accountSetLevel gToken name level).message.payload)).1 =
      (capped gToken, capped name, [], level, false) := by
  apply Yields.whole
  simp only [accountSetLevel, List.append_assoc]
  rw [← List.append_nil (ByteWriter.u8 level)]
  exact (yields_string _ _).bind <| (yields_string _ _).bind <| (Yields.pure _ _).bind <|
    (yields_u8 _ _).bind <| (yields_failed _).bind <| Yields.pure _ _

/-- The name of a command is a word. -/
theorem name_ne_nil {line : Bytes} {c : AccountCommand} (h : accountOf line = some c) :
    (capped c.name).isEmpty = false := by
  have hname : c.name ∈ words line := by
    rw [accountOf] at h
    cases hwords : words line with
    | nil =>
        rw [hwords] at h
        cases h
    | cons command rest =>
        rw [hwords] at h
        dsimp only at h
        split at h
        · apply List.mem_cons_of_mem
          rcases rest with _ | ⟨verb, _ | ⟨name, _ | ⟨value, more⟩⟩⟩
          · cases h
          · cases h
          · simp only [accountMeaning] at h
            split at h
            · obtain rfl := Option.some.inj h
              simp [AccountCommand.name]
            · cases h
          · simp only [accountMeaning] at h
            split at h
            · obtain rfl := Option.some.inj h
              simp [AccountCommand.name]
            · split at h
              · obtain rfl := Option.some.inj h
                simp [AccountCommand.name]
              · split at h
                · obtain rfl := Option.some.inj h
                  simp [AccountCommand.name]
                · cases h
        · cases h
  rw [words, List.mem_filter] at hname
  cases hcases : c.name with
  | nil =>
      rw [hcases] at hname
      cases hname.2
  | cons b rest => rfl

/-- The auth server looks the session up before anything else. -/
theorem onMessage_asks (a : AuthServer) (id : Nat) (random : Entropy) {c : AccountCommand}
    (hname : (capped c.name).isEmpty = false) :
    (a.onMessage id (c.outgoing gToken).message random).dbClient =
      a.dbClient.call a.arrivals.length (.sessionLookup (capped gToken))
        (c.handler a.arrivals.length id) := by
  cases c with
  | create name password level =>
      have htype : AuthMessage.ofU16 (accountCreate gToken name password level).message.type =
          some .adminAccountCreateRequest := rfl
      rw [AuthServer.onMessage, AccountCommand.outgoing, htype]
      simp only [AuthServer.onAdminRequest, reads_create]
      rw [show (capped name).isEmpty = false from hname]
      rfl
  | delete name =>
      have htype : AuthMessage.ofU16 ((AccountCommand.delete name).outgoing gToken).message.type =
          some .adminAccountDeleteRequest := rfl
      rw [AuthServer.onMessage, htype]
      simp only [AuthServer.onAdminRequest, reads_delete]
      rw [show (capped name).isEmpty = false from hname]
      rfl
  | setLevel name level =>
      have htype : AuthMessage.ofU16 (accountSetLevel gToken name level).message.type =
          some .adminSetLevelRequest := rfl
      rw [AuthServer.onMessage, AccountCommand.outgoing, htype]
      simp only [AuthServer.onAdminRequest, reads_setLevel]
      rw [show (capped name).isEmpty = false from hname]
      rfl

/-- An administrator's command asks the database for what it asks for at the terminal, unless the
auth server refuses it. -/
theorem runCommand_asks (a : AuthServer) (request id : Nat) (random : Entropy) {session : Session}
    (c : AccountCommand) (hlevel : PermissionLevel.admin.toU8 ≤ session.permissionLevel) :
    Asks a.dbClient
      (AuthServer.onReply setup a random (c.handler request id)
        (some (.sessionLookup true session))).dbClient
      (if c.refused then [] else (c.typed random.passwordHash).toList) := by
  have hallowed : ¬ session.permissionLevel < PermissionLevel.admin.toU8 := UInt8.not_lt.mpr hlevel
  have hrun : ∀ (command : AuthMessage) (target password : Bytes) (level : UInt8),
      (AuthServer.onReply setup a random (.admin request id command target password level)
          (some (.sessionLookup true session))) =
        a.runCommand request id command target password level session.username random := by
    intro command target password level
    rw [AuthServer.onReply, sessionLookupResult, AuthServer.onAdminLookup, if_neg hallowed]
  cases c with
  | create name password level =>
      rw [AccountCommand.handler, hrun, AuthServer.runCommand, if_pos rfl, AccountCommand.refused,
        AccountCommand.typed]
      by_cases hrefused : (!AuthServer.validUsername (capped name) ||
          decide (PermissionLevel.admin.toU8 < level)) = true
      · rw [if_pos hrefused, if_pos ?_]
        · exact asks_nothing a.dbClient
        · rcases Bool.or_eq_true _ _ ▸ hrefused with hname | hhigh
          · simp [hname]
          · simp [hhigh]
      · rw [if_neg hrefused]
        by_cases hshort : password.length < 6
        · rw [if_pos hshort, if_pos ?_]
          · exact asks_nothing a.dbClient
          · have hcapped : (capped password).length < AuthServer.kMinPasswordLength :=
              capped_length_lt.mpr hshort
            simp [hcapped]
        · rw [if_neg hshort, if_neg ?_]
          · cases random.passwordHash with
            | none => exact asks_nothing a.dbClient
            | some hash =>
                have hcall := asks_call a.dbClient request
                  (.accountCreateWithLevel (capped name) hash level)
                  (.accountCreated request id (capped name) level session.username)
                rw [DbRequest.arrived, capped_capped] at hcall
                exact hcall
          · have hcapped : ¬ (capped password).length < AuthServer.kMinPasswordLength :=
              fun h => hshort (capped_length_lt.mp h)
            simp only [Bool.or_eq_true, decide_eq_true_eq, not_or] at hrefused ⊢
            exact ⟨⟨hrefused.1, hcapped⟩, hrefused.2⟩
  | delete name =>
      rw [AccountCommand.handler, hrun]
      have hcall := asks_call a.dbClient request (.accountDelete (capped name))
        (.accountDeleted request id (capped name) session.username)
      rw [DbRequest.arrived, capped_capped] at hcall
      exact hcall
  | setLevel name level =>
      rw [AccountCommand.handler, hrun, AuthServer.runCommand, if_neg (by decide),
        if_neg (by decide), AccountCommand.typed]
      split
      · exact asks_nothing a.dbClient
      · have hcall := asks_call a.dbClient request (.accountSetLevel (capped name) level)
          (.levelSet request id (capped name) level session.username)
        rw [DbRequest.arrived, capped_capped] at hcall
        exact hcall

end Auth

section Lines

variable (atof : Bytes → F) (strtof : Bytes → Option F) (toBits : F → UInt32) (setup : Setup F)
  (authSetup : AuthSetup) (gToken : Bytes)

/-- A request that a line makes of the auth server leaves a callback behind the lookup of the
session. Whenever that lookup is answered with a session of an administrator, in whatever state the
server is in by then, the database is asked for what the same line typed at the terminal asks for,
or for nothing where the auth server refuses to create the account. A line that makes no such
request asks for nothing at the terminal either, unless it is a deletion that was not confirmed. -/
theorem accounts_as_typed (line : Bytes) (answer : Option Bytes) :
    let sent := (runCommand strtof toBits gToken line answer).2
    (∀ o, sent = some o → o.destination = .auth → ∃ c, accountOf line = some c ∧
      ∀ (a : AuthServer) (id : Nat) (random : Entropy), ∃ handler,
        (a.onMessage id o.message random).dbClient =
            a.dbClient.call a.arrivals.length (.sessionLookup (capped gToken)) handler ∧
          ∀ (a' : AuthServer) (requestId : Nat) (session : Session) (random' : Entropy),
            a'.dbClient.mPending[requestId]? = some handler →
            PermissionLevel.admin.toU8 ≤ session.permissionLevel →
            ∃ bodies, (∀ (w : WorldServer F) (now : ClockReading F), Asks w.dbClient
                (Console.runConsoleCommand atof setup w line random'.passwordHash now).dbClient
                bodies) ∧
              Asks a'.dbClient
                (a'.onDbReply authSetup requestId (.sessionLookup true session) random').dbClient
                (if c.refused then [] else bodies)) ∧
      ((∀ o, sent = some o → o.destination = .world) →
        (∃ name, accountOf line = some (.delete name) ∧ confirms answer = false) ∨
          ∀ (w : WorldServer F) (hashed : Option Bytes) (now : ClockReading F), Asks w.dbClient
            (Console.runConsoleCommand atof setup w line hashed now).dbClient []) := by
  intro sent
  constructor
  · intro o hsent hauth
    cases hc : accountOf line with
    | none =>
        rw [runCommand_world strtof toBits gToken hc hsent] at hauth
        cases hauth
    | some c =>
        refine ⟨c, rfl, fun a id random => ⟨c.handler a.arrivals.length id, ?_, ?_⟩⟩
        · rcases runCommand_account strtof toBits gToken answer hc with
            hoffered | ⟨name, -, -, hnone⟩
          · obtain rfl := Option.some.inj (hsent.symm.trans hoffered)
            exact onMessage_asks gToken a id random (name_ne_nil hc)
          · cases hsent.symm.trans hnone
        · intro a' requestId session random' hpending hlevel
          refine ⟨(c.typed random'.passwordHash).toList, ?_, ?_⟩
          · intro w now
            have htyped := terminal_asks atof setup line w random'.passwordHash now
            rw [hc] at htyped
            exact htyped
          · rw [AuthServer.onDbReply, DbClient.answer, hpending]
            exact runCommand_asks authSetup _ a.arrivals.length id random' c hlevel
  · intro hworld
    cases hc : accountOf line with
    | none =>
        refine Or.inr fun w hashed now => ?_
        have htyped := terminal_asks atof setup line w hashed now
        rw [hc] at htyped
        exact htyped
    | some c =>
        rcases runCommand_account strtof toBits gToken answer hc with
          hoffered | ⟨name, rfl, hanswer, -⟩
        · have hdestination := hworld _ hoffered
          cases c <;> cases hdestination
        · exact Or.inl ⟨name, rfl, hanswer⟩

/-- `account level bob 2`, from afar. -/
theorem accounts_as_typed_promoted :
    let setup : AuthSetup := ⟨fun _ _ => true, [], 7002, 60⟩
    ∃ handler, ∀ (a : AuthServer) (requestId : Nat), a.dbClient.mPending[requestId]? = some handler →
      Asks a.dbClient
        (a.onDbReply setup requestId (.sessionLookup true ⟨1, [97], 2⟩) ⟨[], none⟩).dbClient
        [.accountSetLevel (ascii "bob") 2] := by
  intro setup
  let line := ascii "account level bob 2"
  have hof : accountOf line = some (.setLevel (ascii "bob") 2) := by decide +kernel
  have hsent : (runCommand (F := ℚ) (fun _ => none) (fun _ => 0) [1] line none).2 =
      some ((AccountCommand.setLevel (ascii "bob") 2).outgoing [1]) := by decide +kernel
  obtain ⟨c, hc, hserved⟩ := (accounts_as_typed (F := ℚ) (fun _ => 0) (fun _ => none) (fun _ => 0)
    .level setup [1] line none).1 _ hsent rfl
  obtain rfl := Option.some.inj (hof.symm.trans hc)
  obtain ⟨handler, -, hanswered⟩ := hserved .init 1 ⟨[], none⟩
  refine ⟨handler, fun a requestId hpending => ?_⟩
  obtain ⟨bodies, htyped, hasked⟩ := hanswered a requestId ⟨1, [97], 2⟩ ⟨[], none⟩ hpending
    (by decide)
  have hbodies : ([.accountSetLevel (ascii "bob") 2] : List DbRequest) = bodies := by
    have hterminal := htyped (WorldServer.init .level Clocks.noon.clock) Clocks.noon.clock
    exact Eq.trans (by decide +kernel) hterminal
  rw [← hbodies] at hasked
  exact hasked

end Lines

end UntitledGame.Tools.RemoteConsole
