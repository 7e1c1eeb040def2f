import UntitledGame.Server.DbMessages
import UntitledGame.Net.Framing

/-!
# The database server

`onMessage` on the bytes of a message: the request id, the fields of the request,
the statements, and the reply. Every handler takes `ok` to be
`!reader.failed() && database.f(...)`, so a request that cannot be read is
answered like one whose first statement fails.

Two handlers run two statements without a transaction. `atomic_iff` says that
the failure of the second after the success of the first is all that keeps a
reply from describing the tables.
-/

namespace UntitledGame.Server.DbServer

open Net ByteReader

/-- A message taken apart: the request id, the fields, and whether reading these failed. -/
def parse (m : Message) : Option (UInt32 × DbRequest × Bool) :=
  let (requestId, r) := u32 (.start m.payload)
  if r.mFailed then none
  else
    match (DbMessage.ofU16 m.type).bind readRequest with
    | none => none
    | some read => some (requestId, (read r).1)

variable (lower : Bytes → Bytes) (d : Database) (now : ℚ) (o : Outcome)

/-- What a message makes of the tables, and the reply; `none` when there is no reply. -/
def respond (m : Message) : Option (UInt32 × Database × DbReply) :=
  match parse m with
  | none => none
  | some (requestId, body, failed) =>
      some (requestId, handle lower d now (if failed then { o with first := false } else o) body)

/-- `callbacks.onMessage`. -/
def onMessage (m : Message) : Database × Option Message :=
  match respond lower d now o m with
  | none => (d, none)
  | some (requestId, d', reply) => (d', some ⟨reply.type.toU16, reply.payload requestId⟩)

/-- The server takes apart what the client put together. -/
theorem parse_payload (requestId : UInt32) (body : DbRequest) :
    parse ⟨body.type.toU16, body.payload requestId⟩ = some (requestId, body.arrived, false) := by
  obtain ⟨read, hread, hyields⟩ := yields_request body []
  rw [List.append_nil] at hyields
  obtain ⟨r, hr, hat⟩ := yields_u32 requestId body.fields _ (start_at _)
  obtain ⟨r', hr', -⟩ := hyields r hat
  simp only [parse, DbRequest.payload, hr, hat.1, Bool.false_eq_true, if_false,
    DbMessage.ofU16_toU16, Option.bind_some, hread, hr']

/-- The reply to a request is of the kind that the client waits for. -/
theorem handle_type (body : DbRequest) :
    (handle lower d now o body).2.type = DbClient.responseType body := by
  have hcreate : ∀ username passwordHash level,
      (createAccount lower d o username passwordHash level).2.type = .accountCreateResponse := by
    intro username passwordHash level
    rw [createAccount]
    split <;> rfl
  cases body with
  | accountLookup username =>
      rw [handle]
      split <;> rfl
  | sessionLookup token =>
      rw [handle]
      split <;> rfl
  | accountCreate username passwordHash => exact hcreate _ _ _
  | accountCreateWithLevel username passwordHash level => exact hcreate _ _ _
  | _ => rfl

section Atomicity

/-- The result that a reply carries. -/
def resultOf : DbReply → Option DbResult
  | .accountSetLevel result => some result
  | .accountCreate result _ => some result
  | .accountDelete result => some result
  | .sessionCreate result => some result
  | .sessionDelete result => some result
  | _ => none

/-- The change that a request asks for, between the tables before it and the tables after it. -/
def Performed (d d' : Database) : DbRequest → Prop
  | .accountSetLevel username level =>
      d'.accounts.any (Database.named lower username) = true ∧
        ∀ a ∈ d'.accounts, Database.named lower username a = true → a.permissionLevel = level.toNat
  | .accountCreate username passwordHash =>
      d.accounts.any (Database.named lower username) = false ∧
        ∃ id, ⟨id, Database.cString username, Database.cString passwordHash, 0⟩ ∈ d'.accounts
  | .accountCreateWithLevel username passwordHash level =>
      d.accounts.any (Database.named lower username) = false ∧
        ∃ id, ⟨id, Database.cString username, Database.cString passwordHash, level.toNat⟩ ∈
          d'.accounts
  | .accountDelete username =>
      d.accounts.any (Database.named lower username) = true ∧
        d'.accounts.any (Database.named lower username) = false
  | .sessionCreate accountId token _ =>
      ∃ row ∈ d'.sessions, row.token = Database.cString token ∧ row.accountId = accountId
  | .sessionDelete token => ∀ row ∈ d'.sessions, row.token ≠ Database.cString token
  | _ => True

/-- The first statement of a request does something, and the second fails. -/
def Halved : DbRequest → Prop
  | .accountCreateWithLevel username _ level =>
      o = ⟨true, false⟩ ∧ level ≠ 0 ∧ d.accounts.any (Database.named lower username) = false
  | .sessionCreate accountId token _ =>
      o = ⟨true, false⟩ ∧ d.sessions.any (·.token = Database.cString token) = false ∧
        d.accounts.any (·.id = accountId) = true
  | _ => False

/-- A reply with a failure leaves the tables as they were, and one with success changes them as
the request asks. -/
def Atomic (m : Message) : Prop :=
  ∀ requestId d' reply, respond lower d now o m = some (requestId, d', reply) →
    (∀ result, resultOf reply = some result → result ≠ .ok →
        d'.accounts = d.accounts ∧ d'.sessions = d.sessions) ∧
      (resultOf reply = some .ok →
        ∃ body, parse m = some (requestId, body, false) ∧ Performed lower d d' body)

variable {lower d now o}

/-- The tables with a new account. -/
def inserted (d : Database) (username passwordHash : Bytes) (level : Nat) : Database :=
  { d with
    accounts := d.accounts ++
      [⟨d.nextAccountId, Database.cString username, Database.cString passwordHash, level⟩]
    nextAccountId := d.nextAccountId + 1 }

/-- A level set on a name that nobody has. -/
theorem map_unnamed {accounts : List Account} {username : Bytes} (level : Nat)
    (hnone : accounts.any (Database.named lower username) = false) :
    accounts.map (fun a => if Database.named lower username a = true then
      { a with permissionLevel := level } else a) = accounts := by
  refine (List.map_congr_left fun a ha => if_neg ?_).trans (List.map_id' _)
  exact List.any_eq_false.mp hnone a ha

/-- An account has the name that it was made with. -/
theorem named_self {username : Bytes} {a : Account} (hname : a.username = Database.cString username) :
    Database.named lower username a = true := by
  simp only [Database.named, hname, decide_true]

/-- Nobody had the new account's name, so its level is all that a level sets. -/
theorem setPermissionLevel_inserted (username passwordHash : Bytes) (level : UInt8)
    (hnone : d.accounts.any (Database.named lower username) = false) :
    ((inserted d username passwordHash 0).setPermissionLevel lower username level true).1 =
      inserted d username passwordHash level.toNat := by
  have hnew : Database.named lower username
      ⟨d.nextAccountId, Database.cString username, Database.cString passwordHash, 0⟩ = true :=
    named_self rfl
  simp only [inserted, Database.setPermissionLevel, Bool.not_true, Bool.false_eq_true, if_false,
    List.map_append, List.map_cons, List.map_nil, map_unnamed level.toNat hnone, hnew, if_true]

theorem createAccount_eq (username passwordHash : Bytes) (level : UInt8) :
    createAccount lower d o username passwordHash level =
      if o.first = false then (d, .accountCreate .error 0)
      else if d.accounts.any (Database.named lower username) = true then
        (d, .accountCreate .conflict 0)
      else
        (inserted d username passwordHash (if o.second = true then level.toNat else 0),
          .accountCreate .ok d.nextAccountId) := by
  obtain ⟨first, second⟩ := o
  cases first with
  | false => rfl
  | true =>
      cases hnamed : d.accounts.any (Database.named lower username) with
      | true => simp [createAccount, Database.createAccount, hnamed]
      | false =>
          have hset := setPermissionLevel_inserted username passwordHash level hnamed
          rw [inserted] at hset
          simp only [createAccount, Database.createAccount, Bool.not_true, Bool.false_eq_true,
            if_false, hnamed, Bool.true_eq_false]
          by_cases hlevel : level = 0
          · simp [hlevel, inserted]
          · cases second with
            | true => simp [hlevel, hset, inserted]
            | false => simp [hlevel, inserted, Database.setPermissionLevel]

theorem createAccount_refused {username passwordHash : Bytes} {level : UInt8} {result : DbResult}
    (h : resultOf (createAccount lower d o username passwordHash level).2 = some result)
    (hne : result ≠ .ok) : (createAccount lower d o username passwordHash level).1 = d := by
  rw [createAccount_eq] at h ⊢
  split
  · rfl
  · split
    · rfl
    · rename_i hfirst hnamed
      rw [if_neg hfirst, if_neg hnamed] at h
      exact absurd (Option.some.inj h).symm hne

/-- A creation that reports success inserted the account, and set its level unless the second
statement failed. -/
theorem createAccount_ok {username passwordHash : Bytes} {level : UInt8}
    (h : resultOf (createAccount lower d o username passwordHash level).2 = some .ok) :
    o.first = true ∧ d.accounts.any (Database.named lower username) = false ∧
      (createAccount lower d o username passwordHash level).1 =
        inserted d username passwordHash (if o.second = true then level.toNat else 0) := by
  rw [createAccount_eq] at h ⊢
  split at h
  · cases h
  · split at h
    · cases h
    · rename_i hfirst hnamed
      rw [if_neg hfirst, if_neg hnamed]
      exact ⟨Bool.not_eq_false _ ▸ hfirst, Bool.not_eq_true _ ▸ hnamed, rfl⟩

theorem mem_inserted (username passwordHash : Bytes) (level : Nat) :
    ⟨d.nextAccountId, Database.cString username, Database.cString passwordHash, level⟩ ∈
      (inserted d username passwordHash level).accounts := by
  simp [inserted]

/-- The insert of a session is refused, or it adds a row that was not there. -/
theorem createSession_cases (accountId : Nat) (token : Bytes) (ttlSeconds : UInt32) (now : ℚ)
    (runs : Bool) :
    d.createSession accountId token ttlSeconds now runs = (d, false) ∨
      runs = true ∧ d.sessions.any (·.token = Database.cString token) = false ∧
        d.accounts.any (·.id = accountId) = true ∧
        d.createSession accountId token ttlSeconds now runs =
          ({ d with
              sessions := d.sessions ++
                [⟨Database.cString token, accountId, now + ttlSeconds.toNat⟩] }, true) := by
  rw [Database.createSession]
  split
  · exact Or.inl rfl
  · rename_i hcreates
    simp only [Bool.or_eq_true, Bool.not_eq_true', not_or, Bool.not_eq_false,
      Bool.not_eq_true] at hcreates
    obtain ⟨⟨hruns, htoken⟩, haccount⟩ := hcreates
    exact Or.inr ⟨hruns, htoken, haccount, rfl⟩

/-- A level that is set is the level of everybody of that name, before whom nothing is required. -/
theorem setPermissionLevel_performed {username : Bytes} (level : UInt8)
    (hnamed : d.accounts.any (Database.named lower username) = true) :
    Performed lower d (d.setPermissionLevel lower username level true).1
      (.accountSetLevel username level) := by
  have hkept : ∀ a : Account, Database.named lower username { a with permissionLevel := level.toNat } =
      Database.named lower username a := fun a => rfl
  simp only [Database.setPermissionLevel, Bool.not_true, Bool.false_eq_true, if_false]
  constructor
  · obtain ⟨a, ha, hname⟩ := List.any_eq_true.mp hnamed
    refine List.any_eq_true.mpr ⟨_, List.mem_map_of_mem ha, ?_⟩
    rw [if_pos hname, hkept, hname]
  · intro b hb hname
    obtain ⟨a, -, rfl⟩ := List.mem_map.mp hb
    by_cases ha : Database.named lower username a = true
    · rw [if_pos ha]
    · rw [if_neg ha] at hname
      exact absurd hname ha

theorem foundResult_eq_ok {found : Option Bool} (h : foundResult found = .ok) :
    found = some true := by
  cases found with
  | none => cases h
  | some there =>
      cases there with
      | false => cases h
      | true => rfl

/-- A level is set, or the tables stay as they are. -/
theorem setPermissionLevel_cases (username : Bytes) (level : UInt8) (runs : Bool) :
    let r := d.setPermissionLevel lower username level runs
    (r.2 = some true ∧ Performed lower d r.1 (.accountSetLevel username level)) ∨
      (r.2 ≠ some true ∧ r.1.accounts = d.accounts ∧ r.1.sessions = d.sessions) := by
  cases runs with
  | false => exact Or.inr ⟨nofun, rfl, rfl⟩
  | true =>
      cases hnamed : d.accounts.any (Database.named lower username) with
      | true => exact Or.inl ⟨congrArg some hnamed, setPermissionLevel_performed level hnamed⟩
      | false =>
          refine Or.inr ⟨fun h => ?_, map_unnamed level.toNat hnamed, rfl⟩
          exact absurd (hnamed.symm.trans (Option.some.inj h)) Bool.false_ne_true

/-- An account is deleted, or the tables stay as they are. -/
theorem deleteAccount_cases (username : Bytes) (runs : Bool) :
    let r := d.deleteAccount lower username runs
    (r.2 = some true ∧ Performed lower d r.1 (.accountDelete username)) ∨
      (r.2 ≠ some true ∧ r.1.accounts = d.accounts ∧ r.1.sessions = d.sessions) := by
  cases runs with
  | false => exact Or.inr ⟨nofun, rfl, rfl⟩
  | true =>
      simp only [Database.deleteAccount, Bool.not_true, Bool.false_eq_true, if_false]
      cases hgone : d.accounts.filter (Database.named lower username) with
      | nil =>
          have hnone := List.filter_eq_nil_iff.mp hgone
          refine Or.inr ⟨nofun, ?_, ?_⟩
          · exact List.filter_eq_self.mpr fun a ha => by simpa using hnone a ha
          · exact List.filter_eq_self.mpr fun row _ => rfl
      | cons a rest =>
          have ha := List.mem_filter.mp (hgone ▸ List.mem_cons_self)
          refine Or.inl ⟨rfl, List.any_eq_true.mpr ⟨a, ha⟩, ?_⟩
          refine List.any_eq_false.mpr fun b hb => ?_
          simpa using (List.mem_filter.mp hb).2

/-- A request that reports a failure, and is not cut in half, changed nothing. -/
theorem handle_refused {body : DbRequest} (hwhole : ¬ Halved lower d o body) {result : DbResult}
    (h : resultOf (handle lower d now o body).2 = some result) (hne : result ≠ .ok) :
    (handle lower d now o body).1.accounts = d.accounts ∧
      (handle lower d now o body).1.sessions = d.sessions := by
  have hsame : ∀ d' : Database, d' = d → d'.accounts = d.accounts ∧ d'.sessions = d.sessions := by
    rintro d' rfl
    exact ⟨rfl, rfl⟩
  cases body with
  | accountLookup username =>
      rw [handle] at h
      split at h <;> cases h
  | adminExists => cases h
  | accountSetLevel username level =>
      cases setPermissionLevel_cases username level o.first with
      | inl hset =>
          rw [handle, hset.1] at h
          exact absurd (Option.some.inj h).symm hne
      | inr hkept => exact hkept.2
  | accountCreate username passwordHash => exact hsame _ (createAccount_refused h hne)
  | accountCreateWithLevel username passwordHash level =>
      exact hsame _ (createAccount_refused h hne)
  | accountDelete username =>
      cases deleteAccount_cases username o.first with
      | inl hdeleted =>
          rw [handle, hdeleted.1] at h
          exact absurd (Option.some.inj h).symm hne
      | inr hkept => exact hkept.2
  | sessionCreate accountId token ttlSeconds =>
      rw [handle] at h ⊢
      cases createSession_cases (d := d) accountId token ttlSeconds now o.first with
      | inl hrefused => exact hsame _ (congrArg Prod.fst hrefused)
      | inr hcreated =>
          obtain ⟨hfirst, htoken, haccount, heq⟩ := hcreated
          rw [heq] at h
          cases hsecond : o.second with
          | true =>
              rw [hsecond] at h
              exact absurd (Option.some.inj h).symm hne
          | false =>
              refine absurd ⟨?_, htoken, haccount⟩ hwhole
              rw [← hfirst, ← hsecond]
  | sessionLookup token =>
      rw [handle] at h
      split at h <;> cases h
  | sessionDelete token =>
      simp only [handle, Database.deleteSession] at h ⊢
      cases hfirst : o.first with
      | false => exact ⟨rfl, rfl⟩
      | true =>
          simp only [hfirst, Bool.not_true, Bool.false_eq_true, if_false, if_true] at h
          exact absurd (Option.some.inj h).symm hne

/-- A request that reports success, and is not cut in half, did what it asks for. -/
theorem handle_ok {body : DbRequest} (hwhole : ¬ Halved lower d o body)
    (h : resultOf (handle lower d now o body).2 = some .ok) :
    Performed lower d (handle lower d now o body).1 body := by
  cases body with
  | accountLookup username => exact True.intro
  | adminExists => exact True.intro
  | accountSetLevel username level =>
      cases setPermissionLevel_cases username level o.first with
      | inl hset => exact hset.2
      | inr hkept => exact absurd (foundResult_eq_ok (Option.some.inj h)) hkept.1
  | accountCreate username passwordHash =>
      obtain ⟨-, hnone, heq⟩ := createAccount_ok h
      refine ⟨hnone, d.nextAccountId, ?_⟩
      rw [handle, heq]
      have hzero : (if o.second = true then (0 : UInt8).toNat else 0) = 0 := by split <;> rfl
      rw [hzero]
      exact mem_inserted username passwordHash 0
  | accountCreateWithLevel username passwordHash level =>
      obtain ⟨hfirst, hnone, heq⟩ := createAccount_ok h
      refine ⟨hnone, d.nextAccountId, ?_⟩
      have hlevel : (if o.second = true then level.toNat else 0) = level.toNat := by
        by_cases hsecond : o.second = true
        · exact if_pos hsecond
        · by_contra hzero
          refine hwhole ⟨?_, ?_, hnone⟩
          · rw [← hfirst, ← Bool.eq_false_of_not_eq_true hsecond]
          · rintro rfl
            exact hzero (by split <;> rfl)
      rw [handle, heq, hlevel]
      exact mem_inserted username passwordHash level.toNat
  | accountDelete username =>
      cases deleteAccount_cases username o.first with
      | inl hdeleted => exact hdeleted.2
      | inr hkept => exact absurd (foundResult_eq_ok (Option.some.inj h)) hkept.1
  | sessionCreate accountId token ttlSeconds =>
      rw [handle] at h ⊢
      cases createSession_cases (d := d) accountId token ttlSeconds now o.first with
      | inl hrefused =>
          rw [hrefused] at h
          cases h
      | inr hcreated =>
          obtain ⟨-, -, -, heq⟩ := hcreated
          rw [heq]
          exact ⟨_, List.mem_append_right _ (List.mem_singleton_self _), rfl, rfl⟩
  | sessionLookup token => exact True.intro
  | sessionDelete token =>
      cases hfirst : o.first with
      | false =>
          rw [handle, hfirst] at h
          cases h
      | true =>
          rw [handle, hfirst]
          intro row hrow
          simpa using (List.mem_filter.mp hrow).2

variable (now) in
/-- A request that is cut in half is answered with an error and has added a row, or is answered
with success and has not set the level. -/
theorem halved_fails {body : DbRequest} (h : Halved lower d o body) :
    (∃ result, resultOf (handle lower d now o body).2 = some result ∧ result ≠ .ok ∧
        (handle lower d now o body).1.sessions ≠ d.sessions) ∨
      (resultOf (handle lower d now o body).2 = some .ok ∧
        ¬ Performed lower d (handle lower d now o body).1 body) := by
  cases body with
  | accountCreateWithLevel username passwordHash level =>
      obtain ⟨rfl, hlevel, hnone⟩ := h
      right
      have hnamed : ¬ d.accounts.any (Database.named lower username) = true := by simp [hnone]
      simp only [handle, createAccount_eq, Bool.true_eq_false, Bool.false_eq_true, if_false,
        if_neg hnamed]
      refine ⟨rfl, ?_⟩
      rintro ⟨-, id, hmem⟩
      cases List.mem_append.mp hmem with
      | inl hold => exact absurd (named_self rfl) (List.any_eq_false.mp hnone _ hold)
      | inr hnew =>
          simp only [List.mem_singleton, Account.mk.injEq] at hnew
          exact hlevel (UInt8.toNat_inj.mp hnew.2.2.2)
  | sessionCreate accountId token ttlSeconds =>
      obtain ⟨rfl, htoken, haccount⟩ := h
      left
      refine ⟨.error, ?_⟩
      simp [handle, Database.createSession, htoken, haccount, Database.touchLastLogin, resultOf]
  | _ => exact h.elim

/-- Success needs the first statement. -/
theorem first_of_ok {body : DbRequest} (h : resultOf (handle lower d now o body).2 = some .ok) :
    o.first = true := by
  cases hfirst : o.first with
  | true => rfl
  | false =>
      cases body with
      | accountLookup username =>
          rw [handle, hfirst] at h
          cases h
      | accountCreate username passwordHash =>
          rw [handle, createAccount_eq, if_pos hfirst] at h
          cases h
      | accountCreateWithLevel username passwordHash level =>
          rw [handle, createAccount_eq, if_pos hfirst] at h
          cases h
      | _ =>
          rw [handle, hfirst] at h
          cases h

/-- A request that is answered with what is so was not cut in half. -/
theorem Atomic.whole {m : Message} (h : Atomic lower d now o m) {requestId : UInt32}
    {body : DbRequest} (hparse : parse m = some (requestId, body, false)) :
    ¬ Halved lower d o body := by
  intro hhalved
  have hrespond : respond lower d now o m = some (requestId, handle lower d now o body) := by
    simp only [respond, hparse, Bool.false_eq_true, if_false]
  obtain ⟨hrefused, hok⟩ := h _ _ _ hrespond
  cases halved_fails now hhalved with
  | inl hrow =>
      obtain ⟨result, hresult, hne, hsessions⟩ := hrow
      exact hsessions (hrefused result hresult hne).2
  | inr hlevel =>
      obtain ⟨body', hparse', hperformed⟩ := hok hlevel.1
      rw [hparse] at hparse'
      obtain rfl : body = body' := by simpa using hparse'
      exact hlevel.2 hperformed

/-- Exactly the requests that are cut in half are answered with what is not so. -/
theorem atomic_iff (m : Message) : Atomic lower d now o m ↔
    ∀ requestId body, parse m = some (requestId, body, false) → ¬ Halved lower d o body := by
  constructor
  · intro h requestId body hparse
    exact h.whole hparse
  · intro h requestId d' reply hrespond
    rcases hparse : parse m with _ | ⟨requestId', body, failed⟩
    · rw [respond, hparse] at hrespond
      cases hrespond
    · rw [respond, hparse] at hrespond
      cases failed with
      | true =>
          simp only [if_true, Option.some.injEq, Prod.ext_iff] at hrespond
          obtain ⟨rfl, rfl, rfl⟩ := hrespond
          constructor
          · intro result
            apply handle_refused
            cases body <;> simp [Halved]
          · intro hok
            exact absurd (first_of_ok hok) Bool.false_ne_true
      | false =>
          simp only [Bool.false_eq_true, if_false, Option.some.injEq, Prod.ext_iff] at hrespond
          obtain ⟨rfl, rfl, rfl⟩ := hrespond
          have hwhole := h requestId' body hparse
          constructor
          · intro result
            exact handle_refused hwhole
          · intro hok
            exact ⟨body, rfl, handle_ok hwhole hok⟩

/-- An account is created without its level and reported as created, a session is stored and
reported as failed. -/
theorem create_halved :
    ¬ Atomic id ⟨[], [], 1⟩ 0 ⟨true, false⟩
        ⟨DbMessage.accountCreateWithLevelRequest.toU16,
          (DbRequest.accountCreateWithLevel [97] [104] 2).payload 1⟩ ∧
      ¬ Atomic id ⟨[⟨1, [97], [104], 0⟩], [], 2⟩ 0 ⟨true, false⟩
        ⟨DbMessage.sessionCreateRequest.toU16, (DbRequest.sessionCreate 1 [116] 60).payload 1⟩ := by
  constructor
  · intro h
    exact h.whole (parse_payload 1 (.accountCreateWithLevel [97] [104] 2))
      ⟨rfl, by decide, rfl⟩
  · intro h
    exact h.whole (parse_payload 1 (.sessionCreate 1 [116] 60)) ⟨rfl, rfl, rfl⟩

end Atomicity

end UntitledGame.Server.DbServer
