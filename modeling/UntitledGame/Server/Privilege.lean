import UntitledGame.Server.AuthProvenance
import UntitledGame.Server.Provenance
import UntitledGame.Server.Clock
import UntitledGame.Server.Backend
import UntitledGame.Server.DbServer

/-!
# Privileged changes and who asked for them

Authorisation and effect are apart: a message leads to the lookup of the token that
it carries, the reply to a request for the change, and the request to the change.
The invariant `Tracked` follows a message through these stages, for both servers
and whatever happens in between; `privilege_safety` is what it comes to.
-/

namespace UntitledGame.Server.Privilege

open Net Sim Backend
open Std (ExtTreeMap)

variable {F : Type*}

/-- The message with this number, at this server, carried the token. -/
def Carried (s : Backend F) (side : Side) (request : Nat) (token : Bytes) : Prop :=
  match side with
  | .auth => ∃ id m, s.auth.arrivals[request]? = some (id, m) ∧
      AuthServer.carriedToken m = some token
  | .world => ∃ id m, s.world.arrivals[request]? = some (id, m) ∧
      WorldServer.carriedToken m = some token

/-- The session lookup for the message with this number found this session, and it was a lookup of
the token that the message carried. -/
def Resolved (s : Backend F) (side : Side) (request : Nat) (session : Session) : Prop :=
  ∃ token, ⟨side, request, token, session⟩ ∈ s.lookups ∧ Carried s side request token

/-- The message with this number carried a token that resolved to at least this level. -/
def Authorised (s : Backend F) (side : Side) (request : Nat) (level : PermissionLevel) : Prop :=
  ∃ session, Resolved s side request session ∧ level.toU8 ≤ session.permissionLevel

/-- No account is deleted or changed, and a new one has level zero. -/
structure Unprivileged (before after : Database) : Prop where
  kept : ∀ a ∈ before.accounts, a ∈ after.accounts
  added : ∀ a ∈ after.accounts, a ∈ before.accounts ∨ a.permissionLevel = 0

/-- The requests that can do more than that. -/
def privileged : DbRequest → Bool
  | .accountSetLevel _ _ => true
  | .accountCreateWithLevel _ _ _ => true
  | .accountDelete _ => true
  | _ => false

section Records

/-- The logs only grow. -/
structure Grows (s s' : Backend F) : Prop where
  auth : s.auth.arrivals <+: s'.auth.arrivals
  world : s.world.arrivals <+: s'.world.arrivals
  lookups : s.lookups <+: s'.lookups

theorem getElem?_of_prefix {α : Type*} {l l' : List α} (h : l <+: l') {k : Nat} {x : α}
    (hx : l[k]? = some x) : l'[k]? = some x := by
  obtain ⟨rest, rfl⟩ := h
  rw [List.getElem?_append_left (List.getElem?_eq_some_iff.mp hx).1, hx]

variable {s s' : Backend F}

theorem Carried.mono (hg : Grows s s') {side : Side} {request : Nat} {token : Bytes}
    (h : Carried s side request token) : Carried s' side request token := by
  cases side with
  | auth =>
      obtain ⟨id, m, hm, htoken⟩ := h
      exact ⟨id, m, getElem?_of_prefix hg.auth hm, htoken⟩
  | world =>
      obtain ⟨id, m, hm, htoken⟩ := h
      exact ⟨id, m, getElem?_of_prefix hg.world hm, htoken⟩

theorem Resolved.mono (hg : Grows s s') {side : Side} {request : Nat} {session : Session}
    (h : Resolved s side request session) : Resolved s' side request session := by
  obtain ⟨token, hlookup, hcarried⟩ := h
  exact ⟨token, hg.lookups.subset hlookup, hcarried.mono hg⟩

theorem Authorised.mono (hg : Grows s s') {side : Side} {request : Nat} {level : PermissionLevel}
    (h : Authorised s side request level) : Authorised s' side request level := by
  obtain ⟨session, hresolved, hlevel⟩ := h
  exact ⟨session, hresolved.mono hg, hlevel⟩

end Records

/-- The callback of the auth server that acts on a caller's authority, with the number of the
caller's message. -/
def caller : AuthHandler → Option Nat
  | .admin request _ _ _ _ _ => some request
  | _ => none

section Pairing

variable {H : Type*} (s : Backend F) (side : Side) (callerOf : H → Option Nat)

/-- A callback that acts on authority waits for the lookup of its caller's token. -/
def Asks (r : Request) (h : H) : Prop :=
  ∀ request, callerOf h = some request →
    r.origin = request ∧ ∃ token, r.body = .sessionLookup token ∧ Carried s side request token

/-- A session that such a callback is told of is the one that its caller's token resolved to. -/
def Tells (reply : DbReply) (h : H) : Prop :=
  ∀ request, callerOf h = some request →
    ∀ session, reply = .sessionLookup true session → Resolved s side request session

variable {s side callerOf} {s' : Backend F}

theorem Asks.mono (hg : Grows s s') {r : Request} {h : H} (ha : Asks s side callerOf r h) :
    Asks s' side callerOf r h := by
  intro request hrequest
  obtain ⟨horigin, token, hbody, hcarried⟩ := ha request hrequest
  exact ⟨horigin, token, hbody, hcarried.mono hg⟩

theorem Tells.mono (hg : Grows s s') {reply : DbReply} {h : H} (ht : Tells s side callerOf reply h) :
    Tells s' side callerOf reply h := by
  intro request hrequest session hsession
  exact (ht request hrequest session hsession).mono hg

/-- What is on its way on a link stays in place as the logs grow. -/
theorem paired_grows (hg : Grows s s') {c : DbClient H} {replies : List (Nat × DbReply)}
    (h : DbClient.Paired (Asks s side callerOf) (Tells s side callerOf) c replies) :
    DbClient.Paired (Asks s' side callerOf) (Tells s' side callerOf) c replies :=
  h.mono (fun _ _ ha => ha.mono hg) (fun _ _ ht => ht.mono hg)

/-- A callback that acts on nobody's authority fits any request. -/
theorem asks_of_none {r : Request} {h : H} (hnone : callerOf h = none) : Asks s side callerOf r h := by
  intro request hrequest
  rw [hnone] at hrequest
  cases hrequest

end Pairing

/-- What is on its way between the servers and the database, and where it comes from. -/
structure Tracked (s : Backend F) : Prop where
  auth : DbClient.Paired (Asks s .auth caller) (Tells s .auth caller) s.auth.dbClient s.authReplies
  world : DbClient.Paired (Asks s .world WorldServer.Handler.caller)
    (Tells s .world WorldServer.Handler.caller) s.world.dbClient s.worldReplies
  authorised : ∀ r ∈ s.auth.dbClient.requests ++ s.authStale, privileged r.body = true →
    Authorised s .auth r.origin .admin
  harmless : ∀ r ∈ s.world.dbClient.requests ++ s.worldStale, privileged r.body = false

section Steps

variable {s s' : Backend F}

/-- A step of the auth server, or of the database on its link. -/
theorem Tracked.of_auth (h : Tracked s) (hg : Grows s s')
    (hclient : s'.world.dbClient = s.world.dbClient) (hreplies : s'.worldReplies = s.worldReplies)
    (hstale : s'.worldStale = s.worldStale)
    (hpaired : DbClient.Paired (Asks s' .auth caller) (Tells s' .auth caller) s'.auth.dbClient
      s'.authReplies)
    (hnew : ∀ r ∈ s'.auth.dbClient.requests ++ s'.authStale, privileged r.body = true →
      r ∈ s.auth.dbClient.requests ++ s.authStale ∨ Authorised s' .auth r.origin .admin) :
    Tracked s' where
  auth := hpaired
  world := by
    rw [hclient, hreplies]
    exact paired_grows hg h.world
  authorised r hr hpriv := by
    cases hnew r hr hpriv with
    | inl hold => exact (h.authorised r hold hpriv).mono hg
    | inr hauthorised => exact hauthorised
  harmless r hr := by
    rw [hclient, hstale] at hr
    exact h.harmless r hr

/-- A step of the world server, or of the database on its link. -/
theorem Tracked.of_world (h : Tracked s) (hg : Grows s s')
    (hclient : s'.auth.dbClient = s.auth.dbClient) (hreplies : s'.authReplies = s.authReplies)
    (hstale : s'.authStale = s.authStale)
    (hpaired : DbClient.Paired (Asks s' .world WorldServer.Handler.caller)
      (Tells s' .world WorldServer.Handler.caller) s'.world.dbClient s'.worldReplies)
    (hnew : ∀ r ∈ s'.world.dbClient.requests ++ s'.worldStale,
      r ∈ s.world.dbClient.requests ++ s.worldStale ∨ privileged r.body = false) :
    Tracked s' where
  auth := by
    rw [hclient, hreplies]
    exact paired_grows hg h.auth
  world := hpaired
  authorised r hr hpriv := by
    rw [hclient, hstale] at hr
    exact (h.authorised r hr hpriv).mono hg
  harmless r hr := by
    cases hnew r hr with
    | inl hold => exact h.harmless r hold
    | inr hharmless => exact hharmless

/-- Requests after a call: the old ones and the new one. -/
theorem mem_call {H : Type*} {c : DbClient H} {origin : Nat} {body : DbRequest} {handler : H}
    {stale : List Request} {r : Request}
    (h : r ∈ (c.call origin body handler).requests ++ stale) :
    r ∈ c.requests ++ stale ∨ r = ⟨c.mNextRequestId, origin, body⟩ := by
  simp only [DbClient.call, List.mem_append, List.mem_singleton] at h ⊢
  tauto

variable [Scalar F] (deployment : Deployment F)

theorem tracked_init (database : Database) (now : ClockReading F) :
    Tracked (init deployment database now) where
  auth := .nil DbClient.ordered_connected rfl
  world := .nil DbClient.ordered_connected rfl
  authorised r hr := by simp [init, AuthServer.init, DbClient.connected] at hr
  harmless r hr := by simp [init, WorldServer.init, DbClient.connected] at hr

omit [Scalar F] in
/-- A client's message at the auth server. -/
theorem Tracked.authLocal (h : Tracked s) {e : AuthServer.Event} (he : e.isLocal = true) :
    Tracked { s with auth := s.auth.step deployment.auth e } := by
  have heffect := AuthServer.step_effect deployment.auth (a := s.auth) e
  generalize s.auth.step deployment.auth e = a' at heffect ⊢
  cases heffect with
  | quiet hclient harrivals =>
      have hg : Grows s { s with auth := a' } :=
        ⟨harrivals, List.prefix_refl _, List.prefix_refl _⟩
      apply h.of_auth hg rfl rfl rfl
      · dsimp only
        rw [hclient]
        exact paired_grows hg h.auth
      · intro r hr _
        dsimp only at hr
        rw [hclient] at hr
        exact Or.inl hr
  | @asked id m random body handler _ hasks hledger =>
      obtain ⟨hclient, harrivals⟩ := AuthServer.ledger_eq.mp hledger
      have hg : Grows s { s with auth := a' } :=
        ⟨harrivals ▸ List.prefix_append _ _, List.prefix_refl _, List.prefix_refl _⟩
      apply h.of_auth hg rfl rfl rfl
      · dsimp only
        rw [hclient]
        apply (paired_grows hg h.auth).call
        cases hasks with
        | login username password => exact asks_of_none rfl
        | register username passwordHash => exact asks_of_none rfl
        | admin token command target password level hcarries =>
            intro request hrequest
            obtain rfl := Option.some.inj hrequest
            refine ⟨rfl, token, rfl, id, m, ?_, hcarries⟩
            dsimp only
            rw [harrivals]
            simp
      · intro r hr hpriv
        dsimp only at hr
        rw [hclient] at hr
        rcases mem_call hr with hold | rfl
        · exact Or.inl hold
        · cases hasks <;> simp [privileged] at hpriv
  | answered hanswer hledger => cases he
  | followed hanswer hfollows hledger => cases he
  | lost hledger => cases he

/-- Work of the world server that does not come over the link. -/
theorem Tracked.worldLocal (h : Tracked s) {e : WorldServer.Event F} (he : e.isLocal = true) :
    Tracked { s with world := s.world.step deployment.world e } := by
  have heffect := WorldServer.step_effect deployment.world (w := s.world) e
  generalize s.world.step deployment.world e = w' at heffect ⊢
  cases heffect with
  | quiet hclient harrivals hjoins =>
      have hg : Grows s { s with world := w' } :=
        ⟨List.prefix_refl _, harrivals, List.prefix_refl _⟩
      apply h.of_world hg rfl rfl rfl
      · dsimp only
        rw [hclient]
        exact paired_grows hg h.world
      · intro r hr
        dsimp only at hr
        rw [hclient] at hr
        exact Or.inl hr
  | @asked id m token handler _ hlive hasks hledger =>
      obtain ⟨hclient, harrivals, -⟩ := WorldServer.ledger_eq.mp hledger
      have hg : Grows s { s with world := w' } :=
        ⟨List.prefix_refl _, harrivals ▸ List.prefix_append _ _, List.prefix_refl _⟩
      have hcarries := hasks.carries
      have hcarried : Carried { s with world := w' } .world s.world.arrivals.length token := by
        refine ⟨id, m, ?_, hcarries⟩
        dsimp only
        rw [harrivals]
        simp
      apply h.of_world hg rfl rfl rfl
      · dsimp only
        rw [hclient]
        apply (paired_grows hg h.world).call
        intro request hrequest
        have hnumber : request = s.world.arrivals.length := by
          cases hasks with
          | join htype hread hfree => cases hrequest
          | setLatency milliseconds htype hread => exact (Option.some.inj hrequest).symm
          | command command timeCommand value hcommand htype hread =>
              exact (Option.some.inj hrequest).symm
        subst hnumber
        exact ⟨rfl, token, rfl, hcarried⟩
      · intro r hr
        dsimp only at hr
        rw [hclient] at hr
        rcases mem_call hr with hold | rfl
        · exact Or.inl hold
        · exact Or.inr rfl
  | answered hanswer hledger => cases he
  | redeemed hanswer hledger => cases he
  | lost hledger => cases he

section Served

omit [Scalar F]

/-- A lookup that finds a session is on record. -/
theorem tells_of_asks {H : Type*} {side : Side} {callerOf : H → Option Nat} {r : Request}
    {reply : DbReply} {h : H} (hfound : ∀ l ∈ found side r reply, l ∈ s.lookups)
    (ha : Asks s side callerOf r h) : Tells s side callerOf reply h := by
  intro request hrequest session hsession
  obtain ⟨horigin, token, hbody, hcarried⟩ := ha request hrequest
  refine ⟨token, hfound _ ?_, hcarried⟩
  simp [found, hbody, hsession, horigin]

/-- The next request of a link is answered, and what it found is on record. -/
theorem paired_served {H : Type*} {side : Side} {callerOf : H → Option Nat} {c : DbClient H}
    {replies : List (Nat × DbReply)} {r : Request} {rest : List Request} {reply : DbReply}
    (h : DbClient.Paired (Asks s side callerOf) (Tells s side callerOf) c replies)
    (hrequests : c.requests = r :: rest) (hg : Grows s s')
    (hfound : ∀ l ∈ found side r reply, l ∈ s'.lookups) :
    DbClient.Paired (Asks s' side callerOf) (Tells s' side callerOf) { c with requests := rest }
      (replies ++ [(r.id, reply)]) := by
  apply (paired_grows hg h).handle hrequests
  intro k _
  exact tells_of_asks hfound

/-- A request that is handled adds to the record of what was looked up. -/
theorem grows_serve (s : Backend F) (side : Side) (r : Request) (now : ℚ) (o : Outcome) :
    Grows s (s.serve deployment side r now o).1 :=
  ⟨List.prefix_refl _, List.prefix_refl _, List.prefix_append _ _⟩

theorem Tracked.authHandled (h : Tracked s) {r : Request} {rest : List Request} (now : ℚ)
    (o : Outcome) (hrequests : s.auth.dbClient.requests = r :: rest) :
    Tracked { (s.serve deployment .auth r now o).1 with
      auth := { s.auth with dbClient := { s.auth.dbClient with requests := rest } }
      authReplies := s.authReplies ++ [(r.id, (s.serve deployment .auth r now o).2)] } := by
  have hg := grows_serve deployment s .auth r now o
  refine h.of_auth ⟨hg.auth, hg.world, hg.lookups⟩ rfl rfl rfl
    (paired_served h.auth hrequests ⟨hg.auth, hg.world, hg.lookups⟩ ?_) ?_
  · intro l hl
    exact List.mem_append_right _ hl
  · intro q hq _
    apply Or.inl
    rw [hrequests]
    exact List.mem_cons_of_mem r hq

theorem Tracked.worldHandled (h : Tracked s) {r : Request} {rest : List Request} (now : ℚ)
    (o : Outcome) (hrequests : s.world.dbClient.requests = r :: rest) :
    Tracked { (s.serve deployment .world r now o).1 with
      world := { s.world with dbClient := { s.world.dbClient with requests := rest } }
      worldReplies := s.worldReplies ++ [(r.id, (s.serve deployment .world r now o).2)] } := by
  have hg := grows_serve deployment s .world r now o
  refine h.of_world ⟨hg.auth, hg.world, hg.lookups⟩ rfl rfl rfl
    (paired_served h.world hrequests ⟨hg.auth, hg.world, hg.lookups⟩ ?_) ?_
  · intro l hl
    exact List.mem_append_right _ hl
  · intro q hq
    apply Or.inl
    rw [hrequests]
    exact List.mem_cons_of_mem r hq

end Served

/-- What is left of the stale requests was there before. -/
theorem mem_eraseIdx {requests stale : List Request} {k : Nat} {r : Request}
    (h : r ∈ requests ++ stale.eraseIdx k) : r ∈ requests ++ stale := by
  cases List.mem_append.mp h with
  | inl h => exact List.mem_append_left _ h
  | inr h => exact List.mem_append_right _ ((List.eraseIdx_sublist _ _).subset h)

section Stale

omit [Scalar F]

theorem Tracked.authStale (h : Tracked s) (r : Request) (k : Nat) (now : ℚ) (o : Outcome) :
    Tracked { (s.serve deployment .auth r now o).1 with authStale := s.authStale.eraseIdx k } := by
  have hg := grows_serve deployment s .auth r now o
  refine h.of_auth ⟨hg.auth, hg.world, hg.lookups⟩ rfl rfl rfl
    (paired_grows ⟨hg.auth, hg.world, hg.lookups⟩ h.auth) ?_
  · intro q hq _
    exact Or.inl (mem_eraseIdx hq)

theorem Tracked.worldStale (h : Tracked s) (r : Request) (k : Nat) (now : ℚ) (o : Outcome) :
    Tracked { (s.serve deployment .world r now o).1 with worldStale := s.worldStale.eraseIdx k } := by
  have hg := grows_serve deployment s .world r now o
  refine h.of_world ⟨hg.auth, hg.world, hg.lookups⟩ rfl rfl rfl
    (paired_grows ⟨hg.auth, hg.world, hg.lookups⟩ h.world) ?_
  · intro q hq
    exact Or.inl (mem_eraseIdx hq)

/-- A reply reaches the auth server. Only an administrator's session leads to a privileged
request. -/
theorem Tracked.authReply (h : Tracked s) {requestId : Nat} {reply : DbReply}
    {rest : List (Nat × DbReply)} (hreplies : s.authReplies = (requestId, reply) :: rest)
    (random : Entropy) :
    Tracked { s with
      auth := s.auth.step deployment.auth (.reply requestId reply random)
      authReplies := rest } := by
  have heffect := AuthServer.step_effect deployment.auth (a := s.auth) (.reply requestId reply random)
  generalize s.auth.step deployment.auth (.reply requestId reply random) = a' at heffect ⊢
  have hpaired := h.auth
  rw [hreplies] at hpaired
  cases heffect with
  | quiet hclient harrivals =>
      have hg : Grows s { s with auth := a', authReplies := rest } :=
        ⟨harrivals, List.prefix_refl _, List.prefix_refl _⟩
      apply h.of_auth hg rfl rfl rfl
      · dsimp only
        rw [hclient]
        exact paired_grows hg hpaired.tail
      · intro r hr _
        dsimp only at hr
        rw [hclient] at hr
        exact Or.inl hr
  | answered hanswer hledger =>
      obtain ⟨hclient, harrivals⟩ := AuthServer.ledger_eq.mp hledger
      have hg : Grows s { s with auth := a', authReplies := rest } :=
        ⟨harrivals ▸ List.prefix_refl _, List.prefix_refl _, List.prefix_refl _⟩
      apply h.of_auth hg rfl rfl rfl
      · dsimp only
        rw [hclient]
        exact paired_grows hg (hpaired.tail.answer hanswer)
      · intro r hr _
        obtain ⟨-, rfl⟩ := DbClient.answer_eq_some hanswer
        dsimp only at hr
        rw [hclient] at hr
        exact Or.inl hr
  | @followed _ _ _ handler next dbClient request body _ hanswer hfollows hledger =>
      obtain ⟨hclient, harrivals⟩ := AuthServer.ledger_eq.mp hledger
      have hg : Grows s { s with auth := a', authReplies := rest } :=
        ⟨harrivals ▸ List.prefix_refl _, List.prefix_refl _, List.prefix_refl _⟩
      have htells := hpaired.tells_head hanswer
      apply h.of_auth hg rfl rfl rfl
      · dsimp only
        rw [hclient]
        apply (paired_grows hg (hpaired.tail.answer hanswer)).call
        cases hfollows <;> exact asks_of_none rfl
      · intro r hr hpriv
        dsimp only at hr
        rw [hclient] at hr
        rcases mem_call hr with hold | rfl
        · obtain ⟨-, rfl⟩ := DbClient.answer_eq_some hanswer
          exact Or.inl hold
        · apply Or.inr
          cases hfollows with
          | session token accountId level ttlSeconds => simp [privileged] at hpriv
          | create passwordHash hadmin => exact ⟨_, (htells _ rfl _ rfl).mono hg, hadmin⟩
          | delete hadmin => exact ⟨_, (htells _ rfl _ rfl).mono hg, hadmin⟩
          | setLevel hadmin => exact ⟨_, (htells _ rfl _ rfl).mono hg, hadmin⟩

end Stale

/-- A reply reaches the world server, which asks for no more than a session to be deleted. -/
theorem Tracked.worldReply (h : Tracked s) {requestId : Nat} {reply : DbReply}
    {rest : List (Nat × DbReply)} (hreplies : s.worldReplies = (requestId, reply) :: rest)
    (now : Clocks F) :
    Tracked { s with
      world := s.world.step deployment.world (.reply requestId reply now)
      worldReplies := rest } := by
  have heffect :=
    WorldServer.step_effect deployment.world (w := s.world) (.reply requestId reply now)
  generalize s.world.step deployment.world (.reply requestId reply now) = w' at heffect ⊢
  have hpaired := h.world
  rw [hreplies] at hpaired
  cases heffect with
  | quiet hclient harrivals hjoins =>
      have hg : Grows s { s with world := w', worldReplies := rest } :=
        ⟨List.prefix_refl _, harrivals, List.prefix_refl _⟩
      apply h.of_world hg rfl rfl rfl
      · dsimp only
        rw [hclient]
        exact paired_grows hg hpaired.tail
      · intro r hr
        dsimp only at hr
        rw [hclient] at hr
        exact Or.inl hr
  | answered hanswer hledger =>
      obtain ⟨hclient, harrivals, -⟩ := WorldServer.ledger_eq.mp hledger
      have hg : Grows s { s with world := w', worldReplies := rest } :=
        ⟨List.prefix_refl _, harrivals ▸ List.prefix_refl _, List.prefix_refl _⟩
      apply h.of_world hg rfl rfl rfl
      · dsimp only
        rw [hclient]
        exact paired_grows hg (hpaired.tail.answer hanswer)
      · intro r hr
        obtain ⟨-, rfl⟩ := DbClient.answer_eq_some hanswer
        dsimp only at hr
        rw [hclient] at hr
        exact Or.inl hr
  | redeemed hanswer hledger =>
      obtain ⟨hclient, harrivals, -⟩ := WorldServer.ledger_eq.mp hledger
      have hg : Grows s { s with world := w', worldReplies := rest } :=
        ⟨List.prefix_refl _, harrivals ▸ List.prefix_refl _, List.prefix_refl _⟩
      apply h.of_world hg rfl rfl rfl
      · dsimp only
        rw [hclient]
        apply (paired_grows hg (hpaired.tail.answer hanswer)).call
        exact asks_of_none rfl
      · intro r hr
        dsimp only at hr
        rw [hclient] at hr
        rcases mem_call hr with hold | rfl
        · obtain ⟨-, rfl⟩ := DbClient.answer_eq_some hanswer
          exact Or.inl hold
        · exact Or.inr rfl

omit [Scalar F] in
/-- A link drops: what was written on it may still be handled. -/
theorem Tracked.authLost (h : Tracked s) (random : Entropy) :
    Tracked { s with
      auth := s.auth.step deployment.auth (.dbLost random)
      authReplies := []
      authStale := s.authStale ++ s.auth.dbClient.requests } := by
  obtain ⟨hclient, harrivals⟩ :=
    AuthServer.ledger_eq.mp (AuthServer.onDbLost_ledger deployment.auth (a := s.auth) random)
  have hstep : s.auth.step deployment.auth (.dbLost random) = s.auth.onDbLost deployment.auth random :=
    rfl
  rw [hstep]
  generalize s.auth.onDbLost deployment.auth random = a' at hclient harrivals ⊢
  have hg : Grows s { s with
      auth := a'
      authReplies := []
      authStale := s.authStale ++ s.auth.dbClient.requests } :=
    ⟨harrivals ▸ List.prefix_refl _, List.prefix_refl _, List.prefix_refl _⟩
  apply h.of_auth hg rfl rfl rfl
  · dsimp only
    rw [hclient]
    exact .nil (DbClient.ordered_reconnected _) rfl
  · intro r hr _
    dsimp only at hr
    rw [hclient] at hr
    apply Or.inl
    simp only [DbClient.reconnected, List.nil_append, List.mem_append] at hr ⊢
    exact hr.symm

theorem Tracked.worldLost (h : Tracked s) (now : Clocks F) :
    Tracked { s with
      world := s.world.step deployment.world (.dbLost now)
      worldReplies := []
      worldStale := s.worldStale ++ s.world.dbClient.requests } := by
  obtain ⟨hclient, harrivals, -⟩ :=
    WorldServer.ledger_eq.mp (WorldServer.onDbLost_ledger deployment.world s.world now)
  have hstep : s.world.step deployment.world (.dbLost now) = s.world.onDbLost deployment.world now :=
    rfl
  rw [hstep]
  generalize s.world.onDbLost deployment.world now = w' at hclient harrivals ⊢
  have hg : Grows s { s with
      world := w'
      worldReplies := []
      worldStale := s.worldStale ++ s.world.dbClient.requests } :=
    ⟨List.prefix_refl _, harrivals ▸ List.prefix_refl _, List.prefix_refl _⟩
  apply h.of_world hg rfl rfl rfl
  · dsimp only
    rw [hclient]
    exact .nil (DbClient.ordered_reconnected _) rfl
  · intro r hr
    dsimp only at hr
    rw [hclient] at hr
    apply Or.inl
    simp only [DbClient.reconnected, List.nil_append, List.mem_append] at hr ⊢
    exact hr.symm

theorem Tracked.step (h : Tracked s) (e : Event F) : Tracked (s.step deployment e) := by
  have heffect := step_effect deployment s e
  generalize s.step deployment e = s' at heffect ⊢
  cases heffect with
  | idle => exact h
  | auth hlocal => exact h.authLocal deployment hlocal
  | world hlocal => exact h.worldLocal deployment hlocal
  | authHandled now o hrequests _ => exact h.authHandled deployment now o hrequests
  | worldHandled now o hrequests _ => exact h.worldHandled deployment now o hrequests
  | authStale k now o _ => exact h.authStale deployment _ k now o
  | worldStale k now o _ => exact h.worldStale deployment _ k now o
  | authReply random hreplies => exact h.authReply deployment hreplies random
  | worldReply now hreplies => exact h.worldReply deployment hreplies now
  | authLost random => exact h.authLost deployment random
  | worldLost now => exact h.worldLost deployment now
  | purge now runs => exact ⟨h.auth, h.world, h.authorised, h.harmless⟩

theorem tracked_run (database : Database) (now : ClockReading F) (events : List (Event F)) :
    Tracked (run deployment database now events) :=
  Lib.Runs.run_preserves (fun s e (hs : Tracked s) => hs.step deployment e)
    (tracked_init deployment database now) events

end Steps

section Accounts

theorem Unprivileged.refl (d : Database) : Unprivileged d d :=
  ⟨fun _ ha => ha, fun _ ha => Or.inl ha⟩

theorem Unprivileged.trans {d d' d'' : Database} (h : Unprivileged d d')
    (h' : Unprivileged d' d'') : Unprivileged d d'' where
  kept a ha := h'.kept a (h.kept a ha)
  added a ha := by
    cases h'.added a ha with
    | inl ha => exact h.added a ha
    | inr hzero => exact Or.inr hzero

/-- Only the accounts count. -/
theorem Unprivileged.of_accounts {d d' : Database} (h : d'.accounts = d.accounts) :
    Unprivileged d d' := by
  constructor
  · intro a ha
    rw [h]
    exact ha
  · intro a ha
    rw [h] at ha
    exact Or.inl ha

variable (lower : Bytes → Bytes) (d : Database)

/-- A registration adds an account of level zero, or none. -/
theorem unprivileged_createAccount (username passwordHash : Bytes) (o : Outcome) :
    Unprivileged d (DbServer.createAccount lower d o username passwordHash 0).1 := by
  rw [DbServer.createAccount_eq]
  split
  · exact Unprivileged.refl d
  · split
    · exact Unprivileged.refl d
    · constructor
      · intro a ha
        exact List.mem_append_left _ ha
      · intro a ha
        cases List.mem_append.mp ha with
        | inl hold => exact Or.inl hold
        | inr hnew =>
            obtain rfl := List.mem_singleton.mp hnew
            exact Or.inr (ite_self 0)

/-- A request without privilege makes no privileged change. -/
theorem unprivileged_handle {body : DbRequest} (hbody : privileged body = false) (now : ℚ)
    (o : Outcome) : Unprivileged d (DbServer.handle lower d now o body).1 := by
  cases body with
  | accountLookup username =>
      rw [DbServer.handle]
      split <;> exact Unprivileged.refl d
  | adminExists => exact Unprivileged.refl d
  | accountSetLevel username level => cases hbody
  | accountCreate username passwordHash => exact unprivileged_createAccount lower d _ _ o
  | accountCreateWithLevel username passwordHash level => cases hbody
  | accountDelete username => cases hbody
  | sessionCreate accountId token ttlSeconds =>
      apply Unprivileged.of_accounts
      simp only [DbServer.handle, Database.createSession]
      split <;> rfl
  | sessionLookup token =>
      rw [DbServer.handle]
      split <;> exact Unprivileged.refl d
  | sessionDelete token =>
      apply Unprivileged.of_accounts
      simp only [DbServer.handle, Database.deleteSession]
      split <;> rfl

theorem unprivileged_purge (now : ℚ) (runs : Bool) :
    Unprivileged d (d.purgeExpiredSessions now runs) := by
  apply Unprivileged.of_accounts
  rw [Database.purgeExpiredSessions]
  split <;> rfl

end Accounts

section Safety

variable [Scalar F] (deployment : Deployment F) {s : Backend F}

/-- The message on whose authority the callback acts that an event invokes. -/
def concluded (s : Backend F) : Event F → Option Nat
  | .worldReply _ =>
      match s.worldReplies with
      | (requestId, _) :: _ =>
          (s.world.dbClient.mPending[requestId]?).bind WorldServer.Handler.caller
      | [] => none
  | _ => none

/-- A privileged change is made for a message that carried an administrator's token. -/
theorem Tracked.changes (h : Tracked s) {e : Event F}
    (hchange : ¬ Unprivileged s.database (s.step deployment e).database) :
    ∃ r, handled s e = some (.auth, r) ∧ Authorised s .auth r.origin .admin := by
  rcases step_database deployment s e with
    ⟨side, r, now, o, hhandled, hdatabase⟩ | ⟨now, runs, hpurge⟩ | hsame
  · have hpriv : privileged r.body = true := by
      by_contra hnot
      rw [Bool.not_eq_true] at hnot
      rw [hdatabase] at hchange
      exact hchange (unprivileged_handle deployment.lower s.database hnot now o)
    have hmem := mem_of_handled hhandled
    cases side with
    | auth => exact ⟨r, hhandled, h.authorised r hmem hpriv⟩
    | world =>
        rw [h.harmless r hmem] at hpriv
        cases hpriv
  · rw [hpurge] at hchange
    exact absurd (unprivileged_purge s.database now runs) hchange
  · rw [hsame] at hchange
    exact absurd (Unprivileged.refl _) hchange

/-- A dial is turned by a tick, or for a message that carried a game master's token. -/
theorem Tracked.turns (h : Tracked s) {e : Event F}
    (hchange : (s.step deployment e).world.dials ≠ s.world.dials) :
    (∃ now, e = .world (.tick now)) ∧ (s.step deployment e).world.dials.2 = s.world.dials.2 ∨
      ∃ request, concluded s e = some request ∧ Authorised s .world request .gameMaster := by
  have heffect := step_effect deployment s e
  generalize s.step deployment e = s' at heffect hchange ⊢
  cases heffect with
  | @world e hlocal =>
      apply Or.inl
      by_cases htick : e.isTick = true
      · cases e with
        | tick now => exact ⟨⟨now, rfl⟩, WorldServer.onTick_dials deployment.world s.world now⟩
        | _ => cases htick
      · rw [Bool.not_eq_true] at htick
        refine absurd (WorldServer.step_dials deployment.world s.world htick ?_) hchange
        rintro requestId reply now rfl
        cases hlocal
  | @worldReply requestId reply rest now hreplies =>
      apply Or.inr
      simp only [WorldServer.step, WorldServer.onDbReply] at hchange
      split at hchange
      · exact absurd rfl hchange
      · rename_i handler dbClient hanswer
        obtain ⟨request, session, hcaller, rfl, hlevel⟩ :=
          WorldServer.onReply_dials deployment.world hchange
        have hpaired := h.world
        rw [hreplies] at hpaired
        refine ⟨request, ?_, session, ?_, hlevel⟩
        · simp only [concluded, hreplies, (DbClient.answer_eq_some hanswer).1, Option.bind_some,
            hcaller]
        · exact hpaired.tells_head hanswer request hcaller session rfl
  | worldLost now =>
      exact absurd (WorldServer.onDbLost_dials deployment.world s.world now) hchange
  | _ => exact absurd rfl hchange

/-- There is no administrator, and none has been found. -/
structure NoAdmin (database : Database) (s : Backend F) : Prop where
  tracked : Tracked s
  accounts : ∀ a ∈ s.database.accounts, Database.levelOf a < PermissionLevel.admin.toU8
  lookups : ∀ l ∈ s.lookups, l.session.permissionLevel < PermissionLevel.admin.toU8
  unprivileged : Unprivileged database s.database

omit [Scalar F] in
/-- A lookup reports the level of an account. -/
theorem serve_lookups (s : Backend F) (side : Side) (r : Request) (now : ℚ) (o : Outcome) :
    ∀ l ∈ (s.serve deployment side r now o).1.lookups, l ∈ s.lookups ∨
      ∃ a ∈ s.database.accounts, l.session.permissionLevel = Database.levelOf a := by
  intro l hl
  rcases List.mem_append.mp hl with hl | hl
  · exact Or.inl hl
  · rw [found.eq_def] at hl
    split at hl
    · rename_i token session hbody hreply
      obtain rfl := List.mem_singleton.mp hl
      have hlookup : (DbServer.handle deployment.lower s.database now o (.sessionLookup token)).2 =
          .sessionLookup true session := by
        rw [← hbody]
        exact hreply
      exact Or.inr (Database.lookupSession_found (DbServer.handle_sessionLookup hlookup)).2
    · cases hl

theorem step_lookups (s : Backend F) (e : Event F) :
    ∀ l ∈ (s.step deployment e).lookups, l ∈ s.lookups ∨
      ∃ a ∈ s.database.accounts, l.session.permissionLevel = Database.levelOf a := by
  have heffect := step_effect deployment s e
  generalize s.step deployment e = s' at heffect ⊢
  cases heffect with
  | authHandled now o _ _ => exact serve_lookups deployment s _ _ now o
  | worldHandled now o _ _ => exact serve_lookups deployment s _ _ now o
  | authStale k now o _ => exact serve_lookups deployment s _ _ now o
  | worldStale k now o _ => exact serve_lookups deployment s _ _ now o
  | _ => exact fun _ hl => Or.inl hl

/-- Without an administrator nobody is authorised, and so there is none after the step. -/
theorem NoAdmin.step {database : Database} (h : NoAdmin database s) (e : Event F) :
    NoAdmin database (s.step deployment e) := by
  have hnobody : ∀ request, ¬ Authorised s .auth request .admin := by
    rintro request ⟨session, ⟨token, hlookup, -⟩, hlevel⟩
    exact UInt8.not_lt.mpr hlevel (h.lookups _ hlookup)
  have hstep : Unprivileged s.database (s.step deployment e).database := by
    by_contra hchange
    obtain ⟨r, -, hauthorised⟩ := h.tracked.changes deployment hchange
    exact hnobody _ hauthorised
  refine ⟨h.tracked.step deployment e, ?_, ?_, h.unprivileged.trans hstep⟩
  · intro a ha
    cases hstep.added a ha with
    | inl hold => exact h.accounts a hold
    | inr hzero =>
        rw [Database.levelOf, hzero]
        decide
  · intro l hl
    rcases step_lookups deployment s e l hl with hold | ⟨a, ha, hlevel⟩
    · exact h.lookups l hold
    · rw [hlevel]
      exact h.accounts a ha

theorem noAdmin_run {database : Database}
    (hnone : ∀ a ∈ database.accounts, Database.levelOf a < PermissionLevel.admin.toU8)
    (now : ClockReading F) (events : List (Event F)) :
    NoAdmin database (run deployment database now events) :=
  Lib.Runs.run_preserves (fun s e (hs : NoAdmin database s) => hs.step deployment e)
    ⟨tracked_init deployment database now, hnone, fun _ hl => absurd hl (List.not_mem_nil),
      Unprivileged.refl database⟩ events

/-- In every run of both servers and the database, and for its next event: accounts are deleted,
change level or are created above level zero only for a message that carried an administrator's
token; the clock, its speed and the latency change only for a message that carried a game master's
token, if the event is not a tick, which only advances the time of day; and a database without an
administrator never comes by a privileged change. -/
theorem privilege_safety (database : Database) (now : ClockReading F) (events : List (Event F))
    (e : Event F) :
    let s := run deployment database now events
    let s' := s.step deployment e
    (¬ Unprivileged s.database s'.database →
        ∃ r, handled s e = some (.auth, r) ∧ Authorised s .auth r.origin .admin) ∧
      (s'.world.dials ≠ s.world.dials →
        (∃ clocks, e = .world (.tick clocks)) ∧ s'.world.dials.2 = s.world.dials.2 ∨
          ∃ request, concluded s e = some request ∧ Authorised s .world request .gameMaster) ∧
      ((∀ a ∈ database.accounts, Database.levelOf a < PermissionLevel.admin.toU8) →
        Unprivileged database s.database) := by
  intro s s'
  have htracked : Tracked s := tracked_run deployment database now events
  refine ⟨?_, ?_, ?_⟩
  · intro hchange
    exact htracked.changes deployment hchange
  · intro hchange
    exact htracked.turns deployment hchange
  · intro hnone
    exact (noAdmin_run deployment hnone now events).unprivileged

end Safety

section Runs

/-- An administrator with a session, and a player. -/
def staffed : Database where
  accounts := [⟨1, [114], [], 2⟩, ⟨2, [98], [], 0⟩]
  sessions := [⟨[7], 1, 100⟩]
  nextAccountId := 3

/-- The administrator asks for the player's account to be deleted. -/
def deletion : List (Event ℚ) :=
  [.auth .accept,
    .auth (.message 1 ⟨AuthMessage.adminAccountDeleteRequest.toU16,
      ByteWriter.string [7] ++ ByteWriter.string [98]⟩ ⟨[], none⟩),
    .handle .auth 0 ⟨true, true⟩, .authReply ⟨[], none⟩]

/-- The administrator asks for a latency of 100 ms. -/
def slowing : List (Event ℚ) :=
  [.world .accept,
    .world (.message 1 ⟨WorldMessage.adminSetLatencyRequest.toU16,
      ByteWriter.string [7] ++ ByteWriter.u32 100⟩), .handle .world 0 ⟨true, true⟩]

theorem privilege_safety_admin :
    (∃ r, handled (run .level staffed Clocks.noon.clock deletion)
          (.handle .auth 0 ⟨true, true⟩) = some (.auth, r) ∧
        Authorised (run .level staffed Clocks.noon.clock deletion) .auth r.origin .admin) ∧
      (∃ request, concluded (run .level staffed Clocks.noon.clock slowing) (.worldReply .noon) =
          some request ∧
        Authorised (run .level staffed Clocks.noon.clock slowing) .world request .gameMaster) ∧
      Unprivileged ⟨[⟨2, [98], [], 1⟩], [⟨[7], 2, 100⟩], 3⟩
        (run .level ⟨[⟨2, [98], [], 1⟩], [⟨[7], 2, 100⟩], 3⟩ Clocks.noon.clock deletion).database := by
  refine ⟨?_, ?_, ?_⟩
  · apply (privilege_safety .level staffed Clocks.noon.clock deletion
      (.handle .auth 0 ⟨true, true⟩)).1
    intro h
    have hkept := h.kept ⟨2, [98], [], 0⟩ (by decide +kernel)
    revert hkept
    decide +kernel
  · have hchange := (privilege_safety .level staffed Clocks.noon.clock slowing (.worldReply .noon)).2.1
      (by decide +kernel)
    rcases hchange with ⟨⟨clocks, htick⟩, -⟩ | hauthorised
    · cases htick
    · exact hauthorised
  · exact (privilege_safety .level _ Clocks.noon.clock deletion (.purge 0 true)).2.2
      (by decide +kernel)

end Runs

end UntitledGame.Server.Privilege
