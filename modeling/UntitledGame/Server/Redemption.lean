import UntitledGame.Server.Provenance
import UntitledGame.Server.Backend
import UntitledGame.Server.DbServer

/-!
# A session token is redeemed once

A join looks its token up with one request and deletes it with another, and the
result of the second is not looked at. Between the two the same token can be
looked up again.

`redeemed_once` is the law as far as it holds: in every run in which no token is
looked up for two joins at a time, every deletion succeeds and reaches the
database, and no redeemed token is issued again, no two players are created with
the same token.

## Implementation notes

Tokens reach the database as C strings, so two tokens are the same session if they
agree up to the first zero byte. The invariant is about the four things that the
argument needs: the world server's side of the link, the replies on it, the
database, and the tokens redeemed so far.
-/

namespace UntitledGame.Server.Redemption

open Net Sim Backend
open Database (cString)
open Std (ExtTreeMap)

/-- The session that a callback is about to redeem. -/
def redeems : Handler → Option Bytes
  | .join _ _ token => some (cString token)
  | _ => none

/-- The session that a request deletes. -/
def deletes : DbRequest → Option Bytes
  | .sessionDelete token => some (cString token)
  | _ => none

/-- The session that a request creates. -/
def creates : DbRequest → Option Bytes
  | .sessionCreate _ token _ => some (cString token)
  | _ => none

/-- The sessions in the database. -/
def rows (d : Database) : List Bytes := d.sessions.map (·.token)

section Waiting

variable {c c' : DbClient Handler}

/-- The session that the callback waiting under this id is about to redeem. -/
def waiting (c : DbClient Handler) (id : Nat) : Option Bytes := (c.mPending[id]?).bind redeems

theorem waiting_call (h : c.Ordered) (origin : Nat) (body : DbRequest) (handler : Handler)
    (id : Nat) :
    waiting (c.call origin body handler) id =
      if id = c.mNextRequestId then redeems handler else waiting c id := by
  rw [waiting, h.call_pending]
  split
  · rfl
  · rfl

theorem waiting_answer {requestId : Nat} {handler : Handler}
    (h : c.answer requestId = some (handler, c')) (id : Nat) :
    waiting c' id = if id = requestId then none else waiting c id := by
  obtain ⟨-, rfl⟩ := DbClient.answer_eq_some h
  simp only [waiting, ExtTreeMap.getElem?_erase, Nat.compare_eq_eq]
  by_cases hid : id = requestId
  · rw [if_pos hid.symm, if_pos hid]
    rfl
  · rw [if_neg (Ne.symm hid), if_neg hid]

theorem waiting_of_answer {requestId : Nat} {handler : Handler}
    (h : c.answer requestId = some (handler, c')) : waiting c requestId = redeems handler := by
  rw [waiting, (DbClient.answer_eq_some h).1]
  rfl

/-- An answer leaves the requests alone. -/
theorem requests_answer {requestId : Nat} {handler : Handler}
    (h : c.answer requestId = some (handler, c')) :
    c'.requests = c.requests ∧ c'.mNextRequestId = c.mNextRequestId := by
  obtain ⟨-, rfl⟩ := DbClient.answer_eq_some h
  exact ⟨rfl, rfl⟩

end Waiting

/-- A callback that redeems a session waits for the lookup of it. -/
def LooksUp (r : Request) (handler : Handler) : Prop :=
  ∀ t, redeems handler = some t → ∃ token, r.body = .sessionLookup token ∧ cString token = t

/-- The session is gone from the database, or its deletion is on the way, ahead of every lookup of
it for a join. -/
def Spent (c : DbClient Handler) (d : Database) (t : Bytes) : Prop :=
  t ∉ rows d ∨ ∃ pre r post, c.requests = pre ++ r :: post ∧ deletes r.body = some t ∧
    ∀ q ∈ pre, waiting c q.id ≠ some t

/-- Every session was redeemed once, and cannot be redeemed again. -/
structure Inv (c : DbClient Handler) (replies : List (Nat × DbReply)) (d : Database)
    (redeemed : List Bytes) : Prop where
  nodup : redeemed.Nodup
  paired : DbClient.Paired LooksUp (fun _ _ => True) c replies
  single : ∀ id id' t, waiting c id = some t → waiting c id' = some t → id = id'
  fresh : ∀ a ∈ replies, ∀ t session, waiting c a.1 = some t →
    a.2 = .sessionLookup true session → t ∉ redeemed
  spent : ∀ t ∈ redeemed, Spent c d t

namespace Inv

variable {c c' : DbClient Handler} {replies : List (Nat × DbReply)} {d d' : Database}
  {redeemed : List Bytes}

/-- The database changes, and brings no redeemed session back. -/
theorem database (h : Inv c replies d redeemed)
    (hrows : ∀ t ∈ redeemed, t ∈ rows d' → t ∈ rows d) : Inv c replies d' redeemed where
  nodup := h.nodup
  paired := h.paired
  single := h.single
  fresh := h.fresh
  spent t ht := by
    cases h.spent t ht with
    | inl hgone => exact Or.inl fun hrow => hgone (hrows t ht hrow)
    | inr hdeletion => exact Or.inr hdeletion

theorem tail {a : Nat × DbReply} (h : Inv c (a :: replies) d redeemed) : Inv c replies d redeemed where
  nodup := h.nodup
  paired := h.paired.tail
  single := h.single
  fresh b hb := h.fresh b (List.mem_cons_of_mem a hb)
  spent := h.spent

/-- A request whose callback redeems nothing that another one is about to redeem. -/
theorem call (h : Inv c replies d redeemed) {origin : Nat} {body : DbRequest} {handler : Handler}
    (hlooks : LooksUp ⟨c.mNextRequestId, origin, body⟩ handler)
    (halone : ∀ id t, redeems handler = some t → waiting c id ≠ some t) :
    Inv (c.call origin body handler) replies d redeemed where
  nodup := h.nodup
  paired := h.paired.call hlooks
  single id id' t hid hid' := by
    rw [waiting_call h.paired.ordered] at hid hid'
    split at hid
    · rename_i heq
      split at hid'
      · rename_i heq'
        rw [heq, heq']
      · exact absurd hid' (halone id' t hid)
    · split at hid'
      · exact absurd hid (halone id t hid')
      · exact h.single id id' t hid hid'
  fresh a ha t session hwaiting := by
    rw [waiting_call h.paired.ordered, if_neg (Nat.ne_of_lt (h.paired.oldReply a ha))] at hwaiting
    exact h.fresh a ha t session hwaiting
  spent t ht := by
    rcases h.spent t ht with hgone | ⟨pre, r, post, hrequests, hdeletes, hahead⟩
    · exact Or.inl hgone
    · refine Or.inr ⟨pre, r, post ++ [⟨c.mNextRequestId, origin, body⟩], ?_, hdeletes, ?_⟩
      · rw [DbClient.call, hrequests, List.append_assoc, List.cons_append]
      · intro q hq
        have hold := h.paired.oldRequest q (by simp [hrequests, hq])
        rw [waiting_call h.paired.ordered, if_neg (Nat.ne_of_lt hold)]
        exact hahead q hq

/-- A callback is taken out. -/
theorem answer (h : Inv c replies d redeemed) {requestId : Nat} {handler : Handler}
    (hanswer : c.answer requestId = some (handler, c')) : Inv c' replies d redeemed := by
  have hwaiting : ∀ id t, waiting c' id = some t → waiting c id = some t := by
    intro id t hid
    rw [waiting_answer hanswer] at hid
    split at hid
    · cases hid
    · exact hid
  refine ⟨h.nodup, h.paired.answer hanswer, ?_, ?_, ?_⟩
  · intro id id' t hid hid'
    exact h.single id id' t (hwaiting id t hid) (hwaiting id' t hid')
  · intro a ha t session ht
    exact h.fresh a ha t session (hwaiting a.1 t ht)
  · intro t ht
    rcases h.spent t ht with hgone | ⟨pre, r, post, hrequests, hdeletes, hahead⟩
    · exact Or.inl hgone
    · refine Or.inr ⟨pre, r, post, ?_, hdeletes, ?_⟩
      · rw [(requests_answer hanswer).1, hrequests]
      · intro q hq hq'
        exact hahead q hq (hwaiting q.id t hq')

/-- A session is redeemed, and its deletion goes out. -/
theorem redeem (h : Inv c replies d redeemed) {t : Bytes} (hnew : t ∉ redeemed)
    (hlast : ∀ id, waiting c id ≠ some t) {origin : Nat} {body : DbRequest} {handler : Handler}
    (hdeletes : deletes body = some t) (hhandler : redeems handler = none) :
    Inv (c.call origin body handler) replies d (redeemed ++ [t]) := by
  have hcall : Inv (c.call origin body handler) replies d redeemed := by
    apply h.call
    · intro u hu
      rw [hhandler] at hu
      cases hu
    · intro id u hu
      rw [hhandler] at hu
      cases hu
  have hlast' : ∀ id, waiting (c.call origin body handler) id ≠ some t := by
    intro id
    rw [waiting_call h.paired.ordered]
    split
    · rw [hhandler]
      exact (Option.some_ne_none t).symm
    · exact hlast id
  refine ⟨?_, hcall.paired, hcall.single, ?_, ?_⟩
  · rw [List.nodup_append]
    refine ⟨h.nodup, by simp, ?_⟩
    intro u hu v hv
    obtain rfl := List.mem_singleton.mp hv
    rintro rfl
    exact hnew hu
  · intro a ha u session hu hfound hmem
    cases List.mem_append.mp hmem with
    | inl hmem => exact hcall.fresh a ha u session hu hfound hmem
    | inr hmem =>
        obtain rfl := List.mem_singleton.mp hmem
        exact hlast' a.1 hu
  · intro u hu
    cases List.mem_append.mp hu with
    | inl hu => exact hcall.spent u hu
    | inr hu =>
        obtain rfl := List.mem_singleton.mp hu
        exact Or.inr ⟨c.requests, _, [], rfl, hdeletes, fun q _ => hlast' q.id⟩

/-- The database handles the next request: a redeemed session does not come back, a deletion takes
its session out, and a lookup finds only what is there. -/
theorem handle (h : Inv c replies d redeemed) {r : Request} {rest : List Request} {reply : DbReply}
    (hrequests : c.requests = r :: rest) (hrows : ∀ t ∈ redeemed, t ∈ rows d' → t ∈ rows d)
    (hdelete : ∀ t, deletes r.body = some t → t ∉ rows d')
    (hfound : ∀ token session, r.body = .sessionLookup token → reply = .sessionLookup true session →
      cString token ∈ rows d) :
    Inv { c with requests := rest } (replies ++ [(r.id, reply)]) d' redeemed where
  nodup := h.nodup
  paired := h.paired.handle hrequests fun _ _ _ => trivial
  single := h.single
  fresh a ha t session hwaiting hreply ht := by
    cases List.mem_append.mp ha with
    | inl ha => exact h.fresh a ha t session hwaiting hreply ht
    | inr ha =>
        obtain rfl := List.mem_singleton.mp ha
        obtain ⟨handler, hpending, hredeems⟩ := Option.bind_eq_some_iff.mp hwaiting
        obtain ⟨token, hbody, rfl⟩ :=
          h.paired.asked r (by simp [hrequests]) handler hpending t hredeems
        rcases h.spent _ ht with hgone | ⟨pre, q, post, hsplit, hdeletes, hahead⟩
        · exact hgone (hfound token session hbody hreply)
        · rw [hrequests] at hsplit
          cases pre with
          | nil =>
              obtain ⟨rfl, -⟩ := List.cons.inj hsplit
              rw [hbody] at hdeletes
              cases hdeletes
          | cons first pre =>
              obtain ⟨rfl, -⟩ := List.cons.inj hsplit
              exact hahead r (by simp) hwaiting
  spent t ht := by
    rcases h.spent t ht with hgone | ⟨pre, q, post, hsplit, hdeletes, hahead⟩
    · exact Or.inl fun hrow => hgone (hrows t ht hrow)
    · rw [hrequests] at hsplit
      cases pre with
      | nil =>
          obtain ⟨rfl, -⟩ := List.cons.inj hsplit
          exact Or.inl (hdelete t hdeletes)
      | cons first pre =>
          obtain ⟨-, hrest⟩ := List.cons.inj hsplit
          exact Or.inr ⟨pre, q, post, hrest, hdeletes, fun p hp => hahead p (by simp [hp])⟩

/-- The link drops with no deletion on it. -/
theorem lost (h : Inv c replies d redeemed) (hnone : ∀ r ∈ c.requests, deletes r.body = none) :
    Inv c.reconnected [] d redeemed where
  nodup := h.nodup
  paired := .nil (DbClient.ordered_reconnected c) rfl
  single id id' t hid := by simp [waiting, DbClient.reconnected] at hid
  fresh a ha := by simp at ha
  spent t ht := by
    rcases h.spent t ht with hgone | ⟨pre, r, post, hrequests, hdeletes, -⟩
    · exact Or.inl hgone
    · rw [hnone r (by simp [hrequests])] at hdeletes
      cases hdeletes

end Inv

section Rows

variable (lower : Bytes → Bytes) (d : Database)

theorem rows_createAccount (o : Outcome) (username passwordHash : Bytes) (level : UInt8) :
    rows (DbServer.createAccount lower d o username passwordHash level).1 = rows d := by
  rw [DbServer.createAccount_eq]
  split
  · rfl
  · split <;> rfl

/-- A session that is there after a request was there before, or the request created it. -/
theorem rows_handle (now : ℚ) (o : Outcome) (body : DbRequest) {t : Bytes}
    (h : t ∈ rows (DbServer.handle lower d now o body).1) : t ∈ rows d ∨ creates body = some t := by
  have hsub : ∀ (p : SessionRow → Bool), t ∈ (d.sessions.filter p).map (·.token) → t ∈ rows d := by
    intro p hp
    obtain ⟨row, hrow, rfl⟩ := List.mem_map.mp hp
    exact List.mem_map.mpr ⟨row, (List.mem_filter.mp hrow).1, rfl⟩
  cases body with
  | accountLookup username =>
      rw [DbServer.handle] at h
      split at h <;> exact Or.inl h
  | adminExists => exact Or.inl h
  | accountSetLevel username level =>
      simp only [DbServer.handle, Database.setPermissionLevel] at h
      split at h <;> exact Or.inl h
  | accountCreate username passwordHash =>
      rw [DbServer.handle, rows_createAccount] at h
      exact Or.inl h
  | accountCreateWithLevel username passwordHash level =>
      rw [DbServer.handle, rows_createAccount] at h
      exact Or.inl h
  | accountDelete username =>
      simp only [DbServer.handle, Database.deleteAccount] at h
      split at h
      · exact Or.inl h
      · exact Or.inl (hsub _ h)
  | sessionCreate accountId token ttlSeconds =>
      simp only [DbServer.handle, Database.createSession] at h
      split at h
      · exact Or.inl h
      · simp only [rows, List.map_append, List.mem_append, List.map_cons, List.map_nil,
          List.mem_singleton] at h
        rcases h with h | rfl
        · exact Or.inl h
        · exact Or.inr rfl
  | sessionLookup token =>
      rw [DbServer.handle] at h
      split at h <;> exact Or.inl h
  | sessionDelete token =>
      simp only [DbServer.handle, Database.deleteSession] at h
      split at h
      · exact Or.inl h
      · exact Or.inl (hsub _ h)

/-- A deletion that runs takes its session out. -/
theorem rows_deleted (now : ℚ) {o : Outcome} (hruns : o.first = true) {body : DbRequest} {t : Bytes}
    (hdeletes : deletes body = some t) : t ∉ rows (DbServer.handle lower d now o body).1 := by
  cases body with
  | sessionDelete token =>
      obtain rfl := Option.some.inj hdeletes
      intro hrow
      simp only [DbServer.handle, Database.deleteSession, hruns, Bool.not_true, Bool.false_eq_true,
        if_false] at hrow
      obtain ⟨row, hrow, heq⟩ := List.mem_map.mp hrow
      exact of_decide_eq_true (List.mem_filter.mp hrow).2 heq
  | _ => cases hdeletes

/-- A lookup finds what is there. -/
theorem rows_found {now : ℚ} {o : Outcome} {token : Bytes} {session : Session}
    (h : (DbServer.handle lower d now o (.sessionLookup token)).2 = .sessionLookup true session) :
    cString token ∈ rows d := by
  obtain ⟨⟨row, hrow, htoken⟩, -⟩ :=
    Database.lookupSession_found (DbServer.handle_sessionLookup h)
  exact List.mem_map.mpr ⟨row, hrow, htoken⟩

theorem rows_purge (now : ℚ) (runs : Bool) {t : Bytes}
    (h : t ∈ rows (d.purgeExpiredSessions now runs)) : t ∈ rows d := by
  rw [Database.purgeExpiredSessions] at h
  split at h
  · exact h
  · obtain ⟨row, hrow, rfl⟩ := List.mem_map.mp h
    exact List.mem_map.mpr ⟨row, (List.mem_filter.mp hrow).1, rfl⟩

end Rows

section Runs

variable {F : Type*}

/-- The token of a join request that gets as far as the lookup. -/
def asksToJoin (s : Backend F) : Event F → Option Bytes
  | .world (.message id m) =>
      if id ∈ s.world.server.mConnections ∧ WorldMessage.ofU16 m.type = some .joinRequest then
        let (version, token, failed) := (WorldServer.readJoinRequest (.start m.payload)).1
        if failed = false ∧ version = kProtocolVersion ∧ id ∉ s.world.playersByConnection then
          some token
        else none
      else none
  | _ => none

/-- Whether the first statement of the request that is handled runs. -/
def runs : Event F → Bool
  | .handle _ _ o => o.first
  | .handleStale _ _ _ o => o.first
  | _ => true

def losesLink : Event F → Bool
  | .worldLost _ => true
  | _ => false

/-- The tokens that players were created with, as the database sees them. -/
def redeemed (s : Backend F) : List Bytes := s.world.joins.map cString

/-- What the world server does not see to: no session is looked up for two joins at a time,
deletions succeed, none is lost with the link, and no redeemed session is created again. -/
structure Orderly (s : Backend F) (e : Event F) : Prop where
  alone : ∀ token ∈ asksToJoin s e, ∀ handler ∈ s.world.dbClient.pendingHandlers,
    redeems handler ≠ some (cString token)
  deleted : ∀ x ∈ handled s e, deletes x.2.body ≠ none → runs e = true
  kept : losesLink e = true → ∀ r ∈ s.world.dbClient.requests, deletes r.body = none
  unissued : ∀ x ∈ handled s e, ∀ t ∈ creates x.2.body, t ∉ redeemed s

instance (s : Backend F) (e : Event F) : Decidable (Orderly s e) :=
  decidable_of_iff
    ((∀ token ∈ asksToJoin s e, ∀ handler ∈ s.world.dbClient.pendingHandlers,
        redeems handler ≠ some (cString token)) ∧
      (∀ x ∈ handled s e, deletes x.2.body ≠ none → runs e = true) ∧
      (losesLink e = true → ∀ r ∈ s.world.dbClient.requests, deletes r.body = none) ∧
      ∀ x ∈ handled s e, ∀ t ∈ creates x.2.body, t ∉ redeemed s)
    ⟨fun h => ⟨h.1, h.2.1, h.2.2.1, h.2.2.2⟩, fun h => ⟨h.alone, h.deleted, h.kept, h.unissued⟩⟩

/-- The invariant of the whole system. -/
def Once (s : Backend F) : Prop :=
  Inv s.world.dbClient s.worldReplies s.database (redeemed s)

variable [Scalar F] (deployment : Deployment F) {s : Backend F}

theorem once_init (database : Database) (now : ClockReading F) :
    Once (init deployment database now) where
  nodup := List.nodup_nil
  paired := .nil DbClient.ordered_connected rfl
  single id id' t hid := by
    simp [waiting, init, WorldServer.init, DbClient.connected] at hid
  fresh a ha := absurd ha List.not_mem_nil
  spent t ht := absurd ht List.not_mem_nil

omit [Scalar F] in
/-- Handling a request, on whichever link, brings no redeemed session back. -/
theorem rows_of_handled {e : Event F} (he : Orderly s e) {side : Side} {r : Request}
    (hhandled : handled s e = some (side, r)) (now : ℚ) (o : Outcome) :
    ∀ t ∈ redeemed s, t ∈ rows (DbServer.handle deployment.lower s.database now o r.body).1 →
      t ∈ rows s.database := by
  intro t ht hrow
  cases rows_handle deployment.lower s.database now o r.body hrow with
  | inl hold => exact hold
  | inr hcreated => exact absurd ht (he.unissued _ hhandled t hcreated)

/-- Work of the world server that does not come over the link. -/
theorem Once.worldLocal (h : Once s) {e : WorldServer.Event F} (he : Orderly s (.world e))
    (hlocal : e.isLocal = true) : Once { s with world := s.world.step deployment.world e } := by
  have heffect := WorldServer.step_effect deployment.world (w := s.world) e
  generalize s.world.step deployment.world e = w' at heffect ⊢
  cases heffect with
  | quiet hclient harrivals hjoins =>
      simp only [Once, redeemed, hclient, hjoins]
      exact h
  | @asked id m token handler _ hlive hasks hledger =>
      obtain ⟨hclient, -, hjoins⟩ := WorldServer.ledger_eq.mp hledger
      simp only [Once, redeemed, hclient, hjoins]
      apply Inv.call h
      · intro t ht
        cases hasks with
        | join htype hread hfree => exact ⟨token, rfl, Option.some.inj ht⟩
        | setLatency milliseconds htype hread => cases ht
        | command command timeCommand value hcommand htype hread => cases ht
      · intro requestId t ht hwaiting
        cases hasks with
        | join htype hread hfree =>
            obtain rfl := Option.some.inj ht
            obtain ⟨other, hpending, hredeems⟩ := Option.bind_eq_some_iff.mp hwaiting
            have hasked : asksToJoin s (.world (.message id m)) = some token := by
              simp [asksToJoin, hlive, htype, hread, hfree]
            refine he.alone token hasked other ?_ hredeems
            exact List.mem_map.mpr
              ⟨(requestId, other), ExtTreeMap.mem_toList_iff_getElem?_eq_some.mpr hpending, rfl⟩
        | setLatency milliseconds htype hread => cases ht
        | command command timeCommand value hcommand htype hread => cases ht
  | answered hanswer hledger => cases hlocal
  | redeemed hanswer hledger => cases hlocal
  | lost hledger => cases hlocal

/-- A reply reaches the world server. A join that it lets through is the only one waiting for its
session. -/
theorem Once.worldReply (h : Once s) {requestId : Nat} {reply : DbReply}
    {rest : List (Nat × DbReply)} (hreplies : s.worldReplies = (requestId, reply) :: rest)
    (now : Clocks F) :
    Once { s with
      world := s.world.step deployment.world (.reply requestId reply now)
      worldReplies := rest } := by
  have heffect :=
    WorldServer.step_effect deployment.world (w := s.world) (.reply requestId reply now)
  generalize s.world.step deployment.world (.reply requestId reply now) = w' at heffect ⊢
  have hinv : Inv s.world.dbClient ((requestId, reply) :: rest) s.database (redeemed s) :=
    hreplies ▸ h
  cases heffect with
  | quiet hclient harrivals hjoins =>
      simp only [Once, redeemed, hclient, hjoins]
      exact hinv.tail
  | answered hanswer hledger =>
      obtain ⟨hclient, -, hjoins⟩ := WorldServer.ledger_eq.mp hledger
      simp only [Once, redeemed, hclient, hjoins]
      exact hinv.tail.answer hanswer
  | @redeemed _ session _ request id token dbClient _ hanswer hledger =>
      obtain ⟨hclient, -, hjoins⟩ := WorldServer.ledger_eq.mp hledger
      simp only [Once, redeemed, hclient, hjoins, List.map_append, List.map_cons, List.map_nil]
      have hwaiting : waiting s.world.dbClient requestId = some (cString token) :=
        waiting_of_answer hanswer
      apply (hinv.tail.answer hanswer).redeem
      · exact hinv.fresh (requestId, _) (by simp) _ session hwaiting rfl
      · intro other hother
        rw [waiting_answer hanswer] at hother
        split at hother
        · cases hother
        · rename_i hne
          exact hne (h.single other requestId _ hother hwaiting)
      · rfl
      · rfl

omit [Scalar F] in
/-- The database server handles the next request of the world server. A deletion takes its session
out, and a lookup finds what is there. -/
theorem Once.worldHandled (h : Once s) {now : ℚ} {o : Outcome} {r : Request} {rest : List Request}
    (he : Orderly s (.handle .world now o)) (hrequests : s.world.dbClient.requests = r :: rest)
    (hhandled : handled s (.handle .world now o) = some (.world, r)) :
    Once { (s.serve deployment .world r now o).1 with
      world := { s.world with dbClient := { s.world.dbClient with requests := rest } }
      worldReplies := s.worldReplies ++ [(r.id, (s.serve deployment .world r now o).2)] } := by
  apply Inv.handle h hrequests (rows_of_handled deployment he hhandled now o)
  · intro t ht
    have hruns : o.first = true := by
      apply he.deleted _ hhandled
      rw [ht]
      exact Option.some_ne_none t
    exact rows_deleted deployment.lower s.database now hruns ht
  · intro token session hbody hreply
    have hlookup : (DbServer.handle deployment.lower s.database now o
        (.sessionLookup token)).2 = .sessionLookup true session := by
      rw [← hbody]
      exact hreply
    exact rows_found deployment.lower s.database hlookup

/-- Both sides of the link are as before, but for the requests that the drop takes with it. -/
theorem Once.worldLost (h : Once s) {now : Clocks F} (he : Orderly s (.worldLost now)) :
    Once (s.step deployment (.worldLost now)) := by
  obtain ⟨hclient, -, hjoins⟩ :=
    WorldServer.ledger_eq.mp (WorldServer.onDbLost_ledger deployment.world s.world now)
  simp only [Once, redeemed, Backend.step, WorldServer.step, hclient, hjoins]
  exact Inv.lost h (he.kept rfl)

theorem Once.step (h : Once s) {e : Event F} (he : Orderly s e) : Once (s.step deployment e) := by
  have heffect := step_effect deployment s e
  generalize s.step deployment e = s' at heffect ⊢
  cases heffect with
  | idle => exact h
  | auth hlocal => exact h
  | world hlocal => exact h.worldLocal deployment he hlocal
  | authHandled now o _ hhandled =>
      exact Inv.database h (rows_of_handled deployment he hhandled now o)
  | worldHandled now o hrequests hhandled =>
      exact h.worldHandled deployment he hrequests hhandled
  | authStale k now o hhandled =>
      exact Inv.database h (rows_of_handled deployment he hhandled now o)
  | worldStale k now o hhandled =>
      exact Inv.database h (rows_of_handled deployment he hhandled now o)
  | authReply random hreplies => exact h
  | worldReply now hreplies => exact h.worldReply deployment hreplies now
  | authLost random => exact h
  | worldLost now => exact h.worldLost deployment he
  | purge now runs =>
      apply Inv.database h
      intro t _ hrow
      exact rows_purge s.database now runs hrow

/-- In every orderly run, no two players were created with the same session token. -/
theorem redeemed_once (database : Database) (now : ClockReading F) (events : List (Event F))
    (horderly : Lib.Runs.Along (step deployment) Orderly (init deployment database now) events) :
    (redeemed (run deployment database now events)).Nodup :=
  (Lib.Runs.run_invariant (fun s _ (hs : Once s) he => hs.step deployment he)
    (once_init deployment database now) horderly).nodup

end Runs

section Sessions

/-- One player, with a session. -/
def ticketed : Database where
  accounts := [⟨1, [97], [], 0⟩]
  sessions := [⟨[7], 1, 100⟩]
  nextAccountId := 2

/-- A request of the world server is handled, and every statement runs. -/
def served : Event ℚ := .handle .world 0 ⟨true, true⟩

/-- The second client asks for the token after the first has redeemed it. -/
def afterwards : List (Event ℚ) :=
  [.world .accept, .world .accept, .world (.message 1 (WorldServer.joinMessage [7])), served,
    .worldReply .noon, .world (.message 2 (WorldServer.joinMessage [7])), served, served,
    .worldReply .noon, .worldReply .noon]

theorem redeemed_once_afterwards :
    (redeemed (run .level ticketed Clocks.noon.clock afterwards)).Nodup ∧
      redeemed (run .level ticketed Clocks.noon.clock afterwards) = [[7]] :=
  ⟨redeemed_once .level ticketed Clocks.noon.clock afterwards (by decide +kernel), by decide +kernel⟩

/-- Both clients ask for the token before the first has redeemed it. -/
def race : List (Event ℚ) :=
  [.world .accept, .world .accept, .world (.message 1 (WorldServer.joinMessage [7])),
    .world (.message 2 (WorldServer.joinMessage [7])), served, served, .worldReply .noon,
    .worldReply .noon]

/-- The deletion fails. -/
def undeleted : List (Event ℚ) :=
  [.world .accept, .world .accept, .world (.message 1 (WorldServer.joinMessage [7])), served,
    .worldReply .noon, .handle .world 0 ⟨false, true⟩,
    .world (.message 2 (WorldServer.joinMessage [7])), served, .worldReply .noon, .worldReply .noon]

/-- Both runs create two players with one token. -/
theorem token_redeemed_twice :
    ¬ (redeemed (run .level ticketed Clocks.noon.clock race)).Nodup ∧
      ¬ (redeemed (run .level ticketed Clocks.noon.clock undeleted)).Nodup := by
  constructor
  · decide +kernel
  · decide +kernel

end Sessions

end UntitledGame.Server.Redemption
