import UntitledGame.Server.Database

/-!
# The RPC link to the database server

`serverutil::DbClient` on one side and the message handler of the database server
on the other. A call writes a request and registers a callback under its id; the
reply with that id invokes the callback once. The link keeps the order of
requests and of replies.

A callback is a value of a type `H` that names the closure and what it captured.
Requests and replies are the messages that the two codecs exchange. Request ids
are numbers that do not wrap: two requests get the same 32-bit id only when 2^32
of them wait for a reply.

## Implementation notes

`origin` is not part of a request: it is the number of the client message whose
handling issued it, for statements about what a message causes.
-/

namespace UntitledGame.Server

open Net (Bytes DbResult)
open Std (ExtTreeMap)

inductive DbRequest where
  | accountLookup (username : Bytes)
  | adminExists
  | accountSetLevel (username : Bytes) (level : UInt8)
  | accountCreate (username passwordHash : Bytes)
  | accountCreateWithLevel (username passwordHash : Bytes) (level : UInt8)
  | accountDelete (username : Bytes)
  | sessionCreate (accountId : Nat) (token : Bytes) (ttlSeconds : UInt32)
  | sessionLookup (token : Bytes)
  | sessionDelete (token : Bytes)
  deriving DecidableEq, Repr

inductive DbReply where
  | accountLookup (found : Bool) (accountId : Nat) (passwordHash : Bytes) (level : UInt8)
  | adminExists (found : Bool)
  | accountSetLevel (result : DbResult)
  | accountCreate (result : DbResult) (accountId : Nat)
  | accountDelete (result : DbResult)
  | sessionCreate (result : DbResult)
  | sessionLookup (found : Bool) (session : Session)
  | sessionDelete (result : DbResult)
  deriving DecidableEq, Repr

/-- Whether the first and the second statement of a request run. -/
structure Outcome where
  first : Bool
  second : Bool
  deriving DecidableEq, Repr

namespace DbServer

/-- `!ok ? Error : !found ? NotFound : Ok`. -/
def foundResult : Option Bool → DbResult
  | none => .error
  | some false => .notFound
  | some true => .ok

/-- Both account creations: the level is set by a second statement, whose result is not
looked at, and only if it is not zero. -/
def createAccount (lower : Bytes → Bytes) (d : Database) (o : Outcome)
    (username passwordHash : Bytes) (level : UInt8) : Database × DbReply :=
  match d.createAccount lower username passwordHash o.first with
  | (d, none) => (d, .accountCreate .error 0)
  | (d, some none) => (d, .accountCreate .conflict 0)
  | (d, some (some accountId)) =>
      let d := if level ≠ 0 then (d.setPermissionLevel lower username level o.second).1 else d
      (d, .accountCreate .ok accountId)

/-- `onMessage` of the database server on a well-formed request. -/
def handle (lower : Bytes → Bytes) (d : Database) (now : ℚ) (o : Outcome) :
    DbRequest → Database × DbReply
  | .accountLookup username =>
      match d.findAccount lower username o.first with
      | some (some a) => (d, .accountLookup true a.id a.passwordHash (Database.levelOf a))
      | _ => (d, .accountLookup false 0 [] 0)
  | .adminExists => (d, .adminExists (d.hasAdmin o.first = some true))
  | .accountSetLevel username level =>
      let r := d.setPermissionLevel lower username level o.first
      (r.1, .accountSetLevel (foundResult r.2))
  | .accountCreate username passwordHash => createAccount lower d o username passwordHash 0
  | .accountCreateWithLevel username passwordHash level =>
      createAccount lower d o username passwordHash level
  | .accountDelete username =>
      let r := d.deleteAccount lower username o.first
      (r.1, .accountDelete (foundResult r.2))
  | .sessionCreate accountId token ttlSeconds =>
      let r := d.createSession accountId token ttlSeconds now o.first
      (r.1, .sessionCreate (if r.2 && Database.touchLastLogin o.second then .ok else .error))
  | .sessionLookup token =>
      match d.lookupSession token now o.first with
      | some (some s) => (d, .sessionLookup true s)
      | _ => (d, .sessionLookup false ⟨0, [], 0⟩)
  | .sessionDelete token =>
      let r := d.deleteSession token o.first
      (r.1, .sessionDelete (if r.2 then .ok else .error))

/-- A lookup that reports a session found one. -/
theorem handle_sessionLookup {lower : Bytes → Bytes} {d : Database} {now : ℚ} {o : Outcome}
    {token : Bytes} {session : Session}
    (h : (handle lower d now o (.sessionLookup token)).2 = .sessionLookup true session) :
    d.lookupSession token now o.first = some (some session) := by
  rw [handle] at h
  split at h
  · rename_i found hfound
    cases h
    exact hfound
  · cases h

end DbServer

/-- What the callback of `lookupSession` is given; `none` stands for `ok = false`, which is also
what a reply of another kind gives. -/
def sessionLookupResult : Option DbReply → Option (Bool × Session)
  | some (.sessionLookup found session) => some (found, session)
  | _ => none

/-- The account that the callback of `lookupAccount` is given, and whether it was found. -/
def accountLookupResult : Option DbReply → Option (Bool × Nat × Bytes × UInt8)
  | some (.accountLookup found accountId passwordHash level) =>
      some (found, accountId, passwordHash, level)
  | _ => none

def accountCreateResult : Option DbReply → Option DbResult
  | some (.accountCreate result _) => some result
  | _ => none

def accountDeleteResult : Option DbReply → Option DbResult
  | some (.accountDelete result) => some result
  | _ => none

def accountSetLevelResult : Option DbReply → Option DbResult
  | some (.accountSetLevel result) => some result
  | _ => none

def sessionCreateResult : Option DbReply → Option DbResult
  | some (.sessionCreate result) => some result
  | _ => none

theorem sessionLookupResult_eq_some {reply : Option DbReply} {found : Bool} {session : Session} :
    sessionLookupResult reply = some (found, session) ↔
      reply = some (.sessionLookup found session) := by
  constructor
  · intro h
    rw [sessionLookupResult.eq_def] at h
    split at h
    · cases h
      rfl
    · cases h
  · rintro rfl
    rfl

theorem accountLookupResult_eq_some {reply : Option DbReply} {found : Bool} {accountId : Nat}
    {passwordHash : Bytes} {level : UInt8} :
    accountLookupResult reply = some (found, accountId, passwordHash, level) ↔
      reply = some (.accountLookup found accountId passwordHash level) := by
  constructor
  · intro h
    rw [accountLookupResult.eq_def] at h
    split at h
    · cases h
      rfl
    · cases h
  · rintro rfl
    rfl

theorem sessionCreateResult_eq_some {reply : Option DbReply} {result : DbResult} :
    sessionCreateResult reply = some result ↔ reply = some (.sessionCreate result) := by
  constructor
  · intro h
    rw [sessionCreateResult.eq_def] at h
    split at h
    · cases h
      rfl
    · cases h
  · rintro rfl
    rfl

/-- A request on the link. -/
structure Request where
  id : Nat
  origin : Nat
  body : DbRequest
  deriving DecidableEq, Repr

/-- The client's side of the link; `requests` is what it has written and the server has not
handled yet. -/
structure DbClient (H : Type*) where
  mPending : ExtTreeMap Nat H
  mNextRequestId : Nat
  requests : List Request

namespace DbClient

variable {H : Type*}

def connected : DbClient H := ⟨∅, 1, []⟩

/-- Every RPC method on a connected client. -/
def call (c : DbClient H) (origin : Nat) (body : DbRequest) (handler : H) : DbClient H where
  mPending := c.mPending.insertIfNew c.mNextRequestId handler
  mNextRequestId := c.mNextRequestId + 1
  requests := c.requests ++ [⟨c.mNextRequestId, origin, body⟩]

/-- The handler that a reply is for, which is registered no longer. -/
def answer (c : DbClient H) (requestId : Nat) : Option (H × DbClient H) :=
  match c.mPending[requestId]? with
  | none => none
  | some handler => some (handler, { c with mPending := c.mPending.erase requestId })

/-- The callbacks that `failAllPending` invokes, in the order of their ids. -/
def pendingHandlers (c : DbClient H) : List H := c.mPending.toList.map (·.2)

/-- The client after the link has dropped and is up again. -/
def reconnected (c : DbClient H) : DbClient H := { c with mPending := ∅, requests := [] }

/-- Ids are handed out in order, so a registered one is an old one. -/
def Ordered (c : DbClient H) : Prop := ∀ id ∈ c.mPending, id < c.mNextRequestId

theorem Ordered.call {c : DbClient H} (h : c.Ordered) (origin : Nat) (body : DbRequest)
    (handler : H) : (c.call origin body handler).Ordered := by
  intro id hid
  simp only [DbClient.call, ExtTreeMap.mem_insertIfNew, Nat.compare_eq_eq] at hid ⊢
  rcases hid with rfl | hid
  · exact Nat.lt_succ_self _
  · exact Nat.lt_succ_of_lt (h id hid)

/-- A call registers its handler and leaves the others alone. -/
theorem Ordered.call_pending {c : DbClient H} (h : c.Ordered) (origin : Nat) (body : DbRequest)
    (handler : H) (id : Nat) :
    (c.call origin body handler).mPending[id]? =
      if id = c.mNextRequestId then some handler else c.mPending[id]? := by
  have hfresh : c.mNextRequestId ∉ c.mPending := fun hmem => Nat.lt_irrefl _ (h _ hmem)
  simp only [DbClient.call, ExtTreeMap.getElem?_insertIfNew, Nat.compare_eq_eq]
  by_cases hid : id = c.mNextRequestId
  · rw [if_pos ⟨hid.symm, hfresh⟩, if_pos hid]
  · rw [if_neg (fun hc => hid hc.1.symm), if_neg hid]

/-- An answer takes out the handler that it returns and no other. -/
theorem answer_eq_some {c c' : DbClient H} {requestId : Nat} {handler : H}
    (h : c.answer requestId = some (handler, c')) :
    c.mPending[requestId]? = some handler ∧
      c' = { c with mPending := c.mPending.erase requestId } := by
  cases hp : c.mPending[requestId]? with
  | none => simp [answer, hp] at h
  | some found =>
      simp only [answer, hp, Option.some.injEq, Prod.mk.injEq] at h
      exact ⟨by rw [h.1], h.2.symm⟩

theorem Ordered.answer {c c' : DbClient H} (h : c.Ordered) {requestId : Nat} {handler : H}
    (ha : c.answer requestId = some (handler, c')) : c'.Ordered := by
  obtain ⟨-, rfl⟩ := answer_eq_some ha
  intro id hid
  exact h id (ExtTreeMap.mem_of_mem_erase hid)

theorem ordered_connected : (connected : DbClient H).Ordered := by
  intro id hid
  exact absurd hid ExtTreeMap.not_mem_empty

theorem ordered_reconnected (c : DbClient H) : c.reconnected.Ordered := by
  intro id hid
  exact absurd hid ExtTreeMap.not_mem_empty

/-- Requests on their way and replies on their way back, each against the callback that waits for
it: `asks` holds of a request and its callback, `tells` of a reply and its callback. -/
structure Paired (asks : Request → H → Prop) (tells : DbReply → H → Prop) (c : DbClient H)
    (replies : List (Nat × DbReply)) : Prop where
  ordered : c.Ordered
  oldRequest : ∀ r ∈ c.requests, r.id < c.mNextRequestId
  oldReply : ∀ a ∈ replies, a.1 < c.mNextRequestId
  asked : ∀ r ∈ c.requests, ∀ h, c.mPending[r.id]? = some h → asks r h
  told : ∀ a ∈ replies, ∀ h, c.mPending[a.1]? = some h → tells a.2 h

namespace Paired

variable {asks asks' : Request → H → Prop} {tells tells' : DbReply → H → Prop} {c : DbClient H}
  {replies : List (Nat × DbReply)}

theorem mono (h : Paired asks tells c replies) (hasks : ∀ r k, asks r k → asks' r k)
    (htells : ∀ a k, tells a k → tells' a k) : Paired asks' tells' c replies where
  ordered := h.ordered
  oldRequest := h.oldRequest
  oldReply := h.oldReply
  asked r hr k hk := hasks r k (h.asked r hr k hk)
  told a ha k hk := htells a.2 k (h.told a ha k hk)

/-- A new link. -/
theorem nil (h : c.Ordered) (hrequests : c.requests = []) : Paired asks tells c [] where
  ordered := h
  oldRequest r hr := by simp [hrequests] at hr
  oldReply a ha := by simp at ha
  asked r hr := by simp [hrequests] at hr
  told a ha := by simp at ha

/-- A call, with a callback that fits. -/
theorem call (h : Paired asks tells c replies) {origin : Nat} {body : DbRequest} {handler : H}
    (hasks : asks ⟨c.mNextRequestId, origin, body⟩ handler) :
    Paired asks tells (c.call origin body handler) replies where
  ordered := h.ordered.call origin body handler
  oldRequest r hr := by
    cases List.mem_append.mp hr with
    | inl hr => exact Nat.lt_succ_of_lt (h.oldRequest r hr)
    | inr hr =>
        obtain rfl := List.mem_singleton.mp hr
        exact Nat.lt_succ_self _
  oldReply a ha := Nat.lt_succ_of_lt (h.oldReply a ha)
  asked r hr k hk := by
    rw [h.ordered.call_pending] at hk
    cases List.mem_append.mp hr with
    | inl hr =>
        rw [if_neg (Nat.ne_of_lt (h.oldRequest r hr))] at hk
        exact h.asked r hr k hk
    | inr hr =>
        obtain rfl := List.mem_singleton.mp hr
        rw [if_pos rfl] at hk
        obtain rfl := Option.some.inj hk
        exact hasks
  told a ha k hk := by
    rw [h.ordered.call_pending, if_neg (Nat.ne_of_lt (h.oldReply a ha))] at hk
    exact h.told a ha k hk

/-- The next reply is taken. -/
theorem tail {a : Nat × DbReply} (h : Paired asks tells c (a :: replies)) :
    Paired asks tells c replies where
  ordered := h.ordered
  oldRequest := h.oldRequest
  oldReply b hb := h.oldReply b (List.mem_cons_of_mem a hb)
  asked := h.asked
  told b hb := h.told b (List.mem_cons_of_mem a hb)

/-- A callback is taken out. -/
theorem answer (h : Paired asks tells c replies) {requestId : Nat} {handler : H} {c' : DbClient H}
    (hanswer : c.answer requestId = some (handler, c')) : Paired asks tells c' replies := by
  obtain ⟨-, rfl⟩ := answer_eq_some hanswer
  have hpending : ∀ (id : Nat) (k : H), (c.mPending.erase requestId)[id]? = some k →
      c.mPending[id]? = some k := by
    intro id k hk
    rw [ExtTreeMap.getElem?_erase] at hk
    split at hk
    · cases hk
    · exact hk
  constructor
  · exact h.ordered.answer hanswer
  · exact h.oldRequest
  · exact h.oldReply
  · intro r hr k hk
    exact h.asked r hr k (hpending _ _ hk)
  · intro a ha k hk
    exact h.told a ha k (hpending _ _ hk)

/-- The reply that is next tells the callback that it is for what replies tell. -/
theorem tells_head {requestId : Nat} {reply : DbReply} {handler : H} {c' : DbClient H}
    (h : Paired asks tells c ((requestId, reply) :: replies))
    (hanswer : c.answer requestId = some (handler, c')) : tells reply handler :=
  h.told (requestId, reply) (by simp) handler (answer_eq_some hanswer).1

/-- The next request is handled. -/
theorem handle {r : Request} {rest : List Request} {reply : DbReply}
    (h : Paired asks tells c replies) (hrequests : c.requests = r :: rest)
    (hreply : ∀ k, c.mPending[r.id]? = some k → asks r k → tells reply k) :
    Paired asks tells { c with requests := rest } (replies ++ [(r.id, reply)]) where
  ordered := h.ordered
  oldRequest q hq := h.oldRequest q (by simp [hrequests, hq])
  oldReply a ha := by
    cases List.mem_append.mp ha with
    | inl ha => exact h.oldReply a ha
    | inr ha =>
        obtain rfl := List.mem_singleton.mp ha
        exact h.oldRequest r (by simp [hrequests])
  asked q hq := h.asked q (by simp [hrequests, hq])
  told a ha k hk := by
    cases List.mem_append.mp ha with
    | inl ha => exact h.told a ha k hk
    | inr ha =>
        obtain rfl := List.mem_singleton.mp ha
        exact hreply k hk (h.asked r (by simp [hrequests]) k hk)

end Paired

end DbClient

end UntitledGame.Server
