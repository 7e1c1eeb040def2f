import UntitledGame.Server.RpcClient

/-!
# The client of the database server, with ids that do not wrap

`DbLink` gives the two servers a client whose request ids are numbers. Here is that
client driven by the events of `RpcClient`: the calls, the drops, the replies, and
what the callbacks do in turn.

`ids_refine` says that the client with 32-bit ids does the same as long as fewer than
2^32 requests have been written: it invokes the same callbacks with the same replies
in the same order, and its connection carries what the link holds.

## Implementation notes

A handler is the number of its call and the request, as in `RpcClient`. The number of
a call is also the `origin` of its request.
-/

namespace UntitledGame.Server.RpcRefinement

open Net ByteReader
open Std (ExtTreeMap)

/-- `invoked` has the call whose callback was invoked, and what with. -/
structure Unbounded where
  db : DbClient (Nat × DbRequest)
  up : Bool
  calls : Nat
  invoked : List (Nat × Option Message)

namespace Unbounded

def init : Unbounded := ⟨.connected, false, 0, []⟩

def invoke (u : Unbounded) (handler : Nat × DbRequest) (reply : Option Message) : Unbounded :=
  { u with invoked := u.invoked ++ [(handler.1, reply)] }

/-- A call on a connection. -/
def issue (u : Unbounded) (body : DbRequest) : Unbounded :=
  { u with db := u.db.call u.calls body (u.calls, body), calls := u.calls + 1 }

/-- A call without a connection. -/
def refuse (u : Unbounded) (body : DbRequest) : Unbounded :=
  ({ u with calls := u.calls + 1 } : Unbounded).invoke (u.calls, body) none

/-- The link is new; the handlers are the old ones. -/
def connect (u : Unbounded) (up : Bool) : Unbounded :=
  if up then { u with db := { u.db with requests := [] }, up := true } else u

mutual

def act : RpcAction → Unbounded → Unbounded
  | .call body reaction, u => if u.up then u.issue body else perform reaction (u.refuse body)
  | .connect up, u => u.connect up

def perform : List RpcAction → Unbounded → Unbounded
  | [], u => u
  | action :: actions, u => perform actions (act action u)

end

/-- A reply, with the id in front of it. -/
def receive (u : Unbounded) (m : Message) (reaction : List RpcAction) : Unbounded :=
  let (requestId, r) := u32 (.start m.payload)
  if r.mFailed then u
  else
    match u.db.answer requestId.toNat with
    | none => u
    | some (handler, db) =>
        perform reaction (({ u with db := db } : Unbounded).invoke handler (some m))

/-- The callbacks that wait are invoked with nothing. -/
def failAll (reactions : Nat → List RpcAction) (handlers : List (Nat × DbRequest))
    (u : Unbounded) : Unbounded :=
  handlers.foldl (fun u handler => perform (reactions handler.1) (u.invoke handler none)) u

def poll (u : Unbounded) (pump : RpcClient.Pump) : Unbounded :=
  if u.up then
    match pump with
    | .failed reactions =>
        failAll reactions u.db.pendingHandlers { u with db := u.db.reconnected, up := false }
    | .read messages => messages.foldl (fun u m => u.receive m.1 m.2) u
  else u

def step (u : Unbounded) : RpcClient.Event → Unbounded
  | .act action => act action u
  | .poll pump => u.poll pump

def run (events : List RpcClient.Event) : Unbounded := Lib.Runs.run step init events

end Unbounded

/-- The message of a request of the link. -/
def written (r : Request) : Message := ⟨r.body.type.toU16, r.body.payload (UInt32.ofNat r.id)⟩

/-- The requests written on a connection. -/
def carried (c : RpcClient) (stream : Nat) : List Message :=
  (c.sent.filter fun entry => entry.1 = stream).map Prod.snd

/-- The 32-bit ids stand for the numbers that they are. -/
structure Refines (c : RpcClient) (u : Unbounded) : Prop where
  nextId : c.mNextRequestId = UInt32.ofNat (1 + c.issued)
  next : u.db.mNextRequestId = 1 + c.issued
  ordered : u.db.Ordered
  pending : ∀ k handler, u.db.mPending[k]? = some handler ↔
    ∃ id : UInt32, id.toNat = k ∧ c.mPending[id]? = some handler
  up : u.up = (c.mConnected && c.mStream.isSome)
  calls : u.calls = c.calls.length
  invoked : u.invoked = c.invoked.map fun i => (i.ticket, i.reply)
  streams : (∀ entry ∈ c.sent, entry.1 < c.streams) ∧ ∀ stream ∈ c.mStream, stream < c.streams
  wire : u.up = true → ∀ stream ∈ c.mStream, carried c stream = u.db.requests.map written

section Counters

mutual

theorem issued_act : ∀ (action : RpcAction) (c : RpcClient),
    c.issued ≤ (RpcClient.act action c).issued
  | .call body reaction, c => by
      rw [RpcClient.act]
      split
      · rw [RpcClient.issued_issue]
        exact Nat.le_succ _
      · have hreaction := issued_perform reaction (c.refuse body)
        rw [RpcClient.issued_refuse] at hreaction
        exact hreaction
  | .connect up, c => by
      rw [RpcClient.act, RpcClient.issued_connect]

theorem issued_perform : ∀ (actions : List RpcAction) (c : RpcClient),
    c.issued ≤ (RpcClient.perform actions c).issued
  | [], _ => Nat.le_refl _
  | action :: actions, c =>
      (issued_act action c).trans (issued_perform actions (RpcClient.act action c))

end

theorem issued_receive (c : RpcClient) (m : Message) (reaction : List RpcAction) :
    c.issued ≤ (c.receive m reaction).issued := by
  rcases hread : u32 (.start m.payload) with ⟨id, r⟩
  simp only [RpcClient.receive, hread]
  split
  · exact Nat.le_refl _
  · split
    · exact Nat.le_refl _
    · refine Nat.le_trans ?_ (issued_perform reaction _)
      exact Nat.le_refl c.issued

/-- Ids are only ever used up. -/
theorem issued_foldl {α : Type*} {f : RpcClient → α → RpcClient}
    (hf : ∀ c a, c.issued ≤ (f c a).issued) (l : List α) (c : RpcClient) :
    c.issued ≤ (l.foldl f c).issued := by
  induction l generalizing c with
  | nil => exact Nat.le_refl _
  | cons a l ih => exact (hf c a).trans (ih (f c a))

theorem issued_step (c : RpcClient) (e : RpcClient.Event) :
    c.issued ≤ (RpcClient.step c e).issued := by
  cases e with
  | act action => exact issued_act action c
  | poll pump =>
      rw [RpcClient.step, RpcClient.poll]
      split
      · rename_i stream _ _
        cases pump with
        | failed reactions =>
            have hfail := issued_foldl (fun (b : RpcClient) (entry : UInt32 × Nat × DbRequest) =>
              issued_perform (reactions entry.2.1) (b.invoke entry.2 none))
            exact hfail c.mPending.toList (c.noticed stream)
        | read messages => exact issued_foldl (fun b m => issued_receive b m.1 m.2) messages c
      · exact Nat.le_refl _

end Counters

section Steps

variable {c : RpcClient} {u : Unbounded}

theorem Refines.getElem?_pending (h : Refines c u) (id : UInt32) :
    u.db.mPending[id.toNat]? = c.mPending[id]? := by
  apply Option.ext
  intro handler
  rw [h.pending]
  constructor
  · rintro ⟨id', hid, hhandler⟩
    rw [← UInt32.toNat_inj.mp hid]
    exact hhandler
  · exact fun hhandler => ⟨id, rfl, hhandler⟩

/-- The handlers wait in the same order. -/
theorem Refines.handlers (h : Refines c u) : u.db.pendingHandlers = c.handlers := by
  have hlist : u.db.mPending.toList = c.mPending.toList.map fun e => (e.1.toNat, e.2) := by
    apply Lib.TreeMaps.toList_rekey UInt32.toNat
    · intro a b hlt
      exact Nat.compare_eq_lt.mpr (UInt32.lt_iff_toNat_lt.mp (Std.compare_eq_lt.mp hlt))
    · exact h.pending
  rw [DbClient.pendingHandlers, hlist, RpcClient.handlers, List.map_map]
  rfl

theorem Refines.invoke (h : Refines c u) (handler : Nat × DbRequest) (reply : Option Message) :
    Refines (c.invoke handler reply) (u.invoke handler reply) where
  nextId := h.nextId
  next := h.next
  ordered := h.ordered
  pending := h.pending
  up := h.up
  calls := h.calls
  invoked := by
    rw [Unbounded.invoke, RpcClient.invoke, h.invoked, List.map_append]
    rfl
  streams := h.streams
  wire := h.wire

theorem Refines.refuse (h : Refines c u) (body : DbRequest) :
    Refines (c.refuse body) (u.refuse body) := by
  have hissued : ({ c with calls := c.calls ++ [⟨body, none⟩] } : RpcClient).issued = c.issued :=
    RpcClient.issued_refuse c body
  rw [RpcClient.refuse, Unbounded.refuse, h.calls]
  apply Refines.invoke
  constructor
  · rw [hissued]
    exact h.nextId
  · rw [hissued]
    exact h.next
  · exact h.ordered
  · exact h.pending
  · exact h.up
  · rw [List.length_append]
    rfl
  · exact h.invoked
  · exact h.streams
  · exact h.wire

theorem carried_append (c : RpcClient) (stream stream' : Nat) (m : Message) :
    carried { c with sent := c.sent ++ [(stream', m)] } stream =
      carried c stream ++ if stream' = stream then [m] else [] := by
  rw [carried, carried, List.filter_append, List.map_append]
  congr 1
  by_cases hsame : stream' = stream
  · simp [hsame]
  · simp [hsame]

theorem Refines.issue (h : Refines c u) (body : DbRequest) {stream : Nat}
    (hstream : c.mStream = some stream) (hbound : c.issued + 1 < 2 ^ 32) :
    Refines (c.issue body stream) (u.issue body) := by
  have hid : c.mNextRequestId.toNat = u.db.mNextRequestId := by
    rw [h.nextId, h.next, UInt32.toNat_ofNat_of_lt' (by simp only [UInt32.size]; omega)]
  have hfresh : c.mNextRequestId ∉ c.mPending := by
    intro hmem
    have hold := h.ordered c.mNextRequestId.toNat
    rw [ExtTreeMap.mem_iff_isSome_getElem?, h.getElem?_pending,
      ← ExtTreeMap.mem_iff_isSome_getElem?] at hold
    exact absurd (hold hmem) (by rw [hid]; exact Nat.lt_irrefl _)
  have hlookup : ∀ id : UInt32, (c.issue body stream).mPending[id]? =
      if id = c.mNextRequestId then some (c.calls.length, body) else c.mPending[id]? := by
    intro id
    simp only [RpcClient.issue, ExtTreeMap.getElem?_insertIfNew, Std.compare_eq_iff_eq]
    by_cases hsame : id = c.mNextRequestId
    · rw [if_pos ⟨hsame.symm, hfresh⟩, if_pos hsame]
    · rw [if_neg fun hc => hsame hc.1.symm, if_neg hsame]
  constructor
  · rw [RpcClient.issued_issue, RpcClient.issue, h.nextId]
    exact (UInt32.ofNat_add (1 + c.issued) 1).symm
  · rw [RpcClient.issued_issue, Unbounded.issue, DbClient.call, h.next]
    rfl
  · exact h.ordered.call _ _ _
  · intro k handler
    rw [Unbounded.issue, h.ordered.call_pending, h.calls]
    constructor
    · intro hhandler
      split at hhandler
      · rename_i hk
        refine ⟨c.mNextRequestId, hid.trans hk.symm, ?_⟩
        rw [hlookup, if_pos rfl]
        exact hhandler
      · rename_i hk
        obtain ⟨id, hidk, hold⟩ := (h.pending k handler).mp hhandler
        refine ⟨id, hidk, ?_⟩
        rw [hlookup, if_neg]
        · exact hold
        · rintro rfl
          exact hk (hidk.symm.trans hid)
    · rintro ⟨id, rfl, hhandler⟩
      rw [hlookup] at hhandler
      by_cases hsame : id = c.mNextRequestId
      · rw [if_pos hsame] at hhandler
        rw [if_pos (by rw [hsame, hid])]
        exact hhandler
      · rw [if_neg hsame] at hhandler
        rw [if_neg, h.getElem?_pending]
        · exact hhandler
        · intro hk
          exact hsame (UInt32.toNat_inj.mp (hk.trans hid.symm))
  · exact h.up
  · rw [Unbounded.issue, RpcClient.issue, h.calls, List.length_append]
    rfl
  · exact h.invoked
  · refine ⟨?_, h.streams.2⟩
    intro entry hentry
    cases List.mem_append.mp hentry with
    | inl hold => exact h.streams.1 entry hold
    | inr hnew =>
        obtain rfl := List.mem_singleton.mp hnew
        exact h.streams.2 stream hstream
  · intro hup stream' hstream'
    obtain rfl : stream' = stream := Option.some.inj (hstream'.symm.trans hstream)
    have hcarried : carried (c.issue body stream') stream' =
        carried c stream' ++ [⟨body.type.toU16, body.payload c.mNextRequestId⟩] := by
      have happend := carried_append c stream' stream'
        ⟨body.type.toU16, body.payload c.mNextRequestId⟩
      rw [if_pos rfl] at happend
      exact happend
    rw [hcarried, h.wire hup stream' hstream', Unbounded.issue, DbClient.call, List.map_append]
    have hmessage : written ⟨u.db.mNextRequestId, u.calls, body⟩ =
        ⟨body.type.toU16, body.payload c.mNextRequestId⟩ := by
      rw [written, h.next, ← h.nextId]
    rw [List.map_singleton, hmessage]

theorem Refines.connect (h : Refines c u) (up : Bool) : Refines (c.connect up) (u.connect up) := by
  cases up with
  | false => exact h
  | true =>
      refine ⟨h.nextId, h.next, h.ordered, h.pending, rfl, h.calls, h.invoked, ?_, ?_⟩
      · constructor
        · intro entry hentry
          exact Nat.lt_succ_of_lt (h.streams.1 entry hentry)
        · intro stream hstream
          obtain rfl := Option.some.inj hstream
          exact Nat.lt_succ_self _
      · intro _ stream hstream
        obtain rfl := Option.some.inj hstream
        have hnone : c.sent.filter (fun entry => entry.1 = c.streams) = [] := by
          apply List.filter_eq_nil_iff.mpr
          intro entry hentry
          simpa using (h.streams.1 entry hentry).ne
        exact congrArg (List.map Prod.snd) hnone

theorem Refines.up_iff (h : Refines c u) :
    u.up = true ↔ c.mConnected = true ∧ ∃ stream, c.mStream = some stream := by
  rw [h.up, Bool.and_eq_true, Option.isSome_iff_exists]

mutual

theorem Refines.act : ∀ (action : RpcAction) {c : RpcClient} {u : Unbounded}, Refines c u →
    (RpcClient.act action c).issued < 2 ^ 32 →
      Refines (RpcClient.act action c) (Unbounded.act action u)
  | .call body reaction, c, u, h, hbound => by
      rw [RpcClient.act] at hbound ⊢
      rw [Unbounded.act]
      split at hbound
      · rename_i stream hconnected hstream
        rw [if_pos (h.up_iff.mpr ⟨hconnected, stream, hstream⟩)]
        rw [RpcClient.issued_issue] at hbound
        exact h.issue body hstream hbound
      · rename_i hnot
        have hdown : ¬ u.up = true := by
          rw [h.up_iff]
          rintro ⟨hconnected, stream, hstream⟩
          exact hnot stream hconnected hstream
        rw [if_neg hdown]
        exact Refines.perform reaction (h.refuse body) hbound
  | .connect up, c, u, h, _ => by
      rw [RpcClient.act, Unbounded.act]
      exact h.connect up

theorem Refines.perform : ∀ (actions : List RpcAction) {c : RpcClient} {u : Unbounded},
    Refines c u → (RpcClient.perform actions c).issued < 2 ^ 32 →
      Refines (RpcClient.perform actions c) (Unbounded.perform actions u)
  | [], _, _, h, _ => h
  | action :: actions, c, _, h, hbound =>
      have hfirst := Refines.act action h
        (Nat.lt_of_le_of_lt (issued_perform actions (RpcClient.act action c)) hbound)
      Refines.perform actions hfirst hbound

end

/-- A handler leaves both tables. -/
theorem Refines.take (h : Refines c u) {id : UInt32} {handler : Nat × DbRequest}
    (hhandler : c.mPending[id]? = some handler) :
    ∃ db, u.db.answer id.toNat = some (handler, db) ∧
      ∀ processed, Refines { c with processed := processed, mPending := c.mPending.erase id }
        { u with db := db } := by
  have hfound : u.db.mPending[id.toNat]? = some handler := by rw [h.getElem?_pending, hhandler]
  have hanswer : u.db.answer id.toNat =
      some (handler, { u.db with mPending := u.db.mPending.erase id.toNat }) := by
    rw [DbClient.answer, hfound]
  refine ⟨_, hanswer, fun processed => ?_⟩
  refine ⟨h.nextId, h.next, h.ordered.answer hanswer, ?_, h.up, h.calls, h.invoked, h.streams,
    h.wire⟩
  intro k other
  simp only [ExtTreeMap.getElem?_erase, Std.compare_eq_iff_eq]
  by_cases hk : id.toNat = k
  · rw [if_pos hk]
    refine iff_of_false (Option.some_ne_none other).symm ?_
    rintro ⟨id', hid', hother⟩
    rw [if_pos (UInt32.toNat_inj.mp (hk.trans hid'.symm))] at hother
    cases hother
  · rw [if_neg hk, h.pending]
    constructor
    · rintro ⟨id', hid', hother⟩
      refine ⟨id', hid', ?_⟩
      rw [if_neg]
      · exact hother
      · rintro rfl
        exact hk hid'
    · rintro ⟨id', hid', hother⟩
      refine ⟨id', hid', ?_⟩
      split at hother
      · cases hother
      · exact hother

theorem Refines.receive (h : Refines c u) (m : Message) (reaction : List RpcAction)
    (hbound : (c.receive m reaction).issued < 2 ^ 32) :
    Refines (c.receive m reaction) (u.receive m reaction) := by
  rcases hread : u32 (.start m.payload) with ⟨id, r⟩
  simp only [RpcClient.receive, Unbounded.receive, hread] at hbound ⊢
  split at hbound
  · rename_i hfailed
    rw [if_pos hfailed, if_pos hfailed]
    exact h
  · rename_i hfailed
    rw [if_neg hfailed, if_neg hfailed]
    cases hpending : c.mPending[id]? with
    | none =>
        have hanswer : u.db.answer id.toNat = none := by
          rw [DbClient.answer, h.getElem?_pending, hpending]
        rw [hanswer]
        exact ⟨h.nextId, h.next, h.ordered, h.pending, h.up, h.calls, h.invoked, h.streams, h.wire⟩
    | some handler =>
        rw [hpending] at hbound
        obtain ⟨db, hanswer, htaken⟩ := h.take hpending
        rw [hanswer]
        exact Refines.perform reaction ((htaken _).invoke handler (some m)) hbound

/-- The drop of the connection: both sides fail the same callbacks in the same order. -/
theorem Refines.lose (h : Refines c u) (stream : Nat) (reactions : Nat → List RpcAction)
    (hbound : (({ c with
      mConnected := false
      dropped := c.dropped ++ [(stream, c.calls.length)] } : RpcClient).failAllPending
        reactions).issued < 2 ^ 32) :
    Refines (({ c with
      mConnected := false
      dropped := c.dropped ++ [(stream, c.calls.length)] } : RpcClient).failAllPending reactions)
      (Unbounded.failAll reactions u.db.pendingHandlers
        { u with db := u.db.reconnected, up := false }) := by
  have hnoticed : Refines (c.noticed stream) { u with db := u.db.reconnected, up := false } := by
    refine ⟨h.nextId, h.next, DbClient.ordered_reconnected u.db, ?_, rfl, h.calls, h.invoked,
      h.streams, fun hup => ?_⟩
    · intro k handler
      constructor
      · intro hhandler
        rw [DbClient.reconnected, ExtTreeMap.getElem?_empty] at hhandler
        cases hhandler
      · rintro ⟨id, -, hhandler⟩
        rw [RpcClient.noticed, ExtTreeMap.getElem?_empty] at hhandler
        cases hhandler
    · cases hup
  have hfold : ∀ (entries : List (UInt32 × Nat × DbRequest)) {c : RpcClient} {u : Unbounded},
      Refines c u →
      (entries.foldl (fun c entry =>
        RpcClient.perform (reactions entry.2.1) (c.invoke entry.2 none)) c).issued < 2 ^ 32 →
      Refines (entries.foldl (fun c entry =>
          RpcClient.perform (reactions entry.2.1) (c.invoke entry.2 none)) c)
        (Unbounded.failAll reactions (entries.map Prod.snd) u) := by
    intro entries
    induction entries with
    | nil => exact fun h _ => h
    | cons entry entries ih =>
        intro c u h hbound
        have hmore := issued_foldl (fun (b : RpcClient) (entry : UInt32 × Nat × DbRequest) =>
          issued_perform (reactions entry.2.1) (b.invoke entry.2 none)) entries
        have hfirst := Refines.perform (reactions entry.2.1) (h.invoke entry.2 none)
          (Nat.lt_of_le_of_lt (hmore _) hbound)
        exact ih hfirst hbound
  rw [h.handlers]
  exact hfold c.mPending.toList hnoticed hbound

theorem Refines.step (h : Refines c u) (e : RpcClient.Event)
    (hbound : (RpcClient.step c e).issued < 2 ^ 32) :
    Refines (RpcClient.step c e) (u.step e) := by
  cases e with
  | act action => exact Refines.act action h hbound
  | poll pump =>
      rw [RpcClient.step, RpcClient.poll] at hbound ⊢
      rw [Unbounded.step, Unbounded.poll.eq_def]
      split at hbound
      · rename_i stream hconnected hstream
        rw [if_pos (h.up_iff.mpr ⟨hconnected, stream, hstream⟩)]
        cases pump with
        | failed reactions => exact h.lose stream reactions hbound
        | read messages =>
            simp only at hbound ⊢
            clear hconnected hstream
            induction messages generalizing c u with
            | nil => exact h
            | cons m messages ih =>
                have hmore := issued_foldl
                  (fun (b : RpcClient) (m : Message × List RpcAction) => issued_receive b m.1 m.2)
                  messages (c.receive m.1 m.2)
                exact ih (h.receive m.1 m.2 (Nat.lt_of_le_of_lt hmore hbound)) hbound
      · rename_i hnot
        have hdown : ¬ u.up = true := by
          rw [h.up_iff]
          rintro ⟨hconnected, stream, hstream⟩
          exact hnot stream hconnected hstream
        rw [if_neg hdown]
        exact h

end Steps

theorem refines_init : Refines .init .init where
  nextId := rfl
  next := rfl
  ordered := DbClient.ordered_connected
  pending k handler := by
    constructor
    · intro hhandler
      rw [Unbounded.init, DbClient.connected, ExtTreeMap.getElem?_empty] at hhandler
      cases hhandler
    · rintro ⟨id, -, hhandler⟩
      rw [RpcClient.init, ExtTreeMap.getElem?_empty] at hhandler
      cases hhandler
  up := rfl
  calls := rfl
  invoked := rfl
  streams := by
    constructor
    · intro entry hentry
      cases hentry
    · intro stream hstream
      cases hstream
  wire hup := by cases hup

/-- As long as fewer than 2^32 requests have been written, the client with 32-bit ids does what
the one with ids that do not wrap does: the same callbacks in the same order with the same
replies, the same handlers waiting, and the same requests on the connection. -/
theorem ids_refine (events : List RpcClient.Event)
    (hbound : (Lib.Runs.run RpcClient.step .init events).issued < 2 ^ 32) :
    Refines (Lib.Runs.run RpcClient.step .init events) (Unbounded.run events) := by
  induction events using List.reverseRecOn with
  | nil => exact refines_init
  | append_singleton events e ih =>
      rw [Unbounded.run, Lib.Runs.run_concat, Lib.Runs.run_concat] at *
      exact (ih (Nat.lt_of_le_of_lt (issued_step _ e) hbound)).step e hbound

/-- A reply that comes twice, and a drop, after which a callback calls again. -/
theorem ids_refine_retried :
    (Unbounded.run RpcClient.retried).invoked =
      [(1, some ⟨2, ByteWriter.u32 2⟩), (0, none), (2, none)] := by
  have hrefines := ids_refine RpcClient.retried (by decide +kernel)
  rw [hrefines.invoked]
  decide +kernel

end UntitledGame.Server.RpcRefinement
