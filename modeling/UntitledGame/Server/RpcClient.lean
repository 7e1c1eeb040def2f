import UntitledGame.Server.DbMessages
import UntitledGame.Net.Framing
import UntitledGame.Lib.Runs
import UntitledGame.Lib.TreeMaps

/-!
# `serverutil::DbClient`, byte for byte

The client of the database server with its 32-bit request ids, its table of
handlers and its connection, which may drop and come up again. A callback may call
the client: what it does is a list of actions that the environment chooses anew for
every invocation, and an action that invokes a callback on the spot says what that
one does.

`exactly_once` holds as long as fewer than 2^32 requests have been written. Its
invariant `Kept` is an account of the calls: each is invoked already, waits in the
table, or is in the hands of a loop that is about to invoke it.

## Implementation notes

The fields from `streams` on only record what happened. A call is known by its
number, and the numbers in `processed` and `dropped` say how many calls had been
made when a reply was read or a drop was noticed.
-/

namespace UntitledGame.Server

open Net ByteReader
open Std (ExtTreeMap)

/-- A call: its request id and its connection, unless there was none. -/
structure RpcCall where
  body : DbRequest
  issued : Option (UInt32 × Nat)
  deriving DecidableEq, Repr

/-- An invocation of a callback: the reply it is given, if any, what it is told, and how many calls
had been made by then. -/
structure Invocation where
  ticket : Nat
  reply : Option Message
  told : Callback
  made : Nat
  deriving DecidableEq, Repr

/-- What a callback does, or anybody else, with the client. -/
inductive RpcAction where
  | call (body : DbRequest) (reaction : List RpcAction)
  | connect (up : Bool)

structure RpcClient where
  mStream : Option Nat
  mConnected : Bool
  mPending : ExtTreeMap UInt32 (Nat × DbRequest)
  mNextRequestId : UInt32
  sent : List (Nat × Message)
  streams : Nat
  calls : List RpcCall
  invoked : List Invocation
  processed : List (UInt32 × Nat)
  dropped : List (Nat × Nat)

namespace RpcClient

def init : RpcClient := ⟨none, false, ∅, 1, [], 0, [], [], [], []⟩

/-- What the handler that a method registers makes of a reply, or of none. -/
def told (body : DbRequest) : Option Message → Callback
  | none => DbClient.callback body false 0 []
  | some m => DbClient.callback body true m.type m.payload

/-- A handler is invoked. -/
def invoke (c : RpcClient) (handler : Nat × DbRequest) (reply : Option Message) : RpcClient :=
  { c with
    invoked := c.invoked ++ [⟨handler.1, reply, told handler.2 reply, c.calls.length⟩] }

/-- A call without a connection. -/
def refuse (c : RpcClient) (body : DbRequest) : RpcClient :=
  ({ c with calls := c.calls ++ [⟨body, none⟩] } : RpcClient).invoke (c.calls.length, body) none

/-- A call on a connection: `nextRequestId`, `send` and `registerHandler`. -/
def issue (c : RpcClient) (body : DbRequest) (stream : Nat) : RpcClient :=
  let requestId := c.mNextRequestId
  { c with
    mNextRequestId := requestId + 1
    sent := c.sent ++ [(stream, ⟨body.type.toU16, body.payload requestId⟩)]
    mPending := c.mPending.insertIfNew requestId (c.calls.length, body)
    calls := c.calls ++ [⟨body, some (requestId, stream)⟩] }

/-- `connect`, and whether it succeeds. -/
def connect (c : RpcClient) (up : Bool) : RpcClient :=
  if up then { c with mStream := some c.streams, mConnected := true, streams := c.streams + 1 }
  else c

mutual

/-- One action. Without a connection the callback is invoked before the method returns. -/
def act : RpcAction → RpcClient → RpcClient
  | .call body reaction, c =>
      match c.mConnected, c.mStream with
      | true, some stream => c.issue body stream
      | _, _ => perform reaction (c.refuse body)
  | .connect up, c => c.connect up

def perform : List RpcAction → RpcClient → RpcClient
  | [], c => c
  | action :: actions, c => perform actions (act action c)

end

/-- One message of `poll`'s loop, and what the callback does that it invokes. -/
def receive (c : RpcClient) (m : Message) (reaction : List RpcAction) : RpcClient :=
  let (requestId, r) := u32 (.start m.payload)
  if r.mFailed then c
  else
    let c := { c with processed := c.processed ++ [(requestId, c.calls.length)] }
    match c.mPending[requestId]? with
    | none => c
    | some handler =>
        perform reaction
          (({ c with mPending := c.mPending.erase requestId } : RpcClient).invoke handler (some m))

/-- The table is moved away before the first callback is invoked. -/
def failAllPending (c : RpcClient) (reactions : Nat → List RpcAction) : RpcClient :=
  c.mPending.toList.foldl
    (fun c entry => perform (reactions entry.2.1) (c.invoke entry.2 none)) { c with mPending := ∅ }

/-- What `pump` finds, and what the callbacks do that are invoked because of it. -/
inductive Pump where
  | failed (reactions : Nat → List RpcAction)
  | read (messages : List (Message × List RpcAction))

def poll (c : RpcClient) (pump : Pump) : RpcClient :=
  match c.mConnected, c.mStream with
  | true, some stream =>
      match pump with
      | .failed reactions =>
          ({ c with
              mConnected := false
              dropped := c.dropped ++ [(stream, c.calls.length)] } : RpcClient).failAllPending
            reactions
      | .read messages => messages.foldl (fun c m => c.receive m.1 m.2) c
  | _, _ => c

inductive Event where
  | act (action : RpcAction)
  | poll (pump : Pump)

def step (c : RpcClient) : Event → RpcClient
  | .act action => act action c
  | .poll pump => c.poll pump

/-- The requests written so far. -/
def issued (c : RpcClient) : Nat := c.calls.countP (·.issued.isSome)

/-- How often the callback of a call has been invoked. -/
def invocations (c : RpcClient) (ticket : Nat) : Nat := c.invoked.countP (·.ticket = ticket)

/-- The handlers that wait. -/
def handlers (c : RpcClient) : List (Nat × DbRequest) := c.mPending.toList.map (·.2)

/-- The call with this number was written with this id, on this connection. -/
def Written (c : RpcClient) (t : Nat) (body : DbRequest) (id : UInt32) (stream : Nat) : Prop :=
  c.calls[t]? = some ⟨body, some (id, stream)⟩

/-- A callback has been invoked with nothing, or with a reply to its own request. -/
def Fitting (c : RpcClient) (i : Invocation) : Prop :=
  ∃ body issued, c.calls[i.ticket]? = some ⟨body, issued⟩ ∧ i.told = told body i.reply ∧
    ∀ m, i.reply = some m → (u32 (.start m.payload)).2.mFailed = false ∧
      ∃ stream, issued = some ((u32 (.start m.payload)).1, stream)

/-- The account of the calls; `hands` are handlers that have left the table and are about to be
invoked. -/
structure Kept (hands : List (Nat × DbRequest)) (c : RpcClient) : Prop where
  next : c.mNextRequestId = UInt32.ofNat (1 + c.issued)
  old : ∀ t body id stream, c.Written t body id stream → id.toNat ≤ c.issued
  distinct : ∀ t t' body body' id stream stream', c.Written t body id stream →
    c.Written t' body' id stream' → t = t'
  balance : ∀ t, c.invocations t + c.handlers.countP (·.1 = t) + hands.countP (·.1 = t) =
    if t < c.calls.length then 1 else 0
  pending : ∀ id t body, c.mPending[id]? = some (t, body) → ∃ stream, c.Written t body id stream
  inHand : ∀ handler ∈ hands, ∃ issued, c.calls[handler.1]? = some ⟨handler.2, issued⟩
  fitting : ∀ i ∈ c.invoked, c.Fitting i
  refused : ∀ t body, c.calls[t]? = some ⟨body, none⟩ →
    ∃ i ∈ c.invoked, i.ticket = t ∧ i.reply = none ∧ i.made = t + 1
  processed : ∀ id k, (id, k) ∈ c.processed → ∀ t < k, ∀ body stream, c.Written t body id stream →
    ∀ handler ∈ c.handlers, handler.1 ≠ t
  dropped : ∀ stream k, (stream, k) ∈ c.dropped → ∀ t < k, ∀ body id, c.Written t body id stream →
    ∀ handler ∈ c.handlers, handler.1 ≠ t
  past : (∀ entry ∈ c.processed, entry.2 ≤ c.calls.length) ∧
    ∀ entry ∈ c.dropped, entry.2 ≤ c.calls.length

/-- `Kept`, as long as the ids last. -/
def Sound (hands : List (Nat × DbRequest)) (c : RpcClient) : Prop := c.issued < 2 ^ 32 → Kept hands c

section Counts

variable (c : RpcClient)

@[simp] theorem issued_refuse (body : DbRequest) : (c.refuse body).issued = c.issued := by
  rw [issued, refuse, invoke, List.countP_append]
  rfl

@[simp] theorem issued_issue (body : DbRequest) (stream : Nat) :
    (c.issue body stream).issued = c.issued + 1 := by
  rw [issued, issue, List.countP_append]
  rfl

@[simp] theorem issued_connect (up : Bool) : (c.connect up).issued = c.issued := by
  rw [connect]
  split <;> rfl

theorem invocations_invoke (handler : Nat × DbRequest) (reply : Option Message) (t : Nat) :
    (c.invoke handler reply).invocations t = c.invocations t + if handler.1 = t then 1 else 0 := by
  simp [invocations, invoke, List.countP_append, List.countP_cons]

end Counts

section Steps

variable {hands : List (Nat × DbRequest)} {c : RpcClient}

theorem mem_handlers {handler : Nat × DbRequest} :
    handler ∈ c.handlers ↔ ∃ id : UInt32, c.mPending[id]? = some handler := by
  rw [handlers, List.mem_map]
  constructor
  · rintro ⟨⟨id, handler'⟩, hmem, rfl⟩
    exact ⟨id, ExtTreeMap.mem_toList_iff_getElem?_eq_some.mp hmem⟩
  · rintro ⟨id, hid⟩
    exact ⟨(id, handler), ExtTreeMap.mem_toList_iff_getElem?_eq_some.mpr hid, rfl⟩

/-- What was written stays written, and what is written after a call is known. -/
theorem written_concat {call : RpcCall} {c' : RpcClient} (hcalls : c'.calls = c.calls ++ [call])
    {t : Nat} {body : DbRequest} {id : UInt32} {stream : Nat} :
    c'.Written t body id stream ↔
      c.Written t body id stream ∨ (t = c.calls.length ∧ call = ⟨body, some (id, stream)⟩) := by
  rw [Written, hcalls]
  by_cases ht : t = c.calls.length
  · subst ht
    rw [List.getElem?_concat_length, Written, List.getElem?_eq_none (Nat.le_refl _)]
    simp
  · have hold : (c.calls ++ [call])[t]? = c.calls[t]? := by
      by_cases hlt : t < c.calls.length
      · exact List.getElem?_append_left hlt
      · rw [List.getElem?_eq_none (by simp; omega), List.getElem?_eq_none (by omega)]
    rw [hold, Written]
    simp [ht]

theorem lt_of_written {t : Nat} {body : DbRequest} {id : UInt32} {stream : Nat}
    (h : c.Written t body id stream) : t < c.calls.length := by
  exact (List.getElem?_eq_some_iff.mp h).1

/-- A call has one id. -/
theorem written_unique {t : Nat} {body body' : DbRequest} {id id' : UInt32} {stream stream' : Nat}
    (h : c.Written t body id stream) (h' : c.Written t body' id' stream') : id = id' := by
  rw [Written] at h h'
  rw [h] at h'
  cases h'
  rfl

/-- A call stays the call with its number. -/
theorem call_concat {t : Nat} {call : RpcCall} (h : c.calls[t]? = some call) (last : RpcCall) :
    (c.calls ++ [last])[t]? = some call := by
  rw [List.getElem?_append_left (List.getElem?_eq_some_iff.mp h).1, h]

theorem Fitting.concat {i : Invocation} (h : c.Fitting i) {c' : RpcClient} {last : RpcCall}
    (hcalls : c'.calls = c.calls ++ [last]) : c'.Fitting i := by
  obtain ⟨body, issued, hcall, htold, hreply⟩ := h
  refine ⟨body, issued, ?_, htold, hreply⟩
  rw [hcalls]
  exact call_concat hcall last

/-- What has been settled lies before a call that is made now. -/
theorem Kept.past_concat (h : Kept hands c) (last : RpcCall) :
    (∀ entry ∈ c.processed, entry.2 ≤ (c.calls ++ [last]).length) ∧
      ∀ entry ∈ c.dropped, entry.2 ≤ (c.calls ++ [last]).length := by
  rw [List.length_append]
  constructor
  · intro entry hentry
    exact Nat.le_add_right_of_le (h.past.1 entry hentry)
  · intro entry hentry
    exact Nat.le_add_right_of_le (h.past.2 entry hentry)

/-- The handlers in hand have their calls still. -/
theorem Kept.inHand_concat (h : Kept hands c) (last : RpcCall) :
    ∀ handler ∈ hands, ∃ issued, (c.calls ++ [last])[handler.1]? = some ⟨handler.2, issued⟩ := by
  intro handler hhandler
  obtain ⟨issued, hcall⟩ := h.inHand handler hhandler
  exact ⟨issued, call_concat hcall last⟩

/-- A call without a connection. -/
theorem Kept.refuse (h : Kept hands c) (body : DbRequest) : Kept hands (c.refuse body) := by
  have hcalls : (c.refuse body).calls = c.calls ++ [⟨body, none⟩] := rfl
  have hwritten : ∀ {t body' id stream}, (c.refuse body).Written t body' id stream →
      c.Written t body' id stream := by
    intro t body' id stream hnew
    cases (written_concat hcalls).mp hnew with
    | inl hold => exact hold
    | inr hlast => cases hlast.2
  refine ⟨?_, ?_, ?_, ?_, ?_, h.inHand_concat _, ?_, ?_, ?_, ?_, h.past_concat _⟩
  · rw [issued_refuse]
    exact h.next
  · intro t body' id stream hnew
    rw [issued_refuse]
    exact h.old t body' id stream (hwritten hnew)
  · intro t t' body body' id stream stream' hnew hnew'
    exact h.distinct t t' body body' id stream stream' (hwritten hnew) (hwritten hnew')
  · intro t
    have hbalance := h.balance t
    have hinvocations : (c.refuse body).invocations t =
        c.invocations t + if c.calls.length = t then 1 else 0 := invocations_invoke _ _ _ _
    have hhandlers : (c.refuse body).handlers = c.handlers := rfl
    rw [hinvocations, hhandlers, hcalls, List.length_append, List.length_singleton]
    split at hbalance <;> split <;> split <;> omega
  · intro id t body' hpending
    obtain ⟨stream, hold⟩ := h.pending id t body' hpending
    exact ⟨stream, (written_concat hcalls).mpr (Or.inl hold)⟩
  · intro i hi
    cases List.mem_append.mp hi with
    | inl hold => exact (h.fitting i hold).concat hcalls
    | inr hnew =>
        obtain rfl := List.mem_singleton.mp hnew
        refine ⟨body, none, List.getElem?_concat_length, rfl, ?_⟩
        intro m hm
        cases hm
  · intro t body' hcall
    by_cases hlt : t < c.calls.length
    · rw [hcalls, List.getElem?_append_left hlt] at hcall
      obtain ⟨i, hi, htold⟩ := h.refused t body' hcall
      exact ⟨i, List.mem_append_left _ hi, htold⟩
    · have hlast := (List.getElem?_eq_some_iff.mp hcall).1
      rw [hcalls, List.length_append, List.length_singleton] at hlast
      refine ⟨_, List.mem_append_right _ (List.mem_singleton_self _), ?_, rfl, ?_⟩
      · exact Nat.le_antisymm (Nat.not_lt.mp hlt) (Nat.le_of_lt_succ hlast)
      · rw [List.length_append, List.length_singleton]
        exact congrArg (· + 1) (Nat.le_antisymm (Nat.not_lt.mp hlt) (Nat.le_of_lt_succ hlast))
  · intro id k hmem t ht body' stream hnew
    exact h.processed id k hmem t ht body' stream (hwritten hnew)
  · intro stream k hmem t ht body' id hnew
    exact h.dropped stream k hmem t ht body' id (hwritten hnew)

/-- While there are ids left, the next one counts the ids that were issued. -/
theorem Kept.next_toNat (h : Kept hands c) (hbound : c.issued + 1 < 2 ^ 32) :
    c.mNextRequestId.toNat = c.issued + 1 := by
  rw [h.next, UInt32.toNat_ofNat_of_lt' (by simp only [UInt32.size]; omega), Nat.add_comm]

/-- No request was written with the next id, and no handler waits for it. -/
theorem Kept.not_written (h : Kept hands c) (hbound : c.issued + 1 < 2 ^ 32) {t : Nat}
    {body : DbRequest} {stream : Nat} : ¬ c.Written t body c.mNextRequestId stream := by
  intro hwritten
  have hold := h.old t body _ stream hwritten
  have hnext := h.next_toNat hbound
  omega

theorem Kept.not_pending (h : Kept hands c) (hbound : c.issued + 1 < 2 ^ 32) :
    c.mNextRequestId ∉ c.mPending := by
  intro hmem
  obtain ⟨handler, hhandler⟩ :=
    Option.isSome_iff_exists.mp (ExtTreeMap.mem_iff_isSome_getElem?.mp hmem)
  obtain ⟨stream, hwritten⟩ := h.pending _ _ _ hhandler
  exact h.not_written hbound hwritten

/-- A call on a connection, while there are ids left. -/
theorem Kept.issue (h : Kept hands c) (body : DbRequest) (stream : Nat)
    (hbound : c.issued + 1 < 2 ^ 32) : Kept hands (c.issue body stream) := by
  have hcalls : (c.issue body stream).calls =
      c.calls ++ [⟨body, some (c.mNextRequestId, stream)⟩] := rfl
  have hperm : (c.issue body stream).handlers.Perm ((c.calls.length, body) :: c.handlers) :=
    (Lib.TreeMaps.toList_insertIfNew c.mPending (h.not_pending hbound) (c.calls.length, body)).map
      Prod.snd
  -- The new handler is of a later call than those that are settled.
  have hsettled : ∀ {t k : Nat}, t < k → k ≤ c.calls.length →
      (∀ handler ∈ c.handlers, handler.1 ≠ t) →
      ∀ handler ∈ (c.issue body stream).handlers, handler.1 ≠ t := by
    intro t k ht hk hwaits handler hhandler
    cases List.mem_cons.mp (hperm.mem_iff.mp hhandler) with
    | inl heq =>
        subst heq
        exact (Nat.lt_of_lt_of_le ht hk).ne'
    | inr hold => exact hwaits handler hold
  have hearlier : ∀ {t k : Nat} {body' id stream'}, t < k → k ≤ c.calls.length →
      (c.issue body stream).Written t body' id stream' → c.Written t body' id stream' := by
    intro t k body' id stream' ht hk hwritten
    cases (written_concat hcalls).mp hwritten with
    | inl hold => exact hold
    | inr hlast => exact absurd hlast.1 (Nat.lt_of_lt_of_le ht hk).ne
  refine ⟨?_, ?_, ?_, ?_, ?_, h.inHand_concat _, ?_, ?_, ?_, ?_, h.past_concat _⟩
  · rw [issued_issue, RpcClient.issue, h.next]
    exact (UInt32.ofNat_add (1 + c.issued) 1).symm
  · intro t body' id stream' hwritten
    rw [issued_issue]
    cases (written_concat hcalls).mp hwritten with
    | inl hold => exact Nat.le_succ_of_le (h.old t body' id stream' hold)
    | inr hlast =>
        cases hlast.2
        exact Nat.le_of_eq (h.next_toNat hbound)
  · intro t t' body' body'' id stream' stream'' hwritten hwritten'
    cases (written_concat hcalls).mp hwritten with
    | inl hold =>
        cases (written_concat hcalls).mp hwritten' with
        | inl hold' => exact h.distinct t t' body' body'' id stream' stream'' hold hold'
        | inr hlast' =>
            cases hlast'.2
            exact absurd hold (h.not_written hbound)
    | inr hlast =>
        cases (written_concat hcalls).mp hwritten' with
        | inl hold' =>
            cases hlast.2
            exact absurd hold' (h.not_written hbound)
        | inr hlast' => exact hlast.1.trans hlast'.1.symm
  · intro t
    have hbalance := h.balance t
    have hinvocations : (c.issue body stream).invocations t = c.invocations t := rfl
    rw [hinvocations, hperm.countP_eq, List.countP_cons, hcalls, List.length_append,
      List.length_singleton]
    simp only [decide_eq_true_eq]
    split at hbalance <;> split <;> split <;> omega
  · intro id t body' hpending
    simp only [RpcClient.issue, ExtTreeMap.getElem?_insertIfNew] at hpending
    split at hpending
    · rename_i hid
      obtain rfl := Std.LawfulEqCmp.eq_of_compare hid.1
      cases hpending
      exact ⟨stream, (written_concat hcalls).mpr (Or.inr ⟨rfl, rfl⟩)⟩
    · obtain ⟨stream', hold⟩ := h.pending id t body' hpending
      exact ⟨stream', (written_concat hcalls).mpr (Or.inl hold)⟩
  · intro i hi
    exact (h.fitting i hi).concat hcalls
  · intro t body' hcall
    by_cases hlt : t < c.calls.length
    · rw [hcalls, List.getElem?_append_left hlt] at hcall
      exact h.refused t body' hcall
    · rw [hcalls, List.getElem?_append_right (Nat.not_lt.mp hlt), List.getElem?_singleton] at hcall
      split at hcall
      · cases hcall
      · cases hcall
  · intro id k hmem t ht body' stream' hwritten
    have hpast := h.past.1 (id, k) hmem
    apply hsettled ht hpast
    exact h.processed id k hmem t ht body' stream' (hearlier ht hpast hwritten)
  · intro stream' k hmem t ht body' id hwritten
    have hpast := h.past.2 (stream', k) hmem
    apply hsettled ht hpast
    exact h.dropped stream' k hmem t ht body' id (hearlier ht hpast hwritten)

theorem Kept.connect (h : Kept hands c) (up : Bool) : Kept hands (c.connect up) := by
  rw [RpcClient.connect]
  split
  · exact ⟨h.next, h.old, h.distinct, h.balance, h.pending, h.inHand, h.fitting, h.refused,
      h.processed, h.dropped, h.past⟩
  · exact h

/-- A handler in hand is invoked, with nothing or with a reply to its request. -/
theorem Kept.invoke {handler : Nat × DbRequest} (h : Kept (handler :: hands) c)
    {reply : Option Message}
    (hreply : ∀ m, reply = some m → (u32 (.start m.payload)).2.mFailed = false ∧
      ∃ stream, c.Written handler.1 handler.2 (u32 (.start m.payload)).1 stream) :
    Kept hands (c.invoke handler reply) where
  next := h.next
  old := h.old
  distinct := h.distinct
  balance t := by
    have hbalance := h.balance t
    rw [List.countP_cons] at hbalance
    simp only [decide_eq_true_eq] at hbalance
    have hhandlers : (c.invoke handler reply).handlers = c.handlers := rfl
    have hcalls : (c.invoke handler reply).calls = c.calls := rfl
    rw [invocations_invoke, hhandlers, hcalls]
    omega
  pending := h.pending
  inHand other hother := h.inHand other (List.mem_cons_of_mem handler hother)
  fitting i hi := by
    cases List.mem_append.mp hi with
    | inl hold => exact h.fitting i hold
    | inr hnew =>
        obtain rfl := List.mem_singleton.mp hnew
        obtain ⟨issued, hcall⟩ := h.inHand handler List.mem_cons_self
        refine ⟨handler.2, issued, hcall, rfl, ?_⟩
        intro m hm
        obtain ⟨hread, stream, hwritten⟩ := hreply m hm
        rw [Written] at hwritten
        rw [hcall] at hwritten
        cases hwritten
        exact ⟨hread, stream, rfl⟩
  refused t body hcall := by
    obtain ⟨i, hi, htold⟩ := h.refused t body hcall
    exact ⟨i, List.mem_append_left _ hi, htold⟩
  processed := h.processed
  dropped := h.dropped
  past := h.past

mutual

theorem Sound.act : ∀ (action : RpcAction) {c : RpcClient}, Sound hands c →
    Sound hands (act action c)
  | .call body reaction, c, h => by
      rw [RpcClient.act]
      split
      · intro hbound
        rw [issued_issue] at hbound
        exact (h (Nat.lt_of_succ_lt hbound)).issue body _ hbound
      · apply Sound.perform reaction
        intro hbound
        rw [issued_refuse] at hbound
        exact (h hbound).refuse body
  | .connect up, c, h => by
      rw [RpcClient.act]
      intro hbound
      rw [issued_connect] at hbound
      exact (h hbound).connect up

theorem Sound.perform : ∀ (actions : List RpcAction) {c : RpcClient}, Sound hands c →
    Sound hands (perform actions c)
  | [], _, h => h
  | action :: actions, _, h => Sound.perform actions (Sound.act action h)

end

/-- The state that `poll` and `failAllPending` leave before the first callback. -/
def noticed (c : RpcClient) (stream : Nat) : RpcClient :=
  { c with
    mConnected := false
    dropped := c.dropped ++ [(stream, c.calls.length)]
    mPending := ∅ }

/-- A drop is noticed: all handlers are in hand. -/
theorem Kept.notice (h : Kept [] c) (stream : Nat) : Kept c.handlers (c.noticed stream) where
  next := h.next
  old := h.old
  distinct := h.distinct
  balance t := by
    have hbalance := h.balance t
    have hnone : (c.noticed stream).handlers = [] := rfl
    have hinvocations : (c.noticed stream).invocations t = c.invocations t := rfl
    have hcalls : (c.noticed stream).calls = c.calls := rfl
    rw [hnone, hinvocations, hcalls]
    exact hbalance
  pending id t body hpending := by
    rw [noticed, ExtTreeMap.getElem?_empty] at hpending
    cases hpending
  inHand handler hhandler := by
    obtain ⟨id, hid⟩ := mem_handlers.mp hhandler
    obtain ⟨stream', hwritten⟩ := h.pending id handler.1 handler.2 hid
    exact ⟨_, hwritten⟩
  fitting := h.fitting
  refused := h.refused
  processed id k hmem t ht body stream' hwritten handler hhandler := by
    have hnone : (c.noticed stream).handlers = [] := rfl
    rw [hnone] at hhandler
    simp at hhandler
  dropped stream' k hmem t ht body id hwritten handler hhandler := by
    have hnone : (c.noticed stream).handlers = [] := rfl
    rw [hnone] at hhandler
    simp at hhandler
  past := by
    refine ⟨h.past.1, ?_⟩
    intro entry hentry
    cases List.mem_append.mp hentry with
    | inl hold => exact h.past.2 entry hold
    | inr hnew =>
        obtain rfl := List.mem_singleton.mp hnew
        exact Nat.le_refl _

/-- Every handler in hand is invoked with nothing. -/
theorem Sound.failed (reactions : Nat → List RpcAction) (entries : List (UInt32 × Nat × DbRequest))
    {c : RpcClient} (h : Sound (entries.map Prod.snd) c) :
    Sound []
      (entries.foldl
        (fun c entry => RpcClient.perform (reactions entry.2.1) (c.invoke entry.2 none)) c) := by
  induction entries generalizing c with
  | nil => exact h
  | cons entry entries ih =>
      apply ih
      apply Sound.perform
      intro hbound
      apply (h hbound).invoke
      intro m hm
      cases hm

/-- A reply is read: whoever waits for this id from now on has called later. -/
theorem Kept.read (h : Kept [] c) (id : UInt32) (c' : RpcClient) (hcalls : c'.calls = c.calls)
    (hprocessed : c'.processed = c.processed ++ [(id, c.calls.length)])
    (hpending : ∀ id' handler, c'.mPending[id']? = some handler →
      id' ≠ id ∧ c.mPending[id']? = some handler) :
    (∀ id k, (id, k) ∈ c'.processed → ∀ t < k, ∀ body stream, c'.Written t body id stream →
        ∀ handler ∈ c'.handlers, handler.1 ≠ t) ∧
      ∀ entry ∈ c'.processed, entry.2 ≤ c'.calls.length := by
  constructor
  · intro id' k hmem t ht body stream hwritten handler hhandler
    rw [Written, hcalls] at hwritten
    obtain ⟨waiting, hwaiting⟩ := mem_handlers.mp hhandler
    obtain ⟨hne, hwaits⟩ := hpending waiting handler hwaiting
    rw [hprocessed] at hmem
    cases List.mem_append.mp hmem with
    | inl hold =>
        exact h.processed id' k hold t ht body stream hwritten handler
          (mem_handlers.mpr ⟨_, hwaits⟩)
    | inr hnew =>
        rintro rfl
        obtain ⟨stream', hown⟩ := h.pending waiting handler.1 handler.2 hwaits
        cases List.mem_singleton.mp hnew
        exact hne (written_unique hown hwritten)
  · intro entry hentry
    rw [hprocessed] at hentry
    rw [hcalls]
    cases List.mem_append.mp hentry with
    | inl hold => exact h.past.1 entry hold
    | inr hnew =>
        obtain rfl := List.mem_singleton.mp hnew
        exact Nat.le_refl _

/-- Nobody waits for the reply. -/
theorem Kept.ignore (h : Kept [] c) {id : UInt32} (hnone : c.mPending[id]? = none) :
    Kept [] { c with processed := c.processed ++ [(id, c.calls.length)] } := by
  have hothers : ∀ id' handler, c.mPending[id']? = some handler →
      id' ≠ id ∧ c.mPending[id']? = some handler := by
    intro id' handler hhandler
    refine ⟨?_, hhandler⟩
    rintro rfl
    rw [hnone] at hhandler
    cases hhandler
  have hread := h.read id { c with processed := c.processed ++ [(id, c.calls.length)] } rfl rfl
    hothers
  exact ⟨h.next, h.old, h.distinct, h.balance, h.pending, h.inHand, h.fitting, h.refused, hread.1,
    h.dropped, hread.2, h.past.2⟩

/-- The handler that waits for the reply is in hand. -/
theorem Kept.take (h : Kept [] c) {id : UInt32} {handler : Nat × DbRequest}
    (hhandler : c.mPending[id]? = some handler) :
    Kept [handler] { c with
      processed := c.processed ++ [(id, c.calls.length)]
      mPending := c.mPending.erase id } := by
  have hpending : ∀ id' other, (c.mPending.erase id)[id']? = some other →
      id' ≠ id ∧ c.mPending[id']? = some other := by
    intro id' other hother
    rw [ExtTreeMap.getElem?_erase] at hother
    split at hother
    · cases hother
    · rename_i hne
      refine ⟨?_, hother⟩
      rintro rfl
      exact hne Std.ReflCmp.compare_self
  have hperm : c.handlers.Perm (handler :: (c.mPending.erase id).toList.map Prod.snd) :=
    (Lib.TreeMaps.toList_erase c.mPending hhandler).map Prod.snd
  obtain ⟨hprocessed, hpast⟩ := h.read id { c with
    processed := c.processed ++ [(id, c.calls.length)]
    mPending := c.mPending.erase id } rfl rfl hpending
  constructor
  · exact h.next
  · exact h.old
  · exact h.distinct
  · intro t
    have hbalance := h.balance t
    rw [hperm.countP_eq, List.countP_cons] at hbalance
    rw [List.countP_singleton, Nat.add_assoc]
    exact hbalance
  · intro id' t body hother
    exact h.pending id' t body (hpending id' _ hother).2
  · intro other hother
    obtain rfl := List.mem_singleton.mp hother
    obtain ⟨stream, hwritten⟩ := h.pending id other.1 other.2 hhandler
    exact ⟨_, hwritten⟩
  · exact h.fitting
  · exact h.refused
  · exact hprocessed
  · intro stream k hmem t ht body id' hwritten other hother
    apply h.dropped stream k hmem t ht body id' hwritten
    exact hperm.mem_iff.mpr (List.mem_cons_of_mem handler hother)
  · exact ⟨hpast, h.past.2⟩

theorem Sound.receive (h : Sound [] c) (m : Message) (reaction : List RpcAction) :
    Sound [] (c.receive m reaction) := by
  rcases hread : u32 (.start m.payload) with ⟨id, r⟩
  simp only [RpcClient.receive, hread]
  split
  · exact h
  · rename_i hfailed
    split
    · rename_i hnone
      intro hbound
      exact (h hbound).ignore hnone
    · rename_i handler hhandler
      apply Sound.perform
      intro hbound
      apply ((h hbound).take hhandler).invoke
      intro m' hm'
      cases hm'
      rw [hread]
      exact ⟨Bool.eq_false_of_not_eq_true hfailed, (h hbound).pending _ _ _ hhandler⟩

theorem Sound.poll (h : Sound [] c) (pump : Pump) : Sound [] (c.poll pump) := by
  rw [RpcClient.poll]
  split
  · rename_i stream _ _
    cases pump with
    | failed reactions =>
        apply Sound.failed reactions c.mPending.toList
        intro hbound
        exact (h hbound).notice stream
    | read messages =>
        have hreceive : ∀ (b : RpcClient) (m : Message × List RpcAction), Sound [] b →
            Sound [] (b.receive m.1 m.2) := fun b m hb => hb.receive m.1 m.2
        exact Lib.Runs.run_preserves hreceive h messages
  · exact h

theorem kept_init : Kept [] init := by
  constructor
  · rfl
  · intro t body id stream hwritten
    cases hwritten
  · intro t t' body body' id stream stream' hwritten
    cases hwritten
  · intro t
    rfl
  · intro id t body hpending
    rw [init, ExtTreeMap.getElem?_empty] at hpending
    cases hpending
  · intro handler hhandler
    cases hhandler
  · intro i hi
    cases hi
  · intro t body hcall
    cases hcall
  · intro id k hmem
    cases hmem
  · intro stream k hmem
    cases hmem
  · constructor
    · intro entry hentry
      cases hentry
    · intro entry hentry
      cases hentry

theorem sound_run (events : List Event) : Sound [] (Lib.Runs.run step init events) := by
  have hstep : ∀ (b : RpcClient) (e : Event), Sound [] b → Sound [] (step b e) := by
    intro b e hb
    cases e with
    | act action => exact hb.act action
    | poll pump => exact hb.poll pump
  exact Lib.Runs.run_preserves hstep (fun _ => kept_init) events

end Steps

/-- A reply that comes twice, and a drop, after which a callback calls again. -/
def retried : List Event :=
  [.act (.connect true), .act (.call .adminExists []), .act (.call (.accountLookup [97]) []),
    .poll (.read [(⟨2, ByteWriter.u32 2⟩, []), (⟨2, ByteWriter.u32 2⟩, [])]),
    .poll (.failed fun _ => [.call .adminExists []])]

end RpcClient

end UntitledGame.Server
