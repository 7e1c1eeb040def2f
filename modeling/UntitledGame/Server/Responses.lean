import UntitledGame.Server.AuthTurns
import UntitledGame.Lib.Runs
import UntitledGame.Server.Tasks

/-!
# Every request of a client gets one response

A request is answered at once or leaves a callback behind, and a callback answers
or leaves another one behind. `Kept` is the account of this over a run: for every
message, the responses to it, the callbacks that wait for it and the tasks in hand
add up to one if it asks for a response, and to none if it does not.

## Implementation notes

`TcpServer.send` does nothing for a connection that is gone. A `Response` is a
call of `send`, and `delivered` says whether the connection was there; `Kept.sent`
connects the two logs.
-/

namespace UntitledGame.Server.AuthServer

open Net
open Std (ExtTreeMap)

/-- A call of `send`, with the number of the message that it answers. -/
structure Response where
  request : Nat
  id : Nat
  message : Message
  delivered : Bool
  deriving DecidableEq, Repr

/-- What a callback has to answer. -/
def task (handler : AuthHandler) : Task AuthMessage :=
  ⟨handler.request, handler.connection, handler.responseType⟩

/-- The call of `send` that a turn makes. -/
def said (s : TcpServer) (request : Nat) : Turn → List Response
  | .answer id type payload => [⟨request, id, ⟨type.toU16, payload⟩, decide (id ∈ s.mConnections)⟩]
  | _ => []

/-- The turns that an event leads to, each with the number of the message it is for. -/
def turns (setup : AuthSetup) (a : AuthServer) : Event → List (Nat × Turn)
  | .message id m random =>
      if id ∈ a.server.mConnections then
        [(a.arrivals.length, hear a.arrivals.length id m random)]
      else []
  | .reply requestId reply random =>
      match a.dbClient.answer requestId with
      | none => []
      | some (handler, _) => [(handler.request, resume setup random handler (some reply))]
  | .dbLost random =>
      a.dbClient.pendingHandlers.map fun handler =>
        (handler.request, resume setup random handler none)
  | _ => []

/-- The responses that an event leads to. -/
def responses (setup : AuthSetup) (a : AuthServer) (e : Event) : List Response :=
  (turns setup a e).flatMap fun turn => said a.server turn.1 turn.2

/-- The server after a run, and the responses that it gave. -/
def history (setup : AuthSetup) (events : List Event) : AuthServer × List Response :=
  Lib.Runs.run (Lib.Runs.record (step setup) (responses setup)) (init, []) events

/-- The account of a state, between the turns that an event leads to: `tasks` is what is left of
them. -/
structure Kept (tasks : List (Task AuthMessage)) (a : AuthServer) (log : List Response) : Prop where
  ordered : a.dbClient.Ordered
  balance : ∀ k, log.countP (·.request = k) + a.dbClient.pendingHandlers.countP (·.request = k) +
    tasks.countP (·.request = k) = Task.asked responseTo a.arrivals k
  pending : ∀ handler ∈ a.dbClient.pendingHandlers, (task handler).Asked responseTo a.arrivals
  inHand : ∀ t ∈ tasks, t.Asked responseTo a.arrivals
  given : ∀ r ∈ log, ∃ type, Task.Asked responseTo a.arrivals ⟨r.request, r.id, type⟩ ∧
    r.message.type = type.toU16
  sent : a.server.sent = (log.filter (·.delivered)).map fun r => (r.id, r.message)

section Turns

variable {tasks : List (Task AuthMessage)} {a : AuthServer} {log : List Response}

/-- A turn settles a task, or leaves it to a callback. -/
theorem Kept.turn {t : Task AuthMessage} (h : Kept (t :: tasks) a log) {turn : Turn}
    (hkeeps : Keeps t.request t.id t.type turn) :
    Kept tasks (turn.take a t.request) (log ++ said a.server t.request turn) := by
  have hasked : t.Asked responseTo a.arrivals := h.inHand t List.mem_cons_self
  cases turn with
  | ignore => exact hkeeps.elim
  | answer id type payload =>
      obtain ⟨rfl, rfl⟩ := hkeeps
      constructor
      · exact h.ordered
      · intro k
        have hbalance := h.balance k
        simp only [said, List.countP_append, List.countP_cons, List.countP_nil, Turn.take, send,
          Task.asked] at hbalance ⊢
        omega
      · exact h.pending
      · intro t' ht'
        exact h.inHand t' (List.mem_cons_of_mem t ht')
      · intro r hr
        cases List.mem_append.mp hr with
        | inl hr => exact h.given r hr
        | inr hr =>
            obtain rfl := List.mem_singleton.mp hr
            exact ⟨t.type, hasked, rfl⟩
      · simp only [Turn.take, send, TcpServer.send, said, List.filter_append, List.map_append]
        split
        · rename_i hlive
          rw [h.sent]
          simp [hlive]
        · rename_i hgone
          rw [h.sent]
          simp [hgone]
  | ask body handler =>
      obtain ⟨hrequest, hconnection, htype⟩ := hkeeps
      have htask : task handler = t := by rw [task, hrequest, hconnection, htype]
      have hperm := DbClient.pendingHandlers_call h.ordered t.request body handler
      constructor
      · exact h.ordered.call t.request body handler
      · intro k
        have hbalance := h.balance k
        simp only [said, List.append_nil, Turn.take, call, hperm.countP_eq, List.countP_cons,
          hrequest, Task.asked] at hbalance ⊢
        omega
      · intro handler' hhandler'
        cases List.mem_cons.mp (hperm.mem_iff.mp hhandler') with
        | inl heq => rw [heq, htask]; exact hasked
        | inr hold => exact h.pending handler' hold
      · intro t' ht'
        exact h.inHand t' (List.mem_cons_of_mem t ht')
      · simp only [said, List.append_nil]
        exact h.given
      · simp only [said, List.append_nil]
        exact h.sent

end Turns

section Steps

variable {a : AuthServer} {log : List Response}

/-- A message arrives that asks for nothing. -/
theorem Kept.heardNothing (h : Kept [] a log) (id : Nat) {m : Message} (hm : responseTo m = none) :
    Kept [] { a with arrivals := a.arrivals ++ [(id, m)] } log where
  ordered := h.ordered
  balance k := by
    rw [Task.asked_heard, hm]
    simpa using h.balance k
  pending handler hhandler := (h.pending handler hhandler).heard _
  inHand t ht := (h.inHand t ht).heard _
  given r hr := by
    obtain ⟨type, hasked, htype⟩ := h.given r hr
    exact ⟨type, hasked.heard _, htype⟩
  sent := h.sent

/-- A message arrives that asks for a response. -/
theorem Kept.heard (h : Kept [] a log) (id : Nat) {m : Message} {type : AuthMessage}
    (hm : responseTo m = some type) :
    Kept [⟨a.arrivals.length, id, type⟩] { a with arrivals := a.arrivals ++ [(id, m)] } log where
  ordered := h.ordered
  balance k := by
    have hbalance := h.balance k
    rw [Task.asked_heard, hm, ← hbalance]
    simp [eq_comm]
  pending handler hhandler := (h.pending handler hhandler).heard _
  inHand t ht := by
    obtain rfl := List.mem_singleton.mp ht
    exact ⟨m, List.getElem?_concat_length, hm⟩
  given r hr := by
    obtain ⟨type, hasked, htype⟩ := h.given r hr
    exact ⟨type, hasked.heard _, htype⟩
  sent := h.sent

/-- A callback is taken out. -/
theorem Kept.answered (h : Kept [] a log) {requestId : Nat} {handler : AuthHandler}
    {c : DbClient AuthHandler} (hanswer : a.dbClient.answer requestId = some (handler, c)) :
    Kept [task handler] { a with dbClient := c } log where
  ordered := h.ordered.answer hanswer
  balance k := by
    have hbalance := h.balance k
    rw [(DbClient.pendingHandlers_answer hanswer).countP_eq, List.countP_cons] at hbalance
    simp only [task, List.countP_cons, List.countP_nil, Task.asked] at hbalance ⊢
    omega
  pending handler' hhandler' :=
    h.pending handler' ((DbClient.pendingHandlers_answer hanswer).mem_iff.mpr
      (List.mem_cons_of_mem _ hhandler'))
  inHand t ht := by
    obtain rfl := List.mem_singleton.mp ht
    exact h.pending handler
      ((DbClient.pendingHandlers_answer hanswer).mem_iff.mpr List.mem_cons_self)
  given := h.given
  sent := h.sent

/-- The link drops: every callback is in hand. -/
theorem Kept.lost (h : Kept [] a log) :
    Kept (a.dbClient.pendingHandlers.map task) { a with dbClient := a.dbClient.reconnected } log where
  ordered := DbClient.ordered_reconnected _
  balance k := by
    have hbalance := h.balance k
    have hnone : a.dbClient.reconnected.pendingHandlers = [] := by
      simp [DbClient.pendingHandlers, DbClient.reconnected]
    rw [List.countP_map, hnone]
    exact hbalance
  pending handler hhandler := by
    simp [DbClient.pendingHandlers, DbClient.reconnected] at hhandler
  inHand t ht := by
    obtain ⟨handler, hhandler, rfl⟩ := List.mem_map.mp ht
    exact h.pending handler hhandler
  given := h.given
  sent := h.sent

variable (setup : AuthSetup)

/-- Every callback in hand is invoked without a reply. -/
theorem Kept.failed (random : Entropy) {handlers : List AuthHandler}
    (h : Kept (handlers.map task) a log) :
    Kept [] (handlers.foldl (fun a handler => onReply setup a random handler none) a)
      (log ++ handlers.flatMap fun handler =>
        said a.server handler.request (resume setup random handler none)) := by
  induction handlers generalizing a log with
  | nil => simpa using h
  | cons handler handlers ih =>
      obtain ⟨payload, hpayload⟩ := resume_none setup random handler
      have hturn := Kept.turn h (resume_keeps setup random handler none)
      have hserver : ((resume setup random handler none).take a handler.request).server.mConnections =
          a.server.mConnections := by
        rw [hpayload]
        exact TcpServer.send_mConnections _ _ _ _
      have hsaid : ∀ (k : Nat) (turn : Turn),
          said ((resume setup random handler none).take a handler.request).server k turn =
            said a.server k turn := by
        intro k turn
        cases turn <;> simp only [said, hserver]
      have hrest := ih hturn
      simp only [task, hsaid] at hrest
      rw [List.foldl_cons, onReply_turn, List.flatMap_cons, ← List.append_assoc]
      exact hrest

/-- One event. -/
theorem Kept.step (h : Kept [] a log) (e : Event) :
    Kept [] (step setup a e) (log ++ responses setup a e) := by
  have hquiet : ∀ {b : AuthServer}, b.dbClient = a.dbClient → b.arrivals = a.arrivals →
      b.server.sent = a.server.sent → Kept [] b (log ++ []) := by
    rintro ⟨server, dbClient, arrivals⟩ rfl rfl hsent
    rw [List.append_nil]
    exact ⟨h.ordered, h.balance, h.pending, h.inHand, h.given, hsent.trans h.sent⟩
  cases e with
  | accept => exact hquiet rfl rfl rfl
  | message id m random =>
      rw [AuthServer.step, responses, turns]
      split
      · rw [onMessage_turn, List.flatMap_singleton]
        cases hm : responseTo m with
        | none =>
            rw [hear_ignore hm]
            simpa [said, Turn.take] using h.heardNothing id hm
        | some type => exact (h.heard id hm).turn (hear_keeps hm _ _ _)
      · exact hquiet rfl rfl rfl
  | hangUp id =>
      rw [AuthServer.step]
      split
      · exact hquiet rfl rfl rfl
      · exact hquiet rfl rfl rfl
  | closeDeferred => exact hquiet rfl rfl a.server.closeDeferred_sent
  | reply requestId reply random =>
      rw [AuthServer.step, onDbReply, responses, turns]
      cases hanswer : a.dbClient.answer requestId with
      | none => exact hquiet rfl rfl rfl
      | some answer =>
          obtain ⟨handler, c⟩ := answer
          dsimp only
          rw [onReply_turn, List.flatMap_singleton]
          exact (h.answered hanswer).turn (resume_keeps setup random handler _)
  | dbLost random =>
      rw [AuthServer.step, onDbLost, responses, turns, List.flatMap_map]
      exact h.lost.failed setup random

theorem kept_history (events : List Event) :
    Kept [] (history setup events).1 (history setup events).2 := by
  have hinit : Kept [] init [] := by
    constructor
    · exact DbClient.ordered_connected
    · intro k
      simp [init, DbClient.connected, DbClient.pendingHandlers, Task.asked]
    · intro handler hhandler
      simp [init, DbClient.connected, DbClient.pendingHandlers] at hhandler
    · intro t ht
      simp at ht
    · intro r hr
      simp at hr
    · rfl
  exact Lib.Runs.run_record_preserves (fun _ _ e ha => ha.step setup e) hinit events

/-- Between events, a message that asks for a response has been given one, or a callback waits
for it. -/
theorem one_of_asked (events : List Event) {t : Task AuthMessage}
    (h : t.Asked responseTo (history setup events).1.arrivals) :
    (history setup events).2.countP (·.request = t.request) +
      (history setup events).1.dbClient.pendingHandlers.countP (·.request = t.request) = 1 := by
  obtain ⟨m, hm, htype⟩ := h
  have hbalance := (kept_history setup events).balance t.request
  simpa [Task.asked, hm, htype] using hbalance

end Steps

section Settling

variable (setup : AuthSetup)

/-- The event answers the request on the link, or reports that the link dropped. -/
def Event.settles (requestId : Nat) : Event → Prop
  | .reply requestId' _ _ => requestId' = requestId
  | .dbLost _ => True
  | _ => False

/-- Every request to the database is answered later on, or its link is reported as dropped. -/
def Settled (events : List Event) : Prop :=
  ∀ pre post, events = pre ++ post →
    ∀ requestId ∈ (Lib.Runs.run (step setup) init pre).dbClient.mPending,
      ∃ e ∈ post, e.settles requestId

theorem take_pending {a : AuthServer} {id : Nat} (h : id ∈ a.dbClient.mPending) (request : Nat)
    (turn : Turn) : id ∈ (turn.take a request).dbClient.mPending := by
  cases turn with
  | answer id' type payload => exact h
  | ask body handler =>
      simp only [Turn.take, call, DbClient.call, ExtTreeMap.mem_insertIfNew]
      exact Or.inr h
  | ignore => exact h

/-- Callbacks wait until then. -/
theorem step_pending {a : AuthServer} {id : Nat} (h : id ∈ a.dbClient.mPending) {e : Event}
    (he : ¬ e.settles id) : id ∈ (step setup a e).dbClient.mPending := by
  cases e with
  | message id' m random =>
      rw [step]
      split
      · rw [onMessage_turn]
        apply take_pending
        exact h
      · exact h
  | hangUp id' =>
      rw [step]
      split
      · exact h
      · exact h
  | reply requestId reply random =>
      rw [step, onDbReply]
      cases hanswer : a.dbClient.answer requestId with
      | none => exact h
      | some answer =>
          obtain ⟨handler, c⟩ := answer
          obtain ⟨-, rfl⟩ := DbClient.answer_eq_some hanswer
          dsimp only
          rw [onReply_turn]
          apply take_pending
          rw [ExtTreeMap.mem_erase]
          exact ⟨fun hc => he (Nat.compare_eq_eq.mp hc), h⟩
  | dbLost random => exact absurd trivial he
  | accept => exact h
  | closeDeferred => exact h

/-- Everything has been settled when nothing waits. -/
theorem settled_iff (events : List Event) :
    Settled setup events ↔ (history setup events).1.dbClient.pendingHandlers = [] := by
  have hempty : (history setup events).1.dbClient.pendingHandlers = [] ↔
      ∀ id, id ∉ (Lib.Runs.run (step setup) init events).dbClient.mPending := by
    rw [history, Lib.Runs.run_record_fst, DbClient.pendingHandlers, List.map_eq_nil_iff,
      ExtTreeMap.toList_eq_nil_iff]
    exact ExtTreeMap.eq_empty_iff_forall_not_mem
  rw [hempty]
  constructor
  · intro h id hid
    obtain ⟨e, he, -⟩ := h events [] (List.append_nil events).symm id hid
    simp at he
  · rintro h pre post rfl id hid
    by_contra hsome
    have hnone : ∀ e ∈ post, ¬ e.settles id := fun e he hsettles => hsome ⟨e, he, hsettles⟩
    rw [Lib.Runs.run_append] at h
    have halong : Lib.Runs.Along (step setup) (fun _ e => ¬ e.settles id)
        (Lib.Runs.run (step setup) init pre) post := Lib.Runs.along_of_forall hnone _
    have hstep : ∀ (a : AuthServer) (e : Event), id ∈ a.dbClient.mPending → ¬ e.settles id →
        id ∈ (step setup a e).dbClient.mPending := fun a e ha he => step_pending setup ha he
    exact h id (Lib.Runs.run_invariant hstep hid halong)

/-- A message gets at most one response, and exactly one once the database has settled if it asks
for one. Every response is to such a message, on its connection and of its type. -/
theorem one_response (events : List Event) :
    (∀ k, (history setup events).2.countP (·.request = k) ≤ 1) ∧
      (Settled setup events → ∀ k id m, (history setup events).1.arrivals[k]? = some (id, m) →
        (responseTo m).isSome → (history setup events).2.countP (·.request = k) = 1) ∧
      (∀ r ∈ (history setup events).2, ∃ m type,
        (history setup events).1.arrivals[r.request]? = some (r.id, m) ∧
          responseTo m = some type ∧ r.message.type = type.toU16) ∧
      (history setup events).1.server.sent =
        ((history setup events).2.filter (·.delivered)).map fun r => (r.id, r.message) := by
  have hkept := kept_history setup events
  refine ⟨?_, ?_, ?_, hkept.sent⟩
  · intro k
    have hbalance := hkept.balance k
    have hasked : Task.asked responseTo (history setup events).1.arrivals k ≤ 1 :=
      Task.asked_le_one k
    omega
  · intro hsettled k id m hm hasks
    obtain ⟨type, htype⟩ := Option.isSome_iff_exists.mp hasks
    have hone := one_of_asked setup events (t := ⟨k, id, type⟩) ⟨m, hm, htype⟩
    rw [(settled_iff setup events).mp hsettled] at hone
    exact hone
  · intro r hr
    obtain ⟨type, ⟨m, hm, hasks⟩, htype⟩ := hkept.given r hr
    exact ⟨m, type, hm, hasks, htype⟩

/-- A login by a name that nobody has. -/
theorem one_response_unknown_user :
    let setup : AuthSetup := ⟨fun passwordHash password => passwordHash = password, [], 7002, 120⟩
    let request := ByteWriter.u32 kProtocolVersion ++ ByteWriter.string [97] ++ ByteWriter.string [98]
    let events : List Event :=
      [.accept, .message 1 ⟨AuthMessage.loginRequest.toU16, request⟩ ⟨[], none⟩,
        .reply 1 (.accountLookup false 0 [] 0) ⟨[], none⟩]
    Settled setup events ∧ (history setup events).2.countP (·.request = 0) = 1 := by
  intro setup request events
  have hsettled : Settled setup events := (settled_iff setup events).mpr (by decide +kernel)
  have harrived : (history setup events).1.arrivals[0]? =
      some (1, ⟨AuthMessage.loginRequest.toU16, request⟩) := by decide +kernel
  exact ⟨hsettled, (one_response setup events).2.1 hsettled 0 1 _ harrived (by decide)⟩

end Settling

end UntitledGame.Server.AuthServer
