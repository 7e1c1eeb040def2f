import UntitledGame.Server.WorldTurns

/-!
# What the world server says to whom

The world server answers a request at once or leaves a callback behind that will, and
it skips a join request on a connection that has a player. `Kept` is the account of
this over a run: for every message, the entries of the log, the callbacks that wait
for it and the tasks in hand add up to one if it asks for something, and to none if
it does not. An entry that admits a player has the token of the message that it is
for, and the message that was sent says what the player is.

## Implementation notes

The log of a run is not part of the program. `Response.delivered` says whether the
connection was still there, since `TcpServer.send` does nothing where it is not.
-/

namespace UntitledGame.Server.WorldServer

open Net Sim
open Std (ExtTreeMap)

/-- An entry of the log: the number of the message, its connection, what was said to it, and the
player that it admitted. -/
structure Response where
  request : Nat
  id : Nat
  message : Option Message
  delivered : Bool
  admission : Option Admission
  deriving DecidableEq, Repr

/-- What has reached a stream. -/
def Response.sent (r : Response) : Option (Nat × Message) :=
  if r.delivered then r.message.map fun m => (r.id, m) else none

/-- The entry of a turn. -/
def said (udpPort : UInt16) (s : TcpServer) (request : Nat) : Turn → List Response
  | .answer id type payload =>
      [⟨request, id, some ⟨type.toU16, payload⟩, decide (id ∈ s.mConnections), none⟩]
  | .welcome id a =>
      [⟨request, id, some ⟨WorldMessage.joinResponse.toU16, a.payload udpPort⟩,
        decide (id ∈ s.mConnections), some a⟩]
  | .skip id => [⟨request, id, none, false, none⟩]
  | .ask _ _ => []
  | .ignore => []

/-- The tasks that callbacks wait for. -/
def waiting (c : DbClient Handler) : List (Task WorldMessage) :=
  c.pendingHandlers.filterMap Handler.task

/-- The message with this number is a join request with this token, on this connection. -/
def Bears (arrivals : List (Nat × Message)) (request id : Nat) (token : Bytes) : Prop :=
  ∃ m, arrivals[request]? = some (id, m) ∧ WorldMessage.ofU16 m.type = some .joinRequest ∧
    (readJoinRequest (.start m.payload)).1 = (kProtocolVersion, token, false)

/-- What an entry says is true: nothing is said to a skipped join request, a join response that
admits nobody refuses, and one that admits a player describes it. -/
def Truthful (udpPort : UInt16) (arrivals : List (Nat × Message)) (type : WorldMessage)
    (r : Response) : Prop :=
  match r.message, r.admission with
  | none, none => type = .joinResponse
  | some m, none => m.type = type.toU16 ∧ (type = .joinResponse →
      ∃ result ≠ .success, m.payload = joinResponse result 0 0 [] 0)
  | some m, some a => type = .joinResponse ∧
      m = ⟨WorldMessage.joinResponse.toU16, a.payload udpPort⟩ ∧
      Bears arrivals r.request r.id a.token
  | none, some _ => False

/-- The token that a turn is about is the one of its message. -/
def Grounded (arrivals : List (Nat × Message)) (t : Task WorldMessage) : Turn → Prop
  | .welcome _ a => Bears arrivals t.request t.id a.token
  | .ask _ (.join request id token) => Bears arrivals request id token
  | _ => True

/-- The account of a state, between the turns that an event leads to: `tasks` is what is left of
them. -/
structure Kept (udpPort : UInt16) (tasks : List (Task WorldMessage)) (s : TcpServer)
    (c : DbClient Handler) (arrivals : List (Nat × Message)) (log : List Response) : Prop where
  ordered : c.Ordered
  balance : ∀ k, log.countP (·.request = k) + (waiting c).countP (·.request = k) +
    tasks.countP (·.request = k) = Task.asked responseTo arrivals k
  pending : ∀ t ∈ waiting c, t.Asked responseTo arrivals
  joining : ∀ request id token, .join request id token ∈ c.pendingHandlers →
    Bears arrivals request id token
  inHand : ∀ t ∈ tasks, t.Asked responseTo arrivals
  given : ∀ r ∈ log, ∃ type, Task.Asked responseTo arrivals ⟨r.request, r.id, type⟩ ∧
    Truthful udpPort arrivals type r
  sent : s.sent = log.filterMap Response.sent

section Turns

variable {udpPort : UInt16} {tasks : List (Task WorldMessage)} {t : Task WorldMessage}
  {s : TcpServer} {c : DbClient Handler} {arrivals : List (Nat × Message)} {log : List Response}

/-- A callback without a task makes nobody wait. -/
theorem filterMap_task_cons (handler : Handler) (handlers : List Handler) :
    (handler :: handlers).filterMap Handler.task =
      (Handler.task handler).toList ++ handlers.filterMap Handler.task := by
  rw [List.filterMap_cons]
  cases Handler.task handler <;> rfl

theorem waiting_call (h : c.Ordered) (origin : Nat) (body : DbRequest) (handler : Handler) :
    (waiting (c.call origin body handler)).Perm ((Handler.task handler).toList ++ waiting c) := by
  rw [waiting, waiting, ← filterMap_task_cons]
  exact (DbClient.pendingHandlers_call h origin body handler).filterMap Handler.task

theorem waiting_answer {c' : DbClient Handler} {requestId : Nat} {handler : Handler}
    (h : c.answer requestId = some (handler, c')) :
    (waiting c).Perm ((Handler.task handler).toList ++ waiting c') := by
  rw [waiting, waiting, ← filterMap_task_cons]
  exact (DbClient.pendingHandlers_answer h).filterMap Handler.task

/-- An entry is logged, and sent if the connection is there. -/
theorem filterMap_sent_send (s : TcpServer) (id : Nat) (type : UInt16) (payload : Bytes)
    (request : Nat) (admission : Option Admission) (h : s.sent = log.filterMap Response.sent) :
    (s.send id type payload).sent = (log ++ [(⟨request, id, some ⟨type, payload⟩,
      decide (id ∈ s.mConnections), admission⟩ : Response)]).filterMap Response.sent := by
  rw [List.filterMap_append, ← h, TcpServer.send]
  split
  · rename_i hlive
    simp [Response.sent, hlive]
  · rename_i hgone
    simp [Response.sent, hgone]

/-- One more entry, and one task less. -/
theorem Kept.logged (h : Kept udpPort (t :: tasks) s c arrivals log) {s' : TcpServer}
    {r : Response} (hrequest : r.request = t.request) (hid : r.id = t.id)
    (htrue : Truthful udpPort arrivals t.type r)
    (hsent : s'.sent = (log ++ [r]).filterMap Response.sent) :
    Kept udpPort tasks s' c arrivals (log ++ [r]) where
  ordered := h.ordered
  balance k := by
    have hbalance := h.balance k
    simp only [List.countP_append, List.countP_cons, List.countP_nil, hrequest] at hbalance ⊢
    omega
  pending := h.pending
  joining := h.joining
  inHand t' ht' := h.inHand t' (List.mem_cons_of_mem t ht')
  given r' hr' := by
    cases List.mem_append.mp hr' with
    | inl hold => exact h.given r' hold
    | inr hnew =>
        obtain rfl := List.mem_singleton.mp hnew
        refine ⟨t.type, ?_, htrue⟩
        rw [hrequest, hid]
        exact h.inHand t List.mem_cons_self
  sent := hsent

/-- A call with a callback that has a task takes it over. -/
theorem Kept.handed (h : Kept udpPort (t :: tasks) s c arrivals log) {handler : Handler}
    (htask : Handler.task handler = some t)
    (hbears : ∀ request id token, handler = .join request id token →
      Bears arrivals request id token) (body : DbRequest) :
    Kept udpPort tasks s (c.call t.request body handler) arrivals log where
  ordered := h.ordered.call t.request body handler
  balance k := by
    have hbalance := h.balance k
    have hperm := waiting_call h.ordered t.request body handler
    rw [htask] at hperm
    rw [hperm.countP_eq, Option.toList_some, List.singleton_append, List.countP_cons]
    rw [List.countP_cons] at hbalance
    omega
  pending t' ht' := by
    have hperm := waiting_call h.ordered t.request body handler
    rw [htask] at hperm
    cases List.mem_cons.mp (hperm.mem_iff.mp ht') with
    | inl heq =>
        rw [heq]
        exact h.inHand t List.mem_cons_self
    | inr hold => exact h.pending t' hold
  joining request id token hmem := by
    have hperm := DbClient.pendingHandlers_call h.ordered t.request body handler
    cases List.mem_cons.mp (hperm.mem_iff.mp hmem) with
    | inl heq => exact hbears request id token heq.symm
    | inr hold => exact h.joining request id token hold
  inHand t' ht' := h.inHand t' (List.mem_cons_of_mem t ht')
  given := h.given
  sent := h.sent

/-- A call with a callback that has nothing to say changes nothing. -/
theorem Kept.deleted (h : Kept udpPort tasks s c arrivals log) (origin : Nat) (body : DbRequest)
    (request : Nat) :
    Kept udpPort tasks s (c.call origin body (.sessionDeleted request)) arrivals log where
  ordered := h.ordered.call origin body _
  balance k := by
    rw [(waiting_call h.ordered origin body (.sessionDeleted request)).countP_eq]
    exact h.balance k
  pending t ht :=
    h.pending t ((waiting_call h.ordered origin body (.sessionDeleted request)).mem_iff.mp ht)
  joining request' id token hmem := by
    have hperm := DbClient.pendingHandlers_call h.ordered origin body (.sessionDeleted request)
    cases List.mem_cons.mp (hperm.mem_iff.mp hmem) with
    | inl heq => cases heq
    | inr hold => exact h.joining request' id token hold
  inHand := h.inHand
  given := h.given
  sent := h.sent

/-- A turn settles a task, or leaves it to a callback. -/
theorem Kept.turn (h : Kept udpPort (t :: tasks) s c arrivals log) {turn : Turn}
    (hsettles : Settles t turn) (hgrounded : Grounded arrivals t turn) :
    Kept udpPort tasks (turn.speak udpPort s) (turn.consult t.request c) arrivals
      (log ++ said udpPort s t.request turn) := by
  cases turn with
  | answer id type payload =>
      obtain ⟨rfl, rfl, hrefuses⟩ := hsettles
      exact h.logged rfl rfl ⟨rfl, hrefuses⟩ (filterMap_sent_send s _ _ _ _ _ h.sent)
  | welcome id a =>
      obtain ⟨rfl, htype⟩ := hsettles
      have hlogged := h.logged (r := ⟨t.request, t.id,
        some ⟨WorldMessage.joinResponse.toU16, a.payload udpPort⟩, decide (t.id ∈ s.mConnections),
        some a⟩) rfl rfl ⟨htype, rfl, hgrounded⟩ (filterMap_sent_send s _ _ _ _ _ h.sent)
      exact hlogged.deleted _ _ _
  | ask token handler =>
      rw [said, List.append_nil]
      refine h.handed hsettles ?_ _
      rintro request id token rfl
      exact hgrounded
  | skip id =>
      obtain ⟨rfl, htype⟩ := hsettles
      refine h.logged rfl rfl htype ?_
      rw [List.filterMap_append, ← h.sent]
      exact (List.append_nil _).symm
  | ignore => exact hsettles.elim

end Turns

section Steps

variable {udpPort : UInt16} {s : TcpServer} {c : DbClient Handler}
  {arrivals : List (Nat × Message)} {log : List Response}

theorem Bears.heard {request id : Nat} {token : Bytes} (h : Bears arrivals request id token)
    (new : Nat × Message) : Bears (arrivals ++ [new]) request id token := by
  obtain ⟨m, hm, hread⟩ := h
  exact ⟨m, Task.getElem?_heard hm new, hread⟩

theorem Truthful.heard {type : WorldMessage} {r : Response} (h : Truthful udpPort arrivals type r)
    (new : Nat × Message) : Truthful udpPort (arrivals ++ [new]) type r := by
  obtain ⟨request, id, message, delivered, admission⟩ := r
  cases message with
  | none =>
      cases admission with
      | none => exact h
      | some a => exact h.elim
  | some m =>
      cases admission with
      | none => exact h
      | some a => exact ⟨h.1, h.2.1, h.2.2.heard new⟩

/-- A message arrives, and leaves a task if it asks for something. -/
theorem Kept.heard (h : Kept udpPort [] s c arrivals log) (id : Nat) (m : Message) :
    Kept udpPort ((responseTo m).toList.map fun type => ⟨arrivals.length, id, type⟩) s c
      (arrivals ++ [(id, m)]) log where
  ordered := h.ordered
  balance k := by
    have hbalance := h.balance k
    rw [Task.asked_heard, ← hbalance]
    cases responseTo m with
    | none => simp
    | some type => simp [eq_comm]
  pending t ht := (h.pending t ht).heard _
  joining request id' token hmem := (h.joining request id' token hmem).heard _
  inHand t ht := by
    obtain ⟨type, htype, rfl⟩ := List.mem_map.mp ht
    exact ⟨m, List.getElem?_concat_length, Option.mem_toList.mp htype⟩
  given r hr := by
    obtain ⟨type, hasked, htrue⟩ := h.given r hr
    exact ⟨type, hasked.heard _, htrue.heard _⟩
  sent := h.sent

/-- A callback is taken out. -/
theorem Kept.answered (h : Kept udpPort [] s c arrivals log) {requestId : Nat} {handler : Handler}
    {c' : DbClient Handler} (hanswer : c.answer requestId = some (handler, c')) :
    Kept udpPort (Handler.task handler).toList s c' arrivals log where
  ordered := h.ordered.answer hanswer
  balance k := by
    have hbalance := h.balance k
    rw [(waiting_answer hanswer).countP_eq, List.countP_append] at hbalance
    simp only [List.countP_nil] at hbalance
    omega
  pending t ht :=
    h.pending t ((waiting_answer hanswer).mem_iff.mpr (List.mem_append_right _ ht))
  joining request id token hmem :=
    h.joining request id token
      ((DbClient.pendingHandlers_answer hanswer).mem_iff.mpr (List.mem_cons_of_mem _ hmem))
  inHand t ht := h.pending t ((waiting_answer hanswer).mem_iff.mpr (List.mem_append_left _ ht))
  given := h.given
  sent := h.sent

/-- The link drops: what the callbacks wait for is in hand. -/
theorem Kept.lost (h : Kept udpPort [] s c arrivals log) :
    Kept udpPort (waiting c) s c.reconnected arrivals log where
  ordered := DbClient.ordered_reconnected _
  balance k := h.balance k
  pending t ht := by simp [waiting, DbClient.pendingHandlers, DbClient.reconnected] at ht
  joining request id token hmem := by
    simp [DbClient.pendingHandlers, DbClient.reconnected] at hmem
  inHand := h.pending
  given := h.given
  sent := h.sent

end Steps

section Runs

variable {F : Type*} [Scalar F] (setup : Setup F)

/-- The entries of the callbacks that fail, one after the other. -/
def failures (now : Clocks F) : WorldServer F → List Handler → List Response
  | _, [] => []
  | w, handler :: rest =>
      said setup.udpPort w.server (Handler.request handler) (resume setup w now handler none) ++
        failures now (onReply setup w now handler none) rest

/-- The entries that an event leads to. -/
def responses (w : WorldServer F) : Event F → List Response
  | .message id m =>
      if id ∈ w.server.mConnections then
        said setup.udpPort w.server w.arrivals.length (hear setup w w.arrivals.length id m)
      else []
  | .reply requestId reply now =>
      match w.dbClient.answer requestId with
      | none => []
      | some (handler, dbClient) =>
          said setup.udpPort w.server (Handler.request handler)
            (resume setup { w with dbClient := dbClient } now handler (some reply))
  | .dbLost now =>
      failures setup now { w with dbClient := w.dbClient.reconnected } w.dbClient.pendingHandlers
  | _ => []

/-- The server after a run, and what it said. -/
def history (now : ClockReading F) (events : List (Event F)) : WorldServer F × List Response :=
  Lib.Runs.run (Lib.Runs.record (step setup) (responses setup)) (init setup now, []) events

/-- The account of a world server. -/
def Accounted (tasks : List (Task WorldMessage)) (w : WorldServer F) (log : List Response) : Prop :=
  Kept setup.udpPort tasks w.server w.dbClient w.arrivals log

variable {setup} {w : WorldServer F} {log : List Response}

omit [Scalar F] in
theorem Accounted.of_takes {tasks : List (Task WorldMessage)} {t : Task WorldMessage}
    {w' : WorldServer F} {turn : Turn} (h : Accounted setup (t :: tasks) w log)
    (htakes : Takes setup t.request turn w w')
    (harrivals : w'.arrivals = w.arrivals) (hsettles : Settles t turn)
    (hgrounded : Grounded w.arrivals t turn) :
    Accounted setup tasks w' (log ++ said setup.udpPort w.server t.request turn) := by
  have hturn := h.turn hsettles hgrounded
  rw [Takes, dialogue, Prod.mk.injEq] at htakes
  rw [Accounted, htakes.1, htakes.2, harrivals]
  exact hturn

omit [Scalar F] in
/-- The token of a join request that leads to a lookup is the one of the message. -/
theorem hear_grounded {id : Nat} {m : Message} {type : WorldMessage} :
    Grounded (w.arrivals ++ [(id, m)]) ⟨w.arrivals.length, id, type⟩
      (hear setup w w.arrivals.length id m) := by
  rw [hear]
  split
  · rename_i htype
    simp only [hearJoin]
    split
    · trivial
    · rename_i hread
      split
      · trivial
      · rename_i hversion
        split
        · trivial
        · refine ⟨m, List.getElem?_concat_length, htype, ?_⟩
          rw [← not_not.mp hversion, ← Bool.eq_false_of_not_eq_true hread]
  · simp only [hearSetLatency]
    split <;> trivial
  · simp only [hearCommand]
    split <;> trivial
  · simp only [hearCommand]
    split <;> trivial
  · trivial
  · trivial

theorem resume_grounded {handler : Handler} {t : Task WorldMessage}
    (htask : Handler.task handler = some t)
    (hbears : ∀ request id token, handler = .join request id token →
      Bears w.arrivals request id token) (now : Clocks F) (reply : Option DbReply) :
    Grounded w.arrivals t (resume setup w now handler reply) := by
  cases handler with
  | join request id token =>
      obtain rfl := Option.some.inj htask
      rw [resume]
      rcases sessionLookupResult reply with _ | ⟨_ | _, session⟩
      · trivial
      · trivial
      · exact hbears request id token rfl
  | setLatency request id milliseconds =>
      rw [resume]
      rcases sessionLookupResult reply with _ | ⟨_ | _, session⟩ <;> trivial
  | command request id command timeCommand value =>
      rw [resume]
      rcases sessionLookupResult reply with _ | ⟨_ | _, session⟩ <;> trivial
  | sessionDeleted request => cases htask

/-- A callback is invoked, with its task in hand. -/
theorem Accounted.resumed {tasks : List (Task WorldMessage)} {handler : Handler}
    (h : Accounted setup ((Handler.task handler).toList ++ tasks) w log)
    (hbears : ∀ request id token, handler = .join request id token →
      Bears w.arrivals request id token) (now : Clocks F) (reply : Option DbReply) :
    Accounted setup tasks (onReply setup w now handler reply)
      (log ++ said setup.udpPort w.server (Handler.request handler)
        (resume setup w now handler reply)) := by
  have htakes := onReply_turn setup w now handler reply
  cases htask : Handler.task handler with
  | none =>
      cases handler with
      | sessionDeleted request =>
          rw [resume, said, List.append_nil]
          exact h
      | _ => cases htask
  | some t =>
      have hrequest : Handler.request handler = t.request := by
        cases handler <;> cases htask <;> rfl
      rw [htask] at h
      rw [hrequest] at htakes ⊢
      exact Accounted.of_takes h htakes (onReply_arrivals setup w now handler reply)
        (resume_settles setup htask w now reply) (resume_grounded htask hbears now reply)

/-- Every callback in hand is invoked without a reply. -/
theorem Accounted.failed (now : Clocks F) {handlers : List Handler}
    (h : Accounted setup (handlers.filterMap Handler.task) w log)
    (hbears : ∀ request id token, .join request id token ∈ handlers →
      Bears w.arrivals request id token) :
    Accounted setup [] (handlers.foldl (fun w handler => onReply setup w now handler none) w)
      (log ++ failures setup now w handlers) := by
  induction handlers generalizing w log with
  | nil =>
      rw [failures, List.append_nil]
      exact h
  | cons handler handlers ih =>
      rw [filterMap_task_cons] at h
      have hfirst := Accounted.resumed h (fun request id token heq =>
        hbears request id token (heq ▸ List.mem_cons_self)) now none
      rw [List.foldl_cons, failures, ← List.append_assoc]
      refine ih hfirst fun request id token hmem => ?_
      rw [onReply_arrivals]
      exact hbears request id token (List.mem_cons_of_mem _ hmem)

/-- The messages that have been sent, and the messages that have come. -/
def conversation (w : WorldServer F) :
    DbClient Handler × List (Nat × Message) × List (Nat × Message) :=
  (w.dbClient, w.arrivals, w.server.sent)

omit [Scalar F] in
theorem Accounted.of_conversation (h : Accounted setup [] w log) {w' : WorldServer F}
    (heq : conversation w' = conversation w) : Accounted setup [] w' (log ++ []) := by
  simp only [conversation, Prod.mk.injEq] at heq
  obtain ⟨hclient, harrivals, hsent⟩ := heq
  rw [List.append_nil, Accounted, hclient, harrivals]
  exact ⟨h.ordered, h.balance, h.pending, h.joining, h.inHand, h.given, hsent.trans h.sent⟩

omit [Scalar F] in
theorem removePlayer_conversation (w : WorldServer F) (id : Nat) :
    conversation (w.removePlayer id) = conversation w := by
  rw [removePlayer]
  split <;> rfl

/-- An event that is no message and brings no reply. -/
def Event.Silent : Event F → Prop
  | .message _ _ => False
  | .reply _ _ _ => False
  | .dbLost _ => False
  | _ => True

theorem conversation_step {e : Event F} (he : e.Silent) :
    conversation (step setup w e) = conversation w := by
  cases e with
  | accept => rfl
  | message id m => exact he.elim
  | hangUp id =>
      rw [step]
      split <;> rfl
  | closeDeferred =>
      apply Lib.Runs.run_frame (f := conversation)
      intro v id
      rw [disconnect]
      split
      · exact removePlayer_conversation v id
      · rfl
  | reply requestId reply now => exact he.elim
  | dbLost now => exact he.elim
  | datagram data source now =>
      simp only [step, onDatagram, onClientHello, onClientInput]
      repeat' split
      all_goals rfl
  | tick now =>
      apply Lib.Runs.run_frame (f := conversation)
      intro v entry
      simp only [sendSnapshot]
      repeat' split
      all_goals rfl
  | release now => rfl
  | sweep now =>
      apply Lib.Runs.run_frame (f := conversation)
      intro v id
      exact removePlayer_conversation v id

/-- One event. -/
theorem Accounted.step (h : Accounted setup [] w log) (e : Event F) :
    Accounted setup [] (step setup w e) (log ++ responses setup w e) := by
  cases e with
  | message id m =>
      rw [WorldServer.step, responses]
      split
      · have hheard : Accounted setup _ { w with arrivals := w.arrivals ++ [(id, m)] } log :=
          Kept.heard h id m
        have htakes := onMessage_turn setup w id m
        have harrivals := onMessage_arrivals setup w id m
        cases hm : responseTo m with
        | none =>
            rw [hear_ignore setup hm] at htakes ⊢
            rw [hm] at hheard
            rw [Takes, dialogue, Prod.mk.injEq] at htakes
            rw [said, List.append_nil, Accounted, htakes.1, htakes.2, harrivals]
            exact hheard
        | some type =>
            rw [hm] at hheard
            exact Accounted.of_takes hheard htakes harrivals (hear_settles setup hm w _ _)
              hear_grounded
      · exact h.of_conversation rfl
  | reply requestId reply now =>
      rw [WorldServer.step, onDbReply, responses]
      cases hanswer : w.dbClient.answer requestId with
      | none => exact h.of_conversation rfl
      | some answer =>
          obtain ⟨handler, c⟩ := answer
          have hanswered : Accounted setup ((Handler.task handler).toList ++ [])
              { w with dbClient := c } log := by
            rw [List.append_nil]
            exact Kept.answered h hanswer
          refine hanswered.resumed (fun request id token heq => ?_) now (some reply)
          apply h.joining request id token
          rw [← heq]
          exact (DbClient.pendingHandlers_answer hanswer).mem_iff.mpr List.mem_cons_self
  | dbLost now =>
      rw [WorldServer.step, onDbLost, responses]
      have hlost : Accounted setup (w.dbClient.pendingHandlers.filterMap Handler.task)
          { w with dbClient := w.dbClient.reconnected } log := Kept.lost h
      exact hlost.failed now h.joining
  | _ => exact h.of_conversation (conversation_step trivial)

variable (setup)

theorem accounted_init (now : ClockReading F) : Accounted setup [] (init setup now) [] where
  ordered := DbClient.ordered_connected
  balance k := by simp [init, DbClient.connected, waiting, DbClient.pendingHandlers, Task.asked]
  pending t ht := by simp [init, DbClient.connected, waiting, DbClient.pendingHandlers] at ht
  joining request id token hmem := by
    simp [init, DbClient.connected, DbClient.pendingHandlers] at hmem
  inHand t ht := by simp at ht
  given r hr := by simp at hr
  sent := rfl

theorem accounted_history (now : ClockReading F) (events : List (Event F)) :
    Accounted setup [] (history setup now events).1 (history setup now events).2 := by
  have hstep : ∀ (w : WorldServer F) (log : List Response) (e : Event F),
      Accounted setup [] w log → Accounted setup [] (step setup w e) (log ++ responses setup w e) :=
    fun w log e h => h.step e
  exact Lib.Runs.run_record_preserves hstep (accounted_init setup now) events

end Runs

section Settling

variable {F : Type*} [Scalar F] (setup : Setup F)

/-- The event answers the request on the link, or reports that the link dropped. -/
def Event.settles (requestId : Nat) : Event F → Prop
  | .reply requestId' _ _ => requestId' = requestId
  | .dbLost _ => True
  | _ => False

/-- Every request to the database is answered later on, or its link is reported as dropped. -/
def Settled (now : ClockReading F) (events : List (Event F)) : Prop :=
  ∀ pre post, events = pre ++ post → ∀ requestId ∈ (run setup now pre).dbClient.mPending,
    ∃ e ∈ post, e.settles requestId

theorem mem_consult {c : DbClient Handler} {id : Nat} (h : id ∈ c.mPending) (request : Nat)
    (turn : Turn) : id ∈ (turn.consult request c).mPending := by
  cases turn with
  | answer id' type payload => exact h
  | welcome id' admission =>
      simp only [Turn.consult, DbClient.call, ExtTreeMap.mem_insertIfNew]
      exact Or.inr h
  | ask token handler =>
      simp only [Turn.consult, DbClient.call, ExtTreeMap.mem_insertIfNew]
      exact Or.inr h
  | skip id' => exact h
  | ignore => exact h

omit [Scalar F] in
theorem dbClient_of_takes {request : Nat} {turn : Turn} {w w' : WorldServer F}
    (h : Takes setup request turn w w') : w'.dbClient = turn.consult request w.dbClient :=
  congrArg Prod.snd h

/-- Callbacks wait until then. -/
theorem step_pending {w : WorldServer F} {id : Nat} (h : id ∈ w.dbClient.mPending) {e : Event F}
    (he : ¬ e.settles id) : id ∈ (step setup w e).dbClient.mPending := by
  by_cases hsilent : e.Silent
  · have hclient : (step setup w e).dbClient = w.dbClient :=
      congrArg Prod.fst (conversation_step hsilent)
    rw [hclient]
    exact h
  cases e with
  | message id' m =>
      rw [step]
      split
      · rw [dbClient_of_takes setup (onMessage_turn setup w id' m)]
        exact mem_consult h _ _
      · exact h
  | reply requestId reply now =>
      rw [step, onDbReply]
      cases hanswer : w.dbClient.answer requestId with
      | none => exact h
      | some answer =>
          obtain ⟨handler, c⟩ := answer
          obtain ⟨-, rfl⟩ := DbClient.answer_eq_some hanswer
          dsimp only
          rw [dbClient_of_takes setup (onReply_turn setup _ now handler (some reply))]
          apply mem_consult
          rw [ExtTreeMap.mem_erase]
          exact ⟨fun hc => he (Nat.compare_eq_eq.mp hc), h⟩
  | dbLost now => exact absurd trivial he
  | _ => exact absurd trivial hsilent

theorem history_fst (now : ClockReading F) (events : List (Event F)) :
    (history setup now events).1 = run setup now events :=
  Lib.Runs.run_record_fst _ _ _ _

/-- Everything has been settled when nothing waits. -/
theorem pending_of_settled {now : ClockReading F} {events : List (Event F)}
    (h : Settled setup now events) : (run setup now events).dbClient.pendingHandlers = [] := by
  rw [DbClient.pendingHandlers, List.map_eq_nil_iff, ExtTreeMap.toList_eq_nil_iff]
  refine ExtTreeMap.eq_empty_iff_forall_not_mem.mpr fun id hid => ?_
  obtain ⟨e, he, -⟩ := h events [] (List.append_nil events).symm id hid
  simp at he

theorem settled_of_pending {now : ClockReading F} {events : List (Event F)}
    (h : (run setup now events).dbClient.pendingHandlers = []) : Settled setup now events := by
  rintro pre post rfl id hid
  by_contra hsome
  have hnone : ∀ e ∈ post, ¬ e.settles id := fun e he hsettles => hsome ⟨e, he, hsettles⟩
  have halong : Lib.Runs.Along (step setup) (fun _ e => ¬ e.settles id) (run setup now pre) post :=
    Lib.Runs.along_of_forall hnone _
  have hstep : ∀ (w : WorldServer F) (e : Event F), id ∈ w.dbClient.mPending → ¬ e.settles id →
      id ∈ (step setup w e).dbClient.mPending := fun w e hw he => step_pending setup hw he
  have hlater := Lib.Runs.run_invariant hstep hid halong
  rw [run, Lib.Runs.run_append] at h
  rw [DbClient.pendingHandlers, List.map_eq_nil_iff, ExtTreeMap.toList_eq_nil_iff] at h
  rw [run, h] at hlater
  exact ExtTreeMap.not_mem_empty hlater

/-- A callback never skips. -/
theorem resume_ne_skip (w : WorldServer F) (now : Clocks F) (handler : Handler)
    (reply : Option DbReply) (id : Nat) : resume setup w now handler reply ≠ .skip id := by
  cases handler with
  | sessionDeleted request => exact Turn.noConfusion
  | _ =>
      rw [resume]
      rcases sessionLookupResult reply with _ | ⟨_ | _, session⟩
      · exact Turn.noConfusion
      · exact Turn.noConfusion
      · exact Turn.noConfusion

theorem skip_of_said {udpPort : UInt16} {s : TcpServer} {request : Nat} {turn : Turn} {r : Response}
    (h : r ∈ said udpPort s request turn) (hnone : r.message = none) :
    turn = .skip r.id ∧ r.request = request := by
  cases turn with
  | skip id =>
      obtain rfl := List.mem_singleton.mp h
      exact ⟨rfl, rfl⟩
  | answer id type payload =>
      obtain rfl := List.mem_singleton.mp h
      cases hnone
  | welcome id a =>
      obtain rfl := List.mem_singleton.mp h
      cases hnone
  | ask token handler => cases h
  | ignore => cases h

omit [Scalar F] in
theorem player_of_skip {w : WorldServer F} {request id : Nat} {m : Message} {k : Nat}
    (h : hear setup w request id m = .skip k) : k = id ∧ id ∈ w.playersByConnection := by
  rw [hear] at h
  split at h
  · simp only [hearJoin] at h
    split at h
    · cases h
    · split at h
      · cases h
      · split at h
        · rename_i hmem
          exact ⟨(Turn.skip.inj h).symm, hmem⟩
        · cases h
  · simp only [hearSetLatency] at h
    split at h <;> cases h
  · simp only [hearCommand] at h
    split at h <;> cases h
  · simp only [hearCommand] at h
    split at h <;> cases h
  · cases h
  · cases h

/-- Only a join request on a connection that has a player is left without a word. -/
theorem player_of_skipped {w : WorldServer F} {e : Event F} {r : Response}
    (h : r ∈ responses setup w e) (hnone : r.message = none) :
    ∃ m, e = .message r.id m ∧ r.request = w.arrivals.length ∧ r.id ∈ w.playersByConnection := by
  have hfailures : ∀ (now : Clocks F) (handlers : List Handler) (v : WorldServer F),
      r ∉ failures setup now v handlers := by
    intro now handlers
    induction handlers with
    | nil => exact fun v => List.not_mem_nil
    | cons handler handlers ih =>
        intro v hmem
        rw [failures] at hmem
        cases List.mem_append.mp hmem with
        | inl hfirst =>
            exact resume_ne_skip setup v now handler none _ (skip_of_said hfirst hnone).1
        | inr hrest => exact ih _ hrest
  cases e with
  | message id m =>
      rw [responses] at h
      split at h
      · obtain ⟨hturn, hrequest⟩ := skip_of_said h hnone
        obtain ⟨hid, hplayer⟩ := player_of_skip setup hturn
        exact ⟨m, by rw [hid], hrequest, by rw [hid]; exact hplayer⟩
      · cases h
  | reply requestId reply now =>
      rw [responses] at h
      cases hanswer : w.dbClient.answer requestId with
      | none =>
          rw [hanswer] at h
          cases h
      | some answer =>
          obtain ⟨handler, c⟩ := answer
          rw [hanswer] at h
          exact absurd (skip_of_said h hnone).1 (resume_ne_skip setup _ now handler _ _)
  | dbLost now => exact absurd h (hfailures now _ _)
  | _ => cases h

/-- The history grows by the entries of its last event. -/
theorem history_concat (now : ClockReading F) (events : List (Event F)) (e : Event F) :
    (history setup now (events ++ [e])).2 =
      (history setup now events).2 ++ responses setup (run setup now events) e := by
  rw [history, Lib.Runs.run_concat, Lib.Runs.record, Lib.Runs.run_record_fst]
  rfl

/-- A player joins, asks to join once more, and leaves. -/
def rejoining : List (Event ℚ) :=
  [.accept, .message 1 (joinMessage [1]), .reply 1 (.sessionLookup true ⟨1, [97], 0⟩) .noon,
    .reply 2 (.sessionDelete .ok) .noon, .message 1 (joinMessage [1]),
    .message 1 ⟨WorldMessage.logoutRequest.toU16, []⟩]

end Settling

end UntitledGame.Server.WorldServer
