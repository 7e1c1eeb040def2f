import UntitledGame.Server.AuthTurns
import UntitledGame.Server.Backend

/-!
# What the auth server does, and what that rests on

`chronicle` runs the servers and writes down what the database handled, with the
tables that it found. A `Reason` for a turn of the auth server goes back through
these entries to the message of a client: a turn on a message that arrived, or the
turn of a callback on the reply to the request that was made with it.

`grounded_chronicle` says that every response that is sent has a reason, in every
run. Statements about single responses invert it with `Heard` and `Resumed`.
-/

namespace UntitledGame.Server

open Net Sim

/-- A request that the database has handled, and what it found. -/
structure Handling where
  side : Side
  request : Request
  before : Database
  now : ℚ
  outcome : Outcome
  deriving DecidableEq, Repr

/-- The tables afterwards, and the reply. -/
def Handling.result (lower : Bytes → Bytes) (h : Handling) : Database × DbReply :=
  DbServer.handle lower h.before h.now h.outcome h.request.body

/-- The reasons for a turn of the auth server, for the message with this number. -/
inductive Reason (setup : AuthSetup) (lower : Bytes → Bytes) (arrivals : List (Nat × Message))
    (log : List Handling) : Nat → Turn → Prop
  | heard {k id : Nat} {m : Message} {random : Entropy} (harrived : arrivals[k]? = some (id, m)) :
      Reason setup lower arrivals log k (AuthServer.hear k id m random)
  | resumed {entry : Handling} {handler : AuthHandler} {random : Entropy} (hentry : entry ∈ log)
      (hside : entry.side = .auth)
      (hasked : Reason setup lower arrivals log entry.request.origin
        (.ask entry.request.body handler)) :
      Reason setup lower arrivals log handler.request
        (AuthServer.resume setup random handler (some (entry.result lower).2))
  | failed {handler : AuthHandler} {random : Entropy} :
      Reason setup lower arrivals log handler.request
        (AuthServer.resume setup random handler none)

section Reasons

variable {setup : AuthSetup} {lower : Bytes → Bytes} {arrivals arrivals' : List (Nat × Message)}
  {log log' : List Handling}

theorem Reason.mono (harrivals : arrivals <+: arrivals') (hlog : log ⊆ log') {k : Nat} {turn : Turn}
    (h : Reason setup lower arrivals log k turn) : Reason setup lower arrivals' log' k turn := by
  induction h with
  | heard harrived =>
      obtain ⟨rest, rfl⟩ := harrivals
      apply Reason.heard
      rw [List.getElem?_append_left (List.getElem?_eq_some_iff.mp harrived).1, harrived]
  | resumed hentry hside hasked ih => exact .resumed (hlog hentry) hside ih
  | failed => exact .failed

end Reasons

section Grounds

variable (setup : AuthSetup) (lower : Bytes → Bytes)

/-- A request was made with this callback, for a reason. -/
def Asks (arrivals : List (Nat × Message)) (log : List Handling) (r : Request)
    (handler : AuthHandler) : Prop :=
  Reason setup lower arrivals log r.origin (.ask r.body handler)

/-- The reply is what the database made of the request that was made with this callback. -/
def Tells (arrivals : List (Nat × Message)) (log : List Handling) (reply : DbReply)
    (handler : AuthHandler) : Prop :=
  ∃ entry ∈ log, entry.side = .auth ∧ (entry.result lower).2 = reply ∧
    Asks setup lower arrivals log entry.request handler

/-- A turn with a reason is a turn on a message that arrived, or that of a callback, which may have
been told of a reply. -/
theorem Reason.inversion {setup : AuthSetup} {lower : Bytes → Bytes}
    {arrivals : List (Nat × Message)} {log : List Handling} {k : Nat} {turn : Turn}
    (h : Reason setup lower arrivals log k turn) :
    (∃ id m random, arrivals[k]? = some (id, m) ∧ AuthServer.Heard k id m random turn) ∨
      ∃ handler reply random, handler.request = k ∧
        AuthServer.Resumed setup random handler reply turn ∧
        ∀ told, reply = some told → Tells setup lower arrivals log told handler := by
  cases h with
  | @heard _ id m random harrived =>
      exact Or.inl ⟨id, m, random, harrived, AuthServer.hear_heard k id random m⟩
  | @resumed entry handler random hentry hside hasked =>
      right
      refine ⟨handler, _, random, rfl, AuthServer.resume_resumed random setup handler _, ?_⟩
      intro told htold
      exact ⟨entry, hentry, hside, Option.some.inj htold, hasked⟩
  | @failed handler random =>
      right
      refine ⟨handler, _, random, rfl, AuthServer.resume_resumed random setup handler _, ?_⟩
      rintro told hnone
      cases hnone

/-- Everything that the auth server has asked, or been told, or said, has its reason. -/
structure Grounded (a : AuthServer) (replies : List (Nat × DbReply)) (log : List Handling) : Prop where
  paired : DbClient.Paired (Asks setup lower a.arrivals log) (Tells setup lower a.arrivals log)
    a.dbClient replies
  sent : ∀ id m, (id, m) ∈ a.server.sent → ∃ k type payload,
    Reason setup lower a.arrivals log k (.answer id type payload) ∧ m = ⟨type.toU16, payload⟩

variable {setup lower} {a : AuthServer} {replies : List (Nat × DbReply)} {log : List Handling}

/-- More messages and more entries. -/
theorem Grounded.grow (h : Grounded setup lower a replies log) (arrivals : List (Nat × Message))
    {log' : List Handling} (hlog : log ⊆ log') :
    Grounded setup lower { a with arrivals := a.arrivals ++ arrivals } replies log' where
  paired := by
    apply h.paired.mono
    · intro r handler hasks
      exact Reason.mono (List.prefix_append _ _) hlog hasks
    · rintro reply handler ⟨entry, hentry, hside, hreply, hasks⟩
      exact ⟨entry, hlog hentry, hside, hreply, Reason.mono (List.prefix_append _ _) hlog hasks⟩
  sent id m hm := by
    obtain ⟨k, type, payload, hreason, heq⟩ := h.sent id m hm
    exact ⟨k, type, payload, hreason.mono (List.prefix_append _ _) hlog, heq⟩

theorem Grounded.log_grow (h : Grounded setup lower a replies log) {log' : List Handling}
    (hlog : log ⊆ log') : Grounded setup lower a replies log' := by
  have hgrown := h.grow [] hlog
  rw [List.append_nil] at hgrown
  exact hgrown

/-- A turn with a reason is taken. -/
theorem Grounded.take (h : Grounded setup lower a replies log) {k : Nat} {turn : Turn}
    (hreason : Reason setup lower a.arrivals log k turn) :
    Grounded setup lower (turn.take a k) replies log := by
  cases turn with
  | ignore => exact h
  | ask body handler => exact ⟨h.paired.call hreason, h.sent⟩
  | answer id type payload =>
      refine ⟨h.paired, ?_⟩
      intro id' m hm
      simp only [Turn.take, AuthServer.send, TcpServer.send] at hm
      split at hm
      · cases List.mem_append.mp hm with
        | inl hold => exact h.sent id' m hold
        | inr hnew =>
            cases List.mem_singleton.mp hnew
            exact ⟨k, type, payload, hreason, rfl⟩
      · exact h.sent id' m hm

/-- What a connection does leaves the link alone and sends nothing. -/
theorem Grounded.of_eq (h : Grounded setup lower a replies log) {a' : AuthServer}
    (hclient : a'.dbClient = a.dbClient) (harrivals : a'.arrivals = a.arrivals)
    (hsent : a'.server.sent = a.server.sent) : Grounded setup lower a' replies log := by
  constructor
  · rw [hclient, harrivals]
    exact h.paired
  · rw [hsent, harrivals]
    exact h.sent

/-- Work that does not come over the link. -/
theorem Grounded.local (h : Grounded setup lower a replies log) {e : AuthServer.Event}
    (he : e.isLocal = true) : Grounded setup lower (a.step setup e) replies log := by
  cases e with
  | accept => exact h.of_eq rfl rfl rfl
  | message id m random =>
      rw [AuthServer.step]
      split
      · rw [AuthServer.onMessage_turn]
        apply (h.grow [(id, m)] (List.Subset.refl log)).take
        exact .heard List.getElem?_concat_length
      · exact h
  | hangUp id =>
      rw [AuthServer.step]
      split
      · exact h.of_eq rfl rfl rfl
      · exact h
  | closeDeferred => exact h.of_eq rfl rfl a.server.closeDeferred_sent
  | reply requestId reply random => cases he
  | dbLost random => cases he

/-- A reply is delivered. -/
theorem Grounded.reply {requestId : Nat} {reply : DbReply}
    (h : Grounded setup lower a ((requestId, reply) :: replies) log) (random : Entropy) :
    Grounded setup lower (a.step setup (.reply requestId reply random)) replies log := by
  rw [AuthServer.step, AuthServer.onDbReply]
  cases hanswer : a.dbClient.answer requestId with
  | none => exact ⟨h.paired.tail, h.sent⟩
  | some answer =>
      obtain ⟨handler, c⟩ := answer
      obtain ⟨entry, hentry, hside, rfl, hasks⟩ := h.paired.tells_head hanswer
      have htaken : Grounded setup lower { a with dbClient := c } replies log :=
        ⟨h.paired.tail.answer hanswer, h.sent⟩
      dsimp only
      rw [AuthServer.onReply_turn]
      exact htaken.take (.resumed hentry hside hasks)

/-- The link drops. -/
theorem Grounded.lost (h : Grounded setup lower a replies log) (random : Entropy) :
    Grounded setup lower (a.step setup (.dbLost random)) [] log := by
  rw [AuthServer.step, AuthServer.onDbLost]
  have hdropped : Grounded setup lower { a with dbClient := a.dbClient.reconnected } [] log :=
    ⟨.nil (DbClient.ordered_reconnected _) rfl, h.sent⟩
  have hfailed : ∀ (b : AuthServer) (handler : AuthHandler), Grounded setup lower b [] log →
      Grounded setup lower (AuthServer.onReply setup b random handler none) [] log := by
    intro b handler hb
    rw [AuthServer.onReply_turn]
    exact hb.take .failed
  exact Lib.Runs.run_preserves hfailed hdropped _

/-- The database handles the next request of the link. -/
theorem Grounded.handled (h : Grounded setup lower a replies log) {r : Request}
    {rest : List Request} (hrequests : a.dbClient.requests = r :: rest) {entry : Handling}
    (hentry : entry ∈ log) (hside : entry.side = .auth) (hrequest : entry.request = r) :
    Grounded setup lower { a with dbClient := { a.dbClient with requests := rest } }
      (replies ++ [(r.id, (entry.result lower).2)]) log := by
  refine ⟨?_, h.sent⟩
  apply h.paired.handle hrequests
  intro handler _ hasks
  exact ⟨entry, hentry, hside, rfl, hrequest ▸ hasks⟩

end Grounds

namespace Backend

variable {F : Type*} [Scalar F] (deployment : Deployment F)

/-- What an event adds to the chronicle. -/
def noted (s : Backend F) (e : Event F) : List Handling :=
  match handled s e, e with
  | some (side, r), .handle _ now o => [⟨side, r, s.database, now, o⟩]
  | some (side, r), .handleStale _ _ now o => [⟨side, r, s.database, now, o⟩]
  | _, _ => []

/-- The servers after a run, and what the database handled in it. -/
def chronicle (database : Database) (now : ClockReading F) (events : List (Event F)) :
    Backend F × List Handling :=
  Lib.Runs.run (Lib.Runs.record (step deployment) noted) (init deployment database now, []) events

theorem chronicle_fst (database : Database) (now : ClockReading F) (events : List (Event F)) :
    (chronicle deployment database now events).1 = run deployment database now events :=
  Lib.Runs.run_record_fst _ _ _ _

theorem grounded_step {s : Backend F} {log : List Handling}
    (h : Grounded deployment.auth deployment.lower s.auth s.authReplies log) (e : Event F) :
    Grounded deployment.auth deployment.lower (s.step deployment e).auth
      (s.step deployment e).authReplies (log ++ noted s e) := by
  have hgrown := h.log_grow (List.subset_append_left log (noted s e))
  have heffect := step_effect deployment s e
  generalize s.step deployment e = s' at heffect ⊢
  cases heffect with
  | auth hlocal => exact hgrown.local hlocal
  | authReply random hreplies =>
      rw [hreplies] at hgrown
      exact hgrown.reply random
  | authLost random => exact hgrown.lost random
  | @authHandled r rest now o hrequests hhandled =>
      have hnoted : noted s (.handle .auth now o) = [⟨.auth, r, s.database, now, o⟩] := by
        simp only [noted, hhandled]
      rw [hnoted] at hgrown ⊢
      exact hgrown.handled hrequests (List.mem_append_right _ (List.mem_singleton_self _)) rfl rfl
  | _ => exact hgrown

/-- In every run, whatever the auth server says has its reason. -/
theorem grounded_chronicle (database : Database) (now : ClockReading F) (events : List (Event F)) :
    Grounded deployment.auth deployment.lower (chronicle deployment database now events).1.auth
      (chronicle deployment database now events).1.authReplies
      (chronicle deployment database now events).2 := by
  have hinit : Grounded deployment.auth deployment.lower (init deployment database now).auth
      (init deployment database now).authReplies [] := by
    constructor
    · exact .nil DbClient.ordered_connected rfl
    · intro id m hm
      simp [init, AuthServer.init, TcpServer.listening] at hm
  have hstep : ∀ (s : Backend F) (log : List Handling) (e : Event F),
      Grounded deployment.auth deployment.lower s.auth s.authReplies log →
        Grounded deployment.auth deployment.lower (s.step deployment e).auth
          (s.step deployment e).authReplies (log ++ noted s e) :=
    fun _ _ e hs => grounded_step deployment hs e
  have hrun := Lib.Runs.run_record_preserves hstep hinit events
  exact hrun

end Backend

end UntitledGame.Server
