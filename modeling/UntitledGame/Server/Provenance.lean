import UntitledGame.Server.Membership

/-!
# What the world server asks of the database, and why

A step asks for a session only when it handles a message that carries the token,
and asks for a session to be deleted only when it completes a join. `Effect` lists
what a step can do to the link, to the log of arrivals and to the log of joins;
`step_effect` is the inversion that results about the link are proved with.
-/

namespace UntitledGame.Server.WorldServer

open Net Sim
open Client (Address)
open Std (ExtTreeMap)

variable {F : Type*}

/-- The part of the state that deals with requests. -/
def ledger (w : WorldServer F) : DbClient Handler × List (Nat × Message) × List Bytes :=
  (w.dbClient, w.arrivals, w.joins)

theorem ledger_eq {w : WorldServer F} {dbClient : DbClient Handler}
    {arrivals : List (Nat × Message)} {joins : List Bytes} :
    w.ledger = (dbClient, arrivals, joins) ↔
      w.dbClient = dbClient ∧ w.arrivals = arrivals ∧ w.joins = joins := by
  simp only [ledger, Prod.mk.injEq]

variable [Scalar F] (setup : Setup F) (w : WorldServer F)

section Ledger

section Ledger

omit [Scalar F]

@[simp] theorem removePlayer_ledger (id : Nat) : (w.removePlayer id).ledger = w.ledger := by
  rw [removePlayer]
  split <;> rfl

@[simp] theorem replyCommand_ledger (id : Nat) (command : WorldMessage) (result : UInt8) :
    (w.replyCommand setup id command result).ledger = w.ledger := by
  rw [replyCommand]
  split <;> rfl

theorem onLatencyLookup_ledger (id : Nat) (milliseconds : UInt32)
    (result : Option (Bool × Session)) :
    (w.onLatencyLookup id milliseconds result).ledger = w.ledger := by
  rcases result with _ | ⟨_ | _, session⟩
  · rfl
  · rfl
  · rw [onLatencyLookup]
    split <;> rfl

end Ledger

theorem onCommandLookup_ledger (id : Nat) (command : WorldMessage) (timeCommand : UInt8)
    (value : UInt32) (now : Clocks F) (result : Option (Bool × Session)) :
    (w.onCommandLookup setup id command timeCommand value now result).ledger = w.ledger := by
  rcases result with _ | ⟨_ | _, session⟩
  · exact replyCommand_ledger setup w _ _ _
  · exact replyCommand_ledger setup w _ _ _
  · rw [onCommandLookup]
    split
    · exact replyCommand_ledger setup w _ _ _
    · exact replyCommand_ledger setup _ _ _ _

theorem onReply_none_ledger (now : Clocks F) (handler : Handler) :
    (onReply setup w now handler none).ledger = w.ledger := by
  cases handler with
  | join request id token => rfl
  | setLatency request id milliseconds => exact onLatencyLookup_ledger w id milliseconds none
  | command request id command timeCommand value =>
      exact onCommandLookup_ledger setup w id command timeCommand value now none
  | sessionDeleted request => rfl

theorem onDbLost_ledger (now : Clocks F) :
    (w.onDbLost setup now).ledger = (w.dbClient.reconnected, w.arrivals, w.joins) := by
  exact Lib.Runs.run_frame (f := ledger) (fun v handler => onReply_none_ledger setup v now handler)
    { w with dbClient := w.dbClient.reconnected } w.dbClient.pendingHandlers

theorem onDatagram_ledger (data : Bytes) (source : Address) (now : Clocks F) :
    (w.onDatagram setup data source now).ledger = w.ledger := by
  simp only [onDatagram, onClientHello, onClientInput]
  repeat' split
  all_goals rfl

theorem onTick_ledger (now : Clocks F) : (w.onTick setup now).ledger = w.ledger := by
  apply Lib.Runs.run_frame (f := ledger)
  intro v entry
  simp only [sendSnapshot]
  repeat' split
  all_goals rfl

omit [Scalar F] in
theorem closeDeferred_ledger : w.closeDeferred.ledger = w.ledger := by
  apply Lib.Runs.run_frame (f := ledger)
  intro v id
  rw [disconnect]
  split
  · exact removePlayer_ledger v id
  · rfl

theorem sweep_ledger (now : F) : (w.sweep setup now).ledger = w.ledger := by
  apply Lib.Runs.run_frame (f := ledger)
  intro v id
  exact removePlayer_ledger v id

end Ledger

/-- The token in a message, as the handler of the message reads it. -/
def carriedToken (m : Message) : Option Bytes :=
  match WorldMessage.ofU16 m.type with
  | some .joinRequest => some (readJoinRequest (.start m.payload)).1.2.1
  | some .adminSetLatencyRequest => some (readSetLatencyRequest (.start m.payload)).1.1
  | some .adminSetTimeRequest =>
      some (readCommandRequest .adminSetTimeRequest (.start m.payload)).1.1
  | some .adminStatusRequest =>
      some (readCommandRequest .adminStatusRequest (.start m.payload)).1.1
  | _ => none

/-- Handling the message on the connection leads to a lookup of the token with this callback. -/
inductive Asks (w : WorldServer F) (id : Nat) (m : Message) (token : Bytes) : Handler → Prop
  | join (htype : WorldMessage.ofU16 m.type = some .joinRequest)
      (hread : (readJoinRequest (.start m.payload)).1 = (kProtocolVersion, token, false))
      (hfree : id ∉ w.playersByConnection) : Asks w id m token (.join w.arrivals.length id token)
  | setLatency (milliseconds : UInt32)
      (htype : WorldMessage.ofU16 m.type = some .adminSetLatencyRequest)
      (hread : (readSetLatencyRequest (.start m.payload)).1 = (token, milliseconds, false)) :
      Asks w id m token (.setLatency w.arrivals.length id milliseconds)
  | command (command : WorldMessage) (timeCommand : UInt8) (value : UInt32)
      (hcommand : command = .adminSetTimeRequest ∨ command = .adminStatusRequest)
      (htype : WorldMessage.ofU16 m.type = some command)
      (hread : (readCommandRequest command (.start m.payload)).1 =
        (token, timeCommand, value, false)) :
      Asks w id m token (.command w.arrivals.length id command timeCommand value)

omit [Scalar F] in
theorem Asks.carries {w : WorldServer F} {id : Nat} {m : Message} {token : Bytes} {handler : Handler}
    (h : Asks w id m token handler) : carriedToken m = some token := by
  cases h with
  | join htype hread hfree => simp [carriedToken, htype, hread]
  | setLatency milliseconds htype hread => simp [carriedToken, htype, hread]
  | command command timeCommand value hcommand htype hread =>
      rcases hcommand with rfl | rfl
      · simp [carriedToken, htype, hread]
      · simp [carriedToken, htype, hread]

/-- What an event can do to the link and the logs. -/
inductive Effect (w : WorldServer F) : Event F → WorldServer F → Prop
  | quiet {e : Event F} {w' : WorldServer F} (hclient : w'.dbClient = w.dbClient)
      (harrivals : w.arrivals <+: w'.arrivals) (hjoins : w'.joins = w.joins) : Effect w e w'
  | asked {id : Nat} {m : Message} {token : Bytes} {handler : Handler} {w' : WorldServer F}
      (hlive : id ∈ w.server.mConnections) (hasks : Asks w id m token handler)
      (hledger : w'.ledger = (w.dbClient.call w.arrivals.length (.sessionLookup token) handler,
        w.arrivals ++ [(id, m)], w.joins)) : Effect w (.message id m) w'
  | answered {requestId : Nat} {reply : DbReply} {now : Clocks F} {handler : Handler}
      {dbClient : DbClient Handler} {w' : WorldServer F}
      (hanswer : w.dbClient.answer requestId = some (handler, dbClient))
      (hledger : w'.ledger = (dbClient, w.arrivals, w.joins)) :
      Effect w (.reply requestId reply now) w'
  | redeemed {requestId : Nat} {session : Session} {now : Clocks F} {request id : Nat}
      {token : Bytes} {dbClient : DbClient Handler} {w' : WorldServer F}
      (hanswer : w.dbClient.answer requestId = some (.join request id token, dbClient))
      (hledger : w'.ledger = (dbClient.call request (.sessionDelete token) (.sessionDeleted request),
        w.arrivals, w.joins ++ [token])) :
      Effect w (.reply requestId (.sessionLookup true session) now) w'
  | lost {now : Clocks F} {w' : WorldServer F}
      (hledger : w'.ledger = (w.dbClient.reconnected, w.arrivals, w.joins)) :
      Effect w (.dbLost now) w'

section Inversion

variable {w}

section Messages

omit [Scalar F]

theorem Effect.of_ledger {e : Event F} {w' : WorldServer F} (h : w'.ledger = w.ledger) :
    Effect w e w' := by
  obtain ⟨hclient, harrivals, hjoins⟩ := ledger_eq.mp h
  exact .quiet hclient (harrivals ▸ List.prefix_refl _) hjoins

/-- Handling a message that does not lead to a lookup. -/
theorem Effect.of_heard {id : Nat} {m : Message} {w' : WorldServer F}
    (h : w'.ledger = (w.dbClient, w.arrivals ++ [(id, m)], w.joins)) : Effect w (.message id m) w' := by
  obtain ⟨hclient, harrivals, hjoins⟩ := ledger_eq.mp h
  exact .quiet hclient (harrivals ▸ List.prefix_append _ _) hjoins

theorem onCommandRequest_effect {id : Nat} (hlive : id ∈ w.server.mConnections) {m : Message}
    {command : WorldMessage}
    (hcommand : command = .adminSetTimeRequest ∨ command = .adminStatusRequest)
    (htype : WorldMessage.ofU16 m.type = some command) :
    Effect w (.message id m)
      (({ w with arrivals := w.arrivals ++ [(id, m)] } : WorldServer F).onCommandRequest setup
        w.arrivals.length id command m.payload) := by
  rw [onCommandRequest]
  rcases hread : (readCommandRequest command (.start m.payload)).1 with
    ⟨token, timeCommand, value, failed⟩
  dsimp only
  split
  · exact .of_heard (replyCommand_ledger _ _ _ _ _)
  · rename_i hok
    rw [Bool.not_eq_true] at hok
    subst hok
    exact .asked hlive (.command command timeCommand value hcommand htype hread) rfl

theorem onMessage_effect {id : Nat} (hlive : id ∈ w.server.mConnections) (m : Message) :
    Effect w (.message id m) (w.onMessage setup id m) := by
  rw [onMessage]
  split
  · rename_i htype
    rw [onJoinRequest]
    rcases hread : (readJoinRequest (.start m.payload)).1 with ⟨version, token, failed⟩
    dsimp only
    split
    · exact .of_heard rfl
    · rename_i hok
      split
      · exact .of_heard rfl
      · rename_i hversion
        split
        · exact .of_heard rfl
        · rename_i hfree
          rw [ne_eq, not_not] at hversion
          rw [Bool.not_eq_true] at hok
          subst hversion hok
          exact .asked hlive (.join htype hread hfree) rfl
  · rename_i htype
    rw [onSetLatencyRequest]
    rcases hread : (readSetLatencyRequest (.start m.payload)).1 with ⟨token, milliseconds, failed⟩
    dsimp only
    split
    · exact .of_heard rfl
    · rename_i hok
      rw [Bool.not_eq_true] at hok
      subst hok
      exact .asked hlive (.setLatency milliseconds htype hread) rfl
  · rename_i htype
    exact onCommandRequest_effect setup hlive (Or.inl rfl) htype
  · rename_i htype
    exact onCommandRequest_effect setup hlive (Or.inr rfl) htype
  · exact .of_heard (removePlayer_ledger _ _)
  · exact .of_heard rfl

end Messages

theorem onDbReply_effect (requestId : Nat) (reply : DbReply) (now : Clocks F) :
    Effect w (.reply requestId reply now) (w.onDbReply setup requestId reply now) := by
  rw [onDbReply]
  split
  · exact .of_ledger rfl
  · rename_i handler dbClient hanswer
    cases handler with
    | join request id token =>
        rw [onReply]
        cases hresult : sessionLookupResult (some reply) with
        | none => exact .answered hanswer rfl
        | some result =>
            obtain ⟨found, session⟩ := result
            cases found with
            | false => exact .answered hanswer rfl
            | true =>
                obtain rfl := Option.some.inj (sessionLookupResult_eq_some.mp hresult)
                exact .redeemed hanswer rfl
    | setLatency request id milliseconds =>
        exact .answered hanswer (onLatencyLookup_ledger _ _ _ _)
    | command request id command timeCommand value =>
        exact .answered hanswer (onCommandLookup_ledger setup _ _ _ _ _ _ _)
    | sessionDeleted request => exact .answered hanswer rfl

/-- Every step has one of the listed effects. -/
theorem step_effect (e : Event F) : Effect w e (step setup w e) := by
  cases e with
  | accept => exact .of_ledger rfl
  | message id m =>
      rw [step]
      split
      · rename_i hlive
        exact onMessage_effect setup hlive m
      · exact .of_ledger rfl
  | hangUp id =>
      rw [step]
      split
      · exact .of_ledger rfl
      · exact .of_ledger rfl
  | closeDeferred => exact .of_ledger (closeDeferred_ledger w)
  | reply requestId reply now => exact onDbReply_effect setup requestId reply now
  | dbLost now => exact .lost (onDbLost_ledger setup w now)
  | datagram data source now => exact .of_ledger (onDatagram_ledger setup w data source now)
  | tick now => exact .of_ledger (onTick_ledger setup w now)
  | release now => exact .of_ledger rfl
  | sweep now => exact .of_ledger (sweep_ledger setup w now)

end Inversion

end UntitledGame.Server.WorldServer
