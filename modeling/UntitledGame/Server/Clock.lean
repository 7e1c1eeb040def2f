import UntitledGame.Server.Membership

/-!
# What changes the world clock and the simulated latency

The clock is the time of day, the anchor that it is computed from and the speed.
A tick advances the time of day by the law of the clock; apart from that only an
authorised command touches the clock, and only an authorised request the latency.
-/

namespace UntitledGame.Server.WorldServer

open Net Sim
open Client (Address)
open Std (ExtTreeMap)

variable {F : Type*}

/-- The law of the clock: the anchor and the speed. -/
def clockLaw (s : Simulation F) : F × F × F := (s.mAnchorRealSeconds, s.mAnchorTimeOfDay, s.mTimeSpeed)

/-- The clock and the latency. -/
def dials (w : WorldServer F) : F × (F × F × F) × UInt32 :=
  (w.simulation.mTimeOfDay, clockLaw w.simulation, w.simulatedLatencyMs)

variable [Scalar F] (setup : Setup F)

omit [Scalar F] in
/-- The dials show the clock of the simulation. -/
theorem dials_congr {w w' : WorldServer F}
    (htime : w'.simulation.mTimeOfDay = w.simulation.mTimeOfDay)
    (hlaw : clockLaw w'.simulation = clockLaw w.simulation)
    (hlatency : w'.simulatedLatencyMs = w.simulatedLatencyMs) : w'.dials = w.dials := by
  rw [dials, dials, htime, hlaw, hlatency]

section Simulation

variable (s : Simulation F)

omit [Scalar F] in
theorem setInput_clock (playerId : Nat) (input : CharacterInput F) :
    (s.setInput playerId input).mTimeOfDay = s.mTimeOfDay ∧
      clockLaw (s.setInput playerId input) = clockLaw s := by
  obtain ⟨players, heq⟩ := s.setInput_eq playerId input
  rw [heq]
  exact ⟨rfl, rfl⟩

theorem addPlayer_clock (playerId : Nat) :
    (s.addPlayer setup.phys playerId).1.mTimeOfDay = s.mTimeOfDay ∧
      clockLaw (s.addPlayer setup.phys playerId).1 = clockLaw s := by
  obtain ⟨players, next, heq⟩ := s.addPlayer_eq setup.phys playerId
  rw [heq]
  exact ⟨rfl, rfl⟩

end Simulation

section Dials

variable (w : WorldServer F)

section Dials

omit [Scalar F]

theorem removePlayer_dials (id : Nat) : (w.removePlayer id).dials = w.dials := by
  rw [removePlayer]
  split
  · rfl
  · rfl

theorem replyCommand_dials (id : Nat) (command : WorldMessage) (result : UInt8) :
    (w.replyCommand setup id command result).dials = w.dials := by
  rw [replyCommand]
  split
  · rfl
  · rfl

theorem onMessage_dials (id : Nat) (m : Message) : (w.onMessage setup id m).dials = w.dials := by
  simp only [onMessage, onJoinRequest, onSetLatencyRequest, onCommandRequest]
  repeat' split
  all_goals
    first
    | rfl
    | exact replyCommand_dials setup _ _ _ _
    | exact removePlayer_dials _ _

end Dials

theorem join_dials (request id : Nat) (token : Bytes) (session : Session) (now : F) :
    (w.join setup request id token session now).dials = w.dials := by
  obtain ⟨htime, hlaw⟩ := addPlayer_clock setup w.simulation w.nextPlayerId
  exact dials_congr htime hlaw rfl

theorem onDatagram_dials (data : Bytes) (source : Address) (now : Clocks F) :
    (w.onDatagram setup data source now).dials = w.dials := by
  simp only [onDatagram, onClientHello, onClientInput]
  repeat' split
  all_goals
    first
    | rfl
    | exact dials_congr (setInput_clock _ _ _).1 (setInput_clock _ _ _).2 rfl

theorem release_dials (now : F) : (w.release now).dials = w.dials := by
  have htime := Lib.Runs.run_frame (f := Simulation.mTimeOfDay)
    (fun s (d : DelayedInput F) => (setInput_clock s d.playerId d.input).1) w.simulation
    (w.delayedInputs.takeWhile (·.dueAt ≤ now))
  have hlaw := Lib.Runs.run_frame (f := clockLaw)
    (fun s (d : DelayedInput F) => (setInput_clock s d.playerId d.input).2) w.simulation
    (w.delayedInputs.takeWhile (·.dueAt ≤ now))
  exact dials_congr htime hlaw rfl

omit [Scalar F] in
theorem closeDeferred_dials : w.closeDeferred.dials = w.dials := by
  apply Lib.Runs.run_frame (f := dials)
  intro v id
  rw [disconnect]
  split
  · exact removePlayer_dials v id
  · rfl

theorem sweep_dials (now : F) : (w.sweep setup now).dials = w.dials := by
  apply Lib.Runs.run_frame (f := dials)
  intro v id
  exact removePlayer_dials v id

/-- A tick moves the time of day and nothing else. -/
theorem onTick_dials (now : Clocks F) : (w.onTick setup now).dials.2 = w.dials.2 := by
  apply Lib.Runs.run_frame (f := fun v : WorldServer F => v.dials.2)
  intro v entry
  simp only [sendSnapshot]
  repeat' split
  all_goals rfl

theorem onReply_none_dials (now : Clocks F) (handler : Handler) :
    (onReply setup w now handler none).dials = w.dials := by
  cases handler with
  | join request id token => rfl
  | setLatency request id milliseconds => rfl
  | command request id command timeCommand value => exact replyCommand_dials setup w id command 1
  | sessionDeleted request => rfl

theorem onDbLost_dials (now : Clocks F) : (w.onDbLost setup now).dials = w.dials := by
  exact Lib.Runs.run_frame (f := dials) (fun v handler => onReply_none_dials setup v now handler)
    { w with dbClient := w.dbClient.reconnected } w.dbClient.pendingHandlers

end Dials

/-- The callbacks that act on a caller's authority, with the number of the caller's message. -/
def Handler.caller : Handler → Option Nat
  | .setLatency request _ _ => some request
  | .command request _ _ _ _ => some request
  | _ => none

/-- The callback turns a dial only for a caller whose session resolves to a game master. -/
theorem onReply_dials {w : WorldServer F} {now : Clocks F} {handler : Handler} {reply : DbReply}
    (h : (onReply setup w now handler (some reply)).dials ≠ w.dials) :
    ∃ request session, Handler.caller handler = some request ∧ reply = .sessionLookup true session ∧
      PermissionLevel.gameMaster.toU8 ≤ session.permissionLevel := by
  have hfound : ∀ session, sessionLookupResult (some reply) = some (true, session) →
      reply = .sessionLookup true session :=
    fun session hresult => Option.some.inj (sessionLookupResult_eq_some.mp hresult)
  cases handler with
  | join request id token =>
      rw [onReply, onJoinLookup.eq_def] at h
      split at h
      · exact absurd rfl h
      · exact absurd rfl h
      · exact absurd (join_dials setup _ _ _ _ _ _) h
  | setLatency request id milliseconds =>
      rw [onReply, onLatencyLookup.eq_def] at h
      split at h
      · rename_i session hresult
        split at h
        · exact absurd rfl h
        · rename_i hlevel
          exact ⟨request, session, rfl, hfound session hresult, UInt8.not_lt.mp hlevel⟩
      · exact absurd rfl h
  | command request id command timeCommand value =>
      rw [onReply, onCommandLookup.eq_def] at h
      split at h
      · rename_i session hresult
        split at h
        · exact absurd (replyCommand_dials setup _ _ _ _) h
        · rename_i hlevel
          exact ⟨request, session, rfl, hfound session hresult, UInt8.not_lt.mp hlevel⟩
      · exact absurd (replyCommand_dials setup _ _ _ _) h
  | sessionDeleted request => exact absurd rfl h

/-- Whether the event is a tick. -/
def Event.isTick : Event F → Bool
  | .tick _ => true
  | _ => false

/-- Every step but a tick and a reply leaves the dials alone. -/
theorem step_dials (w : WorldServer F) {e : Event F} (htick : e.isTick = false)
    (hreply : ∀ requestId reply now, e ≠ .reply requestId reply now) :
    (step setup w e).dials = w.dials := by
  cases e with
  | accept => rfl
  | message id m =>
      rw [step]
      split
      · exact onMessage_dials setup w id m
      · rfl
  | hangUp id =>
      rw [step]
      split
      · rfl
      · rfl
  | closeDeferred => exact closeDeferred_dials w
  | reply requestId reply now => exact absurd rfl (hreply requestId reply now)
  | dbLost now => exact onDbLost_dials setup w now
  | datagram data source now => exact onDatagram_dials setup w data source now
  | tick now => cases htick
  | release now => exact release_dials w now
  | sweep now => exact sweep_dials setup w now

end UntitledGame.Server.WorldServer
