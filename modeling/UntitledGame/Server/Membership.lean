import UntitledGame.Server.WorldServer

/-!
# Which steps change who is in the world

Most work of the world server leaves the players as they are: `Keeps` says so. The
rest are a new connection, a handled message, the removal of a player, the end of
a connection and a join. `step_of_preserved` is the rule that every invariant
about the player tables is proved with: it need only be checked for these.
-/

namespace UntitledGame.Server.WorldServer

open Net Sim
open Client (Address)
open Std (ExtTreeMap)

variable {F : Type*}

/-- What does not change about a player while it is in the world. -/
def identity (player : Player F) : Nat × Nat := (player.playerId, player.request)

/-- The same players, bodies and connections. -/
structure Keeps (w w' : WorldServer F) : Prop where
  players : ∀ c : Nat,
    (w'.playersByConnection[c]?).map identity = (w.playersByConnection[c]?).map identity
  connectionByPlayer : w'.connectionByPlayer = w.connectionByPlayer
  bodies : ∀ p, p ∈ w'.simulation.mPlayers ↔ p ∈ w.simulation.mPlayers
  nextPlayerId : w'.nextPlayerId = w.nextPlayerId
  mConnections : w'.server.mConnections = w.server.mConnections
  arrivals : w'.arrivals = w.arrivals

namespace Keeps

variable {w w' w'' : WorldServer F}

theorem refl (w : WorldServer F) : Keeps w w :=
  ⟨fun _ => rfl, rfl, fun _ => Iff.rfl, rfl, rfl, rfl⟩

theorem trans (h : Keeps w w') (h' : Keeps w' w'') : Keeps w w'' where
  players c := (h'.players c).trans (h.players c)
  connectionByPlayer := h'.connectionByPlayer.trans h.connectionByPlayer
  bodies p := (h'.bodies p).trans (h.bodies p)
  nextPlayerId := h'.nextPlayerId.trans h.nextPlayerId
  mConnections := h'.mConnections.trans h.mConnections
  arrivals := h'.arrivals.trans h.arrivals

/-- Steps of the same kind for every element of a list. -/
theorem foldl {α : Type*} {f : WorldServer F → α → WorldServer F} {items : List α}
    (hf : ∀ w' a, a ∈ items → Keeps w w' → Keeps w' (f w' a)) (h : Keeps w w') :
    Keeps w (items.foldl f w') := by
  induction items generalizing w' with
  | nil => exact h
  | cons a rest ih =>
      apply ih
      · intro v b hb hv
        exact hf v b (List.mem_cons_of_mem a hb) hv
      · exact h.trans (hf w' a (by simp) h)

/-- Overwriting an entry with one of the same identity. -/
theorem insert {c : Nat} {player : Player F}
    (hsame : (w.playersByConnection[c]?).map identity = some (identity player)) :
    Keeps w { w with playersByConnection := w.playersByConnection.insert c player } := by
  refine ⟨fun d => ?_, rfl, fun _ => Iff.rfl, rfl, rfl, rfl⟩
  dsimp only
  rw [ExtTreeMap.getElem?_insert]
  by_cases hd : c = d
  · subst hd
    rw [if_pos (by simp), hsame, Option.map_some]
  · rw [if_neg (by simpa using hd)]

/-- A player of the later state was there before, under the same identity. -/
theorem player_before (h : Keeps w w') {c : Nat} {player : Player F}
    (hp : w'.playersByConnection[c]? = some player) :
    ∃ before, w.playersByConnection[c]? = some before ∧ identity before = identity player := by
  have hc := h.players c
  rw [hp, Option.map_some] at hc
  exact Option.map_eq_some_iff.mp hc.symm

theorem player_after (h : Keeps w w') {c : Nat} {player : Player F}
    (hp : w.playersByConnection[c]? = some player) :
    ∃ after, w'.playersByConnection[c]? = some after ∧ identity after = identity player := by
  have hc := h.players c
  rw [hp, Option.map_some] at hc
  exact Option.map_eq_some_iff.mp hc

end Keeps

variable [Scalar F] (setup : Setup F)

section Steps

variable (w : WorldServer F)

section Answers

omit [Scalar F]

theorem keeps_send (id : Nat) (type : WorldMessage) (payload : Bytes) :
    Keeps w (w.send id type payload) :=
  ⟨fun _ => rfl, rfl, fun _ => Iff.rfl, rfl, TcpServer.send_mConnections _ _ _ _, rfl⟩

theorem keeps_replyCommand (id : Nat) (command : WorldMessage) (result : UInt8) :
    Keeps w (w.replyCommand setup id command result) := by
  rw [replyCommand]
  split
  · exact keeps_send w _ _ _
  · exact keeps_send w _ _ _

theorem keeps_dbClient (dbClient : DbClient Handler) : Keeps w { w with dbClient := dbClient } :=
  ⟨fun _ => rfl, rfl, fun _ => Iff.rfl, rfl, rfl, rfl⟩

theorem keeps_closeConnection (id : Nat) :
    Keeps w { w with server := w.server.closeConnection id } :=
  ⟨fun _ => rfl, rfl, fun _ => Iff.rfl, rfl, rfl, rfl⟩

/-- A step of the simulation that adds and removes nobody. -/
theorem keeps_simulation {s : Simulation F} (hs : ∀ p, p ∈ s.mPlayers ↔ p ∈ w.simulation.mPlayers) :
    Keeps w { w with simulation := s } :=
  ⟨fun _ => rfl, rfl, hs, rfl, rfl, rfl⟩

theorem keeps_onLatencyLookup (id : Nat) (milliseconds : UInt32) (result : Option (Bool × Session)) :
    Keeps w (w.onLatencyLookup id milliseconds result) := by
  rcases result with _ | ⟨_ | _, session⟩
  · exact keeps_send w _ _ _
  · exact keeps_send w _ _ _
  · rw [onLatencyLookup]
    split
    · exact keeps_send w _ _ _
    · have hlatency : Keeps w { w with simulatedLatencyMs := min milliseconds 2000 } :=
        ⟨fun _ => rfl, rfl, fun _ => Iff.rfl, rfl, rfl, rfl⟩
      exact hlatency.trans (keeps_send _ _ _ _)

end Answers

theorem runCommand_players (s : Simulation F) (command : WorldMessage) (timeCommand : UInt8)
    (value : F) (now : ClockReading F) :
    (runCommand setup s command timeCommand value now).mPlayers = s.mPlayers := by
  rw [runCommand]
  split
  · split <;> rfl
  · rfl

theorem keeps_onCommandLookup (id : Nat) (command : WorldMessage) (timeCommand : UInt8)
    (value : UInt32) (now : Clocks F) (result : Option (Bool × Session)) :
    Keeps w (w.onCommandLookup setup id command timeCommand value now result) := by
  rcases result with _ | ⟨_ | _, session⟩
  · exact keeps_replyCommand setup w _ _ _
  · exact keeps_replyCommand setup w _ _ _
  · rw [onCommandLookup]
    split
    · exact keeps_replyCommand setup w _ _ _
    · have hsimulation : Keeps w { w with
          simulation := runCommand setup w.simulation command timeCommand (setup.ofBits value)
            now.clock } := by
        apply keeps_simulation w
        intro p
        rw [runCommand_players]
      exact hsimulation.trans (keeps_replyCommand setup _ _ _ _)

/-- A callback that fails does no more than answer. -/
theorem keeps_onReply_none (now : Clocks F) (handler : Handler) :
    Keeps w (onReply setup w now handler none) := by
  cases handler with
  | join request id token => exact keeps_send w _ _ _
  | setLatency request id milliseconds => exact keeps_onLatencyLookup w id milliseconds none
  | command request id command timeCommand value =>
      exact keeps_onCommandLookup setup w id command timeCommand value now none
  | sessionDeleted request => exact Keeps.refl w

theorem keeps_onDbLost (now : Clocks F) : Keeps w (w.onDbLost setup now) := by
  rw [onDbLost]
  apply Keeps.foldl
  · intro w' handler _ _
    exact keeps_onReply_none setup w' now handler
  · exact keeps_dbClient w _

omit [Scalar F] in
theorem keeps_onClientHello (body : Bytes) (source : Address) (now : Clocks F) :
    Keeps w (w.onClientHello body source now) := by
  rw [onClientHello]
  dsimp only
  split
  · exact Keeps.refl w
  · split
    · exact Keeps.refl w
    · split
      · exact Keeps.refl w
      · rename_i player hplayer
        split
        · exact Keeps.refl w
        · apply Keeps.insert
          rw [hplayer, Option.map_some]
          rfl

theorem keeps_onClientInput (player : Player F) (body : Bytes) (now : Clocks F) :
    Keeps w (w.onClientInput setup player body now) := by
  rw [onClientInput]
  dsimp only
  split
  · exact Keeps.refl w
  · split
    · exact ⟨fun _ => rfl, rfl, fun _ => Iff.rfl, rfl, rfl, rfl⟩
    · apply keeps_simulation w
      intro p
      exact Simulation.setInput_players _ _ _ _

theorem keeps_onDatagram (data : Bytes) (source : Address) (now : Clocks F) :
    Keeps w (w.onDatagram setup data source now) := by
  rw [onDatagram]
  dsimp only
  split
  · exact Keeps.refl w
  · split
    · exact keeps_onClientHello w _ _ _
    · split
      · exact Keeps.refl w
      · rename_i connection player hfound
        have hmem := ExtTreeMap.mem_toList_iff_getElem?_eq_some.mp (List.mem_of_find?_eq_some hfound)
        have hkeeps : Keeps w { w with
            playersByConnection := w.playersByConnection.insert connection
              { player with lastUdpPacket := now.steadySeconds } } := by
          apply Keeps.insert
          rw [hmem, Option.map_some]
          rfl
        split
        · exact hkeeps.trans (keeps_onClientInput setup _ _ _ _)
        · exact hkeeps

theorem keeps_onTick (now : Clocks F) : Keeps w (w.onTick setup now) := by
  rw [onTick]
  dsimp only
  apply Keeps.foldl
  · rintro w' ⟨connection, player⟩ hentry hw
    have hplayer := hw.players connection
    rw [ExtTreeMap.mem_toList_iff_getElem?_eq_some.mp hentry, Option.map_some] at hplayer
    rw [sendSnapshot]
    dsimp only
    split
    · exact Keeps.refl w'
    · have hnumbered : Keeps w' { w' with
          playersByConnection := w'.playersByConnection.insert connection
            { player with outgoingSequence := player.outgoingSequence + 1 } } := Keeps.insert hplayer
      apply hnumbered.trans
      split
      · exact ⟨fun _ => rfl, rfl, fun _ => Iff.rfl, rfl, rfl, rfl⟩
      · exact ⟨fun _ => rfl, rfl, fun _ => Iff.rfl, rfl, rfl, rfl⟩
  · apply keeps_simulation w
    intro p
    exact Simulation.step_players _ _ _ _ _

/-- Delayed inputs are stored, and that is all. -/
theorem keeps_release (now : F) : Keeps w (w.release now) := by
  refine ⟨fun _ => rfl, rfl, fun p => ?_, rfl, rfl, rfl⟩
  rw [release]
  dsimp only
  induction w.delayedInputs.takeWhile (·.dueAt ≤ now) generalizing w with
  | nil => rfl
  | cons d rest ih =>
      rw [List.foldl_cons]
      exact (ih { w with simulation := w.simulation.setInput d.playerId d.input }).trans
        (Simulation.setInput_players _ _ _ _)

end Steps

/-- The request and the connection of the join that an event completes, if it is the answer to
one. -/
def joining (w : WorldServer F) : Event F → Option (Nat × Nat)
  | .reply requestId (.sessionLookup true _) _ =>
      match w.dbClient.mPending[requestId]? with
      | some (.join request id _) => some (request, id)
      | _ => none
  | _ => none

/-- What an invariant about the players has to survive. -/
structure Preserved (P : WorldServer F → Prop) : Prop where
  keeps : ∀ {w w'}, Keeps w w' → P w → P w'
  accept : ∀ {w}, P w → P { w with server := w.server.accept }
  arrive : ∀ {w} id m, WorldMessage.ofU16 m.type ≠ some .logoutRequest → P w →
    P { w with arrivals := w.arrivals ++ [(id, m)] }
  logOut : ∀ {w} id m, P w →
    P (({ w with arrivals := w.arrivals ++ [(id, m)] } : WorldServer F).removePlayer id)
  remove : ∀ {w} id, P w → P (w.removePlayer id)
  disconnect : ∀ {w} id, P w → P { w.removePlayer id with server := w.server.erase id }

section Removal

omit [Scalar F]

@[simp] theorem removePlayer_server (w : WorldServer F) (id : Nat) :
    (w.removePlayer id).server = w.server := by
  rw [removePlayer]
  split <;> rfl

@[simp] theorem removePlayer_arrivals (w : WorldServer F) (id : Nat) :
    (w.removePlayer id).arrivals = w.arrivals := by
  rw [removePlayer]
  split <;> rfl

@[simp] theorem removePlayer_nextPlayerId (w : WorldServer F) (id : Nat) :
    (w.removePlayer id).nextPlayerId = w.nextPlayerId := by
  rw [removePlayer]
  split <;> rfl

/-- Removing a player takes its entry out and touches no other. -/
theorem removePlayer_players (w : WorldServer F) (id c : Nat) :
    (w.removePlayer id).playersByConnection[c]? =
      if c = id then none else w.playersByConnection[c]? := by
  rw [removePlayer]
  split
  · rename_i hnone
    split
    · rename_i heq
      rw [heq, hnone]
    · rfl
  · dsimp only
    rw [ExtTreeMap.getElem?_erase]
    by_cases hc : c = id
    · rw [if_pos hc, if_pos (by simp [hc])]
    · rw [if_neg hc, if_neg (by simpa using fun h => hc h.symm)]

/-- The owner's entry goes with the player. -/
theorem removePlayer_connectionByPlayer {w : WorldServer F} {id : Nat} {player : Player F}
    (h : w.playersByConnection[id]? = some player) (p : Nat) :
    (w.removePlayer id).connectionByPlayer[p]? =
      if p = player.playerId then none else w.connectionByPlayer[p]? := by
  simp only [removePlayer, h, ExtTreeMap.getElem?_erase, Nat.compare_eq_eq]
  by_cases hp : p = player.playerId
  · rw [if_pos hp, if_pos hp.symm]
  · rw [if_neg hp, if_neg (Ne.symm hp)]

/-- So does the body. -/
theorem removePlayer_bodies {w : WorldServer F} {id : Nat} {player : Player F}
    (h : w.playersByConnection[id]? = some player) (p : Nat) :
    p ∈ (w.removePlayer id).simulation.mPlayers ↔
      p ≠ player.playerId ∧ p ∈ w.simulation.mPlayers := by
  simp only [removePlayer, h]
  exact Simulation.removePlayer_players _ _ _

theorem removePlayer_of_none {w : WorldServer F} {id : Nat}
    (h : w.playersByConnection[id]? = none) : w.removePlayer id = w := by
  simp only [removePlayer, h]

/-- Sending does not interfere with removing. -/
theorem removePlayer_send (w : WorldServer F) (id : Nat) (type : WorldMessage) (payload : Bytes) :
    (w.send id type payload).removePlayer id = (w.removePlayer id).send id type payload := by
  cases h : w.playersByConnection[id]? with
  | none => simp only [removePlayer, send, h]
  | some player => simp only [removePlayer, send, h]

end Removal

section Join

variable (w : WorldServer F) (request id : Nat) (token : Bytes) (session : Session) (now : F)

/-- The entry that a join emplaces. -/
def newPlayer : Player F :=
  ⟨w.nextPlayerId, session.accountId, session.username, token, id, false, ⟨0, 0⟩, 0, now, request⟩

/-- The owner's entry is written whether or not the connection has a player. -/
theorem join_connectionByPlayer (p : Nat) :
    (w.join setup request id token session now).connectionByPlayer[p]? =
      if p = w.nextPlayerId then some id else w.connectionByPlayer[p]? := by
  simp only [join, send, ExtTreeMap.getElem?_insert, Nat.compare_eq_eq]
  by_cases hp : p = w.nextPlayerId
  · rw [if_pos hp, if_pos hp.symm]
  · rw [if_neg hp, if_neg (Ne.symm hp)]

/-- The connection's entry is written only if it has no player. -/
theorem join_players (c : Nat) :
    (w.join setup request id token session now).playersByConnection[c]? =
      if c = id ∧ id ∉ w.playersByConnection then some (newPlayer w request id token session now)
      else w.playersByConnection[c]? := by
  simp only [join, send, ExtTreeMap.getElem?_insertIfNew, Nat.compare_eq_eq, newPlayer]
  by_cases hc : c = id
  · simp only [hc, true_and]
  · rw [if_neg (fun h => hc h.1.symm), if_neg (fun h => hc h.1)]

/-- A body is always added. -/
theorem join_bodies (p : Nat) :
    p ∈ (w.join setup request id token session now).simulation.mPlayers ↔
      p = w.nextPlayerId ∨ p ∈ w.simulation.mPlayers := by
  simp only [join, send]
  exact Simulation.addPlayer_players _ _ _ _

@[simp] theorem join_nextPlayerId :
    (w.join setup request id token session now).nextPlayerId = w.nextPlayerId + 1 := rfl

@[simp] theorem join_mConnections :
    (w.join setup request id token session now).server.mConnections = w.server.mConnections :=
  TcpServer.send_mConnections _ _ _ _

end Join

section Rule

variable {P : WorldServer F → Prop} {w : WorldServer F}

section Messages

omit [Scalar F]

theorem onJoinRequest_of_preserved (hP : Preserved P) (hw : P w) (request id : Nat) (data : Bytes) :
    P (w.onJoinRequest request id data) := by
  rw [onJoinRequest]
  dsimp only
  split
  · exact hP.keeps (keeps_send w _ _ _) hw
  · split
    · exact hP.keeps (keeps_send w _ _ _) hw
    · split
      · exact hw
      · exact hP.keeps (keeps_dbClient w _) hw

theorem onSetLatencyRequest_of_preserved (hP : Preserved P) (hw : P w) (request id : Nat)
    (data : Bytes) : P (w.onSetLatencyRequest request id data) := by
  rw [onSetLatencyRequest]
  dsimp only
  split
  · exact hP.keeps (keeps_send w _ _ _) hw
  · exact hP.keeps (keeps_dbClient w _) hw

theorem onCommandRequest_of_preserved (hP : Preserved P) (hw : P w) (request id : Nat)
    (command : WorldMessage) (data : Bytes) : P (w.onCommandRequest setup request id command data) := by
  rw [onCommandRequest]
  dsimp only
  split
  · exact hP.keeps (keeps_replyCommand setup w _ _ _) hw
  · exact hP.keeps (keeps_dbClient w _) hw

theorem onMessage_of_preserved (hP : Preserved P) (hw : P w) (id : Nat) (m : Message) :
    P (w.onMessage setup id m) := by
  have harrive := fun hm => hP.arrive (w := w) id m hm hw
  rw [onMessage]
  split
  · rename_i htype
    exact onJoinRequest_of_preserved hP (harrive (by simp [htype])) _ _ _
  · rename_i htype
    exact onSetLatencyRequest_of_preserved hP (harrive (by simp [htype])) _ _ _
  · rename_i htype
    exact onCommandRequest_of_preserved setup hP (harrive (by simp [htype])) _ _ _ _
  · rename_i htype
    exact onCommandRequest_of_preserved setup hP (harrive (by simp [htype])) _ _ _ _
  · rw [onLogoutRequest, removePlayer_send]
    exact hP.keeps (keeps_send _ _ _ _) (hP.logOut id m hw)
  · rename_i htype
    exact harrive htype

/-- An event that completes a join is a reply to the lookup of that join. -/
theorem joining_eq_some {e : Event F} {request id : Nat} (h : joining w e = some (request, id)) :
    ∃ requestId session now token, e = .reply requestId (.sessionLookup true session) now ∧
      w.dbClient.mPending[requestId]? = some (.join request id token) := by
  unfold joining at h
  split at h
  · rename_i requestId session now
    split at h
    · rename_i request' id' token hpending
      cases h
      exact ⟨requestId, session, now, token, rfl, hpending⟩
    · cases h
  · cases h

end Messages

/-- Completing a join comes to `join`, whatever the client of the database does. -/
theorem step_joining {e : Event F} {request id : Nat} (h : joining w e = some (request, id)) :
    ∃ token session now,
      Keeps (w.join setup request id token session now) (step setup w e) := by
  obtain ⟨requestId, session, now, token, rfl, hpending⟩ := joining_eq_some h
  refine ⟨token, session, now.steadySeconds, ?_⟩
  have hanswer : w.dbClient.answer requestId =
      some (.join request id token,
        { w.dbClient with mPending := w.dbClient.mPending.erase requestId }) := by
    simp only [DbClient.answer, hpending]
  simp only [step, onDbReply, hanswer]
  exact ⟨fun _ => rfl, rfl, fun _ => Iff.rfl, rfl, rfl, rfl⟩

theorem onDbReply_of_preserved (hP : Preserved P) (hw : P w) {requestId : Nat} {reply : DbReply}
    {now : Clocks F}
    (hjoin : ∀ request id token session,
      joining w (.reply requestId reply now) = some (request, id) →
        P (w.join setup request id token session now.steadySeconds)) :
    P (w.onDbReply setup requestId reply now) := by
  rw [onDbReply]
  split
  · exact hw
  · rename_i handler dbClient hanswer
    obtain ⟨hpending, -⟩ := DbClient.answer_eq_some hanswer
    have hw' : P { w with dbClient := dbClient } := hP.keeps (keeps_dbClient w dbClient) hw
    cases handler with
    | join request id token =>
        rw [onReply]
        cases hresult : sessionLookupResult (some reply) with
        | none => exact hP.keeps (keeps_send _ _ _ _) hw'
        | some result =>
            obtain ⟨found, session⟩ := result
            cases found with
            | false => exact hP.keeps (keeps_send _ _ _ _) hw'
            | true =>
                have hreply : reply = .sessionLookup true session :=
                  Option.some.inj (sessionLookupResult_eq_some.mp hresult)
                have hkept : Keeps (w.join setup request id token session now.steadySeconds)
                    (({ w with dbClient := dbClient } : WorldServer F).join setup request id token
                      session now.steadySeconds) :=
                  ⟨fun _ => rfl, rfl, fun _ => Iff.rfl, rfl, rfl, rfl⟩
                apply hP.keeps hkept
                apply hjoin
                rw [hreply, joining]
                simp only [hpending]
    | setLatency request id milliseconds => exact hP.keeps (keeps_onLatencyLookup _ _ _ _) hw'
    | command request id command timeCommand value =>
        exact hP.keeps (keeps_onCommandLookup setup _ _ _ _ _ _ _) hw'
    | sessionDeleted request => exact hw'

omit [Scalar F] in
theorem closeDeferred_of_preserved (hP : Preserved P) (hw : P w) : P w.closeDeferred := by
  rw [closeDeferred]
  apply hP.keeps (w := w.server.mClosing.foldl disconnect w)
  · exact ⟨fun _ => rfl, rfl, fun _ => Iff.rfl, rfl, rfl, rfl⟩
  · induction w.server.mClosing generalizing w with
    | nil => exact hw
    | cons id rest ih =>
        apply ih
        rw [disconnect]
        split
        · dsimp only
          rw [removePlayer_server]
          exact hP.disconnect id hw
        · exact hw

theorem sweep_of_preserved (hP : Preserved P) (hw : P w) (now : F) : P (w.sweep setup now) := by
  rw [sweep]
  induction List.map _ _ generalizing w with
  | nil => exact hw
  | cons id rest ih =>
      apply ih
      exact hP.keeps (keeps_closeConnection _ id) (hP.remove id hw)

/-- An invariant that survives the listed changes survives every step but a join, and a join too
if it holds after it. -/
theorem step_of_preserved (hP : Preserved P) (hw : P w) {e : Event F}
    (hjoin : ∀ request id token session now, joining w e = some (request, id) →
      P (w.join setup request id token session now)) : P (step setup w e) := by
  cases e with
  | accept => exact hP.accept hw
  | message id m =>
      rw [step]
      split
      · exact onMessage_of_preserved setup hP hw id m
      · exact hw
  | hangUp id =>
      rw [step]
      split
      · exact hP.keeps (keeps_closeConnection w id) hw
      · exact hw
  | closeDeferred => exact closeDeferred_of_preserved hP hw
  | reply requestId reply now =>
      apply onDbReply_of_preserved setup hP hw
      intro request id token session
      exact hjoin request id token session now.steadySeconds
  | dbLost now => exact hP.keeps (keeps_onDbLost setup w now) hw
  | datagram data source now => exact hP.keeps (keeps_onDatagram setup w data source now) hw
  | tick now => exact hP.keeps (keeps_onTick setup w now) hw
  | release now => exact hP.keeps (keeps_release w now) hw
  | sweep now => exact sweep_of_preserved setup hP hw now

end Rule

end UntitledGame.Server.WorldServer
