import UntitledGame.Server.Registration
import UntitledGame.Server.UdpSteps
import UntitledGame.Server.WorldResponses
import UntitledGame.Sim.SnapshotContents

/-!
# The players that the world server has announced

Every player in the tables was announced by a successful join response, on its own
connection and with its own token, and as long as its character exists that has the
entity id of the response. `Hosted` is the invariant of the server and its log.
-/

namespace UntitledGame.Server.Incumbents

open Net Sim WorldServer
open Registration (Filed)
open Std (ExtTreeMap)

variable {F : Type*}

section Bodies

/-- Characters may have gone; those that are left are the ones that were there. -/
def Bodied (w w' : WorldServer F) : Prop :=
  ∀ (p : Nat) (body : SimPlayer F), w'.simulation.mPlayers[p]? = some body →
    ∃ before, w.simulation.mPlayers[p]? = some before ∧ body.entityId = before.entityId

namespace Bodied

variable {w w' w'' : WorldServer F}

theorem of_eq (h : w'.simulation.mPlayers = w.simulation.mPlayers) : Bodied w w' := by
  intro p body hbody
  rw [h] at hbody
  exact ⟨body, hbody, rfl⟩

theorem refl (w : WorldServer F) : Bodied w w := of_eq rfl

theorem trans (h : Bodied w w') (h' : Bodied w' w'') : Bodied w w'' := by
  intro p body hbody
  obtain ⟨between, hbetween, hid⟩ := h' p body hbody
  obtain ⟨before, hbefore, hid'⟩ := h p between hbetween
  exact ⟨before, hbefore, hid.trans hid'⟩

theorem foldl {α : Type*} {f : WorldServer F → α → WorldServer F}
    (hf : ∀ w a, Bodied w (f w a)) (items : List α) (w : WorldServer F) :
    Bodied w (items.foldl f w) := by
  induction items generalizing w with
  | nil => exact refl w
  | cons a items ih => exact (hf w a).trans (ih (f w a))

end Bodied

variable [Scalar F] (setup : Setup F) (w : WorldServer F)

omit [Scalar F] in
theorem bodied_removePlayer (id : Nat) : Bodied w (w.removePlayer id) := by
  rw [removePlayer]
  split
  · exact Bodied.refl w
  · rename_i player hplayer
    intro p body hbody
    have hbody' : (w.simulation.mPlayers.erase player.playerId)[p]? = some body := hbody
    rw [ExtTreeMap.getElem?_erase] at hbody'
    split at hbody'
    · cases hbody'
    · exact ⟨body, hbody', rfl⟩

/-- Any call of the simulation but the one that adds a player. -/
theorem bodied_call {c : Simulation.Call F} (hcall : SnapshotContents.joined w.simulation c = []) :
    Bodied w { w with simulation := w.simulation.call setup.phys c } := by
  intro p body hbody
  cases SnapshotContents.call_entry hbody with
  | inl hbefore => exact hbefore
  | inr hnew =>
      rw [hcall] at hnew
      cases hnew

omit [Scalar F] in
theorem players_replyCommand (id : Nat) (command : WorldMessage) (result : UInt8) :
    (w.replyCommand setup id command result).simulation = w.simulation := by
  rw [replyCommand_eq]
  rfl

omit [Scalar F] in
theorem bodied_onMessage (id : Nat) (m : Message) : Bodied w (w.onMessage setup id m) := by
  rw [onMessage]
  split
  · apply Bodied.of_eq
    simp only [onJoinRequest]
    repeat' split
    all_goals rfl
  · apply Bodied.of_eq
    simp only [onSetLatencyRequest]
    split <;> rfl
  · apply Bodied.of_eq
    simp only [onCommandRequest, replyCommand_eq]
    split <;> rfl
  · apply Bodied.of_eq
    simp only [onCommandRequest, replyCommand_eq]
    split <;> rfl
  · rw [onLogoutRequest]
    exact (Bodied.of_eq rfl).trans (bodied_removePlayer _ id)
  · exact Bodied.refl w

theorem bodied_onReply (now : Clocks F) {handler : Handler} {reply : Option DbReply}
    (hjoin : ∀ request id token, handler = .join request id token →
      ∀ session, sessionLookupResult reply ≠ some (true, session)) :
    Bodied w (onReply setup w now handler reply) := by
  apply Bodied.of_eq
  cases handler with
  | join request id token =>
      rw [onReply]
      rcases hresult : sessionLookupResult reply with _ | ⟨_ | _, session⟩
      · rfl
      · rfl
      · exact absurd hresult (hjoin request id token rfl session)
  | setLatency request id milliseconds =>
      rw [onReply]
      rcases sessionLookupResult reply with _ | ⟨_ | _, session⟩
      · rfl
      · rfl
      · simp only [onLatencyLookup]
        split <;> rfl
  | command request id command timeCommand value =>
      rw [onReply]
      rcases sessionLookupResult reply with _ | ⟨_ | _, session⟩
      · simp only [onCommandLookup, replyCommand_eq]
        rfl
      · simp only [onCommandLookup, replyCommand_eq]
        rfl
      · simp only [onCommandLookup, replyCommand_eq]
        split
        · rfl
        · exact runCommand_players setup _ _ _ _ _
  | sessionDeleted request => rfl

/-- Every step but a join. -/
theorem bodied_step {e : Event F} (hjoining : joining w e = none) : Bodied w (step setup w e) := by
  cases e with
  | accept => exact Bodied.refl w
  | message id m =>
      rw [step]
      split
      · exact bodied_onMessage setup w id m
      · exact Bodied.refl w
  | hangUp id =>
      rw [step]
      split
      · exact Bodied.of_eq rfl
      · exact Bodied.refl w
  | closeDeferred =>
      apply Bodied.trans (Bodied.foldl _ w.server.mClosing w) (Bodied.of_eq rfl)
      intro v id
      rw [disconnect]
      split
      · exact (bodied_removePlayer v id).trans (Bodied.of_eq rfl)
      · exact Bodied.refl v
  | reply requestId reply now =>
      rw [step, onDbReply]
      cases hanswer : w.dbClient.answer requestId with
      | none => exact Bodied.refl w
      | some answer =>
          obtain ⟨handler, c⟩ := answer
          have hsame : Bodied w { w with dbClient := c } := Bodied.of_eq rfl
          refine hsame.trans (bodied_onReply setup _ now ?_)
          rintro request id token rfl session hresult
          obtain rfl := Option.some.inj (sessionLookupResult_eq_some.mp hresult)
          rw [joining, (DbClient.answer_eq_some hanswer).1] at hjoining
          cases hjoining
  | dbLost now =>
      have hsame : Bodied w { w with dbClient := w.dbClient.reconnected } := Bodied.of_eq rfl
      refine hsame.trans (Bodied.foldl (fun v handler => ?_) _ _)
      refine bodied_onReply setup v now fun request id token _ session hresult => ?_
      cases hresult
  | datagram data source now =>
      have hinput : ∀ (v : WorldServer F) (p : Nat) (input : CharacterInput F),
          Bodied v { v with simulation := v.simulation.setInput p input } :=
        fun v p input => bodied_call setup v (c := .setInput p input) rfl
      rw [step, onDatagram]
      dsimp only
      split
      · exact Bodied.refl w
      · split
        · simp only [onClientHello]
          repeat' split
          all_goals exact Bodied.of_eq rfl
        · split
          · exact Bodied.refl w
          · rename_i connection player hplayer
            split
            · simp only [onClientInput]
              split
              · exact Bodied.of_eq rfl
              · split
                · exact Bodied.of_eq rfl
                · exact (Bodied.of_eq rfl).trans (hinput _ _ _)
            · exact Bodied.of_eq rfl
  | tick now =>
      have hstep := bodied_call setup w (c := .step tickSeconds now.clock) rfl
      rw [step, onTick]
      refine Bodied.trans hstep (Bodied.foldl (fun v entry => ?_) _ _)
      apply Bodied.of_eq
      simp only [sendSnapshot]
      repeat' split
      all_goals rfl
  | release now =>
      have hinputs : ∀ (inputs : List (DelayedInput F)) (v : WorldServer F),
          Bodied v { v with
            simulation :=
              inputs.foldl (fun s d => s.setInput d.playerId d.input) v.simulation } := by
        intro inputs
        induction inputs with
        | nil => exact fun v => Bodied.refl v
        | cons d inputs ih =>
            intro v
            have hfirst := bodied_call setup v (c := .setInput d.playerId d.input) rfl
            exact hfirst.trans (ih _)
      exact (hinputs _ w).trans (Bodied.of_eq rfl)
  | sweep now =>
      apply Bodied.foldl
      intro v id
      exact (bodied_removePlayer v id).trans (Bodied.of_eq rfl)

end Bodies

section Joins

variable [Scalar F] (setup : Setup F) {w : WorldServer F}

/-- The player that a join admits. -/
def admitted (w : WorldServer F) (token : Bytes) (session : Session) : Admission :=
  ⟨w.nextPlayerId, token, session.username, (w.simulation.addPlayer setup.phys w.nextPlayerId).2⟩

/-- A step that completes a join, and what it says. -/
theorem step_join {e : Event F} {request id : Nat} (h : joining w e = some (request, id)) :
    ∃ (token : Bytes) (session : Session) (now : F) (c : DbClient Handler),
      step setup w e = join setup { w with dbClient := c } request id token session now ∧
        responses setup w e = said setup.udpPort w.server request
          (.welcome id (admitted setup w token session)) := by
  obtain ⟨requestId, session, now, token, rfl, hpending⟩ := joining_eq_some h
  let c : DbClient Handler := { w.dbClient with mPending := w.dbClient.mPending.erase requestId }
  have hanswer : w.dbClient.answer requestId = some (.join request id token, c) := by
    rw [DbClient.answer, hpending]
  refine ⟨token, session, now.steadySeconds, c, ?_, ?_⟩
  · rw [step, onDbReply, hanswer]
    rfl
  · rw [responses, hanswer]
    rfl

/-- A turn that admits nobody logs nobody. -/
theorem admission_of_said {udpPort : UInt16} {s : TcpServer} {request : Nat}
    {turn : WorldServer.Turn} {r : Response} (h : r ∈ said udpPort s request turn) {a : Admission}
    (ha : r.admission = some a) : turn = .welcome r.id a := by
  cases turn with
  | answer id type payload =>
      obtain rfl := List.mem_singleton.mp h
      cases ha
  | welcome id a' =>
      obtain rfl := List.mem_singleton.mp h
      rw [Option.some.inj ha]
  | ask token handler => cases h
  | skip id =>
      obtain rfl := List.mem_singleton.mp h
      cases ha
  | ignore => cases h

omit [Scalar F] in
theorem hear_ne_welcome (request id : Nat) (m : Message) (k : Nat) (a : Admission) :
    hear setup w request id m ≠ .welcome k a := by
  rw [hear]
  split
  · simp only [hearJoin]
    repeat' split
    all_goals exact WorldServer.Turn.noConfusion
  · simp only [hearSetLatency]
    split <;> exact WorldServer.Turn.noConfusion
  · simp only [hearCommand]
    split <;> exact WorldServer.Turn.noConfusion
  · simp only [hearCommand]
    split <;> exact WorldServer.Turn.noConfusion
  · exact WorldServer.Turn.noConfusion
  · exact WorldServer.Turn.noConfusion

/-- A callback admits when it is the one of a join and the session was found. -/
theorem join_of_welcome {v : WorldServer F} {now : Clocks F} {handler : Handler}
    {reply : Option DbReply} {k : Nat} {a : Admission}
    (h : resume setup v now handler reply = .welcome k a) :
    ∃ request token session, handler = .join request k token ∧
      reply = some (.sessionLookup true session) := by
  cases handler with
  | join request id token =>
      rw [resume] at h
      rcases hresult : sessionLookupResult reply with _ | ⟨_ | _, session⟩
      · rw [hresult] at h
        cases h
      · rw [hresult] at h
        cases h
      · rw [hresult] at h
        obtain ⟨rfl, -⟩ := WorldServer.Turn.welcome.inj h
        exact ⟨request, token, session, rfl, sessionLookupResult_eq_some.mp hresult⟩
  | setLatency request id milliseconds =>
      rw [resume] at h
      rcases hresult : sessionLookupResult reply with _ | ⟨_ | _, session⟩ <;>
        rw [hresult] at h <;> cases h
  | command request id command timeCommand value =>
      rw [resume] at h
      rcases hresult : sessionLookupResult reply with _ | ⟨_ | _, session⟩ <;>
        rw [hresult] at h <;> cases h
  | sessionDeleted request => cases h

/-- Nobody is admitted by any other step. -/
theorem admission_eq_none {e : Event F} (h : joining w e = none) {r : Response}
    (hr : r ∈ responses setup w e) : r.admission = none := by
  by_contra hsome
  obtain ⟨a, ha⟩ := Option.ne_none_iff_exists'.mp hsome
  have hfailures : ∀ (now : Clocks F) (handlers : List Handler) (v : WorldServer F),
      r ∉ failures setup now v handlers := by
    intro now handlers
    induction handlers with
    | nil => exact fun v => List.not_mem_nil
    | cons handler handlers ih =>
        intro v hmem
        rw [failures] at hmem
        cases List.mem_append.mp hmem with
        | inl hfirst =>
            obtain ⟨_, _, _, -, hreply⟩ := join_of_welcome setup (admission_of_said hfirst ha)
            cases hreply
        | inr hrest => exact ih _ hrest
  cases e with
  | message id m =>
      rw [responses] at hr
      split at hr
      · exact hear_ne_welcome setup _ _ _ _ _ (admission_of_said hr ha)
      · cases hr
  | reply requestId reply now =>
      rw [responses] at hr
      cases hanswer : w.dbClient.answer requestId with
      | none =>
          rw [hanswer] at hr
          cases hr
      | some answer =>
          obtain ⟨handler, c⟩ := answer
          rw [hanswer] at hr
          obtain ⟨request, token, session, rfl, hreply⟩ :=
            join_of_welcome setup (admission_of_said hr ha)
          obtain rfl := Option.some.inj hreply
          rw [joining, (DbClient.answer_eq_some hanswer).1] at h
          cases h
  | dbLost now => exact hfailures now _ _ hr
  | _ => cases hr

end Joins

section Connections

variable [Scalar F] (setup : Setup F) {w : WorldServer F}

/-- No new connections. -/
def Closing (s s' : TcpServer) : Prop :=
  s'.mNextId = s.mNextId ∧ ∀ c ∈ s'.mConnections, c ∈ s.mConnections

theorem Closing.refl (s : TcpServer) : Closing s s := ⟨rfl, fun _ h => h⟩

theorem Closing.trans {s s' s'' : TcpServer} (h : Closing s s') (h' : Closing s' s'') :
    Closing s s'' :=
  ⟨h'.1.trans h.1, fun c hc => h.2 c (h'.2 c hc)⟩

theorem closing_speak (udpPort : UInt16) (s : TcpServer) (turn : WorldServer.Turn) :
    Closing s (turn.speak udpPort s) := by
  have hsend : ∀ (id : Nat) (type : UInt16) (payload : Bytes),
      Closing s (s.send id type payload) := by
    intro id type payload
    rw [TcpServer.send]
    split
    · exact ⟨rfl, fun _ h => h⟩
    · exact Closing.refl s
  cases turn with
  | answer id type payload => exact hsend _ _ _
  | welcome id a => exact hsend _ _ _
  | ask token handler => exact Closing.refl s
  | skip id => exact Closing.refl s
  | ignore => exact Closing.refl s

omit [Scalar F] in
theorem server_of_takes {request : Nat} {turn : WorldServer.Turn} {w' : WorldServer F}
    (h : Takes setup request turn w w') : w'.server = turn.speak setup.udpPort w.server :=
  congrArg Prod.fst h

omit [Scalar F] in
theorem closing_foldl {α : Type*} {f : WorldServer F → α → WorldServer F}
    (hf : ∀ w a, Closing w.server (f w a).server) (items : List α) (w : WorldServer F) :
    Closing w.server (items.foldl f w).server := by
  induction items generalizing w with
  | nil => exact Closing.refl _
  | cons a items ih => exact (hf w a).trans (ih (f w a))

theorem closing_onReply (w : WorldServer F) (now : Clocks F) (handler : Handler)
    (reply : Option DbReply) : Closing w.server (onReply setup w now handler reply).server := by
  rw [server_of_takes setup (onReply_turn setup w now handler reply)]
  exact closing_speak _ _ _

/-- Only a new connection is new. -/
theorem closing_step {e : Event F} (he : e ≠ .accept) :
    Closing w.server (step setup w e).server := by
  cases e with
  | accept => exact absurd rfl he
  | message id m =>
      rw [step]
      split
      · rw [server_of_takes setup (onMessage_turn setup w id m)]
        exact closing_speak _ _ _
      · exact Closing.refl _
  | hangUp id =>
      rw [step]
      split
      · exact ⟨rfl, fun _ h => h⟩
      · exact Closing.refl _
  | closeDeferred =>
      refine Closing.trans (closing_foldl (fun v id => ?_) w.server.mClosing w)
        ⟨rfl, fun _ h => h⟩
      rw [disconnect]
      split
      · dsimp only
        rw [removePlayer_server]
        exact ⟨rfl, fun c hc => ((TcpServer.mem_erase _ _ _).mp hc).2⟩
      · exact Closing.refl _
  | reply requestId reply now =>
      rw [step, onDbReply]
      split
      · exact Closing.refl _
      · exact closing_onReply setup _ now _ _
  | dbLost now =>
      exact closing_foldl (fun v handler => closing_onReply setup v now handler none) _ _
  | datagram data source now =>
      have hserver : (step setup w (.datagram data source now)).server = w.server := by
        simp only [step, onDatagram, onClientHello, onClientInput]
        repeat' split
        all_goals rfl
      rw [hserver]
      exact Closing.refl _
  | tick now =>
      refine closing_foldl (fun v entry => ?_) _ { w with
        simulation := w.simulation.step setup.phys tickSeconds now.clock }
      have hserver : ∀ snapshot, (sendSnapshot snapshot now v entry).server = v.server := by
        intro snapshot
        simp only [sendSnapshot]
        repeat' split
        all_goals rfl
      rw [hserver]
      exact Closing.refl _
  | release now => exact Closing.refl _
  | sweep now =>
      refine closing_foldl (fun v id => ?_) _ w
      rw [timeOut]
      dsimp only
      rw [removePlayer_server]
      exact ⟨rfl, fun _ h => h⟩

theorem mNextId_le_step (w : WorldServer F) (e : Event F) :
    w.server.mNextId ≤ (step setup w e).server.mNextId := by
  by_cases he : e = .accept
  · rw [he]
    exact Nat.le_succ _
  · exact (closing_step setup he).1.ge

/-- The message that an event puts on record. -/
def recorded (w : WorldServer F) : Event F → List (Nat × Message)
  | .message id m => if id ∈ w.server.mConnections then [(id, m)] else []
  | _ => []

theorem step_arrivals (w : WorldServer F) (e : Event F) :
    (step setup w e).arrivals = w.arrivals ++ recorded w e := by
  by_cases hsilent : e.Silent
  · have harrivals : (step setup w e).arrivals = w.arrivals :=
      congrArg (·.2.1) (conversation_step hsilent)
    rw [harrivals]
    cases e with
    | message id m => exact hsilent.elim
    | _ => exact (List.append_nil _).symm
  cases e with
  | message id m =>
      rw [step, recorded]
      split
      · exact onMessage_arrivals setup w id m
      · exact (List.append_nil _).symm
  | reply requestId reply now =>
      rw [step, onDbReply, show recorded w (.reply requestId reply now) = [] from rfl,
        List.append_nil]
      split
      · rfl
      · exact onReply_arrivals setup _ now _ _
  | dbLost now =>
      rw [show recorded w (.dbLost now) = [] from rfl, List.append_nil]
      exact Lib.Runs.run_frame (f := arrivals)
        (fun v handler => onReply_arrivals setup v now handler none)
        { w with dbClient := w.dbClient.reconnected } w.dbClient.pendingHandlers
  | _ => exact absurd trivial hsilent

end Connections

section Hosts

variable [Scalar F] (setup : Setup F) {w : WorldServer F} {log : List Response}

/-- The server announced this player on this connection. -/
def Announced (log : List Response) (c : Nat) (player : Player F) : Prop :=
  ∃ r ∈ log, r.id = c ∧ ∃ a, r.admission = some a ∧ a.playerId = player.playerId ∧
    a.token = player.token

/-- What holds of the server and its log in every state. -/
structure Hosted (w : WorldServer F) (log : List Response) : Prop where
  accounted : Accounted setup [] w log
  filed : Filed w
  announced : ∀ (c : Nat) (player : Player F), w.playersByConnection[c]? = some player →
    Announced log c player
  embodied : ∀ r ∈ log, ∀ a, r.admission = some a → a.playerId < w.nextPlayerId ∧
    ∀ body, w.simulation.mPlayers[a.playerId]? = some body → body.entityId = a.entityId
  live : ∀ c ∈ w.server.mConnections, c < w.server.mNextId
  arrived : ∀ entry ∈ w.arrivals, entry.1 < w.server.mNextId

theorem hosted_init (now : ClockReading F) : Hosted setup (init setup now) [] where
  accounted := accounted_init setup now
  filed := Registration.filed_init setup now
  announced c player hplayer := by simp [init] at hplayer
  embodied r hr := absurd hr List.not_mem_nil
  live c hc := absurd hc Std.ExtTreeSet.not_mem_empty
  arrived entry hentry := absurd hentry List.not_mem_nil

variable {setup}

omit [Scalar F] in
theorem Announced.mono {log later : List Response} {c : Nat} {player : Player F}
    (h : Announced log c player) : Announced (log ++ later) c player := by
  obtain ⟨r, hr, hrest⟩ := h
  exact ⟨r, List.mem_append_left _ hr, hrest⟩

/-- The tables after a join. -/
theorem Hosted.announced_join (h : Hosted setup w log) {request id : Nat} {token : Bytes}
    {session : Session} {now : F} {dbClient : DbClient Handler} {c : Nat} {player : Player F}
    (hplayer : (join setup { w with dbClient := dbClient } request id token session
      now).playersByConnection[c]? = some player) :
    Announced (log ++ said setup.udpPort w.server request
      (.welcome id (admitted setup w token session))) c player := by
  rw [join_players] at hplayer
  split at hplayer
  · rename_i hnew
    obtain rfl := Option.some.inj hplayer
    refine ⟨_, List.mem_append_right _ (List.mem_singleton_self _), hnew.1.symm, _, rfl, rfl, rfl⟩
  · exact (h.announced c player hplayer).mono

/-- The characters after a join: the new one has the entity id that is announced, and the old ones
are the same. -/
theorem Hosted.embodied_join (h : Hosted setup w log) {request id : Nat} {token : Bytes}
    {session : Session} {now : F} {dbClient : DbClient Handler} {r : Response}
    (hr : r ∈ log ++ said setup.udpPort w.server request
      (.welcome id (admitted setup w token session))) {a : Admission} (ha : r.admission = some a) :
    a.playerId < w.nextPlayerId + 1 ∧
      ∀ body, (join setup { w with dbClient := dbClient } request id token session
        now).simulation.mPlayers[a.playerId]? = some body → body.entityId = a.entityId := by
  have hsimulation : (join setup { w with dbClient := dbClient } request id token session
      now).simulation = (w.simulation.addPlayer setup.phys w.nextPlayerId).1 := rfl
  rw [hsimulation]
  cases List.mem_append.mp hr with
  | inl hold =>
      obtain ⟨hlt, hbody⟩ := h.embodied r hold a ha
      refine ⟨Nat.lt_succ_of_lt hlt, fun body hafter => ?_⟩
      cases SnapshotContents.call_entry (c := .addPlayer w.nextPlayerId) hafter with
      | inl hbefore =>
          obtain ⟨before, hbefore, hid⟩ := hbefore
          rw [hid]
          exact hbody before hbefore
      | inr hnew =>
          rw [SnapshotContents.joined] at hnew
          split at hnew
          · cases hnew
          · have hsame := congrArg Prod.fst (List.mem_singleton.mp hnew)
            exact absurd hsame hlt.ne
  | inr hnew =>
      obtain rfl := List.mem_singleton.mp hnew
      obtain rfl := Option.some.inj ha
      refine ⟨Nat.lt_succ_self _, fun body hafter => ?_⟩
      dsimp only [admitted] at hafter ⊢
      cases hbefore : w.simulation.mPlayers[w.nextPlayerId]? with
      | some existing =>
          simp only [Simulation.addPlayer, hbefore] at hafter ⊢
          rw [Option.some.inj hafter]
      | none =>
          have hfresh : w.nextPlayerId ∉ w.simulation.mPlayers := by simpa using hbefore
          simp only [Simulation.addPlayer, hbefore, ExtTreeMap.getElem?_insertIfNew,
            Nat.compare_eq_eq, true_and, if_pos hfresh, Option.some.injEq] at hafter ⊢
          rw [← hafter]

theorem Hosted.step (h : Hosted setup w log) (e : Event F) :
    Hosted setup (step setup w e) (log ++ responses setup w e) := by
  have harrivals := step_arrivals setup w e
  have hgrows := mNextId_le_step setup w e
  constructor
  · exact h.accounted.step e
  · exact step_of_preserved setup Registration.preserved_filed h.filed
      fun request id token session now _ => h.filed.join setup request id token session now
  · intro c player hplayer
    cases Endpoints.step_origin setup w e hplayer with
    | carried before hbefore hsame =>
        simp only [Endpoints.endpoint, Prod.mk.injEq] at hsame
        obtain ⟨r, hr, hid, a, ha, hplayerId, htoken⟩ := h.announced c before hbefore
        exact ⟨r, List.mem_append_left _ hr, hid, a, ha, hplayerId.trans hsame.1.symm,
          htoken.trans hsame.2.1.symm⟩
    | fresh hjoining hid hunbound hnext =>
        obtain ⟨token, session, now, dbClient, hstep, hsaid⟩ := step_join setup hjoining
        rw [hstep] at hplayer
        rw [hsaid]
        exact h.announced_join hplayer
    | bound b haccepted hconnection hbefore hsame =>
        simp only [Endpoints.endpoint, Prod.mk.injEq] at hsame
        obtain ⟨r, hr, hid, a, ha, hplayerId, htoken⟩ := h.announced c b.player hbefore
        exact ⟨r, List.mem_append_left _ hr, hid, a, ha, hplayerId.trans hsame.1.symm,
          htoken.trans hsame.2.1.symm⟩
  · intro r hr a ha
    cases hjoining : joining w e with
    | none =>
        cases List.mem_append.mp hr with
        | inl hold =>
            obtain ⟨hlt, hbody⟩ := h.embodied r hold a ha
            refine ⟨Nat.lt_of_lt_of_le hlt (Endpoints.step_nextPlayerId_le setup w e),
              fun body hafter => ?_⟩
            obtain ⟨before, hbefore, hid⟩ := bodied_step setup w hjoining a.playerId body hafter
            rw [hid]
            exact hbody before hbefore
        | inr hnew =>
            rw [admission_eq_none setup hjoining hnew] at ha
            cases ha
    | some pair =>
        obtain ⟨request, id⟩ := pair
        obtain ⟨token, session, now, dbClient, hstep, hsaid⟩ := step_join setup hjoining
        rw [hsaid] at hr
        rw [hstep]
        exact h.embodied_join hr ha
  · intro c hc
    by_cases he : e = .accept
    · subst he
      cases (TcpServer.mem_accept _ _).mp hc with
      | inl hnew =>
          rw [hnew]
          exact Nat.lt_succ_self _
      | inr hold => exact Nat.lt_succ_of_lt (h.live c hold)
    · exact Nat.lt_of_lt_of_le (h.live c ((closing_step setup he).2 c hc)) hgrows
  · intro entry hentry
    rw [harrivals] at hentry
    cases List.mem_append.mp hentry with
    | inl hold => exact Nat.lt_of_lt_of_le (h.arrived entry hold) hgrows
    | inr hnew =>
        cases e with
        | message id m =>
            rw [recorded] at hnew
            split at hnew
            · rename_i hlive
              obtain rfl := List.mem_singleton.mp hnew
              exact Nat.lt_of_lt_of_le (h.live id hlive) hgrows
            · cases hnew
        | _ => cases hnew

end Hosts

end UntitledGame.Server.Incumbents
