import UntitledGame.Server.Membership

/-!
# What the world server does over UDP

Three effects of a step are given as values: the hello that it accepts
(`accepted`), the inputs that it hands to `Simulation::setInput` (`setInputs`), and
the snapshot packets that it makes (`snapshots`).

Most work does none of this: `Quiet` says so, and that it leaves the endpoints of the
players alone.
-/

namespace UntitledGame.Server.Endpoints

open Net Sim WorldServer
open Client (Address)
open Std (ExtTreeMap)

section Tokens

theorem foldl_or_eq_zero (bs : Bytes) (acc : UInt8) :
    bs.foldl (· ||| ·) acc = 0 ↔ acc = 0 ∧ ∀ b ∈ bs, b = 0 := by
  induction bs generalizing acc with
  | nil => simp
  | cons b bs ih =>
      rw [List.foldl_cons, ih, UInt8.or_eq_zero_iff, List.forall_mem_cons, and_assoc]

/-- The bytes of two strings of one length differ in no place. -/
theorem forall_zipWith_xor (a b : Bytes) (h : a.length = b.length) :
    (∀ c ∈ List.zipWith (· ^^^ ·) a b, c = 0) ↔ a = b := by
  induction a generalizing b with
  | nil =>
      obtain rfl := List.length_eq_zero_iff.mp h.symm
      simp
  | cons x xs ih =>
      cases b with
      | nil => cases h
      | cons y ys =>
          rw [List.zipWith_cons_cons, List.forall_mem_cons, ih ys (Nat.succ.inj h),
            UInt8.xor_eq_zero_iff, List.cons.injEq]

theorem constantTimeEquals_iff (a b : Bytes) : constantTimeEquals a b = true ↔ a = b := by
  rw [constantTimeEquals]
  by_cases hlength : a.length = b.length
  · rw [if_neg (not_not.mpr hlength), decide_eq_true_iff, foldl_or_eq_zero,
      forall_zipWith_xor a b hlength]
    exact and_iff_right rfl
  · rw [if_pos hlength]
    constructor
    · intro h
      cases h
    · rintro rfl
      exact absurd rfl hlength

end Tokens

variable {F : Type*}

/-- A hello whose token is that of the entry that it leads to. -/
structure Accepted (F : Type*) where
  connection : Nat
  player : Player F
  hello : ClientHello
  source : Address

/-- The hello that a step accepts. -/
def accepted (w : WorldServer F) : Event F → Option (Accepted F)
  | .datagram data source _ =>
      (decodeClientHello (data.take kDatagramSize)).bind fun hello =>
        (w.connectionByPlayer[hello.playerId.toNat]?).bind fun connection =>
          (w.playersByConnection[connection]?).bind fun player =>
            if constantTimeEquals player.token hello.token then
              some ⟨connection, player, hello, source⟩
            else none
  | _ => none

/-- The entry of a player after a hello from `source`. -/
def bindTo (player : Player F) (source : Address) (now : Clocks F) : Player F :=
  { player with udpBound := true, udpAddress := source, lastUdpPacket := now.steadySeconds }

/-- Who a player is to the UDP side: its id, its token, and its address if it has one. -/
def endpoint (player : Player F) : Nat × Bytes × Bool × Address :=
  (player.playerId, player.token, player.udpBound, player.udpAddress)

variable [Scalar F] (setup : Setup F)

/-- The player and the input that a datagram is taken for, if it is. -/
def submitted (w : WorldServer F) (data : Bytes) (source : Address) :
    Option (Nat × CharacterInput F) :=
  (w.findPlayerByUdp source).bind fun p =>
    (decodeClientInput (data.take kDatagramSize)).bind fun input =>
      if input.claimedId.toNat = p.2.playerId then some (p.2.playerId, playerInput setup input)
      else none

/-- What a step takes from a datagram, to be set now or later. -/
def taken (w : WorldServer F) : Event F → Option (Nat × CharacterInput F)
  | .datagram data source _ => submitted setup w data source
  | _ => none

/-- The delayed inputs that are due. -/
def dueInputs (w : WorldServer F) (now : F) : List (Nat × CharacterInput F) :=
  (w.delayedInputs.takeWhile (·.dueAt ≤ now)).map fun d => (d.playerId, d.input)

/-- The calls of `Simulation::setInput` that a step makes. -/
def setInputs (w : WorldServer F) : Event F → List (Nat × CharacterInput F)
  | .datagram data source _ =>
      if 0 < w.simulatedLatencyMs then [] else (submitted setup w data source).toList
  | .release now => dueInputs w now
  | _ => []

/-- A snapshot packet, with the player that it is made for and where it goes. -/
structure Outgoing where
  playerId : Nat
  address : Address
  packet : Bytes
  deriving DecidableEq, Repr

/-- The packet for one player, if it is bound. -/
def packetFor (snapshot : Snapshot UInt32) (player : Player F) : Option Outgoing :=
  if player.udpBound then
    some ⟨player.playerId, player.udpAddress,
      Client.Replication.snapshotPacket player.outgoingSequence snapshot⟩
  else none

/-- The snapshot of the tick that a step makes. -/
def tickSnapshot (w : WorldServer F) (now : Clocks F) : Snapshot UInt32 :=
  Client.Replication.outgoing setup.phys setup.toBits
    (w.simulation.step setup.phys tickSeconds now.clock) now.nowMs

/-- The snapshot packets that a step makes. -/
def snapshots (w : WorldServer F) : Event F → List Outgoing
  | .tick now =>
      w.playersByConnection.toList.filterMap fun p => packetFor (tickSnapshot setup w now) p.2
  | _ => []

section Quiet

/-- Every entry of the later state was there before, with the same endpoint. -/
def Carries (w w' : WorldServer F) : Prop :=
  ∀ (c : Nat) (after : Player F), w'.playersByConnection[c]? = some after →
    ∃ before, w.playersByConnection[c]? = some before ∧ endpoint after = endpoint before

/-- The input that a call of the simulation sets. -/
def inputOf : Simulation.Call F → Option (Nat × CharacterInput F)
  | .setInput playerId input => some (playerId, input)
  | _ => none

/-- The simulation has gone on by calls, of which these set inputs. -/
def Drives (s s' : Simulation F) (inputs : List (Nat × CharacterInput F)) : Prop :=
  ∃ calls, s' = Lib.Runs.run (Simulation.call setup.phys) s calls ∧ calls.filterMap inputOf = inputs

/-- The part of the state that the UDP side is about. -/
def udpState (w : WorldServer F) : ExtTreeMap Nat (Player F) × Simulation F × Nat ×
    List (DelayedInput F) × List (DelayedPacket F) × List (Address × Bytes) :=
  (w.playersByConnection, w.simulation, w.nextPlayerId, w.delayedInputs, w.delayedOutgoing,
    w.datagrams)

/-- Nothing happens on the UDP side. -/
structure Quiet (w w' : WorldServer F) : Prop where
  carries : Carries w w'
  drives : Drives setup w.simulation w'.simulation []
  nextPlayerId : w.nextPlayerId ≤ w'.nextPlayerId
  delayedInputs : w'.delayedInputs = w.delayedInputs
  delayedOutgoing : w'.delayedOutgoing = w.delayedOutgoing
  datagrams : w'.datagrams = w.datagrams

theorem Drives.refl (s : Simulation F) : Drives setup s s [] := ⟨[], rfl, rfl⟩

theorem Drives.call (s : Simulation F) (call : Simulation.Call F) :
    Drives setup s (Simulation.call setup.phys s call) (inputOf call).toList := by
  refine ⟨[call], rfl, ?_⟩
  cases h : inputOf call with
  | none => rw [List.filterMap_cons_none h, List.filterMap_nil, Option.toList_none]
  | some input => rw [List.filterMap_cons_some h, List.filterMap_nil, Option.toList_some]

/-- The inputs of a list are set one after the other. -/
theorem Drives.setInputs (s : Simulation F) (inputs : List (Nat × CharacterInput F)) :
    Drives setup s (inputs.foldl (fun s i => s.setInput i.1 i.2) s) inputs := by
  refine ⟨inputs.map fun i => .setInput i.1 i.2, ?_, ?_⟩
  · rw [Lib.Runs.run, List.foldl_map]
    rfl
  · rw [List.filterMap_map]
    exact List.filterMap_some

variable {setup}

theorem Drives.trans {s s' s'' : Simulation F} {inputs inputs' : List (Nat × CharacterInput F)}
    (h : Drives setup s s' inputs) (h' : Drives setup s' s'' inputs') :
    Drives setup s s'' (inputs ++ inputs') := by
  obtain ⟨calls, rfl, rfl⟩ := h
  obtain ⟨calls', rfl, rfl⟩ := h'
  exact ⟨calls ++ calls', (Lib.Runs.run_append _ _ _ _).symm, List.filterMap_append⟩

omit [Scalar F] in
theorem Carries.refl (w : WorldServer F) : Carries w w := fun _ after h => ⟨after, h, rfl⟩

omit [Scalar F] in
/-- An entry overwritten by one that has its endpoint. -/
theorem Carries.insert {w w' : WorldServer F} (h : Carries w w') {c : Nat}
    {before player : Player F} (hbefore : w.playersByConnection[c]? = some before)
    (hsame : endpoint player = endpoint before) :
    Carries w { w' with playersByConnection := w'.playersByConnection.insert c player } := by
  intro d after hafter
  rw [ExtTreeMap.getElem?_insert] at hafter
  split at hafter
  · rename_i hd
    obtain rfl := Std.LawfulEqCmp.eq_of_compare hd
    obtain rfl := Option.some.inj hafter
    exact ⟨before, hbefore, hsame⟩
  · exact h d after hafter

namespace Quiet

variable {w w' w'' : WorldServer F}

/-- Work on the rest of the state. -/
theorem of_eq (h : udpState w' = udpState w) : Quiet setup w w' := by
  simp only [udpState, Prod.mk.injEq] at h
  obtain ⟨hplayers, hsimulation, hnext, hinputs, houtgoing, hdatagrams⟩ := h
  constructor
  · intro c after hafter
    rw [hplayers] at hafter
    exact ⟨after, hafter, rfl⟩
  · rw [hsimulation]
    exact Drives.refl setup w.simulation
  · exact hnext.ge
  · exact hinputs
  · exact houtgoing
  · exact hdatagrams

theorem refl (w : WorldServer F) : Quiet setup w w := of_eq rfl

theorem trans (h : Quiet setup w w') (h' : Quiet setup w' w'') : Quiet setup w w'' where
  carries c after hafter := by
    obtain ⟨mid, hmid, hsame'⟩ := h'.carries c after hafter
    obtain ⟨before, hbefore, hsame⟩ := h.carries c mid hmid
    exact ⟨before, hbefore, hsame'.trans hsame⟩
  drives := h.drives.trans h'.drives
  nextPlayerId := h.nextPlayerId.trans h'.nextPlayerId
  delayedInputs := h'.delayedInputs.trans h.delayedInputs
  delayedOutgoing := h'.delayedOutgoing.trans h.delayedOutgoing
  datagrams := h'.datagrams.trans h.datagrams

theorem foldl {α : Type*} {f : WorldServer F → α → WorldServer F}
    (hf : ∀ w a, Quiet setup w (f w a)) (items : List α) (w : WorldServer F) :
    Quiet setup w (items.foldl f w) := by
  induction items generalizing w with
  | nil => exact refl w
  | cons a rest ih => exact (hf w a).trans (ih (f w a))

end Quiet

variable (setup) (w : WorldServer F)

theorem quiet_send (id : Nat) (type : WorldMessage) (payload : Bytes) :
    Quiet setup w (w.send id type payload) :=
  Quiet.of_eq rfl

theorem quiet_replyCommand (id : Nat) (command : WorldMessage) (result : UInt8) :
    Quiet setup w (w.replyCommand setup id command result) := by
  rw [replyCommand]
  split
  · exact quiet_send setup w _ _ _
  · exact quiet_send setup w _ _ _

theorem quiet_removePlayer (id : Nat) : Quiet setup w (w.removePlayer id) := by
  rw [removePlayer]
  split
  · exact Quiet.refl w
  · rename_i player hplayer
    refine ⟨fun c after hafter => ⟨after, ?_, rfl⟩, ?_, Nat.le_refl _, rfl, rfl, rfl⟩
    · dsimp only at hafter
      rw [ExtTreeMap.getElem?_erase] at hafter
      split at hafter
      · cases hafter
      · exact hafter
    · exact Drives.call setup w.simulation (.removePlayer player.playerId)

theorem quiet_onJoinRequest (request id : Nat) (data : Bytes) :
    Quiet setup w (w.onJoinRequest request id data) := by
  rw [onJoinRequest]
  dsimp only
  split
  · exact quiet_send setup w _ _ _
  · split
    · exact quiet_send setup w _ _ _
    · split
      · exact Quiet.refl w
      · exact Quiet.of_eq rfl

theorem quiet_onSetLatencyRequest (request id : Nat) (data : Bytes) :
    Quiet setup w (w.onSetLatencyRequest request id data) := by
  rw [onSetLatencyRequest]
  dsimp only
  split
  · exact quiet_send setup w _ _ _
  · exact Quiet.of_eq rfl

theorem quiet_onCommandRequest (request id : Nat) (command : WorldMessage) (data : Bytes) :
    Quiet setup w (w.onCommandRequest setup request id command data) := by
  rw [onCommandRequest]
  dsimp only
  split
  · exact quiet_replyCommand setup w _ _ _
  · exact Quiet.of_eq rfl

theorem quiet_onMessage (id : Nat) (m : Message) : Quiet setup w (w.onMessage setup id m) := by
  have harrive : Quiet setup w { w with arrivals := w.arrivals ++ [(id, m)] } :=
    Quiet.of_eq rfl
  rw [onMessage]
  split
  · exact harrive.trans (quiet_onJoinRequest setup _ _ _ _)
  · exact harrive.trans (quiet_onSetLatencyRequest setup _ _ _ _)
  · exact harrive.trans (quiet_onCommandRequest setup _ _ _ _ _)
  · exact harrive.trans (quiet_onCommandRequest setup _ _ _ _ _)
  · exact harrive.trans ((quiet_send setup _ _ _ _).trans (quiet_removePlayer setup _ id))
  · exact harrive

theorem quiet_onLatencyLookup (id : Nat) (milliseconds : UInt32) (result : Option (Bool × Session)) :
    Quiet setup w (w.onLatencyLookup id milliseconds result) := by
  rcases result with _ | ⟨_ | _, session⟩
  · exact quiet_send setup w _ _ _
  · exact quiet_send setup w _ _ _
  · rw [onLatencyLookup]
    split
    · exact quiet_send setup w _ _ _
    · exact Quiet.of_eq rfl

/-- A command is a call of the simulation, or none. -/
theorem drives_runCommand (s : Simulation F) (command : WorldMessage) (timeCommand : UInt8)
    (value : F) (now : ClockReading F) :
    Drives setup s (runCommand setup s command timeCommand value now) [] := by
  rw [runCommand]
  split
  · split
    · exact Drives.call setup s (.resetClock now)
    · exact Drives.call setup s (.setTimeSpeed _ now)
    · exact Drives.call setup s (.setTimeOfDay value now)
  · exact Drives.refl setup s

theorem quiet_onCommandLookup (id : Nat) (command : WorldMessage) (timeCommand : UInt8)
    (value : UInt32) (now : Clocks F) (result : Option (Bool × Session)) :
    Quiet setup w (w.onCommandLookup setup id command timeCommand value now result) := by
  rcases result with _ | ⟨_ | _, session⟩
  · exact quiet_replyCommand setup w _ _ _
  · exact quiet_replyCommand setup w _ _ _
  · rw [onCommandLookup]
    split
    · exact quiet_replyCommand setup w _ _ _
    · have hsimulation : Quiet setup w { w with
          simulation := runCommand setup w.simulation command timeCommand (setup.ofBits value)
            now.clock } :=
        ⟨Carries.refl w, drives_runCommand setup _ _ _ _ _, Nat.le_refl _, rfl, rfl, rfl⟩
      exact hsimulation.trans (quiet_replyCommand setup _ _ _ _)

theorem quiet_onReply_none (now : Clocks F) (handler : Handler) :
    Quiet setup w (onReply setup w now handler none) := by
  cases handler with
  | join request id token => exact quiet_send setup w _ _ _
  | setLatency request id milliseconds => exact quiet_onLatencyLookup setup w id milliseconds none
  | command request id command timeCommand value =>
      exact quiet_onCommandLookup setup w id command timeCommand value now none
  | sessionDeleted request => exact Quiet.refl w

theorem quiet_onDbLost (now : Clocks F) : Quiet setup w (w.onDbLost setup now) := by
  have hreconnected : Quiet setup w { w with dbClient := w.dbClient.reconnected } :=
    Quiet.of_eq rfl
  exact hreconnected.trans (Quiet.foldl (fun w handler => quiet_onReply_none setup w now handler) _ _)

theorem quiet_disconnect (id : Nat) : Quiet setup w (w.disconnect id) := by
  rw [disconnect]
  split
  · exact (quiet_removePlayer setup w id).trans (Quiet.of_eq rfl)
  · exact Quiet.refl w

theorem quiet_closeDeferred : Quiet setup w w.closeDeferred := by
  have hfold := Quiet.foldl (fun w id => quiet_disconnect setup w id) w.server.mClosing w
  exact hfold.trans (Quiet.of_eq rfl)

theorem quiet_sweep (now : F) : Quiet setup w (w.sweep setup now) := by
  have htimeOut : ∀ (w : WorldServer F) (id : Nat), Quiet setup w (w.timeOut id) := by
    intro w id
    exact (quiet_removePlayer setup w id).trans (Quiet.of_eq rfl)
  exact Quiet.foldl htimeOut _ w

end Quiet

end UntitledGame.Server.Endpoints
