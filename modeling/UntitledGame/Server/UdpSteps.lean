import UntitledGame.Server.Endpoints

/-!
# The steps of the world server, seen from UDP

`step_effect` is the one inversion of `step` that statements about the UDP side are
proved with. From it come three answers: where an entry of the player table comes
from (`step_origin`), and that nothing but the listed inputs reaches the simulation
and nothing but the listed packets the socket or the queue in front of it
(`step_drives` and `step_held`).
-/

namespace UntitledGame.Server.Endpoints

open Net Sim WorldServer
open Client (Address)
open Std (ExtTreeMap)

variable {F : Type*} [Scalar F] (setup : Setup F)

section Effect

/-- What a step comes to on the UDP side. -/
inductive Effect (w : WorldServer F) : Event F → WorldServer F → Prop
  | quiet {e : Event F} {w' : WorldServer F} (htaken : taken setup w e = none)
      (hinputs : setInputs setup w e = [])
      (hsnapshots : snapshots setup w e = []) (haccepted : accepted w e = none)
      (hquiet : Quiet setup w w') : Effect w e w'
  | joined {e : Event F} {request id : Nat} (token : Bytes) (session : Session) (now : F)
      (hjoining : joining w e = some (request, id)) {w' : WorldServer F}
      (hquiet : Quiet setup (w.join setup request id token session now) w') : Effect w e w'
  | bound {data : Bytes} {source : Address} {now : Clocks F} {b : Accepted F}
      (haccepted : accepted w (.datagram data source now) = some b) :
      Effect w (.datagram data source now)
        { w with playersByConnection :=
            w.playersByConnection.insert b.connection (bindTo b.player source now) }
  | queued {data : Bytes} {source : Address} {now : Clocks F} {p : Nat} {input : CharacterInput F}
      (haccepted : accepted w (.datagram data source now) = none)
      (hsubmitted : submitted setup w data source = some (p, input))
      (hlatency : 0 < w.simulatedLatencyMs) {w' : WorldServer F} (hquiet : Quiet setup w w') :
      Effect w (.datagram data source now)
        { w' with delayedInputs := w.delayedInputs ++
            [⟨now.steadySeconds + w.latencySeconds, p, input⟩] }
  | applied {data : Bytes} {source : Address} {now : Clocks F} {p : Nat} {input : CharacterInput F}
      (haccepted : accepted w (.datagram data source now) = none)
      (hsubmitted : submitted setup w data source = some (p, input))
      (hlatency : ¬ 0 < w.simulatedLatencyMs) {w' : WorldServer F} (hquiet : Quiet setup w w') :
      Effect w (.datagram data source now)
        { w' with simulation := w.simulation.setInput p input }
  | tick (now : Clocks F) : Effect w (.tick now) (w.onTick setup now)
  | release (now : F) : Effect w (.release now) (w.release now)

variable (w : WorldServer F)

/-- The hello of a datagram with this header. -/
theorem decodeClientHello_of_header {data : Bytes} {header : UdpHeader} {offset : Nat}
    (h : readUdpHeader data = some (header, offset)) :
    decodeClientHello data =
      if WorldMessage.ofU16 header.type = some .clientHello then
        let (hello, failed) := (readClientHello (.start (data.drop offset))).1
        if failed then none else some hello
      else none := by
  rw [decodeClientHello, h]
  exact ite_not _ _ _

theorem decodeClientInput_of_header {data : Bytes} {header : UdpHeader} {offset : Nat}
    (h : readUdpHeader data = some (header, offset)) :
    decodeClientInput data =
      if WorldMessage.ofU16 header.type = some .clientInput then
        let (input, failed) := (readClientInput (.start (data.drop offset))).1
        if failed then none else some input
      else none := by
  rw [decodeClientInput, h]
  exact ite_not _ _ _

/-- A hello is no input. -/
theorem decodeClientInput_of_hello {data : Bytes} {hello : ClientHello}
    (h : decodeClientHello data = some hello) : decodeClientInput data = none := by
  cases hheader : readUdpHeader data with
  | none => rw [decodeClientInput, hheader]
  | some header =>
      obtain ⟨header, offset⟩ := header
      rw [decodeClientHello_of_header hheader] at h
      split at h
      · rename_i htype
        rw [decodeClientInput_of_header hheader, htype, if_neg (by decide)]
      · cases h

omit [Scalar F] in
/-- A hello binds exactly if it is accepted. -/
theorem onClientHello_eq {data : Bytes} {source : Address} (now : Clocks F) {header : UdpHeader}
    {offset : Nat} (h : readUdpHeader (data.take kDatagramSize) = some (header, offset))
    (htype : WorldMessage.ofU16 header.type = some .clientHello) :
    w.onClientHello ((data.take kDatagramSize).drop offset) source now =
      match accepted w (.datagram data source now) with
      | none => w
      | some b =>
          { w with playersByConnection :=
              w.playersByConnection.insert b.connection (bindTo b.player source now) } := by
  rw [accepted, decodeClientHello_of_header h, if_pos htype, onClientHello]
  dsimp only
  split
  · rfl
  · rw [Option.bind_some]
    split
    · rename_i hconnection
      rw [hconnection, Option.bind_none]
    · rename_i connection hconnection
      rw [hconnection, Option.bind_some]
      split
      · rename_i hplayer
        rw [hplayer, Option.bind_none]
      · rename_i player hplayer
        rw [hplayer, Option.bind_some]
        split
        · rename_i htoken
          rw [if_neg (by simpa using htoken)]
        · rename_i htoken
          rw [if_pos (by simpa using htoken)]
          rfl

omit [Scalar F] in
/-- The entry that an address leads to is in the table. -/
theorem findPlayerByUdp_mem {source : Address} {c : Nat} {player : Player F}
    (h : w.findPlayerByUdp source = some (c, player)) :
    w.playersByConnection[c]? = some player ∧ player.udpBound = true ∧
      player.udpAddress = source := by
  have hmem := ExtTreeMap.mem_toList_iff_getElem?_eq_some.mp (List.mem_of_find?_eq_some h)
  have hfits := List.find?_some h
  simp only [Bool.and_eq_true, decide_eq_true_eq] at hfits
  exact ⟨hmem, hfits.1, hfits.2⟩

/-- Hearing from a player touches nothing but the time of its last packet. -/
theorem quiet_heard {source : Address} {c : Nat} {player : Player F} (now : F)
    (h : w.findPlayerByUdp source = some (c, player)) :
    Quiet setup w { w with playersByConnection :=
      w.playersByConnection.insert c { player with lastUdpPacket := now } } := by
  have hmem := (findPlayerByUdp_mem w h).1
  exact ⟨(Carries.refl w).insert hmem rfl, Drives.refl setup _, Nat.le_refl _, rfl, rfl, rfl⟩

/-- Nothing is taken from a datagram. -/
theorem Effect.ignored {data : Bytes} {source : Address} (now : Clocks F) {w' : WorldServer F}
    (haccepted : accepted w (.datagram data source now) = none)
    (hsubmitted : submitted setup w data source = none) (hquiet : Quiet setup w w') :
    Effect setup w (.datagram data source now) w' := by
  refine .quiet hsubmitted ?_ rfl haccepted hquiet
  rw [setInputs, hsubmitted]
  exact ite_self _

/-- A player that is heard sends an input packet, which counts if it can be read and names it. -/
theorem onClientInput_effect {data : Bytes} {source : Address} (now : Clocks F) {header : UdpHeader}
    {offset c : Nat} {player : Player F}
    (hheader : readUdpHeader (data.take kDatagramSize) = some (header, offset))
    (htype : WorldMessage.ofU16 header.type = some .clientInput)
    (haccepted : accepted w (.datagram data source now) = none)
    (hfound : w.findPlayerByUdp source = some (c, player)) :
    Effect setup w (.datagram data source now)
      (({ w with playersByConnection :=
          w.playersByConnection.insert c { player with lastUdpPacket := now.steadySeconds } } :
            WorldServer F).onClientInput setup { player with lastUdpPacket := now.steadySeconds }
              ((data.take kDatagramSize).drop offset) now) := by
  have hheard := quiet_heard setup w now.steadySeconds hfound
  have hsubmitted : submitted setup w data source =
      (decodeClientInput (data.take kDatagramSize)).bind fun input =>
        if input.claimedId.toNat = player.playerId then
          some (player.playerId, playerInput setup input)
        else none := by
    rw [submitted, hfound, Option.bind_some]
  rw [decodeClientInput_of_header hheader, if_pos htype] at hsubmitted
  rw [onClientInput]
  dsimp only at hsubmitted ⊢
  by_cases hfailed : (readClientInput (.start ((data.take kDatagramSize).drop offset))).1.2 = true
  · rw [if_pos hfailed, Option.bind_none] at hsubmitted
    rw [if_pos (by simp [hfailed])]
    exact Effect.ignored setup w now haccepted hsubmitted hheard
  · rw [if_neg hfailed, Option.bind_some] at hsubmitted
    by_cases hnamed : (readClientInput
        (.start ((data.take kDatagramSize).drop offset))).1.1.claimedId.toNat = player.playerId
    · rw [if_pos hnamed] at hsubmitted
      rw [if_neg (by simp [hfailed, hnamed])]
      split
      · rename_i hlatency
        exact .queued haccepted hsubmitted hlatency hheard
      · rename_i hlatency
        exact .applied haccepted hsubmitted hlatency hheard
    · rw [if_neg hnamed] at hsubmitted
      rw [if_pos (by simp [hnamed])]
      exact Effect.ignored setup w now haccepted hsubmitted hheard

/-- A datagram that can be read as no input submits none. -/
theorem submitted_of_undecodable {data : Bytes} (source : Address)
    (h : decodeClientInput (data.take kDatagramSize) = none) :
    submitted setup w data source = none := by
  rw [submitted, h]
  exact Option.bind_fun_none _

theorem onDatagram_effect (data : Bytes) (source : Address) (now : Clocks F) :
    Effect setup w (.datagram data source now) (w.onDatagram setup data source now) := by
  rw [onDatagram]
  dsimp only
  cases hheader : readUdpHeader (data.take kDatagramSize) with
  | none =>
      have hhello : decodeClientHello (data.take kDatagramSize) = none := by
        rw [decodeClientHello, hheader]
      have hinput : decodeClientInput (data.take kDatagramSize) = none := by
        rw [decodeClientInput, hheader]
      have hsubmitted := submitted_of_undecodable setup w source hinput
      refine Effect.ignored setup w now ?_ hsubmitted (Quiet.refl w)
      rw [accepted, hhello, Option.bind_none]
  | some header =>
      obtain ⟨header, offset⟩ := header
      dsimp only
      by_cases htype : WorldMessage.ofU16 header.type = some .clientHello
      · have hinput : decodeClientInput (data.take kDatagramSize) = none := by
          rw [decodeClientInput_of_header hheader, htype, if_neg (by decide)]
        have hsubmitted := submitted_of_undecodable setup w source hinput
        rw [if_pos htype, onClientHello_eq w now hheader htype]
        cases haccepted : accepted w (.datagram data source now) with
        | none => exact Effect.ignored setup w now haccepted hsubmitted (Quiet.refl w)
        | some b => exact .bound haccepted
      · have haccepted : accepted w (.datagram data source now) = none := by
          rw [accepted, decodeClientHello_of_header hheader, if_neg htype, Option.bind_none]
        rw [if_neg htype]
        cases hfound : w.findPlayerByUdp source with
        | none =>
            refine Effect.ignored setup w now haccepted ?_ (Quiet.refl w)
            rw [submitted, hfound, Option.bind_none]
        | some found =>
            obtain ⟨c, player⟩ := found
            dsimp only
            by_cases hinput : WorldMessage.ofU16 header.type = some .clientInput
            · rw [if_pos hinput]
              exact onClientInput_effect setup w now hheader hinput haccepted hfound
            · have hnone : decodeClientInput (data.take kDatagramSize) = none := by
                rw [decodeClientInput_of_header hheader, if_neg hinput]
              have hsubmitted := submitted_of_undecodable setup w source hnone
              have hheard := quiet_heard setup w now.steadySeconds hfound
              rw [if_neg hinput]
              exact Effect.ignored setup w now haccepted hsubmitted hheard

theorem onDbReply_effect (requestId : Nat) (reply : DbReply) (now : Clocks F) :
    Effect setup w (.reply requestId reply now) (w.onDbReply setup requestId reply now) := by
  have hquiet : ∀ w' : WorldServer F, Quiet setup w w' →
      Effect setup w (.reply requestId reply now) w' := fun w' h => .quiet rfl rfl rfl rfl h
  rw [onDbReply]
  cases hanswer : w.dbClient.answer requestId with
  | none => exact hquiet _ (Quiet.refl w)
  | some answer =>
      obtain ⟨handler, dbClient⟩ := answer
      obtain ⟨hpending, -⟩ := DbClient.answer_eq_some hanswer
      have hanswered : Quiet setup w { w with dbClient := dbClient } := Quiet.of_eq rfl
      dsimp only
      cases handler with
      | join request id token =>
          rw [onReply]
          cases hresult : sessionLookupResult (some reply) with
          | none => exact hquiet _ (hanswered.trans (quiet_send setup _ _ _ _))
          | some result =>
              obtain ⟨found, session⟩ := result
              cases found with
              | false => exact hquiet _ (hanswered.trans (quiet_send setup _ _ _ _))
              | true =>
                  obtain rfl := Option.some.inj (sessionLookupResult_eq_some.mp hresult)
                  have hjoining : joining w (.reply requestId (.sessionLookup true session) now) =
                      some (request, id) := by
                    simp only [joining, hpending]
                  exact .joined token session now.steadySeconds hjoining (Quiet.of_eq rfl)
      | setLatency request id milliseconds =>
          exact hquiet _ (hanswered.trans (quiet_onLatencyLookup setup _ _ _ _))
      | command request id command timeCommand value =>
          exact hquiet _ (hanswered.trans (quiet_onCommandLookup setup _ _ _ _ _ _ _))
      | sessionDeleted request => exact hquiet _ hanswered

/-- Every step has one of the listed effects. -/
theorem step_effect (e : Event F) : Effect setup w e (step setup w e) := by
  have hquiet : ∀ w' : WorldServer F, taken setup w e = none → setInputs setup w e = [] →
      snapshots setup w e = [] → accepted w e = none → Quiet setup w w' → Effect setup w e w' :=
    fun w' htaken hinputs hsnapshots haccepted h => .quiet htaken hinputs hsnapshots haccepted h
  cases e with
  | accept => exact hquiet _ rfl rfl rfl rfl (Quiet.of_eq rfl)
  | message id m =>
      rw [step]
      split
      · exact hquiet _ rfl rfl rfl rfl (quiet_onMessage setup w id m)
      · exact hquiet _ rfl rfl rfl rfl (Quiet.refl w)
  | hangUp id =>
      rw [step]
      split
      · exact hquiet _ rfl rfl rfl rfl (Quiet.of_eq rfl)
      · exact hquiet _ rfl rfl rfl rfl (Quiet.refl w)
  | closeDeferred => exact hquiet _ rfl rfl rfl rfl (quiet_closeDeferred setup w)
  | reply requestId reply now => exact onDbReply_effect setup w requestId reply now
  | dbLost now => exact hquiet _ rfl rfl rfl rfl (quiet_onDbLost setup w now)
  | datagram data source now => exact onDatagram_effect setup w data source now
  | tick now => exact .tick now
  | release now => exact .release now
  | sweep now => exact hquiet _ rfl rfl rfl rfl (quiet_sweep setup w now)

end Effect

section Tick

variable (w : WorldServer F)

/-- What is in the socket or in the queue in front of it. -/
def held (w : WorldServer F) : List (Address × Bytes) :=
  w.datagrams ++ w.delayedOutgoing.map fun d => (d.address, d.data)

/-- One player of a tick, against the state at its start. -/
structure Ticked (w w' : WorldServer F) (now : Clocks F) (out : List Outgoing) : Prop where
  carries : Carries w w'
  simulation : w'.simulation = w.simulation.step setup.phys tickSeconds now.clock
  nextPlayerId : w'.nextPlayerId = w.nextPlayerId
  delayedInputs : w'.delayedInputs = w.delayedInputs
  held : (held w').Perm (held w ++ out.map fun o => (o.address, o.packet))

theorem held_sendSnapshot (snapshot : Snapshot UInt32) (now : Clocks F) (entry : Nat × Player F) :
    (held (sendSnapshot snapshot now w entry)).Perm
      (held w ++ (packetFor snapshot entry.2).toList.map fun o => (o.address, o.packet)) := by
  obtain ⟨c, player⟩ := entry
  rw [sendSnapshot, packetFor]
  dsimp only
  by_cases hbound : player.udpBound = true
  · rw [if_neg (by simp [hbound]), if_pos hbound]
    split
    · simp [held]
    · simp only [held, List.append_assoc]
      exact List.perm_append_comm.append_left _
  · rw [if_pos (by simpa using hbound), if_neg hbound]
    simp [held]

theorem Ticked.sendSnapshot {w w' : WorldServer F} {now : Clocks F} {out : List Outgoing}
    (h : Ticked setup w w' now out) (snapshot : Snapshot UInt32) {entry : Nat × Player F}
    (hentry : entry ∈ w.playersByConnection.toList) :
    Ticked setup w (WorldServer.sendSnapshot snapshot now w' entry) now
      (out ++ (packetFor snapshot entry.2).toList) := by
  have hheld : (Endpoints.held (WorldServer.sendSnapshot snapshot now w' entry)).Perm
      (Endpoints.held w ++
        (out ++ (packetFor snapshot entry.2).toList).map fun o => (o.address, o.packet)) := by
    rw [List.map_append, ← List.append_assoc]
    exact (held_sendSnapshot w' snapshot now entry).trans (h.held.append_right _)
  obtain ⟨c, player⟩ := entry
  have hbefore := ExtTreeMap.mem_toList_iff_getElem?_eq_some.mp hentry
  have hnumbered : endpoint { player with outgoingSequence := player.outgoingSequence + 1 } =
      endpoint player := rfl
  have hcarries := h.carries.insert hbefore hnumbered
  revert hheld
  rw [WorldServer.sendSnapshot]
  dsimp only
  split
  · exact fun hheld => ⟨h.carries, h.simulation, h.nextPlayerId, h.delayedInputs, hheld⟩
  · split
    · exact fun hheld => ⟨hcarries, h.simulation, h.nextPlayerId, h.delayedInputs, hheld⟩
    · exact fun hheld => ⟨hcarries, h.simulation, h.nextPlayerId, h.delayedInputs, hheld⟩

theorem onTick_ticked (now : Clocks F) :
    Ticked setup w (w.onTick setup now) now (snapshots setup w (.tick now)) := by
  have hfold : ∀ (entries : List (Nat × Player F)) (w' : WorldServer F) (out : List Outgoing),
      entries ⊆ w.playersByConnection.toList → Ticked setup w w' now out →
      Ticked setup w (entries.foldl (WorldServer.sendSnapshot (tickSnapshot setup w now) now) w') now
        (out ++ entries.filterMap fun p => packetFor (tickSnapshot setup w now) p.2) := by
    intro entries
    induction entries with
    | nil =>
        intro w' out _ h
        rw [List.filterMap_nil, List.append_nil]
        exact h
    | cons entry entries ih =>
        intro w' out hsubset h
        obtain ⟨hentry, hrest⟩ := List.cons_subset.mp hsubset
        have hnext := ih _ _ hrest (h.sendSnapshot setup (tickSnapshot setup w now) hentry)
        rw [List.append_assoc] at hnext
        rw [List.filterMap_cons]
        cases hpacket : packetFor (tickSnapshot setup w now) entry.2 with
        | none =>
            rw [hpacket] at hnext
            exact hnext
        | some o =>
            rw [hpacket] at hnext
            exact hnext
  have hstart : Ticked setup w
      { w with simulation := w.simulation.step setup.phys tickSeconds now.clock } now [] := by
    refine ⟨Carries.refl w, rfl, rfl, rfl, ?_⟩
    rw [List.map_nil, List.append_nil]
    exact List.Perm.refl _
  exact hfold _ _ [] (List.Subset.refl _) hstart

end Tick

section Steps

variable {w : WorldServer F} {e : Event F}

omit [Scalar F] in
/-- What an accepted hello is. -/
theorem accepted_eq_some {data : Bytes} {source : Address} {now : Clocks F} {b : Accepted F}
    (h : accepted w (.datagram data source now) = some b) :
    decodeClientHello (data.take kDatagramSize) = some b.hello ∧
      w.connectionByPlayer[b.hello.playerId.toNat]? = some b.connection ∧
      w.playersByConnection[b.connection]? = some b.player ∧
      b.player.token = b.hello.token ∧ b.source = source := by
  simp only [accepted, Option.bind_eq_some_iff, Option.ite_none_right_eq_some, Option.some.injEq,
    constantTimeEquals_iff] at h
  obtain ⟨hello, hhello, connection, hconnection, player, hplayer, htoken, rfl⟩ := h
  exact ⟨hhello, hconnection, hplayer, htoken, rfl⟩

omit [Scalar F] in
/-- Only a datagram carries a hello. -/
theorem accepted_datagram {b : Accepted F} (h : accepted w e = some b) :
    ∃ data now, e = .datagram data b.source now := by
  cases e with
  | datagram data source now =>
      obtain ⟨-, -, -, -, rfl⟩ := accepted_eq_some h
      exact ⟨data, now, rfl⟩
  | _ => cases h

/-- A datagram that is taken for an input comes from the address of the player that it names. -/
theorem submitted_eq_some {data : Bytes} {source : Address} {p : Nat} {input : CharacterInput F} :
    submitted setup w data source = some (p, input) ↔
      ∃ (c : Nat) (player : Player F) (body : ClientInput),
        w.findPlayerByUdp source = some (c, player) ∧
        decodeClientInput (data.take kDatagramSize) = some body ∧
        body.claimedId.toNat = player.playerId ∧ player.playerId = p ∧
        playerInput setup body = input := by
  simp only [submitted, Option.bind_eq_some_iff, Option.ite_none_right_eq_some, Option.some.injEq,
    Prod.exists, Prod.mk.injEq]
  constructor
  · rintro ⟨c, player, hfound, body, hbody, hnamed, hp, hinput⟩
    exact ⟨c, player, body, hfound, hbody, hnamed, hp, hinput⟩
  · rintro ⟨c, player, body, hfound, hbody, hnamed, hp, hinput⟩
    exact ⟨c, player, hfound, body, hbody, hnamed, hp, hinput⟩

variable (w e)

/-- The new player of a join is not bound. -/
theorem carries_join (request id : Nat) (token : Bytes) (session : Session) (now : F) {c : Nat}
    {after : Player F}
    (h : (w.join setup request id token session now).playersByConnection[c]? = some after) :
    w.playersByConnection[c]? = some after ∨
      c = id ∧ after.playerId = w.nextPlayerId ∧ after.udpBound = false := by
  rw [join_players] at h
  split at h
  · rename_i hnew
    obtain rfl := Option.some.inj h
    exact Or.inr ⟨hnew.1, rfl, rfl⟩
  · exact Or.inl h

/-- Where an entry of the table after a step comes from. -/
inductive Origin (c : Nat) (after : Player F) : Prop
  | carried (before : Player F) (hbefore : w.playersByConnection[c]? = some before)
      (hsame : endpoint after = endpoint before)
  | fresh {request : Nat} (hjoining : joining w e = some (request, c))
      (hid : after.playerId = w.nextPlayerId) (hunbound : after.udpBound = false)
      (hnext : w.nextPlayerId < (step setup w e).nextPlayerId)
  | bound (b : Accepted F) (haccepted : accepted w e = some b) (hconnection : b.connection = c)
      (hbefore : w.playersByConnection[c]? = some b.player)
      (hsame : endpoint after = (b.player.playerId, b.player.token, true, b.source))

theorem Origin.of_carries {w' : WorldServer F} (h : Carries w w') {c : Nat} {after : Player F}
    (hafter : w'.playersByConnection[c]? = some after) : Origin setup w e c after := by
  obtain ⟨before, hbefore, hsame⟩ := h c after hafter
  exact .carried before hbefore hsame

theorem step_origin {c : Nat} {after : Player F}
    (h : (step setup w e).playersByConnection[c]? = some after) : Origin setup w e c after := by
  have heffect := step_effect setup w e
  generalize hw' : step setup w e = w' at heffect h
  cases heffect with
  | quiet htaken hinputs hsnapshots haccepted hquiet => exact .of_carries setup w e hquiet.carries h
  | joined token session now hjoining hquiet =>
      obtain ⟨before, hbefore, hsame⟩ := hquiet.carries c after h
      simp only [endpoint, Prod.mk.injEq] at hsame
      cases carries_join setup w _ _ token session now hbefore with
      | inl hold => exact .carried before hold (by simp only [endpoint, hsame])
      | inr hnew =>
          obtain ⟨rfl, hid, hunbound⟩ := hnew
          refine .fresh hjoining (hsame.1.trans hid) (hsame.2.2.1.trans hunbound) ?_
          rw [hw']
          exact Nat.lt_of_lt_of_le (Nat.lt_succ_self _) hquiet.nextPlayerId
  | @bound data source now b haccepted =>
      obtain ⟨-, -, hplayer, -, hsource⟩ := accepted_eq_some haccepted
      dsimp only at h
      rw [ExtTreeMap.getElem?_insert] at h
      split at h
      · rename_i hc
        obtain rfl := Option.some.inj h
        obtain rfl := Std.LawfulEqCmp.eq_of_compare hc
        refine .bound b haccepted rfl hplayer ?_
        rw [hsource]
        rfl
      · exact .carried after h rfl
  | queued haccepted hsubmitted hlatency hquiet => exact .of_carries setup w _ hquiet.carries h
  | applied haccepted hsubmitted hlatency hquiet => exact .of_carries setup w _ hquiet.carries h
  | tick now => exact .of_carries setup w _ (onTick_ticked setup w now).carries h
  | release now => exact .carried after h rfl

/-- An accepted hello binds its player, and that is all. -/
theorem step_hello {data : Bytes} {source : Address} {now : Clocks F} {b : Accepted F}
    (h : accepted w (.datagram data source now) = some b) :
    step setup w (.datagram data source now) =
      { w with playersByConnection :=
          w.playersByConnection.insert b.connection (bindTo b.player source now) } := by
  have heffect := step_effect setup w (.datagram data source now)
  generalize step setup w _ = w' at heffect ⊢
  cases heffect with
  | quiet htaken hinputs hsnapshots haccepted hquiet =>
      rw [h] at haccepted
      cases haccepted
  | joined token session now hjoining hquiet => cases hjoining
  | bound haccepted =>
      obtain rfl := Option.some.inj (h.symm.trans haccepted)
      rfl
  | queued haccepted hsubmitted hlatency hquiet =>
      rw [h] at haccepted
      cases haccepted
  | applied haccepted hsubmitted hlatency hquiet =>
      rw [h] at haccepted
      cases haccepted

theorem step_accepted {b : Accepted F} (h : accepted w e = some b) :
    ∃ now, step setup w e =
      { w with playersByConnection :=
          w.playersByConnection.insert b.connection (bindTo b.player b.source now) } := by
  obtain ⟨data, now, rfl⟩ := accepted_datagram h
  exact ⟨now, step_hello setup w h⟩

/-- A hello is no input. -/
theorem submitted_of_accepted {data : Bytes} {source : Address} {now : Clocks F} {b : Accepted F}
    (h : accepted w (.datagram data source now) = some b) :
    submitted setup w data source = none := by
  obtain ⟨hhello, -⟩ := accepted_eq_some h
  exact submitted_of_undecodable setup w source (decodeClientInput_of_hello hhello)

/-- An input that is taken is set at once, or joins the queue. -/
theorem step_submitted {data : Bytes} {source : Address} (now : Clocks F) {p : Nat}
    {input : CharacterInput F} (h : submitted setup w data source = some (p, input)) :
    if 0 < w.simulatedLatencyMs then
      (step setup w (.datagram data source now)).delayedInputs =
        w.delayedInputs ++ [⟨now.steadySeconds + w.latencySeconds, p, input⟩]
    else
      (step setup w (.datagram data source now)).simulation = w.simulation.setInput p input := by
  have heffect := step_effect setup w (.datagram data source now)
  generalize step setup w _ = w' at heffect ⊢
  cases heffect with
  | quiet htaken hinputs hsnapshots haccepted hquiet =>
      rw [taken, h] at htaken
      cases htaken
  | joined token session now hjoining hquiet => cases hjoining
  | bound haccepted =>
      rw [submitted_of_accepted setup w haccepted] at h
      cases h
  | queued haccepted hsubmitted hlatency hquiet =>
      obtain ⟨rfl, rfl⟩ := Prod.mk.inj (Option.some.inj (h.symm.trans hsubmitted))
      rw [if_pos hlatency]
  | applied haccepted hsubmitted hlatency hquiet =>
      obtain ⟨rfl, rfl⟩ := Prod.mk.inj (Option.some.inj (h.symm.trans hsubmitted))
      rw [if_neg hlatency]

theorem step_nextPlayerId_le : w.nextPlayerId ≤ (step setup w e).nextPlayerId := by
  have heffect := step_effect setup w e
  generalize step setup w e = w' at heffect ⊢
  cases heffect with
  | quiet htaken hinputs hsnapshots haccepted hquiet => exact hquiet.nextPlayerId
  | joined token session now hjoining hquiet =>
      exact (Nat.le_succ _).trans hquiet.nextPlayerId
  | bound haccepted => exact Nat.le_refl _
  | queued haccepted hsubmitted hlatency hquiet => exact hquiet.nextPlayerId
  | applied haccepted hsubmitted hlatency hquiet => exact hquiet.nextPlayerId
  | tick now => exact (onTick_ticked setup w now).nextPlayerId.ge
  | release now => exact Nat.le_refl _

/-- Every input of the simulation comes from a call that is listed. -/
theorem step_drives : Drives setup w.simulation (step setup w e).simulation (setInputs setup w e) := by
  have heffect := step_effect setup w e
  generalize step setup w e = w' at heffect ⊢
  cases heffect with
  | quiet htaken hinputs hsnapshots haccepted hquiet =>
      rw [hinputs]
      exact hquiet.drives
  | @joined e request id token session now hjoining w' hquiet =>
      obtain ⟨requestId, session', now', token', rfl, -⟩ := joining_eq_some hjoining
      have hadded : Drives setup w.simulation (w.join setup request id token session now).simulation
          [] := Drives.call setup w.simulation (.addPlayer w.nextPlayerId)
      exact hadded.trans hquiet.drives
  | bound haccepted =>
      rename_i data source now b
      rw [setInputs, submitted_of_accepted setup w haccepted, Option.toList_none, ite_self]
      exact Drives.refl setup _
  | queued haccepted hsubmitted hlatency hquiet =>
      rw [setInputs, if_pos hlatency]
      exact hquiet.drives
  | applied haccepted hsubmitted hlatency hquiet =>
      rw [setInputs, if_neg hlatency, hsubmitted]
      exact Drives.call setup w.simulation (.setInput _ _)
  | tick now =>
      rw [(onTick_ticked setup w now).simulation]
      exact Drives.call setup w.simulation (.step tickSeconds now.clock)
  | release now =>
      have hdue := Drives.setInputs setup w.simulation (dueInputs w now)
      rw [dueInputs, List.foldl_map] at hdue
      exact hdue

/-- Every packet in the socket or in the queue is one that is listed. -/
theorem step_held : (held (step setup w e)).Perm
    (held w ++ (snapshots setup w e).map fun o => (o.address, o.packet)) := by
  have heffect := step_effect setup w e
  generalize step setup w e = w' at heffect ⊢
  have hsame : ∀ w' : WorldServer F, w'.datagrams = w.datagrams →
      w'.delayedOutgoing = w.delayedOutgoing → snapshots setup w e = [] →
      (held w').Perm (held w ++ (snapshots setup w e).map fun o => (o.address, o.packet)) := by
    intro w' hdatagrams houtgoing hnone
    rw [hnone, List.map_nil, List.append_nil, held, held, hdatagrams, houtgoing]
  cases heffect with
  | quiet htaken hinputs hsnapshots haccepted hquiet =>
      exact hsame _ hquiet.datagrams hquiet.delayedOutgoing hsnapshots
  | @joined e request id token session now hjoining w' hquiet =>
      obtain ⟨requestId, session', now', token', rfl, -⟩ := joining_eq_some hjoining
      exact hsame _ hquiet.datagrams hquiet.delayedOutgoing rfl
  | bound haccepted => exact hsame _ rfl rfl rfl
  | queued haccepted hsubmitted hlatency hquiet =>
      exact hsame _ hquiet.datagrams hquiet.delayedOutgoing rfl
  | applied haccepted hsubmitted hlatency hquiet =>
      exact hsame _ hquiet.datagrams hquiet.delayedOutgoing rfl
  | tick now => exact (onTick_ticked setup w now).held
  | release now =>
      have hnone : snapshots setup w (.release now) = [] := rfl
      rw [hnone, List.map_nil, List.append_nil, held, held, release, List.append_assoc]
      have hqueue : w.delayedOutgoing.map (fun d => (d.address, d.data)) =
          (w.delayedOutgoing.takeWhile (·.dueAt ≤ now)).map (fun d => (d.address, d.data)) ++
            (w.delayedOutgoing.dropWhile (·.dueAt ≤ now)).map fun d => (d.address, d.data) := by
        rw [← List.map_append, List.takeWhile_append_dropWhile]
      rw [hqueue]

/-- A delayed input was taken from a datagram. -/
theorem step_delayedInputs {d : DelayedInput F} (h : d ∈ (step setup w e).delayedInputs) :
    d ∈ w.delayedInputs ∨ ∃ data source now, e = .datagram data source now ∧
      submitted setup w data source = some (d.playerId, d.input) := by
  have heffect := step_effect setup w e
  generalize step setup w e = w' at heffect h
  cases heffect with
  | quiet htaken hinputs hsnapshots haccepted hquiet => exact Or.inl (hquiet.delayedInputs ▸ h)
  | joined token session now hjoining hquiet => exact Or.inl (hquiet.delayedInputs ▸ h)
  | bound haccepted => exact Or.inl h
  | @queued data source now p input haccepted hsubmitted hlatency w' hquiet =>
      cases List.mem_append.mp h with
      | inl hold => exact Or.inl hold
      | inr hnew =>
          obtain rfl := List.mem_singleton.mp hnew
          exact Or.inr ⟨data, source, now, rfl, hsubmitted⟩
  | applied haccepted hsubmitted hlatency hquiet => exact Or.inl (hquiet.delayedInputs ▸ h)
  | tick now => exact Or.inl ((onTick_ticked setup w now).delayedInputs ▸ h)
  | release now => exact Or.inl (List.dropWhile_suffix _ |>.subset h)

end Steps

end UntitledGame.Server.Endpoints
