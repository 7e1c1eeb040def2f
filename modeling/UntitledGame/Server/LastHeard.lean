import UntitledGame.Server.Codecs
import UntitledGame.Server.UdpSteps

/-!
# When a player was heard last

The sweep drops the players that are bound and were heard too long ago
(`sweep_players`). A player is heard by a datagram, and by nothing else
(`step_lastHeard`): by the hello that binds it, whoever sends it, and by any other
packet whose source leads to it (`step_hello` and `lastHeard_input`).
-/

namespace UntitledGame.Server.LastHeard

open Net Sim WorldServer Endpoints
open Client (Address NetClient)
open Std (ExtTreeMap)

variable {F : Type*}

/-- When the player of a connection was heard last. -/
def lastHeard (w : WorldServer F) (c : Nat) : Option F :=
  (w.playersByConnection[c]?).map (·.lastUdpPacket)

/-- Players may have gone; those that are left have not been heard in between. -/
def Unheard (w w' : WorldServer F) : Prop :=
  ∀ c t, lastHeard w' c = some t → lastHeard w c = some t

namespace Unheard

variable {w w' w'' : WorldServer F}

theorem of_eq (h : w'.playersByConnection = w.playersByConnection) : Unheard w w' := by
  intro c t ht
  rw [lastHeard, h] at ht
  exact ht

theorem refl (w : WorldServer F) : Unheard w w := of_eq rfl

theorem trans (h : Unheard w w') (h' : Unheard w' w'') : Unheard w w'' :=
  fun c t ht => h c t (h' c t ht)

theorem foldl {α : Type*} {f : WorldServer F → α → WorldServer F}
    (hf : ∀ w a, Unheard w (f w a)) (items : List α) (w : WorldServer F) :
    Unheard w (items.foldl f w) := by
  induction items generalizing w with
  | nil => exact refl w
  | cons a items ih => exact (hf w a).trans (ih (f w a))

end Unheard

variable [Scalar F] (setup : Setup F) (w : WorldServer F)

section Work

section Players

omit [Scalar F]

theorem unheard_removePlayer (id : Nat) : Unheard w (w.removePlayer id) := by
  intro c t ht
  rw [lastHeard, removePlayer_players] at ht
  split at ht
  · cases ht
  · exact ht

theorem players_replyCommand (id : Nat) (command : WorldMessage) (result : UInt8) :
    (w.replyCommand setup id command result).playersByConnection = w.playersByConnection := by
  rw [replyCommand]
  split
  · rfl
  · rfl

theorem players_onLatencyLookup (id : Nat) (milliseconds : UInt32)
    (result : Option (Bool × Session)) :
    (w.onLatencyLookup id milliseconds result).playersByConnection = w.playersByConnection := by
  rw [onLatencyLookup.eq_def]
  split
  · split
    · rfl
    · rfl
  · rfl

end Players

theorem players_onCommandLookup (id : Nat) (command : WorldMessage) (timeCommand : UInt8)
    (value : UInt32) (now : Clocks F) (result : Option (Bool × Session)) :
    (w.onCommandLookup setup id command timeCommand value now result).playersByConnection =
      w.playersByConnection := by
  rw [onCommandLookup.eq_def]
  split
  · split
    · exact players_replyCommand setup w _ _ _
    · exact players_replyCommand setup _ _ _ _
  · exact players_replyCommand setup w _ _ _

omit [Scalar F] in
theorem unheard_onMessage (id : Nat) (m : Message) : Unheard w (w.onMessage setup id m) := by
  rw [onMessage]
  split
  · refine Unheard.of_eq ?_
    simp only [onJoinRequest]
    split
    · rfl
    · split
      · rfl
      · split
        · rfl
        · rfl
  · refine Unheard.of_eq ?_
    simp only [onSetLatencyRequest]
    split
    · rfl
    · rfl
  · refine Unheard.of_eq ?_
    simp only [onCommandRequest]
    split
    · exact players_replyCommand setup _ _ _ _
    · rfl
  · refine Unheard.of_eq ?_
    simp only [onCommandRequest]
    split
    · exact players_replyCommand setup _ _ _ _
    · rfl
  · refine Unheard.trans ?_ (unheard_removePlayer _ id)
    exact Unheard.of_eq rfl
  · exact Unheard.of_eq rfl

theorem unheard_onReply_none (now : Clocks F) (handler : Handler) :
    Unheard w (onReply setup w now handler none) := by
  cases handler with
  | join request id token => exact Unheard.of_eq rfl
  | setLatency request id milliseconds =>
      exact Unheard.of_eq (players_onLatencyLookup w id milliseconds none)
  | command request id command timeCommand value =>
      exact Unheard.of_eq (players_onCommandLookup setup w id command timeCommand value now none)
  | sessionDeleted request => exact Unheard.refl w

/-- An answer adds at most the player of a join. -/
theorem onDbReply_players (requestId : Nat) (reply : DbReply) (now : Clocks F) :
    Unheard w (w.onDbReply setup requestId reply now) ∨
      ∃ (v : WorldServer F) (request id : Nat) (token : Bytes) (session : Session),
        v.playersByConnection = w.playersByConnection ∧
        w.onDbReply setup requestId reply now =
          v.join setup request id token session now.steadySeconds := by
  rw [onDbReply]
  split
  · exact Or.inl (Unheard.refl w)
  · rename_i handler dbClient hanswer
    cases handler with
    | join request id token =>
        simp only [onReply]
        rcases sessionLookupResult (some reply) with _ | ⟨_ | _, session⟩
        · exact Or.inl (Unheard.of_eq rfl)
        · exact Or.inl (Unheard.of_eq rfl)
        · exact Or.inr ⟨{ w with dbClient := dbClient }, request, id, token, session, rfl, rfl⟩
    | setLatency request id milliseconds =>
        exact Or.inl (Unheard.of_eq (players_onLatencyLookup _ id milliseconds _))
    | command request id command timeCommand value =>
        exact Or.inl
          (Unheard.of_eq (players_onCommandLookup setup _ id command timeCommand value now _))
    | sessionDeleted request => exact Or.inl (Unheard.of_eq rfl)

omit [Scalar F] in
theorem unheard_closeDeferred : Unheard w w.closeDeferred := by
  have hdisconnect : ∀ (w : WorldServer F) (id : Nat), Unheard w (w.disconnect id) := by
    intro w id
    rw [disconnect]
    split
    · exact (unheard_removePlayer w id).trans (Unheard.of_eq rfl)
    · exact Unheard.refl w
  exact (Unheard.foldl hdisconnect w.server.mClosing w).trans (Unheard.of_eq rfl)

theorem unheard_sweep (now : F) : Unheard w (w.sweep setup now) := by
  have htimeOut : ∀ (w : WorldServer F) (id : Nat), Unheard w (w.timeOut id) :=
    fun w id => (unheard_removePlayer w id).trans (Unheard.of_eq rfl)
  exact Unheard.foldl htimeOut _ w

omit [Scalar F] in
/-- An entry that is overwritten was heard at the time that the new one says. -/
theorem lastHeard_insert (c d : Nat) (player : Player F) :
    lastHeard { w with playersByConnection := w.playersByConnection.insert c player } d =
      if c = d then some player.lastUdpPacket else lastHeard w d := by
  simp only [lastHeard, ExtTreeMap.getElem?_insert, Nat.compare_eq_eq]
  split
  · rfl
  · rfl

/-- A snapshot is sent to the players that are there, and hears nobody. -/
theorem unheard_onTick (now : Clocks F) : Unheard w (w.onTick setup now) := by
  have hfold : ∀ (snapshot : Snapshot UInt32) (entries : List (Nat × Player F)) (v : WorldServer F),
      (∀ p ∈ entries, lastHeard w p.1 = some p.2.lastUdpPacket) → Unheard w v →
      Unheard w (entries.foldl (WorldServer.sendSnapshot snapshot now) v) := by
    intro snapshot entries
    induction entries with
    | nil => exact fun v _ hv => hv
    | cons entry entries ih =>
        intro v hentries hv
        refine ih _ (fun p hp => hentries p (List.mem_cons_of_mem _ hp)) ?_
        have hsent : Unheard w { v with
            playersByConnection := v.playersByConnection.insert entry.1
              { entry.2 with outgoingSequence := entry.2.outgoingSequence + 1 } } := by
          intro c t ht
          rw [lastHeard_insert] at ht
          split at ht
          · rename_i hc
            rw [← hc, ← ht]
            exact hentries entry List.mem_cons_self
          · exact hv c t ht
        rw [WorldServer.sendSnapshot]
        dsimp only
        split
        · exact hv
        · split
          · exact hsent.trans (Unheard.of_eq rfl)
          · exact hsent.trans (Unheard.of_eq rfl)
  rw [onTick]
  apply hfold
  · intro p hp
    rw [lastHeard, ExtTreeMap.mem_toList_iff_getElem?_eq_some.mp hp]
    rfl
  · exact Unheard.of_eq rfl

end Work

section Datagram

variable {w}

theorem players_onClientInput (player : Player F) (body : Bytes) (now : Clocks F) :
    (w.onClientInput setup player body now).playersByConnection = w.playersByConnection := by
  simp only [onClientInput]
  split
  · rfl
  · split
    · rfl
    · rfl

/-- A datagram hears at most one player, now. -/
theorem onDatagram_lastHeard (data : Bytes) (source : Address) (now : Clocks F) {c : Nat} {t : F}
    (h : lastHeard (w.onDatagram setup data source now) c = some t) :
    lastHeard w c = some t ∨ t = now.steadySeconds := by
  have hinsert : ∀ (d : Nat) (player : Player F), player.lastUdpPacket = now.steadySeconds →
      lastHeard { w with playersByConnection := w.playersByConnection.insert d player } c = some t →
      lastHeard w c = some t ∨ t = now.steadySeconds := by
    intro d player hplayer ht
    rw [lastHeard_insert] at ht
    split at ht
    · exact Or.inr ((Option.some.inj ht).symm.trans hplayer)
    · exact Or.inl ht
  cases hheader : readUdpHeader (data.take kDatagramSize) with
  | none =>
      simp only [onDatagram, hheader] at h
      exact Or.inl h
  | some header =>
      obtain ⟨header, offset⟩ := header
      by_cases htype : WorldMessage.ofU16 header.type = some .clientHello
      · simp only [onDatagram, hheader, if_pos htype, onClientHello_eq w now hheader htype] at h
        split at h
        · exact Or.inl h
        · exact hinsert _ _ rfl h
      · simp only [onDatagram, hheader, if_neg htype] at h
        split at h
        · exact Or.inl h
        · split at h
          · rw [lastHeard, players_onClientInput] at h
            exact hinsert _ _ rfl h
          · exact hinsert _ _ rfl h

/-- A player that is in the table before and after a step is heard in it only by a datagram. -/
theorem step_lastHeard {e : Event F} {c : Nat} {t t' : F} (hbefore : lastHeard w c = some t)
    (hafter : lastHeard (step setup w e) c = some t') :
    t' = t ∨ ∃ data source now, e = .datagram data source now ∧ t' = now.steadySeconds := by
  have hkept : ∀ w' : WorldServer F, Unheard w w' → lastHeard w' c = some t' →
      t' = t ∨ ∃ data source now, e = .datagram data source now ∧ t' = now.steadySeconds :=
    fun w' hunheard h => Or.inl (Option.some.inj ((hunheard c t' h).symm.trans hbefore))
  cases e with
  | accept => exact hkept _ (Unheard.of_eq rfl) hafter
  | message id m =>
      simp only [step] at hafter
      split at hafter
      · exact hkept _ (unheard_onMessage setup w id m) hafter
      · exact hkept _ (Unheard.refl w) hafter
  | hangUp id =>
      simp only [step] at hafter
      split at hafter
      · exact hkept _ (Unheard.of_eq rfl) hafter
      · exact hkept _ (Unheard.refl w) hafter
  | closeDeferred => exact hkept _ (unheard_closeDeferred w) hafter
  | reply requestId reply now =>
      rw [step] at hafter
      rcases onDbReply_players setup w requestId reply now with hsame | hjoin
      · exact hkept _ hsame hafter
      · obtain ⟨v, request, id, token, session, hv, heq⟩ := hjoin
        -- a join does not write over a player that is there
        rw [heq, lastHeard, join_players] at hafter
        split at hafter
        · rename_i hnew
          obtain ⟨rfl, hnew⟩ := hnew
          rw [lastHeard, ← hv, ExtTreeMap.getElem?_eq_none hnew] at hbefore
          cases hbefore
        · rw [hv] at hafter
          exact hkept w (Unheard.refl w) hafter
  | dbLost now =>
      have hlost : Unheard w (w.onDbLost setup now) :=
        Unheard.trans (Unheard.of_eq rfl)
          (Unheard.foldl (fun w handler => unheard_onReply_none setup w now handler) _ _)
      exact hkept _ hlost hafter
  | datagram data source now =>
      rcases onDatagram_lastHeard setup data source now hafter with hsame | hheard
      · exact hkept w (Unheard.refl w) hsame
      · exact Or.inr ⟨data, source, now, rfl, hheard⟩
  | tick now => exact hkept _ (unheard_onTick setup w now) hafter
  | release now => exact hkept _ (Unheard.of_eq rfl) hafter
  | sweep now => exact hkept _ (unheard_sweep setup w now) hafter

/-- An input is heard from the player that its source leads to, whomever it names. -/
theorem lastHeard_input (playerId : UInt64) (input : NetClient.InputBits) {source : Address}
    {c : Nat} {player : Player F} (now : Clocks F)
    (h : w.findPlayerByUdp source = some (c, player)) :
    lastHeard (step setup w (.datagram (NetClient.inputPacket playerId input) source now)) c =
      some now.steadySeconds := by
  obtain ⟨hheader, -⟩ := Codecs.reads_inputPacket playerId input
  have hinput : WorldMessage.ofU16 WorldMessage.clientInput.toU16 = some .clientInput :=
    WorldMessage.ofU16_toU16 _
  simp only [step, onDatagram, hheader, hinput, h]
  rw [if_neg (by decide), if_pos trivial, lastHeard, players_onClientInput]
  exact (lastHeard_insert w c c _).trans (if_pos rfl)

end Datagram

section Sweep

/-- The sweep takes out who is bound and was heard before the deadline, and nobody else. -/
theorem sweep_players (now : F) (c : Nat) :
    (w.sweep setup now).playersByConnection[c]? =
      (w.playersByConnection[c]?).filter fun player =>
        !(player.udpBound && player.lastUdpPacket < now - (setup.udpTimeoutSeconds.toNat : F)) := by
  have hfold : ∀ (ids : List Nat) (v : WorldServer F),
      (ids.foldl timeOut v).playersByConnection[c]? =
        if c ∈ ids then none else v.playersByConnection[c]? := by
    intro ids
    induction ids with
    | nil => exact fun v => rfl
    | cons id ids ih =>
        intro v
        have hfirst : (v.timeOut id).playersByConnection[c]? =
            if c = id then none else v.playersByConnection[c]? := removePlayer_players v id c
        rw [List.foldl_cons, ih, hfirst]
        by_cases hc : c = id
        · simp [hc]
        · simp [hc]
  have htimedOut : ∀ late : Player F → Bool,
      (c ∈ (w.playersByConnection.toList.filter fun p => late p.2).map (·.1) ↔
        (w.playersByConnection[c]?).any late = true) := by
    intro late
    simp only [List.mem_map, List.mem_filter, Prod.exists, Option.any_eq_true,
      ExtTreeMap.mem_toList_iff_getElem?_eq_some]
    constructor
    · rintro ⟨d, player, ⟨hplayer, hlate⟩, rfl⟩
      exact ⟨player, hplayer, hlate⟩
    · rintro ⟨player, hplayer, hlate⟩
      exact ⟨c, player, ⟨hplayer, hlate⟩, rfl⟩
  rw [sweep, hfold]
  simp only [htimedOut fun player =>
    player.udpBound && player.lastUdpPacket < now - (setup.udpTimeoutSeconds.toNat : F)]
  cases w.playersByConnection[c]? with
  | none => rfl
  | some player =>
      rw [Option.any_some, Option.filter_some]
      cases player.udpBound && player.lastUdpPacket < now - (setup.udpTimeoutSeconds.toNat : F) with
      | false => rfl
      | true => rfl

end Sweep

end UntitledGame.Server.LastHeard
