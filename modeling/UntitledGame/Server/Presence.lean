import UntitledGame.Server.Provenance

/-!
# Players belong to clients that are there

A player is created when the session lookup of its join request is answered. The
callback holds only the id of the connection, which may be closed by then, or
logged out; the clean-up of the connection has then already run.

`no_ghosts_iff` says exactly which runs create no such player: those in which a
join is let through only for a connection that is still open and has not logged
out since its request.
-/

namespace UntitledGame.Server.Presence

open Net Sim WorldServer
open Std (ExtTreeMap)

variable {F : Type*}

/-- The message with this number was a join request on the connection. -/
def JoinRequested (arrivals : List (Nat × Message)) (request c : Nat) : Prop :=
  ∃ m, arrivals[request]? = some (c, m) ∧ WorldMessage.ofU16 m.type = some .joinRequest

/-- The connection is open and has not logged out since the message with this number. -/
structure Present (w : WorldServer F) (request c : Nat) : Prop where
  connected : c ∈ w.server.mConnections
  stayed : ∀ a ∈ w.arrivals.drop request, a.1 = c →
    WorldMessage.ofU16 a.2.type ≠ some .logoutRequest

instance (w : WorldServer F) (request c : Nat) : Decidable (Present w request c) :=
  decidable_of_iff (c ∈ w.server.mConnections ∧ ∀ a ∈ w.arrivals.drop request, a.1 = c →
      WorldMessage.ofU16 a.2.type ≠ some .logoutRequest)
    ⟨fun h => ⟨h.1, h.2⟩, fun h => ⟨h.connected, h.stayed⟩⟩

/-- The player is in the world at the request of a client that is there. -/
structure Lives (w : WorldServer F) (c : Nat) (player : Player F) : Prop
    extends Present w player.request c where
  requested : JoinRequested w.arrivals player.request c
  body : player.playerId ∈ w.simulation.mPlayers

def NoGhosts (w : WorldServer F) : Prop :=
  ∀ (c : Nat) (player : Player F), w.playersByConnection[c]? = some player → Lives w c player

theorem JoinRequested.mono {arrivals later : List (Nat × Message)} (hpre : arrivals <+: later)
    {request c : Nat} (h : JoinRequested arrivals request c) : JoinRequested later request c := by
  obtain ⟨m, hm, htype⟩ := h
  obtain ⟨rest, rfl⟩ := hpre
  have hlt := (List.getElem?_eq_some_iff.mp hm).1
  exact ⟨m, by rw [List.getElem?_append_left hlt, hm], htype⟩

/-- A message that is no logout of the connection. -/
theorem Present.arrive {w : WorldServer F} {request c id : Nat} {m : Message}
    (h : Present w request c)
    (hm : id = c → WorldMessage.ofU16 m.type ≠ some .logoutRequest) :
    Present { w with arrivals := w.arrivals ++ [(id, m)] } request c where
  connected := h.connected
  stayed a ha hac := by
    rw [List.drop_append] at ha
    cases List.mem_append.mp ha with
    | inl ha => exact h.stayed a ha hac
    | inr ha =>
        obtain rfl := List.mem_singleton.mp (List.mem_of_mem_drop ha)
        exact hm hac

/-- Ids are handed out in order, so no two connections have the same one. -/
structure Inv (w : WorldServer F) : Prop where
  lives : NoGhosts w
  old : ∀ (c : Nat) (player : Player F), w.playersByConnection[c]? = some player →
    player.playerId < w.nextPlayerId
  distinct : ∀ (c d : Nat) (player other : Player F), w.playersByConnection[c]? = some player →
    w.playersByConnection[d]? = some other → player.playerId = other.playerId → c = d

theorem Inv.keeps {w w' : WorldServer F} (hk : Keeps w w') (h : Inv w) : Inv w' where
  lives c player hplayer := by
    obtain ⟨before, hbefore, hid⟩ := hk.player_before hplayer
    obtain ⟨hplayerId, hrequest⟩ := Prod.mk.inj hid
    have hl := h.lives c before hbefore
    refine ⟨⟨?_, ?_⟩, ?_, ?_⟩
    · rw [hk.mConnections]
      exact hl.connected
    · rw [hk.arrivals, ← hrequest]
      exact hl.stayed
    · rw [hk.arrivals, ← hrequest]
      exact hl.requested
    · rw [hk.bodies, ← hplayerId]
      exact hl.body
  old c player hplayer := by
    obtain ⟨before, hbefore, hid⟩ := hk.player_before hplayer
    rw [hk.nextPlayerId, ← (Prod.mk.inj hid).1]
    exact h.old c before hbefore
  distinct c d player other hplayer hother heq := by
    obtain ⟨before, hbefore, hid⟩ := hk.player_before hplayer
    obtain ⟨before', hbefore', hid'⟩ := hk.player_before hother
    apply h.distinct c d before before' hbefore hbefore'
    rw [(Prod.mk.inj hid).1, (Prod.mk.inj hid').1, heq]

variable [Scalar F] (setup : Setup F)

theorem inv_init (now : ClockReading F) : Inv (init setup now) where
  lives c player hplayer := by simp [init] at hplayer
  old c player hplayer := by simp [init] at hplayer
  distinct c d player other hplayer := by simp [init] at hplayer

section Removal

omit [Scalar F]

/-- A player that is left after a removal was there before, on another connection. -/
theorem player_of_removePlayer {w : WorldServer F} {id c : Nat} {player : Player F}
    (h : (w.removePlayer id).playersByConnection[c]? = some player) :
    c ≠ id ∧ w.playersByConnection[c]? = some player := by
  rw [removePlayer_players] at h
  split at h
  · cases h
  · rename_i hc
    exact ⟨hc, h⟩

/-- Removing a player takes nobody else's body. -/
theorem Inv.body_of_removePlayer {w : WorldServer F} (h : Inv w) {id c : Nat} {player : Player F}
    (hp : (w.removePlayer id).playersByConnection[c]? = some player) :
    player.playerId ∈ (w.removePlayer id).simulation.mPlayers := by
  obtain ⟨hc, hplayer⟩ := player_of_removePlayer hp
  have hbody := (h.lives c player hplayer).body
  cases hid : w.playersByConnection[id]? with
  | none =>
      rw [removePlayer_of_none hid]
      exact hbody
  | some removed =>
      rw [removePlayer_bodies hid]
      refine ⟨fun heq => hc ?_, hbody⟩
      exact h.distinct c id player removed hplayer hid heq

/-- Everybody but the player of the connection stays as they were. -/
theorem Inv.others {w w' : WorldServer F} (h : Inv w) (id : Nat)
    (hplayers : w'.playersByConnection = (w.removePlayer id).playersByConnection)
    (hbodies : w'.simulation = (w.removePlayer id).simulation)
    (hnext : w'.nextPlayerId = w.nextPlayerId)
    (hlives : ∀ c player, c ≠ id → Lives w c player →
      Present w' player.request c ∧ JoinRequested w'.arrivals player.request c) : Inv w' where
  lives c player hplayer := by
    rw [hplayers] at hplayer
    obtain ⟨hc, hbefore⟩ := player_of_removePlayer hplayer
    obtain ⟨hpresent, hrequested⟩ := hlives c player hc (h.lives c player hbefore)
    refine ⟨hpresent, hrequested, ?_⟩
    rw [hbodies]
    exact h.body_of_removePlayer hplayer
  old c player hplayer := by
    rw [hplayers] at hplayer
    rw [hnext]
    exact h.old c player (player_of_removePlayer hplayer).2
  distinct c d player other hplayer hother heq := by
    rw [hplayers] at hplayer hother
    exact h.distinct c d player other (player_of_removePlayer hplayer).2
      (player_of_removePlayer hother).2 heq

theorem preserved_inv : Preserved (Inv : WorldServer F → Prop) where
  keeps := Inv.keeps
  accept h := by
    refine ⟨fun c player hplayer => ?_, h.old, h.distinct⟩
    have hl := h.lives c player hplayer
    exact ⟨⟨(TcpServer.mem_accept _ _).mpr (Or.inr hl.connected), hl.stayed⟩, hl.requested, hl.body⟩
  arrive id m hm h := by
    refine ⟨fun c player hplayer => ?_, h.old, h.distinct⟩
    have hl := h.lives c player hplayer
    exact ⟨hl.toPresent.arrive fun _ => hm, hl.requested.mono (List.prefix_append _ _), hl.body⟩
  logOut {w} id m h := by
    apply h.others id
    · simp only [WorldServer.removePlayer]
      split <;> rfl
    · simp only [WorldServer.removePlayer]
      split <;> rfl
    · exact removePlayer_nextPlayerId _ _
    · intro c player hc hl
      have hpresent : Present { w with arrivals := w.arrivals ++ [(id, m)] } player.request c :=
        hl.toPresent.arrive fun heq => absurd heq.symm hc
      refine ⟨⟨?_, ?_⟩, ?_⟩
      · rw [removePlayer_server]
        exact hpresent.connected
      · rw [removePlayer_arrivals]
        exact hpresent.stayed
      · rw [removePlayer_arrivals]
        exact hl.requested.mono (List.prefix_append _ _)
  remove {w} id h := by
    apply h.others id rfl rfl (removePlayer_nextPlayerId _ _)
    intro c player hc hl
    refine ⟨⟨?_, ?_⟩, ?_⟩
    · rw [removePlayer_server]
      exact hl.connected
    · rw [removePlayer_arrivals]
      exact hl.stayed
    · rw [removePlayer_arrivals]
      exact hl.requested
  disconnect {w} id h := by
    apply h.others id
    · rfl
    · rfl
    · exact removePlayer_nextPlayerId w id
    · intro c player hc hl
      refine ⟨⟨?_, ?_⟩, ?_⟩
      · exact (TcpServer.mem_erase _ _ _).mpr ⟨hc, hl.connected⟩
      · rw [removePlayer_arrivals]
        exact hl.stayed
      · rw [removePlayer_arrivals]
        exact hl.requested

end Removal

/-- After a join the player of a connection is the old one, or the new one where there was none. -/
theorem player_of_join {w : WorldServer F} {request id c : Nat} {token : Bytes} {session : Session}
    {now : F} {player : Player F}
    (h : (w.join setup request id token session now).playersByConnection[c]? = some player) :
    w.playersByConnection[c]? = some player ∨
      c = id ∧ id ∉ w.playersByConnection ∧ player = newPlayer w request id token session now := by
  rw [join_players] at h
  split at h
  · rename_i hnew
    cases h
    exact Or.inr ⟨hnew.1, hnew.2, rfl⟩
  · exact Or.inl h

/-- A join at the request of a client that is there. -/
theorem Inv.join {w : WorldServer F} (h : Inv w) {request id : Nat}
    (hrequested : JoinRequested w.arrivals request id)
    (htimely : id ∉ w.playersByConnection → Present w request id) (token : Bytes)
    (session : Session) (now : F) : Inv (w.join setup request id token session now) where
  lives c player hplayer := by
    rcases player_of_join setup hplayer with hbefore | ⟨rfl, hfree, rfl⟩
    · have hl := h.lives c player hbefore
      refine ⟨⟨?_, hl.stayed⟩, hl.requested, ?_⟩
      · rw [join_mConnections]
        exact hl.connected
      · rw [join_bodies]
        exact Or.inr hl.body
    · have hpresent := htimely hfree
      refine ⟨⟨?_, hpresent.stayed⟩, hrequested, ?_⟩
      · rw [join_mConnections]
        exact hpresent.connected
      · rw [join_bodies]
        exact Or.inl rfl
  old c player hplayer := by
    rw [join_nextPlayerId]
    rcases player_of_join setup hplayer with hbefore | ⟨-, -, rfl⟩
    · exact Nat.lt_succ_of_lt (h.old c player hbefore)
    · exact Nat.lt_succ_self _
  distinct c d player other hplayer hother heq := by
    rcases player_of_join setup hplayer with hbefore | ⟨hc, -, rfl⟩
    · rcases player_of_join setup hother with hbefore' | ⟨-, -, rfl⟩
      · exact h.distinct c d player other hbefore hbefore' heq
      · exact absurd heq (Nat.ne_of_lt (h.old c player hbefore))
    · rcases player_of_join setup hother with hbefore' | ⟨hd, -, -⟩
      · exact absurd heq.symm (Nat.ne_of_lt (h.old d other hbefore'))
      · rw [hc, hd]

/-- A join lookup that is not answered yet was issued for a join request. -/
structure Traced (w : WorldServer F) : Prop where
  ordered : w.dbClient.Ordered
  requested : ∀ (requestId request id : Nat) (token : Bytes),
    w.dbClient.mPending[requestId]? = some (.join request id token) →
      JoinRequested w.arrivals request id

theorem traced_init (now : ClockReading F) : Traced (init setup now) where
  ordered := DbClient.ordered_connected
  requested requestId request id token hpending := by
    simp [init, DbClient.connected] at hpending

omit [Scalar F] in
theorem Traced.answered {w : WorldServer F} (h : Traced w) {requestId : Nat} {handler : Handler}
    {dbClient : DbClient Handler} (hanswer : w.dbClient.answer requestId = some (handler, dbClient)) :
    Traced { w with dbClient := dbClient } where
  ordered := h.ordered.answer hanswer
  requested other request id token hpending := by
    obtain ⟨-, rfl⟩ := DbClient.answer_eq_some hanswer
    apply h.requested other request id token
    rw [ExtTreeMap.getElem?_erase] at hpending
    split at hpending
    · cases hpending
    · exact hpending

theorem Traced.step {w : WorldServer F} (h : Traced w) (e : Event F) :
    Traced (WorldServer.step setup w e) := by
  generalize hw' : WorldServer.step setup w e = w'
  have heffect := step_effect setup (w := w) e
  rw [hw'] at heffect
  cases heffect with
  | quiet hclient harrivals hjoins =>
      refine ⟨hclient ▸ h.ordered, fun requestId request id token hpending => ?_⟩
      rw [hclient] at hpending
      exact (h.requested requestId request id token hpending).mono harrivals
  | @asked c m looked handler _ hlive hasks hledger =>
      obtain ⟨hclient, harrivals, -⟩ := ledger_eq.mp hledger
      refine ⟨hclient ▸ h.ordered.call _ _ _, fun requestId request id token hpending => ?_⟩
      rw [hclient, h.ordered.call_pending] at hpending
      rw [harrivals]
      split at hpending
      · obtain rfl := Option.some.inj hpending
        cases hasks with
        | join htype hread hfree => exact ⟨m, by simp, htype⟩
      · exact (h.requested requestId request id token hpending).mono (List.prefix_append _ _)
  | answered hanswer hledger =>
      obtain ⟨hclient, harrivals, -⟩ := ledger_eq.mp hledger
      have ht := h.answered hanswer
      refine ⟨hclient ▸ ht.ordered, ?_⟩
      rw [hclient, harrivals]
      exact ht.requested
  | redeemed hanswer hledger =>
      obtain ⟨hclient, harrivals, -⟩ := ledger_eq.mp hledger
      have ht := h.answered hanswer
      refine ⟨hclient ▸ ht.ordered.call _ _ _, fun requestId request id token hpending => ?_⟩
      rw [hclient, ht.ordered.call_pending] at hpending
      rw [harrivals]
      split at hpending
      · cases hpending
      · exact ht.requested requestId request id token hpending
  | lost hledger =>
      obtain ⟨hclient, -, -⟩ := ledger_eq.mp hledger
      refine ⟨hclient ▸ DbClient.ordered_reconnected _, fun requestId request id token hpending => ?_⟩
      rw [hclient] at hpending
      simp [DbClient.reconnected] at hpending

/-- If the event lets a join through for a connection without a player, the connection is open and
has not logged out since its join request. -/
def Timely (w : WorldServer F) (e : Event F) : Prop :=
  ∀ j ∈ joining w e, j.2 ∉ w.playersByConnection → Present w j.1 j.2

instance (w : WorldServer F) (e : Event F) : Decidable (Timely w e) :=
  inferInstanceAs
    (Decidable (∀ j ∈ joining w e, j.2 ∉ w.playersByConnection → Present w j.1 j.2))

theorem Inv.step {w : WorldServer F} (h : Inv w) (ht : Traced w) {e : Event F} (he : Timely w e) :
    Inv (WorldServer.step setup w e) := by
  apply step_of_preserved setup preserved_inv h
  intro request id token session now hjoining
  obtain ⟨requestId, _, _, asked, -, hpending⟩ := joining_eq_some hjoining
  exact h.join setup (ht.requested _ _ _ _ hpending) (he _ hjoining) token session now

/-- A player that a join creates is a ghost unless the event is timely. -/
theorem timely_of_noGhosts {w : WorldServer F} {e : Event F}
    (hafter : NoGhosts (WorldServer.step setup w e)) : Timely w e := by
  rintro ⟨request, id⟩ hjoining hfree
  obtain ⟨token, session, now, hkeeps⟩ := step_joining setup hjoining
  have hnew : (w.join setup request id token session now).playersByConnection[id]? =
      some (newPlayer w request id token session now) := by
    rw [join_players, if_pos ⟨rfl, hfree⟩]
  obtain ⟨player, hplayer, hid⟩ := hkeeps.player_after hnew
  have hlives := hafter id player hplayer
  have hrequest : player.request = request := (Prod.mk.inj hid).2
  constructor
  · have hconnected := hlives.connected
    rw [hkeeps.mConnections, join_mConnections] at hconnected
    exact hconnected
  · have hstayed := hlives.stayed
    rw [hkeeps.arrivals, hrequest] at hstayed
    exact hstayed

/-- Both invariants. -/
structure Sound (w : WorldServer F) : Prop where
  inv : Inv w
  traced : Traced w

theorem sound_init (now : ClockReading F) : Sound (init setup now) :=
  ⟨inv_init setup now, traced_init setup now⟩

/-- In every run, every player in the world belongs to a connection that is open and has not
logged out since the join request that created the player, in every state, if and only if every
join that is let through for a connection without a player meets that at the time. -/
theorem no_ghosts_iff (now : ClockReading F) (events : List (Event F)) :
    (∀ pre, pre <+: events → NoGhosts (run setup now pre)) ↔
      Lib.Runs.Along (WorldServer.step setup) Timely (init setup now) events := by
  apply Lib.Runs.always_iff_along (sound_init setup now)
  · intro w e hw he
    exact ⟨hw.inv.step setup hw.traced he, hw.traced.step setup e⟩
  · intro w e _ hafter
    exact timely_of_noGhosts setup hafter
  · intro w hw
    exact hw.inv.lives

section Runs

/-- The client logs out before the lookup of its join is answered. -/
def earlyLogout : List (Event ℚ) :=
  [.accept, .message 1 (joinMessage [1]), .message 1 ⟨WorldMessage.logoutRequest.toU16, []⟩,
    .reply 1 (.sessionLookup true ⟨1, [97], 0⟩) .noon]

/-- The client is gone before the lookup of its join is answered. -/
def earlyHangUp : List (Event ℚ) :=
  [.accept, .message 1 (joinMessage [1]), .hangUp 1, .closeDeferred,
    .reply 1 (.sessionLookup true ⟨1, [97], 0⟩) .noon]

/-- Both leave a player in the world. -/
theorem late_answer_leaves_ghost :
    ¬ NoGhosts (run .level Clocks.noon.clock earlyLogout) ∧
      ¬ NoGhosts (run .level Clocks.noon.clock earlyHangUp) := by
  have hghost : ∀ w : WorldServer ℚ, ((w.playersByConnection[1]?).map (·.request)) = some 0 →
      ¬ Present w 0 1 → ¬ NoGhosts w := by
    intro w hplayer habsent hno
    obtain ⟨player, hplayer, hrequest⟩ := Option.map_eq_some_iff.mp hplayer
    have hpresent := (hno 1 player hplayer).toPresent
    rw [hrequest] at hpresent
    exact habsent hpresent
  constructor
  · apply hghost
    · decide +kernel
    · decide +kernel
  · apply hghost
    · decide +kernel
    · decide +kernel

end Runs

end UntitledGame.Server.Presence
