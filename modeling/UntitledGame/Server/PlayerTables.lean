import UntitledGame.Server.Membership

/-!
# The three player tables

`playersByConnection`, `connectionByPlayer` and the players of the simulation are
written by different statements, and the entry under a connection is emplaced:
if there is one already, the new player is in two of the tables only.

`tables_agree_iff` says exactly which runs keep the tables together: those in
which no join is let through for a connection that already has a player.
-/

namespace UntitledGame.Server.PlayerTables

open Net Sim WorldServer
open Std (ExtTreeMap)

variable {F : Type*}

/-- The three tables describe the same players. -/
structure TablesAgree (w : WorldServer F) : Prop where
  owner : ∀ p c : Nat, w.connectionByPlayer[p]? = some c ↔
    ∃ player, w.playersByConnection[c]? = some player ∧ player.playerId = p
  body : ∀ p, p ∈ w.simulation.mPlayers ↔ p ∈ w.connectionByPlayer

/-- Each connection owns at most one player. -/
theorem TablesAgree.owns_one {w : WorldServer F} (h : TablesAgree w) {p q c : Nat}
    (hp : w.connectionByPlayer[p]? = some c) (hq : w.connectionByPlayer[q]? = some c) : p = q := by
  obtain ⟨player, hplayer, rfl⟩ := (h.owner p c).mp hp
  obtain ⟨other, hother, rfl⟩ := (h.owner q c).mp hq
  rw [hplayer] at hother
  cases hother
  rfl

/-- Ids are handed out in order, so an id in use is an old one. -/
structure Inv (w : WorldServer F) : Prop extends TablesAgree w where
  old : ∀ p ∈ w.connectionByPlayer, p < w.nextPlayerId

/-- The tables are all that the invariant is about. -/
theorem Inv.keeps {w w' : WorldServer F} (hk : Keeps w w') (h : Inv w) : Inv w' where
  owner p c := by
    rw [hk.connectionByPlayer, h.owner]
    constructor
    · rintro ⟨player, hplayer, rfl⟩
      obtain ⟨after, hafter, hid⟩ := hk.player_after hplayer
      exact ⟨after, hafter, congrArg Prod.fst hid⟩
    · rintro ⟨player, hplayer, rfl⟩
      obtain ⟨before, hbefore, hid⟩ := hk.player_before hplayer
      exact ⟨before, hbefore, congrArg Prod.fst hid⟩
  body p := by
    rw [hk.connectionByPlayer, hk.bodies]
    exact h.body p
  old p hp := by
    rw [hk.connectionByPlayer] at hp
    rw [hk.nextPlayerId]
    exact h.old p hp

variable [Scalar F] (setup : Setup F)

theorem inv_init (now : ClockReading F) : Inv (init setup now) where
  owner p c := by simp [init]
  body p := by simp [init, Simulation.init, Simulation.resetClock, Simulation.reanchor, Simulation.blank]
  old p hp := absurd hp ExtTreeMap.not_mem_empty

omit [Scalar F] in
theorem Inv.removePlayer {w : WorldServer F} (h : Inv w) (id : Nat) : Inv (w.removePlayer id) := by
  cases hid : w.playersByConnection[id]? with
  | none =>
      rw [removePlayer_of_none hid]
      exact h
  | some player =>
      have howns : w.connectionByPlayer[player.playerId]? = some id :=
        (h.owner _ _).mpr ⟨player, hid, rfl⟩
      have hmem : ∀ p, p ∈ (w.removePlayer id).connectionByPlayer ↔
          p ≠ player.playerId ∧ p ∈ w.connectionByPlayer := by
        intro p
        rw [ExtTreeMap.mem_iff_isSome_getElem?, removePlayer_connectionByPlayer hid,
          ExtTreeMap.mem_iff_isSome_getElem?]
        split <;> simp_all
      refine { owner := fun p c => ?_, body := fun p => ?_, old := fun p hp => ?_ }
      · rw [removePlayer_connectionByPlayer hid, removePlayer_players]
        by_cases hp : p = player.playerId
        · -- the player that is removed: its only entry was under `id`
          subst hp
          rw [if_pos rfl]
          constructor
          · intro hnone
            cases hnone
          · rintro ⟨other, hother, heq⟩
            split at hother
            · cases hother
            · rename_i hc
              have hboth := (h.owner _ _).mpr ⟨other, hother, heq⟩
              rw [howns] at hboth
              exact absurd (Option.some.inj hboth).symm hc
        · rw [if_neg hp, h.owner]
          by_cases hc : c = id
          · subst hc
            rw [if_pos rfl, hid]
            constructor
            · rintro ⟨other, hother, rfl⟩
              cases hother
              exact absurd rfl hp
            · rintro ⟨other, hother, -⟩
              cases hother
          · rw [if_neg hc]
      · rw [removePlayer_bodies hid, hmem, h.body]
      · rw [removePlayer_nextPlayerId]
        exact h.old p ((hmem p).mp hp).2

/-- A join for a connection without a player adds one player to all three tables. -/
theorem Inv.join {w : WorldServer F} (h : Inv w) {id : Nat} (hfree : id ∉ w.playersByConnection)
    (request : Nat) (token : Bytes) (session : Session) (now : F) :
    Inv (w.join setup request id token session now) := by
  have hnew : w.connectionByPlayer[w.nextPlayerId]? = none :=
    ExtTreeMap.getElem?_eq_none fun hmem => Nat.lt_irrefl _ (h.old _ hmem)
  have hplayers : ∀ c, (w.join setup request id token session now).playersByConnection[c]? =
      if c = id then some (newPlayer w request id token session now)
      else w.playersByConnection[c]? := by
    intro c
    rw [join_players]
    simp only [hfree, not_false_eq_true, and_true]
  have hmem : ∀ p, p ∈ (w.join setup request id token session now).connectionByPlayer ↔
      p = w.nextPlayerId ∨ p ∈ w.connectionByPlayer := by
    intro p
    rw [ExtTreeMap.mem_iff_isSome_getElem?, join_connectionByPlayer,
      ExtTreeMap.mem_iff_isSome_getElem?]
    split <;> simp_all
  refine { owner := fun p c => ?_, body := fun p => ?_, old := fun p hp => ?_ }
  · rw [join_connectionByPlayer, hplayers]
    by_cases hc : c = id
    · subst hc
      rw [if_pos (rfl : c = c)]
      constructor
      · intro hp
        refine ⟨_, rfl, ?_⟩
        split at hp
        · rename_i hid
          exact hid.symm
        · -- no other player can own the connection
          obtain ⟨player, hplayer, -⟩ := (h.owner _ _).mp hp
          exact absurd (ExtTreeMap.mem_iff_isSome_getElem?.mpr (by simp [hplayer])) hfree
      · rintro ⟨player, hplayer, rfl⟩
        cases hplayer
        exact if_pos rfl
    · rw [if_neg hc]
      by_cases hp : p = w.nextPlayerId
      · subst hp
        rw [if_pos rfl]
        constructor
        · intro hid
          exact absurd (Option.some.inj hid).symm hc
        · intro hplayer
          rw [← h.owner, hnew] at hplayer
          cases hplayer
      · rw [if_neg hp, h.owner]
  · rw [join_bodies, hmem, h.body]
  · rw [join_nextPlayerId]
    rcases (hmem p).mp hp with rfl | hp
    · exact Nat.lt_succ_self _
    · exact Nat.lt_succ_of_lt (h.old p hp)

omit [Scalar F] in
theorem preserved_inv : Preserved (Inv : WorldServer F → Prop) where
  keeps := Inv.keeps
  accept h := ⟨⟨h.owner, h.body⟩, h.old⟩
  arrive _ _ _ h := ⟨⟨h.owner, h.body⟩, h.old⟩
  logOut id m h := by
    apply Inv.removePlayer
    exact ⟨⟨h.owner, h.body⟩, h.old⟩
  remove id h := h.removePlayer id
  disconnect id h :=
    ⟨⟨(h.removePlayer id).owner, (h.removePlayer id).body⟩, (h.removePlayer id).old⟩

/-- If the event lets a join through, the connection has no player yet. -/
def Unclaimed (w : WorldServer F) (e : Event F) : Prop :=
  ∀ j ∈ joining w e, j.2 ∉ w.playersByConnection

instance (w : WorldServer F) (e : Event F) : Decidable (Unclaimed w e) :=
  inferInstanceAs (Decidable (∀ j ∈ joining w e, j.2 ∉ w.playersByConnection))

theorem Inv.step {w : WorldServer F} (h : Inv w) {e : Event F} (he : Unclaimed w e) :
    Inv (step setup w e) := by
  apply step_of_preserved setup preserved_inv h
  intro request id token session now hjoining
  exact h.join setup (he _ hjoining) request token session now

/-- A join for a connection that has a player leaves the new one without an entry. -/
theorem unclaimed_of_agree {w : WorldServer F} (h : Inv w) {e : Event F}
    (hafter : TablesAgree (WorldServer.step setup w e)) : Unclaimed w e := by
  rintro ⟨request, id⟩ hjoining hclaimed
  obtain ⟨token, session, now, hkeeps⟩ := step_joining setup hjoining
  have hnew : (WorldServer.step setup w e).connectionByPlayer[w.nextPlayerId]? = some id := by
    rw [hkeeps.connectionByPlayer, join_connectionByPlayer, if_pos rfl]
  obtain ⟨player, hplayer, hid⟩ := (hafter.owner _ _).mp hnew
  obtain ⟨before, hbefore, hsame⟩ := hkeeps.player_before hplayer
  rw [join_players, if_neg (fun hboth => hboth.2 hclaimed)] at hbefore
  have howner := (h.owner before.playerId id).mpr ⟨before, hbefore, rfl⟩
  have hold := h.old before.playerId (ExtTreeMap.mem_iff_isSome_getElem?.mpr (by simp [howner]))
  have hsameId : before.playerId = player.playerId := congrArg Prod.fst hsame
  omega

/-- In every run, the three tables describe the same players in every state if and only if no
join is let through for a connection that already has a player. -/
theorem tables_agree_iff (now : ClockReading F) (events : List (Event F)) :
    (∀ pre, pre <+: events → TablesAgree (run setup now pre)) ↔
      Lib.Runs.Along (step setup) Unclaimed (init setup now) events := by
  apply Lib.Runs.always_iff_along (inv_init setup now)
  · intro w e hw he
    exact hw.step setup he
  · intro w e hw hafter
    exact unclaimed_of_agree setup hw hafter
  · intro w hw
    exact hw.toTablesAgree

section Runs

/-- Two join requests on one connection before the first lookup is answered. -/
def doubleJoin : List (Event ℚ) :=
  [.accept, .message 1 (joinMessage [1]), .message 1 (joinMessage [1]),
    .reply 1 (.sessionLookup true ⟨1, [97], 0⟩) .noon,
    .reply 2 (.sessionLookup true ⟨1, [97], 0⟩) .noon]

/-- The second player owns the connection, but the connection's player is the first; after a
logout the second still has a body. -/
theorem double_join_splits_tables :
    ¬ TablesAgree (run .level Clocks.noon.clock doubleJoin) ∧
      2 ∈ (run .level Clocks.noon.clock
        (doubleJoin ++ [.message 1 ⟨WorldMessage.logoutRequest.toU16, []⟩])).simulation.mPlayers := by
  constructor
  · intro h
    have howner : (run .level Clocks.noon.clock doubleJoin).connectionByPlayer[2]? = some 1 := by
      decide +kernel
    obtain ⟨player, hplayer, hid⟩ := (h.owner 2 1).mp howner
    have hfirst : ((run .level Clocks.noon.clock doubleJoin).playersByConnection[1]?).map
        (·.playerId) = some 1 := by
      decide +kernel
    rw [hplayer, Option.map_some, hid] at hfirst
    exact absurd hfirst (by decide)
  · decide +kernel

end Runs

end UntitledGame.Server.PlayerTables
