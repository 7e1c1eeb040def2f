import UntitledGame.Server.Membership

/-!
# The id of a player leads to its connection

A hello names a player by its id, and `connectionByPlayer` leads from there to the
entry. The two tables may come to disagree when one connection joins twice, but in
one direction they never do (`Filed`): the id of every player leads to the
connection that the player is under.

From it follows that an id which leads to a connection goes on doing so as long as
the connection has a player, whoever else comes and goes (`step_leads`).
-/

namespace UntitledGame.Server.Registration

open Net Sim WorldServer
open Std (ExtTreeMap)

variable {F : Type*}

/-- Every player is found under its own id, and ids to come are unused. -/
structure Filed (w : WorldServer F) : Prop where
  filed : ∀ (c : Nat) (player : Player F), w.playersByConnection[c]? = some player →
    w.connectionByPlayer[player.playerId]? = some c
  old : ∀ p c : Nat, w.connectionByPlayer[p]? = some c → p < w.nextPlayerId

/-- The id leads to the connection, if that has a player. -/
structure Leads (p c : Nat) (w : WorldServer F) : Prop extends Filed w where
  leads : c ∈ w.playersByConnection → w.connectionByPlayer[p]? = some c

variable {w w' : WorldServer F}

theorem Filed.keeps (hk : Keeps w w') (h : Filed w) : Filed w' where
  filed c player hplayer := by
    obtain ⟨before, hbefore, hid⟩ := hk.player_before hplayer
    rw [hk.connectionByPlayer, ← (Prod.mk.inj hid).1]
    exact h.filed c before hbefore
  old p c hp := by
    rw [hk.connectionByPlayer] at hp
    rw [hk.nextPlayerId]
    exact h.old p c hp

theorem Leads.keeps {p c : Nat} (hk : Keeps w w') (h : Leads p c w) : Leads p c w' where
  toFiled := h.toFiled.keeps hk
  leads hc := by
    rw [ExtTreeMap.mem_iff_isSome_getElem?, ← Option.isSome_map (f := identity), hk.players,
      Option.isSome_map, ← ExtTreeMap.mem_iff_isSome_getElem?] at hc
    rw [hk.connectionByPlayer]
    exact h.leads hc

variable [Scalar F] (setup : Setup F)

theorem filed_init (now : ClockReading F) : Filed (init setup now) where
  filed c player hplayer := by simp [init] at hplayer
  old p c hp := by simp [init] at hp

omit [Scalar F] in
/-- The entry that is erased belongs to the player that is removed. -/
theorem Filed.removePlayer (h : Filed w) (id : Nat) : Filed (w.removePlayer id) := by
  cases hid : w.playersByConnection[id]? with
  | none =>
      rw [removePlayer_of_none hid]
      exact h
  | some removed =>
      refine ⟨fun c player hplayer => ?_, fun p c hp => ?_⟩
      · rw [removePlayer_players] at hplayer
        rw [removePlayer_connectionByPlayer hid]
        split at hplayer
        · cases hplayer
        · rename_i hc
          have hfiled := h.filed c player hplayer
          rw [if_neg, hfiled]
          intro hsame
          rw [hsame, h.filed id removed hid] at hfiled
          exact hc (Option.some.inj hfiled).symm
      · rw [removePlayer_connectionByPlayer hid] at hp
        rw [removePlayer_nextPlayerId]
        split at hp
        · cases hp
        · exact h.old p c hp

omit [Scalar F] in
theorem Leads.removePlayer {p c : Nat} (h : Leads p c w) (id : Nat) :
    Leads p c (w.removePlayer id) := by
  refine ⟨h.toFiled.removePlayer id, fun hc => ?_⟩
  cases hid : w.playersByConnection[id]? with
  | none =>
      rw [removePlayer_of_none hid] at hc ⊢
      exact h.leads hc
  | some removed =>
      rw [ExtTreeMap.mem_iff_isSome_getElem?, removePlayer_players] at hc
      rw [removePlayer_connectionByPlayer hid]
      split at hc
      · cases hc
      · rename_i hother
        have hleads := h.leads (ExtTreeMap.mem_iff_isSome_getElem?.mpr hc)
        rw [if_neg, hleads]
        intro hsame
        rw [hsame, h.filed id removed hid] at hleads
        exact hother (Option.some.inj hleads).symm

theorem Filed.join (h : Filed w) (request id : Nat) (token : Bytes) (session : Session) (now : F) :
    Filed (w.join setup request id token session now) := by
  refine ⟨fun c player hplayer => ?_, fun p c hp => ?_⟩
  · rw [join_players] at hplayer
    rw [join_connectionByPlayer]
    split at hplayer
    · rename_i hnew
      obtain rfl := Option.some.inj hplayer
      rw [if_pos (show (newPlayer w request id token session now).playerId = w.nextPlayerId from rfl),
        hnew.1]
    · have hfiled := h.filed c player hplayer
      rw [if_neg (h.old _ _ hfiled).ne, hfiled]
  · rw [join_connectionByPlayer] at hp
    rw [join_nextPlayerId]
    split at hp
    · rename_i hnew
      rw [hnew]
      exact Nat.lt_succ_self _
    · exact Nat.lt_succ_of_lt (h.old p c hp)

/-- A connection that has a player already gets no other. -/
theorem Leads.join {p c : Nat} (h : Leads p c w) (hplayer : c ∈ w.playersByConnection)
    (request id : Nat) (token : Bytes) (session : Session) (now : F) :
    Leads p c (w.join setup request id token session now) := by
  have hleads := h.leads hplayer
  refine ⟨h.toFiled.join setup request id token session now, fun _ => ?_⟩
  rw [join_connectionByPlayer, if_neg (h.old p c hleads).ne, hleads]

omit [Scalar F] in
theorem preserved_filed : Preserved (Filed : WorldServer F → Prop) where
  keeps := Filed.keeps
  accept h := ⟨h.filed, h.old⟩
  arrive _ _ _ h := ⟨h.filed, h.old⟩
  logOut id m h := by
    apply Filed.removePlayer
    exact ⟨h.filed, h.old⟩
  remove id h := h.removePlayer id
  disconnect id h := ⟨(h.removePlayer id).filed, (h.removePlayer id).old⟩

omit [Scalar F] in
theorem preserved_leads (p c : Nat) : Preserved (Leads p c : WorldServer F → Prop) where
  keeps := Leads.keeps
  accept h := ⟨⟨h.filed, h.old⟩, h.leads⟩
  arrive _ _ _ h := ⟨⟨h.filed, h.old⟩, h.leads⟩
  logOut id m h := by
    apply Leads.removePlayer
    exact ⟨⟨h.filed, h.old⟩, h.leads⟩
  remove id h := h.removePlayer id
  disconnect id h := by
    have hremoved := h.removePlayer id
    exact ⟨⟨hremoved.filed, hremoved.old⟩, hremoved.leads⟩

/-- In every state of a run, the id of every player leads to it. -/
theorem filed_run (now : ClockReading F) (events : List (Event F)) :
    Filed (run setup now events) := by
  have hstep : ∀ (w : WorldServer F) (e : Event F), Filed w → Filed (step setup w e) :=
    fun w e h => step_of_preserved setup preserved_filed h
      fun request id token session at_ _ => h.join setup request id token session at_
  exact Lib.Runs.run_preserves hstep (filed_init setup now) events

/-- One step of the server. -/
theorem step_leads {p c : Nat} (h : Leads p c w) (hplayer : c ∈ w.playersByConnection)
    (e : Event F) : Leads p c (step setup w e) :=
  step_of_preserved setup (preserved_leads p c) h
    fun request id token session at_ _ => h.join setup hplayer request id token session at_

end UntitledGame.Server.Registration
