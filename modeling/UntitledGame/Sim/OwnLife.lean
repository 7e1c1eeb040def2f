import UntitledGame.Sim.Acknowledgement

/-!
# Each player for itself

Bodies do not meet, so what becomes of a player is decided by its own inputs and by the
ticks. `alone` is a player without a world around it; `lives_alone` says that in every
simulation a player lives as it would alone, whoever else comes, goes or moves, and
whatever is done to the clock.
-/

namespace UntitledGame.Sim.OwnLife

open Simulation
open Std (ExtTreeMap)

variable {F : Type*} [Scalar F]

/-- What a player meets with. -/
inductive Turn (F : Type*) where
  | input (input : CharacterInput F)
  | tick (deltaSeconds : F)
  | leave
  deriving DecidableEq, Repr

/-- What a call is for a player. -/
def own (p : Nat) : Call F → Option (Turn F)
  | .setInput q input => if q = p then some (.input input) else none
  | .step deltaSeconds _ => some (.tick deltaSeconds)
  | .removePlayer q => if q = p then some .leave else none
  | _ => none

/-- A player without a world around it. -/
def alone (phys : Physics F) (slot : Option (SimPlayer F)) : Turn F → Option (SimPlayer F)
  | .input input => slot.map fun player =>
      if accepts player.input input then { player with input := input } else player
  | .tick deltaSeconds => slot.map (stepPlayer phys deltaSeconds)
  | .leave => none

omit [Scalar F] in
/-- An input is for one player. -/
theorem setInput_entry (s : Simulation F) (p q : Nat) (input : CharacterInput F) :
    (s.setInput q input).mPlayers[p]? = if q = p then
      s.mPlayers[p]?.map fun player =>
        if accepts player.input input then { player with input := input } else player
      else s.mPlayers[p]? := by
  cases hp : s.mPlayers[p]? with
  | some player =>
      rw [Acknowledgement.setInput_slot hp]
      by_cases hq : q = p
      · simp [hq]
      · simp [hq]
  | none =>
      have hnone : (s.setInput q input).mPlayers[p]? = none := by
        rw [setInput]
        cases hq : s.mPlayers[q]? with
        | none => exact hp
        | some other =>
            have hne : q ≠ p := by
              rintro rfl
              rw [hp] at hq
              cases hq
            dsimp only
            split
            · rw [ExtTreeMap.getElem?_insert, if_neg (by simpa using hne)]
              exact hp
            · exact hp
      rw [hnone]
      split <;> rfl

/-- Adding a player changes no other entry. -/
theorem addPlayer_entry_other (phys : Physics F) (s : Simulation F) {p q : Nat} (hq : q ≠ p) :
    (s.addPlayer phys q).1.mPlayers[p]? = s.mPlayers[p]? := by
  rw [addPlayer]
  cases s.mPlayers[q]? with
  | some existing => rfl
  | none =>
      dsimp only
      rw [ExtTreeMap.getElem?_insertIfNew, if_neg (fun h => hq (by simpa using h.1))]

/-- A call is for a player what it is alone. -/
theorem call_entry (phys : Physics F) (s : Simulation F) {p : Nat} {c : Call F}
    (hc : c ≠ .addPlayer p) :
    (s.call phys c).mPlayers[p]? =
      (own p c).elim s.mPlayers[p]? (alone phys s.mPlayers[p]?) := by
  cases c with
  | addPlayer q => exact addPlayer_entry_other phys s fun hq => hc (by rw [hq])
  | removePlayer q =>
      simp only [call, removePlayer, ExtTreeMap.getElem?_erase, Nat.compare_eq_eq, own]
      split <;> rfl
  | setInput q input =>
      simp only [call, setInput_entry, own]
      split <;> rfl
  | step deltaSeconds now =>
      simp only [call, step, own, Option.elim_some, alone]
      exact ExtTreeMap.getElem?_map
  | setTimeOfDay timeOfDay now => rfl
  | setTimeSpeed speed now => rfl
  | resetClock now => rfl

/-- After a run, a player's entry is what becomes of it alone. -/
theorem run_entry (phys : Physics F) (s : Simulation F) (p : Nat) {calls : List (Call F)}
    (hcalls : ∀ c ∈ calls, c ≠ .addPlayer p) :
    (Lib.Runs.run (call phys) s calls).mPlayers[p]? =
      (calls.filterMap (own p)).foldl (alone phys) s.mPlayers[p]? := by
  induction calls generalizing s with
  | nil => rfl
  | cons c calls ih =>
      rw [Lib.Runs.run_cons, ih _ fun d hd => hcalls d (List.mem_cons_of_mem c hd),
        call_entry phys s (hcalls c List.mem_cons_self), List.filterMap_cons]
      cases own p c with
      | none => rfl
      | some turn => rfl

/-- In two simulations that have nothing in common but one player, with runs that have nothing in
common but that player's own inputs and the ticks, the player has the same body, input and
acknowledgement at the end, and the snapshots describe it alike. -/
theorem lives_alone (phys : Physics F) {s s' : Simulation F} {p : Nat}
    {calls calls' : List (Call F)}
    (hentry : s.mPlayers[p]? = s'.mPlayers[p]?)
    (hadd : ∀ c ∈ calls ++ calls', c ≠ .addPlayer p)
    (hown : calls.filterMap (own p) = calls'.filterMap (own p)) :
    let after := Lib.Runs.run (call phys) s calls
    let after' := Lib.Runs.run (call phys) s' calls'
    after.mPlayers[p]? = after'.mPlayers[p]? ∧
      ∀ player, after.mPlayers[p]? = some player →
        playerEntity phys player ∈ (after.buildSnapshot phys).entities ∧
          playerEntity phys player ∈ (after'.buildSnapshot phys).entities := by
  intro after after'
  have hafter : after.mPlayers[p]? = after'.mPlayers[p]? := by
    rw [run_entry phys s p fun c hc => hadd c (List.mem_append_left _ hc),
      run_entry phys s' p fun c hc => hadd c (List.mem_append_right _ hc), hentry, hown]
  have hreported : ∀ (t : Simulation F) (player : SimPlayer F), t.mPlayers[p]? = some player →
      playerEntity phys player ∈ (t.buildSnapshot phys).entities := by
    intro t player hplayer
    refine List.mem_cons_of_mem _ (List.mem_map.mpr ⟨(p, player), ?_, rfl⟩)
    exact ExtTreeMap.mem_toList_iff_getElem?_eq_some.mpr hplayer
  exact ⟨hafter, fun player hplayer =>
    ⟨hreported after player hplayer, hreported after' player (hafter ▸ hplayer)⟩⟩

/-- A player walks among others, and where the clock is set, as it walks alone. -/
theorem lives_alone_walking :
    let phys := Physics.level
    let walk : Call ℚ := .setInput 7 (Acknowledgement.forward 1 false)
    let s := (blank.addPlayer phys 7).1
    let calls : List (Call ℚ) := [walk, Acknowledgement.oneTick, Acknowledgement.oneTick]
    let calls' : List (Call ℚ) := [.addPlayer 8, walk,
      .setInput 8 (Acknowledgement.forward 4 true),
      .step (1 / 60) ⟨5, 1⟩, .setTimeSpeed 3 ⟨5, 1⟩, .removePlayer 8, Acknowledgement.oneTick]
    (Lib.Runs.run (call phys) s calls).mPlayers[7]? =
      (Lib.Runs.run (call phys) s calls').mPlayers[7]? := by
  intro phys walk s calls calls'
  exact (lives_alone phys rfl (by decide +kernel) (by decide +kernel)).1

end UntitledGame.Sim.OwnLife
