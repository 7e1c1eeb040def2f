import UntitledGame.Sim.Simulation
import Mathlib.Data.List.Nodup

/-!
# What an acknowledgement stands for

A snapshot carries, for each player, the sequence number of the last input that
the simulation stepped with. The client drops every input up to it and replays
the rest, so it takes the acknowledgement to mean that each of these inputs has
moved the body once.

The simulation keeps one input for a player. `Ledger` records, beside a run,
what `setInput` stored and what `step` handed to `stepCharacter`; `Sound` is the
reading that the client relies on, and `sound_iff_paced` says when a run has it.

## Implementation notes

`Applied` is the invariant of a run in which every tick found exactly one new
input. `Spoiled` names the two ways out of it, an input that was overwritten
before a tick and an input that was stepped again; neither can be repaired
later, which gives the converse.
-/

namespace UntitledGame.Sim.Acknowledgement

open Simulation
open Std (ExtTreeMap)

variable {F : Type*} [Scalar F]

/-- The history of one player: the inputs that `setInput` stored, those of them that came
after the last tick, and the inputs that ticks passed to `stepCharacter`. -/
structure Ledger (F : Type*) where
  accepted : List (CharacterInput F)
  waiting : List (CharacterInput F)
  passed : List (CharacterInput F)
  deriving DecidableEq, Repr

/-- The simulation with the history of one of its players. -/
structure Tracked (F : Type*) where
  sim : Simulation F
  ledger : Ledger F

/-- What a call adds to the history of a player whose entry is `player`. -/
def record (p : Nat) (player : SimPlayer F) (ledger : Ledger F) : Call F → Ledger F
  | .setInput q input =>
      if q = p ∧ accepts player.input input then
        ⟨ledger.accepted ++ [input], ledger.waiting ++ [input], ledger.passed⟩
      else ledger
  | .step _ _ => ⟨ledger.accepted, [], ledger.passed ++ [player.input]⟩
  | _ => ledger

def track (phys : Physics F) (p : Nat) (t : Tracked F) (c : Call F) : Tracked F :=
  ⟨t.sim.call phys c, match t.sim.mPlayers[p]? with
    | some player => record p player t.ledger c
    | none => t.ledger⟩

/-- A player's life: it is added to a simulation, and calls follow. -/
def life (phys : Physics F) (s : Simulation F) (p : Nat) (calls : List (Call F)) : Tracked F :=
  Lib.Runs.run (track phys p) ⟨(s.addPlayer phys p).1, ⟨[], [], []⟩⟩ calls

/-- The inputs that a call offers for a player. -/
def offers (p : Nat) : Call F → List (CharacterInput F)
  | .setInput q input => if q = p then [input] else []
  | _ => []

/-- Every accepted input up to the acknowledgement in the player's entity was passed to
`stepCharacter` once, as it was accepted, and under its number nothing else was. -/
def Sound (phys : Physics F) (p : Nat) (t : Tracked F) : Prop :=
  ∀ player, t.sim.mPlayers[p]? = some player → ∀ i ∈ t.ledger.accepted,
    i.sequence ≤ (playerEntity phys player).lastInputSequence →
      t.ledger.passed.filter (·.sequence = i.sequence) = [i]

/-- A tick finds exactly one input that came since the last tick, unless none ever came. -/
def Paced (t : Tracked F) : Call F → Prop
  | .step _ _ => t.ledger.accepted = [] ∨ t.ledger.waiting.length = 1
  | _ => True

instance [DecidableEq F] (t : Tracked F) : DecidablePred (Paced t)
  | .step _ _ => inferInstanceAs (Decidable (_ ∨ _))
  | .addPlayer _ => inferInstanceAs (Decidable True)
  | .removePlayer _ => inferInstanceAs (Decidable True)
  | .setInput _ _ => inferInstanceAs (Decidable True)
  | .setTimeOfDay _ _ => inferInstanceAs (Decidable True)
  | .setTimeSpeed _ _ => inferInstanceAs (Decidable True)
  | .resetClock _ => inferInstanceAs (Decidable True)

/-- What a call can do to a player's entry and history. -/
inductive Effect (phys : Physics F) (p : Nat) (player : SimPlayer F) (ledger : Ledger F) :
    Call F → SimPlayer F → Ledger F → Prop
  | none (c : Call F) (hpaced : ∀ s, Paced ⟨s, ledger⟩ c)
      (hrefused : ∀ input ∈ offers p c, accepts player.input input = false) :
      Effect phys p player ledger c player ledger
  | stored (input : CharacterInput F) (h : accepts player.input input = true) :
      Effect phys p player ledger (.setInput p input) { player with input := input }
        ⟨ledger.accepted ++ [input], ledger.waiting ++ [input], ledger.passed⟩
  | ticked (deltaSeconds : F) (now : ClockReading F) :
      Effect phys p player ledger (.step deltaSeconds now) (stepPlayer phys deltaSeconds player)
        ⟨ledger.accepted, [], ledger.passed ++ [player.input]⟩

/-- Other entries of the table do not matter. -/
theorem addPlayer_other {phys : Physics F} {s : Simulation F} {p q : Nat} {player : SimPlayer F}
    (h : s.mPlayers[p]? = some player) :
    (s.addPlayer phys q).1.mPlayers[p]? = some player := by
  cases hq : s.mPlayers[q]? with
  | some existing => simpa only [addPlayer, hq] using h
  | none =>
      have hne : q ≠ p := by
        rintro rfl
        rw [hq] at h
        cases h
      simp only [addPlayer, hq, ExtTreeMap.getElem?_insertIfNew, Nat.compare_eq_eq]
      rw [if_neg (fun hc => hne hc.1)]
      exact h

omit [Scalar F] in
theorem setInput_slot {s : Simulation F} {p q : Nat} {player : SimPlayer F}
    (h : s.mPlayers[p]? = some player) (input : CharacterInput F) :
    (s.setInput q input).mPlayers[p]? =
      some (if q = p ∧ accepts player.input input then { player with input := input }
        else player) := by
  by_cases hq : q = p
  · subst hq
    simp only [setInput, h, true_and]
    split
    · simp
    · exact h
  · simp only [hq, false_and, if_false]
    cases hother : s.mPlayers[q]? with
    | none => simpa only [setInput, hother] using h
    | some other =>
        simp only [setInput, hother]
        split
        · rw [ExtTreeMap.getElem?_insert, if_neg (by simpa using hq)]
          exact h
        · exact h

/-- A call that does not remove the player has one of the three effects on it. -/
theorem track_effect (phys : Physics F) (p : Nat) {t : Tracked F} {player : SimPlayer F}
    (h : t.sim.mPlayers[p]? = some player) {c : Call F} (hc : c ≠ .removePlayer p) :
    ∃ player', (track phys p t c).sim.mPlayers[p]? = some player' ∧
      Effect phys p player t.ledger c player' (track phys p t c).ledger := by
  simp only [track, h]
  cases c with
  | addPlayer q => exact ⟨player, addPlayer_other h, .none _ (fun _ => trivial) (by simp [offers])⟩
  | removePlayer q =>
      have hq : q ≠ p := fun hq => hc (by rw [hq])
      refine ⟨player, ?_, .none _ (fun _ => trivial) (by simp [offers])⟩
      simp only [call, removePlayer, ExtTreeMap.getElem?_erase, Nat.compare_eq_eq, if_neg hq]
      exact h
  | setInput q input =>
      refine ⟨_, setInput_slot h input, ?_⟩
      simp only [record]
      split
      · rename_i hstored
        obtain ⟨rfl, haccepts⟩ := hstored
        exact .stored input haccepts
      · rename_i hkept
        refine .none _ (fun _ => trivial) fun i hi => ?_
        by_cases hq : q = p
        · simp only [offers, hq, if_true, List.mem_singleton] at hi
          subst hi
          simpa [hq] using hkept
        · simp [offers, hq] at hi
  | step deltaSeconds now =>
      refine ⟨stepPlayer phys deltaSeconds player, ?_, .ticked deltaSeconds now⟩
      simp [call, step, h]
  | setTimeOfDay timeOfDay now => exact ⟨player, h, .none _ (fun _ => trivial) (by simp [offers])⟩
  | setTimeSpeed speed now => exact ⟨player, h, .none _ (fun _ => trivial) (by simp [offers])⟩
  | resetClock now => exact ⟨player, h, .none _ (fun _ => trivial) (by simp [offers])⟩

/-- Sequence numbers grow along the accepted inputs, up to the one in the slot. -/
structure Ordered (player : SimPlayer F) (ledger : Ledger F) : Prop where
  positive : ∀ i ∈ ledger.accepted, i.sequence ≠ 0
  increasing : ledger.accepted.Pairwise fun i j => i.sequence < j.sequence
  latest : ∀ i ∈ ledger.accepted, i.sequence ≤ player.input.sequence
  newest : player.input.sequence = 0 ∨ ∃ i ∈ ledger.accepted, i.sequence = player.input.sequence
  acked : player.lastInputSequence ≤ player.input.sequence

/-- Every accepted input was passed once, or is the one that waits for the next tick. -/
structure Applied (player : SimPlayer F) (ledger : Ledger F) : Prop where
  split : ledger.accepted = ledger.passed.filter (·.sequence ≠ 0) ++ ledger.waiting
  slot : ∀ w, ledger.waiting.getLast? = some w → w = player.input
  unacked : ∀ w ∈ ledger.waiting, player.lastInputSequence < w.sequence

/-- An acknowledged input was overwritten before any tick, or passed at two ticks. -/
def Spoiled (player : SimPlayer F) (ledger : Ledger F) : Prop :=
  ∃ i ∈ ledger.accepted, i.sequence ≤ player.lastInputSequence ∧
    (i.sequence < player.input.sequence ∧
        ledger.passed.filter (·.sequence = i.sequence) = [] ∨
      2 ≤ (ledger.passed.filter (·.sequence = i.sequence)).length)

omit [Scalar F] in
/-- An accepted input with a new nonzero number is newer than the stored one. -/
theorem lt_of_accepts {player : SimPlayer F} {ledger : Ledger F} (h : Ordered player ledger)
    {input : CharacterInput F} (haccepts : accepts player.input input = true)
    (hpos : input.sequence ≠ 0) (hnew : ∀ i ∈ ledger.accepted, i.sequence ≠ input.sequence) :
    player.input.sequence < input.sequence := by
  have hle : player.input.sequence ≤ input.sequence := by
    simpa [accepts, hpos] using haccepts
  have hne : player.input.sequence ≠ input.sequence := by
    rcases h.newest with hzero | ⟨i, hi, heq⟩
    · rw [hzero]
      exact hpos.symm
    · rw [← heq]
      exact hnew i hi
  exact UInt32.lt_of_le_of_ne hle hne

section Step

variable {phys : Physics F} {p : Nat} {player player' : SimPlayer F} {ledger ledger' : Ledger F}
  {c : Call F}

theorem ordered_effect (e : Effect phys p player ledger c player' ledger')
    (h : Ordered player ledger) (hpos : ∀ i ∈ offers p c, i.sequence ≠ 0)
    (hnew : ∀ i ∈ ledger.accepted, ∀ j ∈ offers p c, i.sequence ≠ j.sequence) :
    Ordered player' ledger' := by
  cases e with
  | none => exact h
  | stored input haccepts =>
      have hpos' : input.sequence ≠ 0 := hpos input (by simp [offers])
      have hlt := lt_of_accepts h haccepts hpos' fun i hi => hnew i hi input (by simp [offers])
      have hbelow : ∀ i ∈ ledger.accepted, i.sequence < input.sequence := fun i hi =>
        UInt32.lt_of_le_of_lt (h.latest i hi) hlt
      constructor
      · intro i hi
        cases List.mem_append.mp hi with
        | inl hi => exact h.positive i hi
        | inr hi =>
            rw [List.mem_singleton.mp hi]
            exact hpos'
      · refine List.pairwise_append.mpr ⟨h.increasing, List.pairwise_singleton _ _, ?_⟩
        intro i hi j hj
        rw [List.mem_singleton.mp hj]
        exact hbelow i hi
      · intro i hi
        cases List.mem_append.mp hi with
        | inl hi => exact UInt32.le_of_lt (hbelow i hi)
        | inr hi =>
            rw [List.mem_singleton.mp hi]
            exact UInt32.le_refl _
      · exact Or.inr ⟨input, by simp, rfl⟩
      · exact UInt32.le_of_lt (UInt32.lt_of_le_of_lt h.acked hlt)
  | ticked deltaSeconds now =>
      exact ⟨h.positive, h.increasing, h.latest, h.newest, UInt32.le_refl _⟩

/-- What is accepted before a tick is passed by that tick, if it is the only one. -/
theorem applied_effect (e : Effect phys p player ledger c player' ledger')
    (h : Ordered player ledger) (ha : Applied player ledger) {s : Simulation F}
    (hpaced : Paced ⟨s, ledger⟩ c) (hpos : ∀ i ∈ offers p c, i.sequence ≠ 0)
    (hnew : ∀ i ∈ ledger.accepted, ∀ j ∈ offers p c, i.sequence ≠ j.sequence) :
    Applied player' ledger' := by
  cases e with
  | none => exact ha
  | stored input haccepts =>
      have hpos' : input.sequence ≠ 0 := hpos input (by simp [offers])
      have hlt := lt_of_accepts h haccepts hpos' fun i hi => hnew i hi input (by simp [offers])
      constructor
      · simp only [ha.split, List.append_assoc]
      · intro w hw
        simpa using hw.symm
      · intro w hw
        cases List.mem_append.mp hw with
        | inl hw => exact ha.unacked w hw
        | inr hw =>
            rw [List.mem_singleton.mp hw]
            exact UInt32.lt_of_le_of_lt h.acked hlt
  | ticked deltaSeconds now =>
      refine ⟨?_, by simp, by simp⟩
      cases hpaced with
      | inl hnone =>
          -- nothing was ever accepted, so the tick passes the default input, numbered zero
          have hzero : player.input.sequence = 0 := by
            rcases h.newest with hzero | ⟨i, hi, -⟩
            · exact hzero
            · rw [hnone] at hi
              cases hi
          have hsplit := ha.split
          simp_all
      | inr hone =>
          obtain ⟨w, hw⟩ := List.length_eq_one_iff.mp hone
          have hslot : w = player.input := ha.slot w (by simp [show ledger.waiting = [w] from hw])
          have hwpos : player.input.sequence ≠ 0 := by
            rw [← hslot]
            exact h.positive w (by simp [ha.split, show ledger.waiting = [w] from hw])
          simp [ha.split, show ledger.waiting = [w] from hw, hslot, hwpos]

section Once

omit [Scalar F]

/-- Under a nonzero number, only numbered inputs were passed. -/
theorem filter_numbered (passed : List (CharacterInput F)) {n : UInt32} (hn : n ≠ 0) :
    passed.filter (·.sequence = n) =
      (passed.filter (·.sequence ≠ 0)).filter (·.sequence = n) := by
  rw [List.filter_filter]
  apply List.filter_congr
  intro j _
  by_cases hj : j.sequence = n
  · simp [hj, hn]
  · simp [hj]

/-- An input that no longer waits was passed once. -/
theorem Applied.passed_once (ha : Applied player ledger) (h : Ordered player ledger)
    {i : CharacterInput F} (hi : i ∈ ledger.accepted) (hwait : i ∉ ledger.waiting) :
    ledger.passed.filter (·.sequence = i.sequence) = [i] := by
  rw [filter_numbered _ (h.positive i hi)]
  have hinc := h.increasing
  rw [ha.split] at hi hinc
  have hpassed := (List.pairwise_append.mp hinc).1
  obtain ⟨pre, post, hsplit⟩ := List.append_of_mem ((List.mem_append.mp hi).resolve_right hwait)
  rw [hsplit] at hpassed ⊢
  obtain ⟨-, htail, hbefore⟩ := List.pairwise_append.mp hpassed
  have hafter := (List.pairwise_cons.mp htail).1
  have hpre : pre.filter (·.sequence = i.sequence) = [] := by
    apply List.filter_eq_nil_iff.mpr
    intro j hj heq
    exact UInt32.ne_of_lt (hbefore j hj i (by simp)) (by simpa using heq)
  have hpost : post.filter (·.sequence = i.sequence) = [] := by
    apply List.filter_eq_nil_iff.mpr
    intro j hj heq
    exact UInt32.ne_of_lt (hafter j hj) (Eq.symm (by simpa using heq))
  simp [hpre, hpost]

/-- An input that waits was not passed yet. -/
theorem Applied.not_passed (ha : Applied player ledger) (h : Ordered player ledger)
    {w : CharacterInput F} (hw : w ∈ ledger.waiting) :
    ledger.passed.filter (·.sequence = w.sequence) = [] := by
  have hwacc : w ∈ ledger.accepted := by
    rw [ha.split]
    exact List.mem_append_right _ hw
  rw [filter_numbered _ (h.positive w hwacc)]
  have hinc := h.increasing
  rw [ha.split] at hinc
  apply List.filter_eq_nil_iff.mpr
  intro j hj heq
  exact UInt32.ne_of_lt ((List.pairwise_append.mp hinc).2.2 j hj w hw) (by simpa using heq)

end Once

/-- A tick that does not find exactly one new input spoils the history. -/
theorem spoiled_of_not_paced (e : Effect phys p player ledger c player' ledger')
    (h : Ordered player ledger) (ha : Applied player ledger) {s : Simulation F}
    (hpaced : ¬ Paced ⟨s, ledger⟩ c) : Spoiled player' ledger' := by
  cases e with
  | none c hall hrefused => exact absurd (hall s) hpaced
  | stored input haccepts => exact absurd trivial hpaced
  | ticked deltaSeconds now =>
      obtain ⟨hsome, hone⟩ := not_or.mp hpaced
      obtain ⟨i, hi, hnewest⟩ : ∃ i ∈ ledger.accepted, i.sequence = player.input.sequence := by
        cases h.newest with
        | inl hzero =>
            obtain ⟨i, hi⟩ := List.exists_mem_of_ne_nil _ hsome
            have hle := h.latest i hi
            rw [hzero, UInt32.le_zero_iff] at hle
            exact absurd hle (h.positive i hi)
        | inr hex => exact hex
      cases hw : ledger.waiting with
      | nil =>
          -- no new input: the newest one is passed a second time
          refine ⟨i, hi, by simp [stepPlayer, hnewest], Or.inr ?_⟩
          have honce := ha.passed_once h hi (by simp [hw])
          simp [List.filter_append, honce, hnewest.symm]
      | cons w rest =>
          -- several new inputs: the first of them is overwritten
          have hwacc : w ∈ ledger.accepted := by simp [ha.split, hw]
          have hrest : rest ≠ [] := by
            rintro rfl
            exact hone (by simp [hw])
          have hlast : (w :: rest).getLast? = some (rest.getLast hrest) := by
            rw [List.getLast?_cons, List.getLast?_eq_some_getLast hrest]
            rfl
          have hslot := ha.slot _ (hw ▸ hlast)
          have hinc := h.increasing
          rw [ha.split, hw] at hinc
          have hlt : w.sequence < player.input.sequence := by
            rw [← hslot]
            exact (List.pairwise_cons.mp (List.pairwise_append.mp hinc).2.1).1 _
              (List.getLast_mem hrest)
          refine ⟨w, hwacc, UInt32.le_of_lt hlt, Or.inl ⟨hlt, ?_⟩⟩
          have hnever := ha.not_passed h (w := w) (by simp [hw])
          simpa [List.filter_append, hnever] using (UInt32.ne_of_lt hlt).symm

/-- Nothing that happens later repairs a spoiled history. -/
theorem spoiled_effect (e : Effect phys p player ledger c player' ledger')
    (h : Ordered player ledger) (hs : Spoiled player ledger)
    (hpos : ∀ i ∈ offers p c, i.sequence ≠ 0)
    (hnew : ∀ i ∈ ledger.accepted, ∀ j ∈ offers p c, i.sequence ≠ j.sequence) :
    Spoiled player' ledger' := by
  obtain ⟨i, hi, hacked, hwrong⟩ := hs
  cases e with
  | none => exact ⟨i, hi, hacked, hwrong⟩
  | stored input haccepts =>
      have hpos' : input.sequence ≠ 0 := hpos input (by simp [offers])
      have hlt := lt_of_accepts h haccepts hpos' fun i hi => hnew i hi input (by simp [offers])
      refine ⟨i, List.mem_append_left _ hi, hacked, ?_⟩
      exact hwrong.imp_left fun hlost => ⟨UInt32.lt_trans hlost.1 hlt, hlost.2⟩
  | ticked deltaSeconds now =>
      refine ⟨i, hi, UInt32.le_trans hacked h.acked, ?_⟩
      rcases hwrong with ⟨hlost, hnever⟩ | htwice
      · refine Or.inl ⟨hlost, ?_⟩
        simpa [List.filter_append, hnever] using (UInt32.ne_of_lt hlost).symm
      · apply Or.inr
        rw [List.filter_append, List.length_append]
        omega

/-- Only offered inputs are accepted. -/
theorem accepted_effect (e : Effect phys p player ledger c player' ledger')
    {i : CharacterInput F} (hi : i ∈ ledger'.accepted) :
    i ∈ ledger.accepted ∨ i ∈ offers p c := by
  cases e with
  | none => exact Or.inl hi
  | stored input haccepts => simpa [offers] using hi
  | ticked deltaSeconds now => exact Or.inl hi

/-- When no offered input is older than the slot, the call accepts what it offers. -/
theorem accepts_effect (e : Effect phys p player ledger c player' ledger')
    (h : ∀ input ∈ offers p c, accepts player.input input = true) :
    ledger'.accepted = ledger.accepted ++ offers p c ∧
      (player'.input.sequence = player.input.sequence ∨
        ∃ i ∈ offers p c, i.sequence = player'.input.sequence) := by
  cases e with
  | none c hall hrefused =>
      have hnil : offers p c = [] := by
        apply List.eq_nil_iff_forall_not_mem.mpr
        intro i hi
        have hboth := (h i hi).symm.trans (hrefused i hi)
        cases hboth
      simp [hnil]
  | stored input haccepts => simp [offers]
  | ticked deltaSeconds now => simp [offers, stepPlayer]

end Step

/-- The inputs offered for a player by a list of calls. -/
def offered (p : Nat) (calls : List (Call F)) : List (CharacterInput F) := calls.flatMap (offers p)

/-- A fresh player has an empty slot. -/
theorem addPlayer_fresh (phys : Physics F) {s : Simulation F} {p : Nat}
    (h : s.mPlayers[p]? = none) :
    ∃ player, (s.addPlayer phys p).1.mPlayers[p]? = some player ∧
      player.input.sequence = 0 ∧ player.lastInputSequence = 0 :=
  ⟨_, addPlayer_entry phys h, rfl, rfl⟩

/-- After every part of a player's life its history is in order, and it is applied or spoiled
as the ticks so far were paced or not. -/
theorem life_invariant (phys : Physics F) {s : Simulation F} {p : Nat}
    (hnone : s.mPlayers[p]? = none) (calls : List (Call F))
    (hstays : ∀ c ∈ calls, c ≠ .removePlayer p)
    (hdistinct : ((offered p calls).map (·.sequence)).Nodup)
    (hpos : ∀ i ∈ offered p calls, i.sequence ≠ 0) :
    ∃ player, (life phys s p calls).sim.mPlayers[p]? = some player ∧
      (∀ i ∈ (life phys s p calls).ledger.accepted, i ∈ offered p calls) ∧
      Ordered player (life phys s p calls).ledger ∧
      (Lib.Runs.Along (track phys p) Paced (life phys s p []) calls →
        Applied player (life phys s p calls).ledger) ∧
      (¬ Lib.Runs.Along (track phys p) Paced (life phys s p []) calls →
        Spoiled player (life phys s p calls).ledger) := by
  -- induction on the calls from the end, so that the last call meets the whole history
  induction calls using List.reverseRecOn with
  | nil =>
      obtain ⟨player, hplayer, hslot, hack⟩ := addPlayer_fresh phys hnone
      refine ⟨player, hplayer, by simp [life], ?_, fun _ => ?_, fun h => absurd trivial h⟩
      · exact ⟨by simp [life], by simp [life], by simp [life], Or.inl hslot, by simp [hslot, hack]⟩
      · exact ⟨by simp [life], by simp [life], by simp [life]⟩
  | append_singleton calls c ih =>
      have hoffered : offered p (calls ++ [c]) = offered p calls ++ offers p c := by
        simp [offered]
      rw [hoffered] at hpos hdistinct ⊢
      rw [List.map_append, List.nodup_append] at hdistinct
      obtain ⟨player, hplayer, haccepted, hordered, happlied, hspoiled⟩ :=
        ih (fun d hd => hstays d (by simp [hd])) hdistinct.1 fun i hi => hpos i (by simp [hi])
      have hposc : ∀ i ∈ offers p c, i.sequence ≠ 0 := fun i hi => hpos i (by simp [hi])
      have hnewc : ∀ i ∈ (life phys s p calls).ledger.accepted, ∀ j ∈ offers p c,
          i.sequence ≠ j.sequence := fun i hi j hj =>
        hdistinct.2.2 _ (List.mem_map_of_mem (haccepted i hi)) _ (List.mem_map_of_mem hj)
      have hlife : life phys s p (calls ++ [c]) = track phys p (life phys s p calls) c :=
        Lib.Runs.run_concat _ _ _ _
      rw [hlife, Lib.Runs.along_concat]
      obtain ⟨player', hplayer', heffect⟩ := track_effect phys p hplayer (hstays c (by simp))
      refine ⟨player', hplayer', ?_, ordered_effect heffect hordered hposc hnewc, ?_, ?_⟩
      · intro i hi
        cases accepted_effect heffect hi with
        | inl hi => exact List.mem_append_left _ (haccepted i hi)
        | inr hi => exact List.mem_append_right _ hi
      · rintro ⟨halong, hpaced⟩
        exact applied_effect heffect hordered (happlied halong) hpaced hposc hnewc
      · intro hnot
        by_cases halong : Lib.Runs.Along (track phys p) Paced (life phys s p []) calls
        · exact spoiled_of_not_paced heffect hordered (happlied halong) fun hpaced =>
            hnot ⟨halong, hpaced⟩
        · exact spoiled_effect heffect hordered (hspoiled halong) hposc hnewc

/-- The acknowledgement means what the client takes it to mean if and only if every tick found
exactly one input accepted since the tick before, or none was ever accepted. -/
theorem sound_iff_paced (phys : Physics F) (s : Simulation F) (p : Nat)
    (hnone : s.mPlayers[p]? = none) (calls : List (Call F))
    (hstays : ∀ c ∈ calls, c ≠ .removePlayer p)
    (hdistinct : ((offered p calls).map (·.sequence)).Nodup)
    (hpos : ∀ i ∈ offered p calls, i.sequence ≠ 0) :
    Sound phys p (life phys s p calls) ↔
      Lib.Runs.Along (track phys p) Paced (life phys s p []) calls := by
  obtain ⟨player, hplayer, -, hordered, happlied, hspoiled⟩ :=
    life_invariant phys hnone calls hstays hdistinct hpos
  constructor
  · intro hsound
    by_contra hnot
    obtain ⟨i, hi, hacked, hwrong⟩ := hspoiled hnot
    have honce := hsound player hplayer i hi hacked
    rcases hwrong with ⟨-, hnever⟩ | htwice
    · rw [honce] at hnever
      cases hnever
    · rw [honce] at htwice
      simp at htwice
  · intro hpaced player₂ hplayer₂ i hi hacked
    have ha := happlied hpaced
    obtain rfl : player = player₂ := Option.some.inj (hplayer.symm.trans hplayer₂)
    exact ha.passed_once hordered hi fun hwait =>
      UInt32.not_lt.mpr hacked (ha.unacked i hwait)

/-- Inputs offered in order are all accepted. -/
theorem accepted_eq_offered (phys : Physics F) {s : Simulation F} {p : Nat}
    (hnone : s.mPlayers[p]? = none) (calls : List (Call F))
    (hstays : ∀ c ∈ calls, c ≠ .removePlayer p)
    (hinc : (offered p calls).Pairwise fun i j => i.sequence < j.sequence) :
    (life phys s p calls).ledger.accepted = offered p calls ∧
      ∃ player, (life phys s p calls).sim.mPlayers[p]? = some player ∧
        (player.input.sequence = 0 ∨ ∃ i ∈ offered p calls, i.sequence = player.input.sequence) := by
  induction calls using List.reverseRecOn with
  | nil =>
      obtain ⟨player, hplayer, hslot, -⟩ := addPlayer_fresh phys hnone
      exact ⟨rfl, player, hplayer, Or.inl hslot⟩
  | append_singleton calls c ih =>
      have hoffered : offered p (calls ++ [c]) = offered p calls ++ offers p c := by
        simp [offered]
      rw [hoffered, List.pairwise_append] at hinc
      obtain ⟨haccepted, player, hplayer, hslot⟩ :=
        ih (fun d hd => hstays d (by simp [hd])) hinc.1
      have hlife : life phys s p (calls ++ [c]) = track phys p (life phys s p calls) c :=
        Lib.Runs.run_concat _ _ _ _
      obtain ⟨player', hplayer', heffect⟩ := track_effect phys p hplayer (hstays c (by simp))
      have haccepts : ∀ input ∈ offers p c, accepts player.input input = true := by
        intro input hi
        have hle : ¬ input.sequence < player.input.sequence := by
          rcases hslot with hzero | ⟨i, hmem, heq⟩
          · rw [hzero]
            exact UInt32.not_lt_zero
          · rw [← heq]
            exact UInt32.lt_asymm (hinc.2.2 i hmem input hi)
        simp [accepts, hle]
      obtain ⟨hgrown, hnewest⟩ := accepts_effect heffect haccepts
      rw [hlife, hoffered]
      refine ⟨by rw [hgrown, haccepted], player', hplayer', ?_⟩
      rcases hnewest with hsame | ⟨i, hi, heq⟩
      · rw [hsame]
        exact hslot.imp_right fun ⟨i, hi, heq⟩ => ⟨i, List.mem_append_left _ hi, heq⟩
      · exact Or.inr ⟨i, List.mem_append_right _ hi, heq⟩

def forward (sequence : UInt32) (jump : Bool) : CharacterInput ℚ := ⟨sequence, 1, 0, 0, jump, false⟩

def oneTick : Call ℚ := .step (1 / 60) ⟨0, 0⟩

/-- One input for each tick: both were stepped once. -/
theorem sound_iff_paced_two_ticks :
    Sound .level 1 (life .level blank 1
      [.setInput 1 (forward 1 true), oneTick, .setInput 1 (forward 2 false), oneTick]) :=
  (sound_iff_paced .level blank 1 (by decide +kernel) _ (by decide +kernel) (by decide +kernel)
    (by decide +kernel)).mpr (by decide +kernel)

/-- Two inputs between ticks: the jump is acknowledged and no tick ever saw it. -/
theorem acknowledged_jump_lost :
    let calls : List (Call ℚ) :=
      [.setInput 1 (forward 1 true), .setInput 1 (forward 2 false), oneTick]
    ((offered 1 calls).map (·.sequence)).Nodup ∧ (∀ i ∈ offered 1 calls, i.sequence ≠ 0) ∧
      ¬ Sound .level 1 (life .level blank 1 calls) := by
  refine ⟨by decide +kernel, by decide +kernel, fun h => ?_⟩
  have hjump := h _ rfl (forward 1 true) (by decide +kernel) (by decide +kernel)
  revert hjump
  decide +kernel

end UntitledGame.Sim.Acknowledgement
