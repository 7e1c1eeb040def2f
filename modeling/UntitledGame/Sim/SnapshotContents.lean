import UntitledGame.Sim.Simulation
import UntitledGame.Lib.TreeMaps

/-!
# What a snapshot lists

A snapshot lists the cube and the players, each under an entity id. Clients tell
the entities apart by these ids alone, so the ids of one snapshot have to differ,
and no id may pass from one player to another during a run.

The ids come from a counter, while the table is keyed by player id. `joined`
notes each player that the simulation really adds, with its entity id; `Enrolled`
ties the counter and the table to these notes, and `snapshot_contents` follows
while the counter does not wrap.
-/

namespace UntitledGame.Sim.SnapshotContents

open Simulation
open Net (EntityState)
open Std (ExtTreeMap)

variable {F : Type*} [Scalar F]

/-- The player that a call adds, with its entity id; a player in the table is not added again. -/
def joined (s : Simulation F) : Call F → List (Nat × UInt32)
  | .addPlayer p => if p ∈ s.mPlayers then [] else [(p, s.mNextPlayerEntityId)]
  | _ => []

/-- The state after `init` and a sequence of calls, with the players ever added. -/
def roll (phys : Physics F) (timeSpeed : F) (now : ClockReading F) (calls : List (Call F)) :
    Simulation F × List (Nat × UInt32) :=
  Lib.Runs.run (Lib.Runs.record (call phys) joined) (init phys timeSpeed now, []) calls

/-- A player that was added and not removed since. -/
def Current (p : Nat) (calls : List (Call F)) : Prop :=
  ∃ pre post, calls = pre ++ .addPlayer p :: post ∧ .removePlayer p ∉ post

/-- The snapshot lists the cube once, each current player once, and nothing else. -/
structure Lists (phys : Physics F) (calls : List (Call F)) (s : Simulation F) : Prop where
  cube : (s.buildSnapshot phys).entities.filter (·.id = kCubeEntityId) = [cubeEntity s]
  players : ∀ p : Nat, Current p calls → ∃ player : SimPlayer F, s.mPlayers[p]? = some player ∧
    (s.buildSnapshot phys).entities.filter (·.id = player.entityId) = [playerEntity phys player]
  only : ∀ e ∈ (s.buildSnapshot phys).entities, e = cubeEntity s ∨
    ∃ (p : Nat) (player : SimPlayer F), Current p calls ∧ s.mPlayers[p]? = some player ∧
      e = playerEntity phys player
  distinct : ((s.buildSnapshot phys).entities.map (·.id)).Nodup
  above : ∀ (p : Nat) (player : SimPlayer F), s.mPlayers[p]? = some player →
    kFirstPlayerEntityId ≤ player.entityId

/-- Entity ids were given out in order, and each entry has the one it was given. -/
structure Enrolled (s : Simulation F) (log : List (Nat × UInt32)) : Prop where
  next : s.mNextPlayerEntityId = UInt32.ofNat (1000 + log.length)
  ids : log.map Prod.snd = (List.range log.length).map fun n => UInt32.ofNat (1000 + n)
  entry : ∀ (p : Nat) (player : SimPlayer F), s.mPlayers[p]? = some player →
    (p, player.entityId) ∈ log

section Current

omit [Scalar F] in
theorem current_concat {p : Nat} {calls : List (Call F)} {c : Call F} :
    Current p (calls ++ [c]) ↔ c = .addPlayer p ∨ c ≠ .removePlayer p ∧ Current p calls := by
  constructor
  · rintro ⟨pre, post, heq, hstays⟩
    cases post using List.reverseRecOn with
    | nil => exact Or.inl (List.append_inj_right' heq rfl |> List.singleton_inj.mp)
    | append_singleton post d =>
        rw [← List.cons_append, ← List.append_assoc] at heq
        obtain ⟨hcalls, hlast⟩ := List.append_inj' heq rfl
        obtain rfl := List.singleton_inj.mp hlast
        refine Or.inr ⟨?_, pre, post, hcalls, fun hmem => hstays (List.mem_append_left _ hmem)⟩
        rintro rfl
        exact hstays (by simp)
  · rintro (rfl | ⟨hc, pre, post, rfl, hstays⟩)
    · exact ⟨calls, [], rfl, by simp⟩
    · refine ⟨pre, post ++ [c], by simp, fun hmem => ?_⟩
      rcases List.mem_append.mp hmem with hmem | hmem
      · exact hstays hmem
      · exact hc (List.mem_singleton.mp hmem).symm

theorem call_players (phys : Physics F) (s : Simulation F) (p : Nat) (c : Call F) :
    p ∈ (s.call phys c).mPlayers ↔
      c = .addPlayer p ∨ c ≠ .removePlayer p ∧ p ∈ s.mPlayers := by
  cases c with
  | addPlayer q => simp [call, addPlayer_players, eq_comm]
  | removePlayer q => simp [call, removePlayer_players, eq_comm]
  | setInput q input => simp [call, setInput_players]
  | step deltaSeconds now => simp [call, step_players]
  | setTimeOfDay timeOfDay now => simp [call, setTimeOfDay, reanchor]
  | setTimeSpeed speed now => simp [call, setTimeSpeed, reanchor]
  | resetClock now => simp [call, resetClock, reanchor]

/-- The table holds the current players. -/
theorem mem_run_iff (phys : Physics F) (timeSpeed : F) (now : ClockReading F) (p : Nat)
    (calls : List (Call F)) : p ∈ (run phys timeSpeed now calls).mPlayers ↔ Current p calls := by
  induction calls using List.reverseRecOn with
  | nil =>
      constructor
      · intro h
        simp [run, init, resetClock, reanchor, blank] at h
      · rintro ⟨pre, post, heq, -⟩
        simp at heq
  | append_singleton calls c ih =>
      rw [run, Lib.Runs.run_concat, call_players, current_concat]
      exact or_congr_right (and_congr_right' ih)

end Current

section Step

/-- A call adds no player, or one under the next entity id. -/
theorem joined_cases (phys : Physics F) (s : Simulation F) (c : Call F) :
    joined s c = [] ∧ (s.call phys c).mNextPlayerEntityId = s.mNextPlayerEntityId ∨
      ∃ p, joined s c = [(p, s.mNextPlayerEntityId)] ∧
        (s.call phys c).mNextPlayerEntityId = s.mNextPlayerEntityId + 1 := by
  cases c with
  | addPlayer p =>
      by_cases hp : p ∈ s.mPlayers
      · have hsome : s.mPlayers[p]? = some s.mPlayers[p] := ExtTreeMap.getElem?_eq_some_getElem hp
        exact Or.inl ⟨by simp [joined, hp], by simp only [call, addPlayer, hsome]⟩
      · have hnone : s.mPlayers[p]? = none := ExtTreeMap.getElem?_eq_none hp
        exact Or.inr ⟨p, by simp [joined, hp], by simp only [call, addPlayer, hnone]⟩
  | removePlayer p => exact Or.inl ⟨rfl, rfl⟩
  | setInput p input =>
      obtain ⟨players, heq⟩ := s.setInput_eq p input
      exact Or.inl ⟨rfl, by rw [call, heq]⟩
  | step deltaSeconds now => exact Or.inl ⟨rfl, rfl⟩
  | setTimeOfDay timeOfDay now => exact Or.inl ⟨rfl, rfl⟩
  | setTimeSpeed speed now => exact Or.inl ⟨rfl, rfl⟩
  | resetClock now => exact Or.inl ⟨rfl, rfl⟩

/-- An entry keeps its entity id, or is new and noted. -/
theorem call_entry {phys : Physics F} {s : Simulation F} {c : Call F} {p : Nat}
    {player : SimPlayer F} (h : (s.call phys c).mPlayers[p]? = some player) :
    (∃ before, s.mPlayers[p]? = some before ∧ player.entityId = before.entityId) ∨
      (p, player.entityId) ∈ joined s c := by
  cases call_made h with
  | kept c hbefore => exact Or.inl ⟨player, hbefore, rfl⟩
  | added hnone =>
      have hp : p ∉ s.mPlayers := by simpa using hnone
      exact Or.inr (by simp [joined, hp])
  | stored hbefore haccepts => exact Or.inl ⟨_, hbefore, rfl⟩
  | stepped hbefore deltaSeconds now => exact Or.inl ⟨_, hbefore, rfl⟩

theorem enrolled_call (phys : Physics F) (s : Simulation F) (log : List (Nat × UInt32))
    (c : Call F) (h : Enrolled s log) : Enrolled (s.call phys c) (log ++ joined s c) := by
  have hentry : ∀ (p : Nat) (player : SimPlayer F), (s.call phys c).mPlayers[p]? = some player →
      (p, player.entityId) ∈ log ++ joined s c := by
    intro p player hplayer
    rcases call_entry hplayer with ⟨before, hbefore, hid⟩ | hnew
    · rw [hid]
      exact List.mem_append_left _ (h.entry p before hbefore)
    · exact List.mem_append_right _ hnew
  rcases joined_cases phys s c with ⟨hnone, hnext⟩ | ⟨p, hone, hnext⟩
  · rw [hnone, List.append_nil] at hentry ⊢
    exact ⟨hnext.trans h.next, h.ids, hentry⟩
  · rw [hone] at hentry ⊢
    refine ⟨?_, ?_, hentry⟩
    · rw [hnext, h.next, List.length_append, List.length_singleton]
      exact (UInt32.ofNat_add (1000 + log.length) 1).symm
    · simp only [List.map_append, List.length_append, List.length_singleton, List.range_succ, h.ids,
        h.next, List.map_singleton]

end Step

section Roll

variable (phys : Physics F) (timeSpeed : F) (now : ClockReading F)

theorem roll_fst (calls : List (Call F)) :
    (roll phys timeSpeed now calls).1 = run phys timeSpeed now calls :=
  Lib.Runs.run_record_fst _ _ _ _

theorem roll_enrolled (calls : List (Call F)) :
    Enrolled (run phys timeSpeed now calls) (roll phys timeSpeed now calls).2 := by
  rw [← roll_fst]
  refine Lib.Runs.run_record_preserves (enrolled_call phys) ⟨rfl, rfl, ?_⟩ calls
  intro p player h
  simp [init, resetClock, reanchor, blank] at h

/-- Notes are not taken back. -/
theorem roll_grows {pre calls : List (Call F)} (h : pre <+: calls) :
    (roll phys timeSpeed now pre).2 <+: (roll phys timeSpeed now calls).2 := by
  obtain ⟨post, rfl⟩ := h
  rw [roll, roll, Lib.Runs.run_append]
  have hgrows : ∀ (q : Simulation F × List (Nat × UInt32)) (c : Call F),
      (roll phys timeSpeed now pre).2 <+: q.2 →
        (roll phys timeSpeed now pre).2 <+: (Lib.Runs.record (call phys) joined q c).2 :=
    fun q c hq => hq.trans (List.prefix_append _ _)
  exact Lib.Runs.run_preserves hgrows (List.prefix_refl _) post

end Roll

section Few

variable {s : Simulation F} {log : List (Nat × UInt32)} (h : Enrolled s log)
  (hfew : log.length < UInt32.size - 1000)

include h hfew

section Enrolled

omit [Scalar F]

/-- While the counter does not wrap, no entity id is given out twice. -/
theorem Enrolled.nodup : (log.map Prod.snd).Nodup := by
  rw [h.ids]
  refine List.Nodup.map_on ?_ List.nodup_range
  intro n hn m hm heq
  rw [List.mem_range] at hn hm
  have hsize : UInt32.size = 4294967296 := rfl
  have htoNat := congrArg UInt32.toNat heq
  rw [UInt32.toNat_ofNat_of_lt' (by omega), UInt32.toNat_ofNat_of_lt' (by omega)] at htoNat
  omega

theorem Enrolled.above {p : Nat} {id : UInt32} (hid : (p, id) ∈ log) :
    kFirstPlayerEntityId ≤ id := by
  have hmem : id ∈ log.map Prod.snd := List.mem_map_of_mem hid
  rw [h.ids] at hmem
  obtain ⟨n, hn, rfl⟩ := List.mem_map.mp hmem
  rw [List.mem_range] at hn
  have hsize : UInt32.size = 4294967296 := rfl
  rw [UInt32.le_iff_toNat_le, UInt32.toNat_ofNat_of_lt' (by omega)]
  exact Nat.le_add_right _ _

/-- An entity id stands for one player. -/
theorem Enrolled.unique {p q : Nat} {id : UInt32} (hp : (p, id) ∈ log) (hq : (q, id) ∈ log) :
    p = q := by
  have heq := List.inj_on_of_nodup_map (h.nodup hfew) hp hq rfl
  exact congrArg Prod.fst heq

end Enrolled

end Few

/-- Where keys differ, a key filters out the one item that has it. -/
theorem filter_key {α κ : Type*} [DecidableEq κ] {key : α → κ} {items : List α}
    (h : (items.map key).Nodup) {a : α} (ha : a ∈ items) :
    items.filter (fun b => key b = key a) = [a] := by
  have hmem : ∀ b, b ∈ items.filter (fun b => key b = key a) ↔ b ∈ [a] := by
    intro b
    rw [List.mem_filter, List.mem_singleton, decide_eq_true_eq]
    constructor
    · rintro ⟨hb, heq⟩
      exact List.inj_on_of_nodup_map h hb ha heq
    · rintro rfl
      exact ⟨ha, rfl⟩
  have hnodup : (items.filter fun b => key b = key a).Nodup := h.of_map.filter _
  exact List.perm_singleton.mp
    ((List.perm_ext_iff_of_nodup hnodup (List.nodup_singleton a)).mpr hmem)

section Snapshot

variable (phys : Physics F) {s : Simulation F} {log : List (Nat × UInt32)} (h : Enrolled s log)
  (hfew : log.length < UInt32.size - 1000)

theorem mem_entities {e : EntityState F} : e ∈ (s.buildSnapshot phys).entities ↔
    e = cubeEntity s ∨ ∃ (p : Nat) (player : SimPlayer F),
      s.mPlayers[p]? = some player ∧ e = playerEntity phys player := by
  simp only [buildSnapshot, List.mem_cons, List.mem_map, Prod.exists,
    ExtTreeMap.mem_toList_iff_getElem?_eq_some]
  simp only [eq_comm]

include h hfew

/-- The entity ids of a snapshot differ. -/
theorem nodup_entities : ((s.buildSnapshot phys).entities.map (·.id)).Nodup := by
  simp only [buildSnapshot, List.map_cons, List.map_map, List.nodup_cons]
  constructor
  · intro hcube
    obtain ⟨⟨p, player⟩, hmem, hid⟩ := List.mem_map.mp hcube
    have hentry := h.entry p player (ExtTreeMap.mem_toList_iff_getElem?_eq_some.mp hmem)
    have habove := h.above hfew hentry
    rw [show player.entityId = kCubeEntityId from hid] at habove
    exact absurd habove (by decide)
  · refine List.Nodup.map_on ?_ (Lib.TreeMaps.nodup_toList _)
    rintro ⟨p, a⟩ ha ⟨q, b⟩ hb hid
    rw [ExtTreeMap.mem_toList_iff_getElem?_eq_some] at ha hb
    have hsame : a.entityId = b.entityId := hid
    obtain rfl : p = q := h.unique hfew (h.entry p a ha) (hsame ▸ h.entry q b hb)
    obtain rfl : a = b := Option.some.inj (ha.symm.trans hb)
    rfl

end Snapshot

/-- With fewer players ever added than the counter has ids, the snapshot lists the cube and each
current player once under different ids, each addition gives out a new id, and no id ever stands
for two players. -/
theorem snapshot_contents (phys : Physics F) (timeSpeed : F) (now : ClockReading F)
    (calls : List (Call F))
    (hfew : (roll phys timeSpeed now calls).2.length < UInt32.size - 1000) :
    Lists phys calls (run phys timeSpeed now calls) ∧
      ((roll phys timeSpeed now calls).2.map Prod.snd).Nodup ∧
      ∀ one two, one <+: calls → two <+: calls → ∀ (p q : Nat) (a b : SimPlayer F),
        (run phys timeSpeed now one).mPlayers[p]? = some a →
          (run phys timeSpeed now two).mPlayers[q]? = some b → a.entityId = b.entityId → p = q := by
  have h := roll_enrolled phys timeSpeed now calls
  refine ⟨?_, h.nodup hfew, ?_⟩
  · have hdistinct := nodup_entities phys h hfew
    refine ⟨?_, ?_, ?_, hdistinct, fun p player hp => h.above hfew (h.entry p player hp)⟩
    · exact filter_key (a := cubeEntity (run phys timeSpeed now calls)) hdistinct
        ((mem_entities phys).mpr (Or.inl rfl))
    · intro p hcurrent
      have hp := (mem_run_iff phys timeSpeed now p calls).mpr hcurrent
      refine ⟨_, ExtTreeMap.getElem?_eq_some_getElem hp, ?_⟩
      exact filter_key (a := playerEntity phys _) hdistinct
        ((mem_entities phys).mpr (Or.inr ⟨p, _, ExtTreeMap.getElem?_eq_some_getElem hp, rfl⟩))
    · intro e he
      rcases (mem_entities phys).mp he with hcube | ⟨p, player, hplayer, heq⟩
      · exact Or.inl hcube
      · have hp : p ∈ (run phys timeSpeed now calls).mPlayers :=
          ExtTreeMap.mem_iff_isSome_getElem?.mpr (by rw [hplayer]; rfl)
        exact Or.inr ⟨p, player, (mem_run_iff phys timeSpeed now p calls).mp hp, hplayer, heq⟩
  · intro one two hone htwo p q a b ha hb hid
    have hp := (roll_enrolled phys timeSpeed now one).entry p a ha
    have hq := (roll_enrolled phys timeSpeed now two).entry q b hb
    rw [← hid] at hq
    exact h.unique hfew ((roll_grows phys timeSpeed now hone).subset hp)
      ((roll_grows phys timeSpeed now htwo).subset hq)

/-- One player leaves and comes back while another stays. -/
theorem snapshot_contents_rejoin :
    Lists .level [.addPlayer 5, .addPlayer 6, .removePlayer 5, .addPlayer 5]
      (run .level 1 ⟨0, 0⟩ [.addPlayer 5, .addPlayer 6, .removePlayer 5, .addPlayer 5]) :=
  (snapshot_contents .level 1 ⟨0, 0⟩
    [.addPlayer 5, .addPlayer 6, .removePlayer 5, .addPlayer 5] (by decide +kernel)).1

end UntitledGame.Sim.SnapshotContents
