import UntitledGame.Client.Application
import Mathlib.Data.List.Chain

/-!
# The client's copy of the newest snapshot

A snapshot lists every entity that exists, so an entity that it leaves out has
gone. `applySnapshotPacket` writes the entities that a snapshot lists and erases
none, and the scene shows the players that are in the table.

`mirrored_iff` says which sessions the table, and with it the scene, follows.
-/

namespace UntitledGame.Client.Mirror

open Net NetClient
open Std (ExtTreeMap ExtTreeSet)

/-- The arguments of one call of `applySnapshotPacket`. -/
structure Packet where
  data : Bytes
  sequence : UInt32
  now : ℚ
  deriving DecidableEq, Repr

def apply (c : NetClient) (p : Packet) : NetClient := c.applySnapshotPacket p.data p.sequence p.now

/-- The client after a sequence of packets. -/
def session (c : NetClient) (packets : List Packet) : NetClient := Lib.Runs.run apply c packets

/-- The snapshots that a sequence of packets applies. -/
def applied (packets : List Packet) : List (Snapshot UInt32) :=
  packets.filterMap fun p => decodeSnapshot p.data

/-- What a snapshot says about an entity; of two entries with one id the later one counts. -/
def reported (s : Snapshot UInt32) (id : UInt32) : Option (EntityState UInt32) :=
  s.entities.reverse.find? (·.id = id)

/-- What the table says about an entity. -/
def held (m : ExtTreeMap UInt32 Replicated) (id : UInt32) : Option (EntityState UInt32) :=
  (m[id]?).map Replicated.state

/-- The client holds the entities of the snapshot, in the states it gives, and no others. -/
def Mirrors (c : NetClient) (s : Snapshot UInt32) : Prop :=
  ∀ id, held c.mEntities id = reported s id

/-- Every entity of one snapshot is in the next. -/
def Keeps (s t : Snapshot UInt32) : Prop := ∀ e ∈ s.entities, e.id ∈ t.entities.map (·.id)

/-- No snapshot of the session leaves out an entity that the one before it had. -/
def Growing (packets : List Packet) : Prop := (applied packets).IsChain Keeps

instance (packets : List Packet) : Decidable (Growing packets) :=
  inferInstanceAs (Decidable ((applied packets).IsChain fun s t =>
    ∀ e ∈ s.entities, e.id ∈ t.entities.map (·.id)))

theorem reported_isSome_iff (s : Snapshot UInt32) (id : UInt32) :
    (reported s id).isSome ↔ id ∈ s.entities.map (·.id) := by
  simp [reported]

theorem foldl_putEntity (now : ℚ) (entities : List (EntityState UInt32))
    (m : ExtTreeMap UInt32 Replicated) (id : UInt32) :
    held (entities.foldl (putEntity now) m) id =
      (entities.reverse.find? (·.id = id)).or (held m id) := by
  induction entities generalizing m with
  | nil => simp
  | cons e entities ih =>
      rw [List.foldl_cons, ih, List.reverse_cons, List.find?_append, Option.or_assoc]
      congr 1
      by_cases h : e.id = id
      · simp [held, putEntity, h]
      · simp [held, putEntity, ExtTreeMap.getElem?_insert, h]

/-- One application: what the snapshot reports, and for the rest what was there. -/
theorem apply_entities {c : NetClient} {p : Packet} {s : Snapshot UInt32}
    (h : decodeSnapshot p.data = some s) (id : UInt32) :
    held (apply c p).mEntities id = (reported s id).or (held c.mEntities id) := by
  simp only [apply, applySnapshotPacket, h]
  exact foldl_putEntity p.now s.entities c.mEntities id

theorem apply_undecodable {c : NetClient} {p : Packet} (h : decodeSnapshot p.data = none) :
    apply c p = c := by
  simp [apply, applySnapshotPacket, h]

theorem session_concat (c : NetClient) (packets : List Packet) (p : Packet) :
    session c (packets ++ [p]) = apply (session c packets) p :=
  Lib.Runs.run_concat _ _ _ _

theorem applied_concat (packets : List Packet) (p : Packet) :
    applied (packets ++ [p]) = applied packets ++ (decodeSnapshot p.data).toList := by
  rw [applied, List.filterMap_append]
  cases h : decodeSnapshot p.data with
  | none => simp [applied, h]
  | some s => simp [applied, h]

/-- Before the first snapshot of a session the table is empty. -/
theorem session_empty {c : NetClient} (hempty : c.mEntities = ∅) {packets : List Packet}
    (h : applied packets = []) : (session c packets).mEntities = ∅ := by
  induction packets using List.reverseRecOn with
  | nil => exact hempty
  | append_singleton packets p ih =>
      rw [applied_concat, List.append_eq_nil_iff] at h
      have hnone : decodeSnapshot p.data = none := by simpa using h.2
      rw [session_concat, apply_undecodable hnone]
      exact ih h.1

/-- While nothing leaves, the table is the newest snapshot. -/
theorem mirrors_of_growing {c : NetClient} (hempty : c.mEntities = ∅) {packets : List Packet}
    (h : Growing packets) {s : Snapshot UInt32} (hs : (applied packets).getLast? = some s) :
    Mirrors (session c packets) s := by
  induction packets using List.reverseRecOn generalizing s with
  | nil => cases hs
  | append_singleton packets p ih =>
      rw [Growing, applied_concat, List.isChain_append] at h
      obtain ⟨hbefore, -, hkeeps⟩ := h
      rw [applied_concat] at hs
      rw [session_concat]
      cases hp : decodeSnapshot p.data with
      | none =>
          rw [apply_undecodable hp]
          exact ih hbefore (by simpa [hp] using hs)
      | some t =>
          obtain rfl : t = s := by simpa [hp] using hs
          intro id
          rw [apply_entities hp]
          cases hlast : (applied packets).getLast? with
          | none =>
              rw [session_empty hempty (List.getLast?_eq_none_iff.mp hlast)]
              simp [held]
          | some r =>
              -- what the table holds is reported by `r`, and `t` reports all of that again
              rw [ih hbefore hlast id]
              cases hr : reported r id with
              | none => simp
              | some e =>
                  have hid : id ∈ r.entities.map (·.id) :=
                    (reported_isSome_iff r id).mp (by simp [hr])
                  obtain ⟨e', he', rfl⟩ := List.mem_map.mp hid
                  have hagain := hkeeps r (by simp [hlast]) t (by simp [hp]) e' he'
                  obtain ⟨e'', he''⟩ := Option.isSome_iff_exists.mp
                    ((reported_isSome_iff t e'.id).mpr hagain)
                  simp [he'']

/-- A table that has followed every snapshot has never had to forget an entity. -/
theorem growing_of_mirrors {c : NetClient} {packets : List Packet}
    (h : ∀ pre s, pre <+: packets → (applied pre).getLast? = some s → Mirrors (session c pre) s) :
    Growing packets := by
  induction packets using List.reverseRecOn with
  | nil => exact List.isChain_nil
  | append_singleton packets p ih =>
      have hbefore : Growing packets := ih fun pre s hpre hs =>
        h pre s (hpre.trans (List.prefix_append _ _)) hs
      rw [Growing, applied_concat, List.isChain_append]
      refine ⟨hbefore, by cases decodeSnapshot p.data <;> simp, ?_⟩
      intro s hs t ht e he
      have ht' : decodeSnapshot p.data = some t := by
        cases hp : decodeSnapshot p.data with
        | none => simp [hp] at ht
        | some t' => simpa [hp] using ht
      have hmirror := h packets s (List.prefix_append _ _) hs e.id
      have hnext := h (packets ++ [p]) t (List.prefix_refl _)
        (by simp [applied_concat, ht']) e.id
      rw [session_concat, apply_entities ht', hmirror] at hnext
      have hsome : (reported s e.id).isSome :=
        (reported_isSome_iff s e.id).mpr (List.mem_map_of_mem he)
      rw [← reported_isSome_iff, ← hnext, Option.isSome_or, hsome, Bool.or_true]

section Scene

variable {F : Type*} [Scalar F]

/-- The entry is a player's. -/
def IsPlayer (e : EntityState UInt32) : Prop := e.type = EntityType.player.toU8

instance : DecidablePred IsPlayer := fun e =>
  inferInstanceAs (Decidable (e.type = EntityType.player.toU8))

/-- The players with a renderable are the players that the snapshot reports. -/
def Shows (a : Application F) (s : Snapshot UInt32) : Prop :=
  ∀ id, id ∈ a.mDemoScene.mPlayers ↔ ∃ e, reported s id = some e ∧ IsPlayer e

/-- Predicting the own character does not touch the network or the scene. -/
theorem predictOwn_frame (host : Host F) (a : Application F) (e : EntityState F) :
    (a.predictOwn host e).mNet = a.mNet ∧ (a.predictOwn host e).mDemoScene = a.mDemoScene := by
  simp only [Application.predictOwn]
  split
  · exact ⟨rfl, rfl⟩
  · split
    · exact ⟨rfl, rfl⟩
    · exact ⟨rfl, rfl⟩

/-- One turn of the loop over the entities: a player is drawn and noted as present. -/
theorem replicateEntity_scene (host : Host F) (a : Application F) (present : ExtTreeSet UInt32)
    (entry : UInt32 × Replicated) :
    let r := Application.replicateEntity host (a, present) entry
    r.1.mDemoScene = (if IsPlayer entry.2.state then a.mDemoScene.setPlayerTransform entry.1
        else a.mDemoScene) ∧
      r.2 = if IsPlayer entry.2.state then present.insert entry.1 else present := by
  by_cases htype : IsPlayer entry.2.state
  · have htype' : entry.2.state.type = EntityType.player.toU8 := htype
    simp only [Application.replicateEntity, htype', htype, if_true]
    split
    · exact ⟨by rw [(predictOwn_frame host a _).2], trivial⟩
    · exact ⟨rfl, trivial⟩
  · have htype' : ¬ entry.2.state.type = EntityType.player.toU8 := htype
    simp only [Application.replicateEntity, htype', htype, if_false, and_self]

/-- The whole loop: every player among the entries is drawn and present. -/
theorem foldl_replicateEntity (host : Host F) (entries : List (UInt32 × Replicated))
    (a : Application F) (present : ExtTreeSet UInt32) (hloaded : a.mDemoScene.mLoaded = true)
    (id : UInt32) :
    let r := entries.foldl (Application.replicateEntity host) (a, present)
    let listed := ∃ x, (id, x) ∈ entries ∧ IsPlayer x.state
    (id ∈ r.1.mDemoScene.mPlayers ↔ id ∈ a.mDemoScene.mPlayers ∨ listed) ∧
      (id ∈ r.2 ↔ id ∈ present ∨ listed) := by
  induction entries generalizing a present with
  | nil => simp
  | cons entry entries ih =>
      obtain ⟨hscene, hpresent⟩ := replicateEntity_scene host a present entry
      obtain ⟨k, x⟩ := entry
      have hloaded' : (Application.replicateEntity host (a, present) (k, x)).1.mDemoScene.mLoaded
          = true := by
        rw [hscene]
        split
        · simp [DemoScene.setPlayerTransform, hloaded]
        · exact hloaded
      obtain ⟨hplayers, hpresents⟩ := ih
        (Application.replicateEntity host (a, present) (k, x)).1
        (Application.replicateEntity host (a, present) (k, x)).2 hloaded'
      simp only [List.foldl_cons]
      constructor
      · apply hplayers.trans
        rw [hscene]
        split
        · simp only [DemoScene.setPlayerTransform, hloaded, Bool.not_true, Bool.false_eq_true,
            if_false, ExtTreeSet.mem_insert]
          grind
        · grind
      · apply hpresents.trans
        rw [hpresent]
        split
        · simp only [ExtTreeSet.mem_insert]
          grind
        · grind

/-- After a replication the scene shows the players in the client's table. -/
theorem applyReplication_players (host : Host F) (a : Application F)
    (hloaded : a.mDemoScene.mLoaded = true) (id : UInt32) :
    id ∈ (a.applyReplication host).mDemoScene.mPlayers ↔
      ∃ e, held a.mNet.mEntities id = some e ∧ IsPlayer e := by
  obtain ⟨hplayers, hpresent⟩ := foldl_replicateEntity host a.mNet.mEntities.toList a ∅ hloaded id
  have hlisted : (∃ x, (id, x) ∈ a.mNet.mEntities.toList ∧ IsPlayer x.state) ↔
      ∃ e, held a.mNet.mEntities id = some e ∧ IsPlayer e := by
    simp only [ExtTreeMap.mem_toList_iff_getElem?_eq_some, held, Option.map_eq_some_iff]
    constructor
    · rintro ⟨x, hx, htype⟩
      exact ⟨x.state, ⟨x, hx, rfl⟩, htype⟩
    · rintro ⟨_, ⟨x, hx, rfl⟩, htype⟩
      exact ⟨x, hx, htype⟩
  simp only [Application.applyReplication, hloaded, Bool.not_true, Bool.false_eq_true, if_false,
    DemoScene.removeAbsentPlayers, ExtTreeSet.mem_filter, ExtTreeSet.get_eq,
    ExtTreeSet.contains_iff_mem]
  rw [← hlisted]
  constructor
  · rintro ⟨-, hid⟩
    simpa using hpresent.mp hid
  · intro hid
    exact ⟨hplayers.mpr (Or.inr hid), hpresent.mpr (Or.inr hid)⟩

/-- After every snapshot of a session the table is that snapshot and a loaded scene shows its
players, if and only if no snapshot leaves out an entity that the one before it had. -/
theorem mirrored_iff (host : Host F) (c : NetClient) (hempty : c.mEntities = ∅)
    (packets : List Packet) :
    (∀ pre s, pre <+: packets → (applied pre).getLast? = some s →
        Mirrors (session c pre) s ∧
          ∀ a : Application F, a.mDemoScene.mLoaded = true → a.mNet = session c pre →
            Shows (a.applyReplication host) s) ↔
      Growing packets := by
  constructor
  · intro h
    exact growing_of_mirrors fun pre s hpre hs => (h pre s hpre hs).1
  · rintro h pre s ⟨rest, rfl⟩ hs
    have hpre : Growing pre := by
      rw [Growing, applied, List.filterMap_append, List.isChain_append] at h
      exact h.1
    have hmirrors := mirrors_of_growing hempty hpre hs
    refine ⟨hmirrors, fun a hloaded hnet id => ?_⟩
    rw [applyReplication_players host a hloaded, hnet, hmirrors id]

end Scene

/-- A player at the origin, as its entity comes over the wire. -/
def playerAt (id : UInt32) : EntityState UInt32 :=
  ⟨id, EntityType.player.toU8, ⟨0, 0, 0⟩, ⟨0, 0, 0, 0⟩, ⟨0, 0, 0⟩, ⟨0, 0, 0⟩, 0⟩

/-- The packet of a snapshot that lists these players. -/
def listing (tick : UInt32) (ids : List UInt32) : Packet :=
  ⟨encodeSnapshot ⟨tick, 0, 0, ids.map playerAt⟩, tick, 0⟩

/-- A second player joins, and the table follows. -/
theorem mirrored_iff_join :
    Mirrors (session (NetClient.init 0 0) [listing 1 [1000], listing 2 [1000, 1001]])
      ⟨2, 0, 0, [playerAt 1000, playerAt 1001]⟩ :=
  ((mirrored_iff (F := ℚ) ⟨"", .level, fun _ => 1, fun _ => 0, fun _ => 0, fun x => x⟩
    (NetClient.init 0 0) rfl [listing 1 [1000], listing 2 [1000, 1001]]).mpr (by decide +kernel)
    _ _ (List.prefix_refl _) (by decide +kernel)).1

/-- The second player leaves, and the client still holds it. -/
theorem departed_player_held :
    let packets := [listing 1 [1000, 1001], listing 2 [1000]]
    (applied packets).getLast? = some ⟨2, 0, 0, [playerAt 1000]⟩ ∧
      ¬ Mirrors (session (NetClient.init 0 0) packets) ⟨2, 0, 0, [playerAt 1000]⟩ := by
  refine ⟨by decide +kernel, fun h => ?_⟩
  have hgone := h 1001
  revert hgone
  decide +kernel

end UntitledGame.Client.Mirror
