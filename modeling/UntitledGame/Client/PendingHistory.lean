import UntitledGame.Client.Prediction

/-!
# The history that a rollback replays

`mPending` grows at the back with every tick. It loses inputs at the front for
two reasons: an acknowledgement covers them, or the history is full. Snapshots
arrive out of order, so an acknowledgement can be stale, and one that comes from
an earlier life of the player can be ahead of every input.

`History` keeps, beside the prediction, every input issued since `init` and
those that no acknowledgement has covered since they were issued. Both, and
`mPending`, are what is left of the issued inputs when some are dropped from the
front; `Kept` is this invariant.
-/

namespace UntitledGame.Client.Prediction

open Sim (Vec3 Character CharacterInput Physics)
open Net (EntityState)

variable {F : Type*} [Scalar F]

/-- The inputs issued since `init`, and those of them that no acknowledgement has covered since. -/
structure History (F : Type*) where
  issued : List (CharacterInput F)
  waiting : List (CharacterInput F)
  deriving DecidableEq, Repr

/-- A prediction with its history. -/
structure Played (F : Type*) where
  prediction : Prediction F
  history : History F
  deriving DecidableEq, Repr

/-- The calls between an `init` and the next one. -/
def Call.plays : Call F → Bool
  | .init _ => false
  | .shutdown => false
  | _ => true

/-- What a call adds to the history, or covers of it. -/
def note (phys : Physics F) (s : Prediction F) (history : History F) : Call F → History F
  | .step intent =>
      let input := (s.step phys intent).2
      ⟨history.issued ++ [input], history.waiting ++ [input]⟩
  | .reconcile authoritative =>
      ⟨history.issued, history.waiting.filter (authoritative.lastInputSequence < ·.sequence)⟩
  | _ => history

def play (phys : Physics F) (exp2 : F → F) (t : Played F) (c : Call F) : Played F :=
  ⟨t.prediction.call phys exp2 c, note phys t.prediction t.history c⟩

/-- An `init`, and the calls that follow it. -/
def played (phys : Physics F) (exp2 : F → F) (s : Prediction F) (spawnPosition : Vec3 F)
    (calls : List (Call F)) : Played F :=
  Lib.Runs.run (play phys exp2) ⟨s.init spawnPosition, ⟨[], []⟩⟩ calls

/-- The last inputs issued, as many as the history has room for. -/
def History.recent (history : History F) : List (CharacterInput F) :=
  history.issued.drop (history.issued.length - kMaxPending)

/-- The inputs issued are numbered from one. What waits, and what the prediction still has, is left
of them after some are dropped from the front. -/
structure Kept (t : Played F) : Prop where
  active : t.prediction.mActive = true
  numbered : t.history.issued.map (·.sequence.toNat) = List.range' 1 t.history.issued.length
  next : t.prediction.mNextSequence.toNat = t.history.issued.length + 1
  window : ∃ k ≤ t.history.issued.length, t.history.waiting = t.history.issued.drop k ∧
    t.prediction.mPending =
      t.history.issued.drop (max k (t.history.issued.length - kMaxPending))

section Numbers

variable {issued : List (CharacterInput F)}
  (h : issued.map (·.sequence.toNat) = List.range' 1 issued.length)

include h

section Sequences

omit [Scalar F]

theorem sequence_getElem {j : Nat} (hj : j < issued.length) :
    issued[j].sequence.toNat = 1 + j := by
  have hget := List.getElem_of_eq h (i := j) (by simpa using hj)
  simpa using hget

theorem increasing_of_numbered : Increasing issued := by
  have hpairwise : (issued.map (·.sequence.toNat)).Pairwise (· < ·) := by
    rw [h]
    exact List.pairwise_lt_range'
  exact (List.pairwise_map.mp hpairwise).imp fun hlt => UInt32.lt_iff_toNat_lt.mpr hlt

/-- An acknowledgement takes away from the front. -/
theorem filter_drop (m : Nat) (acked : UInt32) :
    (issued.drop m).filter (acked < ·.sequence) = issued.drop (max m acked.toNat) := by
  have hcovered : ((issued.drop m).take (acked.toNat - m)).filter (acked < ·.sequence) = [] := by
    apply List.filter_eq_nil_iff.mpr
    intro i hi
    obtain ⟨j, hj, rfl⟩ := List.mem_iff_getElem.mp hi
    simp only [List.length_take, List.length_drop] at hj
    rw [List.getElem_take, List.getElem_drop, decide_eq_true_eq, UInt32.not_lt,
      UInt32.le_iff_toNat_le, sequence_getElem h]
    omega
  have hleft : ((issued.drop m).drop (acked.toNat - m)).filter (acked < ·.sequence) =
      (issued.drop m).drop (acked.toNat - m) := by
    apply List.filter_eq_self.mpr
    intro i hi
    obtain ⟨j, hj, rfl⟩ := List.mem_iff_getElem.mp hi
    simp only [List.length_drop] at hj
    rw [List.getElem_drop, List.getElem_drop, decide_eq_true_eq, UInt32.lt_iff_toNat_lt,
      sequence_getElem h]
    omega
  calc (issued.drop m).filter (acked < ·.sequence)
      = ((issued.drop m).take (acked.toNat - m) ++ (issued.drop m).drop (acked.toNat - m)).filter
          (acked < ·.sequence) := by rw [List.take_append_drop]
    _ = (issued.drop m).drop (acked.toNat - m) := by
        rw [List.filter_append, hcovered, hleft, List.nil_append]
    _ = issued.drop (max m acked.toNat) := by
        rw [List.drop_drop]
        congr 1
        omega

end Sequences

end Numbers

/-- The last items of what is left after a drop are left after a drop too. -/
theorem drop_recent {α : Type*} (items : List α) (m w : Nat) :
    (items.drop m).drop ((items.drop m).length - w) = items.drop (max m (items.length - w)) := by
  have hdropped : m + (items.length - m - w) = max m (items.length - w) := by omega
  rw [List.length_drop, List.drop_drop, hdropped]

omit [Scalar F] in
theorem bounded_drop (issued : List (CharacterInput F)) (m : Nat) :
    bounded (issued.drop m) = issued.drop (max m (issued.length - kMaxPending)) := by
  rw [bounded, drop_recent]

theorem kept_init (s : Prediction F) (spawnPosition : Vec3 F) :
    Kept ⟨s.init spawnPosition, ⟨[], []⟩⟩ :=
  ⟨rfl, rfl, rfl, 0, Nat.le_refl 0, rfl, List.drop_nil.symm⟩

section Calls

variable {t : Played F} (h : Kept t) (phys : Physics F)

include h

omit [Scalar F] in
theorem Kept.increasing : Increasing t.prediction.mPending := by
  obtain ⟨k, -, -, hpending⟩ := h.window
  rw [hpending]
  exact (increasing_of_numbered h.numbered).sublist (List.drop_sublist _ _)

theorem kept_step (exp2 : F → F) (intent : Intent F)
    (hlt : t.history.issued.length + 2 < 2 ^ 32) : Kept (play phys exp2 t (.step intent)) := by
  obtain ⟨k, hk, hwaiting, hpending⟩ := h.window
  have hprediction : (t.prediction.step phys intent).1 = { t.prediction with
      mNextSequence := t.prediction.mNextSequence + 1
      mCharacter := simulateTick phys t.prediction.mCharacter (t.prediction.stamp intent)
      mPending := bounded (t.prediction.mPending ++ [t.prediction.stamp intent]) } := by
    simp only [step, h.active, Bool.not_true, Bool.false_eq_true, if_false]
  have hissued : (t.prediction.step phys intent).2 = t.prediction.stamp intent := by
    simp only [step, h.active, Bool.not_true, Bool.false_eq_true, if_false]
  simp only [play, call, note, hissued, hprediction]
  constructor
  · exact h.active
  · rw [List.map_append, List.length_append, List.map_singleton, List.length_singleton,
      List.range'_1_concat, h.numbered, Nat.add_comm 1]
    exact congrArg (fun n => _ ++ [n]) h.next
  · rw [UInt32.toNat_add, List.length_append, h.next]
    exact Nat.mod_eq_of_lt hlt
  · refine ⟨k, ?_, ?_, ?_⟩
    · rw [List.length_append]
      exact Nat.le_add_right_of_le hk
    · rw [List.drop_append_of_le_length hk, hwaiting]
    · dsimp only
      rw [hpending, ← List.drop_append_of_le_length (by omega), bounded_drop]
      congr 1
      rw [List.length_append, List.length_singleton]
      omega

theorem kept_reconcile (exp2 : F → F) (authoritative : EntityState F) :
    Kept (play phys exp2 t (.reconcile authoritative)) := by
  obtain ⟨k, hk, hwaiting, hpending⟩ := h.window
  obtain ⟨_, _, heq⟩ := reconcile_eq phys h.active authoritative
  have hnumbered := h.numbered
  have hpending' : (t.prediction.reconcile phys authoritative).mPending =
      t.history.issued.drop (max (max k (t.history.issued.length - kMaxPending))
        authoritative.lastInputSequence.toNat) := by
    rw [heq]
    exact (unacknowledged_eq_filter h.increasing _).trans
      (hpending ▸ filter_drop hnumbered _ _)
  simp only [play, call, note, hwaiting, filter_drop hnumbered]
  refine ⟨?_, hnumbered, ?_, ?_⟩
  · rw [heq]
    exact h.active
  · rw [reconcile_nextSequence]
    exact h.next
  · by_cases hahead : authoritative.lastInputSequence.toNat ≤ t.history.issued.length
    · refine ⟨max k authoritative.lastInputSequence.toNat, by dsimp only; omega, rfl, ?_⟩
      dsimp only
      rw [hpending', max_right_comm]
    · -- an acknowledgement ahead of every input leaves nothing
      refine ⟨t.history.issued.length, Nat.le_refl _, ?_, ?_⟩
      · dsimp only
        rw [List.drop_length, List.drop_eq_nil_of_le (by omega)]
      · dsimp only
        rw [hpending', List.drop_eq_nil_of_le (by omega), List.drop_eq_nil_of_le (by omega)]

end Calls

/-- After every call since `init` the history is kept, and it has one input for each tick. -/
theorem played_kept (phys : Physics F) (exp2 : F → F) (s : Prediction F) (spawnPosition : Vec3 F)
    (calls : List (Call F)) (hplays : ∀ c ∈ calls, c.plays = true)
    (hfew : ticks calls + 1 < 2 ^ 32) :
    Kept (played phys exp2 s spawnPosition calls) ∧
      (played phys exp2 s spawnPosition calls).history.issued.length = ticks calls := by
  -- induction on the calls from the end: each one extends the history of those before it
  induction calls using List.reverseRecOn with
  | nil => exact ⟨kept_init s spawnPosition, rfl⟩
  | append_singleton calls c ih =>
      have hticks : ticks (calls ++ [c]) = ticks calls + c.ticks := by simp [ticks]
      rw [hticks] at hfew ⊢
      obtain ⟨hkept, hlength⟩ := ih (fun d hd => hplays d (by simp [hd])) (by omega)
      have hplayed : played phys exp2 s spawnPosition (calls ++ [c]) =
          play phys exp2 (played phys exp2 s spawnPosition calls) c := Lib.Runs.run_concat _ _ _ _
      have hc := hplays c (by simp)
      rw [hplayed]
      cases c with
      | init spawn => simp [Call.plays] at hc
      | shutdown => simp [Call.plays] at hc
      | step intent =>
          refine ⟨kept_step hkept phys exp2 intent ?_, ?_⟩
          · rw [hlength]
            exact hfew
          · simp [play, note, Call.ticks, hlength]
      | reconcile authoritative => exact ⟨kept_reconcile hkept phys exp2 authoritative, hlength⟩
      | updateSmoothing deltaSeconds =>
          exact ⟨⟨hkept.active, hkept.numbered, hkept.next, hkept.window⟩, hlength⟩

/-- Before the counter wraps, the pending inputs are the last ones issued that no acknowledgement
has covered, numbered without a gap up to the last one; and a rollback drops those that its
acknowledgement covers, and replays each of the others once and in order. -/
theorem pending_history (phys : Physics F) (exp2 : F → F) (s : Prediction F)
    (spawnPosition : Vec3 F) (calls : List (Call F)) (hplays : ∀ c ∈ calls, c.plays = true)
    (hfew : ticks calls < 2 ^ 32 - 1) :
    let t := played phys exp2 s spawnPosition calls
    t.prediction.mPending.length ≤ kMaxPending ∧
    (∃ first, t.prediction.mPending.map (·.sequence.toNat) =
        List.range' first t.prediction.mPending.length ∧
      first + t.prediction.mPending.length = t.prediction.mNextSequence.toNat) ∧
    (∀ i, i ∈ t.prediction.mPending ↔ i ∈ t.history.recent ∧ i ∈ t.history.waiting) ∧
    ∀ authoritative,
      let left := t.prediction.mPending.filter (authoritative.lastInputSequence < ·.sequence)
      (t.prediction.reconcile phys authoritative).mPending = left ∧
        (t.prediction.reconcile phys authoritative).mCharacter =
          left.foldl (simulateTick phys) (rewind t.prediction.mCharacter authoritative) := by
  intro t
  have hkept : Kept t := (played_kept phys exp2 s spawnPosition calls hplays (by omega)).1
  obtain ⟨k, hk, hwaiting, hpending⟩ := hkept.window
  refine ⟨?_, ?_, ?_, ?_⟩
  · rw [hpending, List.length_drop]
    omega
  · refine ⟨1 + max k (t.history.issued.length - kMaxPending), ?_, ?_⟩
    · rw [hpending, List.map_drop, hkept.numbered, List.drop_range', List.length_drop, Nat.mul_one]
    · rw [hpending, hkept.next, List.length_drop]
      omega
  · intro i
    rw [hpending, hwaiting, History.recent]
    rcases Nat.le_total k (t.history.issued.length - kMaxPending) with hle | hle
    · rw [Nat.max_eq_right hle]
      exact ⟨fun hi => ⟨hi, List.drop_subset_drop_left _ hle hi⟩, And.left⟩
    · rw [Nat.max_eq_left hle]
      exact ⟨fun hi => ⟨List.drop_subset_drop_left _ hle hi, hi⟩, And.right⟩
  · intro authoritative left
    have hleft : unacknowledged t.prediction.mPending authoritative.lastInputSequence = left :=
      unacknowledged_eq_filter hkept.increasing _
    obtain ⟨_, _, heq⟩ := reconcile_eq phys hkept.active authoritative
    rw [heq]
    constructor
    · exact hleft
    · simp only [rollback, hleft]

/-- Two ticks, a snapshot that covers the first, a third tick, and a stale snapshot. -/
theorem pending_history_stale :
    let s : Prediction ℚ := blank
    let walk : Call ℚ := .step ⟨1, 0, 0, false, false⟩
    let ack (n : UInt32) : Call ℚ := .reconcile
      { id := 1000, type := 2, position := Vec3.zero, rotation := ⟨0, 0, 0, 1⟩,
        velocity := Vec3.zero, angularVelocity := Vec3.zero, lastInputSequence := n }
    let t := played .level (fun _ => 1) s Vec3.zero [walk, walk, ack 1, walk, ack 0]
    t.prediction.mPending.length ≤ kMaxPending ∧ ∃ first,
      t.prediction.mPending.map (·.sequence.toNat) =
          List.range' first t.prediction.mPending.length ∧
        first + t.prediction.mPending.length = t.prediction.mNextSequence.toNat := by
  intro s walk ack t
  have h := pending_history .level (fun _ => 1) s Vec3.zero [walk, walk, ack 1, walk, ack 0]
    (by decide +kernel) (by decide +kernel)
  exact ⟨h.1, h.2.1⟩

end UntitledGame.Client.Prediction
