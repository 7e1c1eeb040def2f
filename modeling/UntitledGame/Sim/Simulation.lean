import UntitledGame.Net.Snapshot
import UntitledGame.Lib.Runs
import Mathlib.Data.Nat.Cast.Basic

/-!
# `world::Simulation`

The authoritative simulation: one slot for each player, the scripted cube and
the world clock. Player ids are the 64-bit ids that the world server hands out,
modelled as numbers; entity ids, sequence numbers and ticks are 32-bit words.

`float` and `double` are one scalar type here. Readings of the system clock are
arguments of the methods that take them.
-/

namespace UntitledGame.Sim

open Net (EntityState Snapshot Quat EntityType)
open Std (ExtTreeMap)

def kCubeEntityId : UInt32 := 1
def kFirstPlayerEntityId : UInt32 := 1000

/-- `Simulation::Player`: a body, the latest input, and the acknowledgement. -/
structure SimPlayer (F : Type*) where
  entityId : UInt32
  character : Character F
  input : CharacterInput F
  lastInputSequence : UInt32
  deriving DecidableEq, Repr

structure Simulation (F : Type*) where
  mPlayers : ExtTreeMap Nat (SimPlayer F)
  mNextPlayerEntityId : UInt32
  mCubePosition : Vec3 F
  mCubeRotation : Quat F
  mCubeVelocity : Vec3 F
  mTick : UInt32
  mElapsed : F
  mTimeOfDay : F
  mAnchorRealSeconds : F
  mAnchorTimeOfDay : F
  mTimeSpeed : F

/-- What `realSeconds()` and `wallClockTimeOfDay()` return at a call. -/
structure ClockReading (F : Type*) where
  realSeconds : F
  wallClockTimeOfDay : F
  deriving DecidableEq, Repr

namespace Simulation

variable {F : Type*} [Scalar F]

def kSpawnClearance : F := 0.2
def kCubeSize : F := 1.0
def kSpinRadiansPerSecond : F := 0.6
def kStrafeAmplitude : F := 3.0
def kStrafeRadiansPerSecond : F := 0.8

/-- A `Simulation` before `init`. -/
def blank : Simulation F where
  mPlayers := ∅
  mNextPlayerEntityId := kFirstPlayerEntityId
  mCubePosition := Vec3.zero
  mCubeRotation := ⟨0.0, 0.0, 0.0, 1.0⟩
  mCubeVelocity := Vec3.zero
  mTick := 0
  mElapsed := 0.0
  mTimeOfDay := 0.3
  mAnchorRealSeconds := 0.0
  mAnchorTimeOfDay := 0.0
  mTimeSpeed := 1.0

def reanchor (s : Simulation F) (now : ClockReading F) : Simulation F :=
  { s with mAnchorRealSeconds := now.realSeconds, mAnchorTimeOfDay := s.mTimeOfDay }

def setTimeOfDay (phys : Physics F) (s : Simulation F) (timeOfDay : F) (now : ClockReading F) :
    Simulation F :=
  reanchor { s with mTimeOfDay := timeOfDay - phys.floor timeOfDay } now

def setTimeSpeed (s : Simulation F) (speed : F) (now : ClockReading F) : Simulation F :=
  { reanchor s now with mTimeSpeed := speed }

def resetClock (s : Simulation F) (now : ClockReading F) : Simulation F :=
  reanchor { s with mTimeSpeed := 1.0, mTimeOfDay := now.wallClockTimeOfDay } now

def init (phys : Physics F) (timeSpeed : F) (now : ClockReading F) : Simulation F :=
  let s : Simulation F := { blank with mTimeSpeed := if timeSpeed > 0.0 then timeSpeed else 1.0 }
  { resetClock s now with mCubePosition := ⟨0.0, phys.heightAt 0.0 0.0 + kCubeSize * 0.5, 0.0⟩ }

/-- Where the next player appears: spread out, and just above the ground. -/
def spawnPosition (phys : Physics F) (s : Simulation F) : Vec3 F :=
  let angle : F := (s.mPlayers.size : F) * 1.2
  let spawnX := phys.cos angle * 3.0
  let spawnZ := 6.0 + phys.sin angle * 2.0
  ⟨spawnX, phys.heightAt spawnX spawnZ + kRestHeight + kSpawnClearance, spawnZ⟩

/-- Adds a player, unless there is one with this id, and returns its entity id. -/
def addPlayer (phys : Physics F) (s : Simulation F) (playerId : Nat) : Simulation F × UInt32 :=
  match s.mPlayers[playerId]? with
  | some existing => (s, existing.entityId)
  | none =>
      let player : SimPlayer F :=
        ⟨s.mNextPlayerEntityId, { Character.default with position := spawnPosition phys s },
          CharacterInput.default, 0⟩
      ({ s with
          mNextPlayerEntityId := s.mNextPlayerEntityId + 1
          mPlayers := s.mPlayers.insertIfNew playerId player }, player.entityId)

def removePlayer (s : Simulation F) (playerId : Nat) : Simulation F :=
  { s with mPlayers := s.mPlayers.erase playerId }

/-- The test that `setInput` makes before it stores an input. -/
def accepts (stored input : CharacterInput F) : Bool :=
  !(input.sequence != 0 && input.sequence < stored.sequence)

/-- The latest intent of a player; an older one does not overwrite a newer one. -/
def setInput (s : Simulation F) (playerId : Nat) (input : CharacterInput F) : Simulation F :=
  match s.mPlayers[playerId]? with
  | none => s
  | some player =>
      if accepts player.input input then
        { s with mPlayers := s.mPlayers.insert playerId { player with input := input } }
      else s

/-- One tick of one player: the stored input moves the body, is acknowledged, and its jump
is consumed. -/
def stepPlayer (phys : Physics F) (deltaSeconds : F) (player : SimPlayer F) : SimPlayer F :=
  { player with
    character := stepCharacter phys player.character player.input deltaSeconds
    lastInputSequence := player.input.sequence
    input := { player.input with jump := false } }

def step (phys : Physics F) (s : Simulation F) (deltaSeconds : F) (now : ClockReading F) :
    Simulation F :=
  let mElapsed := s.mElapsed + deltaSeconds
  let elapsed := now.realSeconds - s.mAnchorRealSeconds
  let timeOfDay := s.mAnchorTimeOfDay + elapsed * s.mTimeSpeed / 86400.0
  let phase := mElapsed * kStrafeRadiansPerSecond
  let cubeX := kStrafeAmplitude * phys.sin phase
  let angle := mElapsed * kSpinRadiansPerSecond
  { s with
    mElapsed := mElapsed
    mTick := s.mTick + 1
    mTimeOfDay := timeOfDay - phys.floor timeOfDay
    mPlayers := s.mPlayers.map fun _ player => stepPlayer phys deltaSeconds player
    mCubePosition :=
      ⟨cubeX, phys.heightAt cubeX s.mCubePosition.z + kCubeSize * 0.5, s.mCubePosition.z⟩
    mCubeVelocity :=
      ⟨kStrafeAmplitude * kStrafeRadiansPerSecond * phys.cos phase, s.mCubeVelocity.y,
        s.mCubeVelocity.z⟩
    mCubeRotation := ⟨0.0, phys.sin (angle * 0.5), 0.0, phys.cos (angle * 0.5)⟩ }

def cubeEntity (s : Simulation F) : EntityState F where
  id := kCubeEntityId
  type := EntityType.cube.toU8
  position := s.mCubePosition
  rotation := s.mCubeRotation
  velocity := s.mCubeVelocity
  angularVelocity := ⟨0.0, kSpinRadiansPerSecond, 0.0⟩
  lastInputSequence := 0

/-- The entity that replicates a player. -/
def playerEntity (phys : Physics F) (player : SimPlayer F) : EntityState F :=
  let facing := player.character.facingYaw
  { id := player.entityId
    type := EntityType.player.toU8
    position := player.character.position
    rotation := ⟨0.0, phys.sin (-facing * 0.5), 0.0, phys.cos (facing * 0.5)⟩
    velocity := player.character.velocity
    angularVelocity := Vec3.zero
    lastInputSequence := player.lastInputSequence }

/-- The snapshot of the current state; the caller stamps it with the server's time. -/
def buildSnapshot (phys : Physics F) (s : Simulation F) : Snapshot F where
  tick := s.mTick
  serverTimeMs := 0
  timeOfDay := s.mTimeOfDay
  entities := cubeEntity s :: s.mPlayers.toList.map fun p => playerEntity phys p.2

/-- The calls that the world server makes on its simulation. -/
inductive Call (F : Type*) where
  | addPlayer (playerId : Nat)
  | removePlayer (playerId : Nat)
  | setInput (playerId : Nat) (input : CharacterInput F)
  | step (deltaSeconds : F) (now : ClockReading F)
  | setTimeOfDay (timeOfDay : F) (now : ClockReading F)
  | setTimeSpeed (speed : F) (now : ClockReading F)
  | resetClock (now : ClockReading F)
  deriving DecidableEq, Repr

def call (phys : Physics F) (s : Simulation F) : Call F → Simulation F
  | .addPlayer playerId => (s.addPlayer phys playerId).1
  | .removePlayer playerId => s.removePlayer playerId
  | .setInput playerId input => s.setInput playerId input
  | .step deltaSeconds now => s.step phys deltaSeconds now
  | .setTimeOfDay timeOfDay now => s.setTimeOfDay phys timeOfDay now
  | .setTimeSpeed speed now => s.setTimeSpeed speed now
  | .resetClock now => s.resetClock now

/-- The state after `init` and a sequence of calls. -/
def run (phys : Physics F) (timeSpeed : F) (now : ClockReading F) (calls : List (Call F)) :
    Simulation F :=
  Lib.Runs.run (call phys) (init phys timeSpeed now) calls

@[simp] theorem buildSnapshot_length (phys : Physics F) (s : Simulation F) :
    (s.buildSnapshot phys).entities.length = s.mPlayers.size + 1 := by
  simp [buildSnapshot]

/-- Adding a player touches its table and the counter of its entities, and no more. -/
theorem addPlayer_eq (phys : Physics F) (s : Simulation F) (playerId : Nat) :
    ∃ players next, (s.addPlayer phys playerId).1 =
      { s with mPlayers := players, mNextPlayerEntityId := next } := by
  simp only [addPlayer]
  split
  · exact ⟨_, _, rfl⟩
  · exact ⟨_, _, rfl⟩

omit [Scalar F] in
/-- An input reaches the table of the players only. -/
theorem setInput_eq (s : Simulation F) (playerId : Nat) (input : CharacterInput F) :
    ∃ players, s.setInput playerId input = { s with mPlayers := players } := by
  simp only [setInput]
  split
  · exact ⟨_, rfl⟩
  · split
    · exact ⟨_, rfl⟩
    · exact ⟨_, rfl⟩

/-- Adding a player puts it into the table and touches no other entry. -/
theorem addPlayer_players (phys : Physics F) (s : Simulation F) (playerId q : Nat) :
    q ∈ (s.addPlayer phys playerId).1.mPlayers ↔ q = playerId ∨ q ∈ s.mPlayers := by
  cases h : s.mPlayers[playerId]? with
  | some existing =>
      have hmem : playerId ∈ s.mPlayers := ExtTreeMap.mem_iff_isSome_getElem?.mpr (by simp [h])
      simp only [addPlayer, h]
      constructor
      · exact Or.inr
      · rintro (rfl | hq)
        · exact hmem
        · exact hq
  | none =>
      simp only [addPlayer, h, ExtTreeMap.mem_insertIfNew, Nat.compare_eq_eq]
      exact or_congr_left eq_comm

/-- The entry of a player that was not there. -/
theorem addPlayer_entry (phys : Physics F) {s : Simulation F} {playerId : Nat}
    (h : s.mPlayers[playerId]? = none) :
    (s.addPlayer phys playerId).1.mPlayers[playerId]? = some ⟨s.mNextPlayerEntityId,
      { Character.default with position := spawnPosition phys s }, CharacterInput.default, 0⟩ := by
  have habsent : playerId ∉ s.mPlayers := by simpa using h
  simp only [addPlayer, h]
  rw [ExtTreeMap.getElem?_insertIfNew, if_pos ⟨Nat.compare_eq_eq.mpr rfl, habsent⟩]

omit [Scalar F] in
theorem removePlayer_players (s : Simulation F) (playerId q : Nat) :
    q ∈ (s.removePlayer playerId).mPlayers ↔ q ≠ playerId ∧ q ∈ s.mPlayers := by
  simp only [removePlayer, ExtTreeMap.mem_erase, Nat.compare_eq_eq, ne_eq]
  exact and_congr_left' (not_congr eq_comm)

omit [Scalar F] in
theorem setInput_players (s : Simulation F) (playerId q : Nat) (input : CharacterInput F) :
    q ∈ (s.setInput playerId input).mPlayers ↔ q ∈ s.mPlayers := by
  cases h : s.mPlayers[playerId]? with
  | none => simp [setInput, h]
  | some player =>
      have hmem : playerId ∈ s.mPlayers := ExtTreeMap.mem_iff_isSome_getElem?.mpr (by simp [h])
      simp only [setInput, h]
      split
      · simp only [ExtTreeMap.mem_insert, Nat.compare_eq_eq]
        constructor
        · rintro (rfl | hq)
          · exact hmem
          · exact hq
        · exact Or.inr
      · rfl

theorem step_players (phys : Physics F) (s : Simulation F) (deltaSeconds : F)
    (now : ClockReading F) (q : Nat) :
    q ∈ (s.step phys deltaSeconds now).mPlayers ↔ q ∈ s.mPlayers := by
  simp [step]

/-- How a call makes the entry that a player has after it: the entry was there before, or it is
fresh, has taken an input, or has moved by one tick. -/
inductive Made (phys : Physics F) (s : Simulation F) (p : Nat) : Call F → SimPlayer F → Prop
  | kept (c : Call F) {player : SimPlayer F} (h : s.mPlayers[p]? = some player) :
      Made phys s p c player
  | added (h : s.mPlayers[p]? = none) :
      Made phys s p (.addPlayer p) ⟨s.mNextPlayerEntityId,
        { Character.default with position := spawnPosition phys s }, CharacterInput.default, 0⟩
  | stored {before : SimPlayer F} (h : s.mPlayers[p]? = some before) {input : CharacterInput F}
      (haccepts : accepts before.input input = true) :
      Made phys s p (.setInput p input) { before with input := input }
  | stepped {before : SimPlayer F} (h : s.mPlayers[p]? = some before) (deltaSeconds : F)
      (now : ClockReading F) :
      Made phys s p (.step deltaSeconds now) (stepPlayer phys deltaSeconds before)

theorem call_made {phys : Physics F} {s : Simulation F} {p : Nat} {c : Call F}
    {player : SimPlayer F} (h : (s.call phys c).mPlayers[p]? = some player) :
    Made phys s p c player := by
  cases c with
  | addPlayer q =>
      cases hq : s.mPlayers[q]? with
      | some existing =>
          simp only [call, addPlayer, hq] at h
          exact .kept _ h
      | none =>
          simp only [call, addPlayer, hq, ExtTreeMap.getElem?_insertIfNew, Nat.compare_eq_eq] at h
          split at h
          · rename_i hnew
            obtain ⟨rfl, -⟩ := hnew
            obtain rfl := Option.some.inj h
            exact .added hq
          · exact .kept _ h
  | removePlayer q =>
      simp only [call, removePlayer, ExtTreeMap.getElem?_erase] at h
      split at h
      · cases h
      · exact .kept _ h
  | setInput q input =>
      cases hq : s.mPlayers[q]? with
      | none =>
          simp only [call, setInput, hq] at h
          exact .kept _ h
      | some before =>
          simp only [call, setInput, hq] at h
          split at h
          · rename_i haccepts
            rw [ExtTreeMap.getElem?_insert] at h
            split at h
            · rename_i hsame
              obtain rfl := Nat.compare_eq_eq.mp hsame
              obtain rfl := Option.some.inj h
              exact .stored hq haccepts
            · exact .kept _ h
          · exact .kept _ h
  | step deltaSeconds now =>
      simp only [call, step, ExtTreeMap.getElem?_map, Option.map_eq_some_iff] at h
      obtain ⟨before, hbefore, rfl⟩ := h
      exact .stepped hbefore deltaSeconds now
  | setTimeOfDay timeOfDay now => exact .kept _ h
  | setTimeSpeed speed now => exact .kept _ h
  | resetClock now => exact .kept _ h

end Simulation

end UntitledGame.Sim
