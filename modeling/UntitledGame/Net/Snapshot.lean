import UntitledGame.Net.ByteStream
import UntitledGame.Sim.Character

/-!
# Snapshots on the wire

`net::Snapshot` and `net::EntityState` with their codec, and the header of every
UDP datagram. The records are generic in the scalar type: the simulation fills
them with its own scalars, and the wire carries the 32-bit patterns.

A snapshot takes 18 bytes and 61 more for each entity, behind a datagram header
of 10 bytes.
-/

namespace UntitledGame.Net

open Sim (Vec3)

/-- `kUdpMagic`, "UNT1". -/
def kUdpMagic : UInt32 := 0x554E5431

def kMaxEntitiesPerSnapshot : Nat := 512

inductive EntityType where
  | cube
  | player
  deriving DecidableEq, Repr

def EntityType.toU8 : EntityType → UInt8
  | .cube => 0
  | .player => 1

structure Quat (F : Type*) where
  x : F
  y : F
  z : F
  w : F
  deriving DecidableEq, Repr

/-- One replicated entity. -/
structure EntityState (F : Type*) where
  id : UInt32
  type : UInt8
  position : Vec3 F
  rotation : Quat F
  velocity : Vec3 F
  angularVelocity : Vec3 F
  lastInputSequence : UInt32
  deriving DecidableEq, Repr

structure Snapshot (F : Type*) where
  tick : UInt32
  serverTimeMs : UInt64
  timeOfDay : F
  entities : List (EntityState F)
  deriving DecidableEq, Repr

section Bits

variable {F G : Type*} (bits : F → G)

def mapVec3 (v : Vec3 F) : Vec3 G := ⟨bits v.x, bits v.y, bits v.z⟩

def mapQuat (q : Quat F) : Quat G := ⟨bits q.x, bits q.y, bits q.z, bits q.w⟩

def EntityState.map (e : EntityState F) : EntityState G :=
  ⟨e.id, e.type, mapVec3 bits e.position, mapQuat bits e.rotation, mapVec3 bits e.velocity,
    mapVec3 bits e.angularVelocity, e.lastInputSequence⟩

/-- The same snapshot with every float replaced by its pattern. -/
def Snapshot.map (s : Snapshot F) : Snapshot G :=
  ⟨s.tick, s.serverTimeMs, bits s.timeOfDay, s.entities.map (EntityState.map bits)⟩

end Bits

section Encode

open ByteWriter

def encodeVec3 (v : Vec3 UInt32) : Bytes := f32 v.x ++ f32 v.y ++ f32 v.z

def encodeQuat (q : Quat UInt32) : Bytes := f32 q.x ++ f32 q.y ++ f32 q.z ++ f32 q.w

/-- The body of the loop over the entities in `encodeSnapshot`. -/
def encodeEntity (e : EntityState UInt32) : Bytes :=
  u32 e.id ++ u8 e.type ++ encodeVec3 e.position ++ encodeQuat e.rotation ++
    encodeVec3 e.velocity ++ encodeVec3 e.angularVelocity ++ u32 e.lastInputSequence

def encodeSnapshot (s : Snapshot UInt32) : Bytes :=
  u32 s.tick ++ u64 s.serverTimeMs ++ f32 s.timeOfDay ++ u16 (UInt16.ofNat s.entities.length) ++
    s.entities.flatMap encodeEntity

def writeUdpHeader (type : UInt16) (sequence : UInt32) : Bytes :=
  u32 kUdpMagic ++ u16 type ++ u32 sequence

@[simp] theorem encodeEntity_length (e : EntityState UInt32) : (encodeEntity e).length = 61 := by
  simp [encodeEntity, encodeVec3, encodeQuat]

theorem encodeSnapshot_length (s : Snapshot UInt32) :
    (encodeSnapshot s).length = 18 + 61 * s.entities.length := by
  simp [encodeSnapshot]
  omega

@[simp] theorem writeUdpHeader_length (type : UInt16) (sequence : UInt32) :
    (writeUdpHeader type sequence).length = 10 := by
  simp [writeUdpHeader]

end Encode

section Decode

open ByteReader

def decodeVec3 : StateM ByteReader (Vec3 UInt32) := do
  let x ← f32
  let y ← f32
  let z ← f32
  return ⟨x, y, z⟩

def decodeQuat : StateM ByteReader (Quat UInt32) := do
  let x ← f32
  let y ← f32
  let z ← f32
  let w ← f32
  return ⟨x, y, z, w⟩

/-- The reads of one turn of the loop in `decodeSnapshot`. -/
def decodeEntity : StateM ByteReader (EntityState UInt32) := do
  let id ← u32
  let type ← u8
  let position ← decodeVec3
  let rotation ← decodeQuat
  let velocity ← decodeVec3
  let angularVelocity ← decodeVec3
  let lastInputSequence ← u32
  return ⟨id, type, position, rotation, velocity, angularVelocity, lastInputSequence⟩

/-- The loop of `decodeSnapshot`: a truncated entity discards the whole snapshot. -/
def decodeEntities : Nat → StateM ByteReader (Option (List (EntityState UInt32)))
  | 0 => return some []
  | n + 1 => do
      let e ← decodeEntity
      if (← failed) then return none
      let rest ← decodeEntities n
      return rest.map (e :: ·)

def decodeSnapshot (data : Bytes) : Option (Snapshot UInt32) :=
  let read : StateM ByteReader (Option (Snapshot UInt32)) := do
    let tick ← u32
    let serverTimeMs ← u64
    let timeOfDay ← f32
    let count ← u16
    if (← failed) || kMaxEntitiesPerSnapshot < count.toNat then return none
    let entities ← decodeEntities count.toNat
    return entities.map (⟨tick, serverTimeMs, timeOfDay, ·⟩)
  (read (start data)).1

structure UdpHeader where
  type : UInt16
  sequence : UInt32
  deriving DecidableEq, Repr

/-- The header and the offset of the body. -/
def readUdpHeader (data : Bytes) : Option (UdpHeader × Nat) :=
  let read : StateM ByteReader (Option (UdpHeader × Nat)) := do
    let magic ← u32
    if magic ≠ kUdpMagic then return none
    let type ← u16
    let sequence ← u32
    if (← failed) then return none
    return some (⟨type, sequence⟩, 10)
  (read (start data)).1

theorem yields_decodeVec3 (v : Vec3 UInt32) (rest : Bytes) :
    Yields decodeVec3 (encodeVec3 v ++ rest) v rest := by
  rw [encodeVec3, List.append_assoc, List.append_assoc]
  exact (yields_f32 _ _).bind <| (yields_f32 _ _).bind <| (yields_f32 _ _).bind <|
    Yields.pure _ _

theorem yields_decodeQuat (q : Quat UInt32) (rest : Bytes) :
    Yields decodeQuat (encodeQuat q ++ rest) q rest := by
  rw [encodeQuat, List.append_assoc, List.append_assoc, List.append_assoc]
  exact (yields_f32 _ _).bind <| (yields_f32 _ _).bind <| (yields_f32 _ _).bind <|
    (yields_f32 _ _).bind <| Yields.pure _ _

theorem yields_decodeEntity (e : EntityState UInt32) (rest : Bytes) :
    Yields decodeEntity (encodeEntity e ++ rest) e rest := by
  simp only [encodeEntity, List.append_assoc]
  exact (yields_u32 _ _).bind <| (yields_u8 _ _).bind <| (yields_decodeVec3 _ _).bind <|
    (yields_decodeQuat _ _).bind <| (yields_decodeVec3 _ _).bind <|
    (yields_decodeVec3 _ _).bind <| (yields_u32 _ _).bind <| Yields.pure _ _

theorem fixed_decodeVec3 : Fixed 12 decodeVec3 :=
  fixed_f32.bind fun _ => fixed_f32.bind fun _ => fixed_f32.bind fun _ => Fixed.pure _

theorem fixed_decodeQuat : Fixed 16 decodeQuat :=
  fixed_f32.bind fun _ => fixed_f32.bind fun _ => fixed_f32.bind fun _ =>
    fixed_f32.bind fun _ => Fixed.pure _

theorem fixed_decodeEntity : Fixed 61 decodeEntity :=
  fixed_u32.bind fun _ => fixed_u8.bind fun _ => fixed_decodeVec3.bind fun _ =>
    fixed_decodeQuat.bind fun _ => fixed_decodeVec3.bind fun _ => fixed_decodeVec3.bind fun _ =>
    fixed_u32.bind fun _ => Fixed.pure _

/-- The loop reads back the entities that were written. -/
theorem yields_decodeEntities (es : List (EntityState UInt32)) (rest : Bytes) :
    Yields (decodeEntities es.length) (es.flatMap encodeEntity ++ rest) (some es) rest := by
  induction es with
  | nil => exact Yields.pure _ _
  | cons e es ih =>
      rw [List.flatMap_cons, List.append_assoc]
      refine (yields_decodeEntity e _).bind ((yields_failed _).bind ?_)
      exact ih.bind (Yields.pure _ _)

/-- One turn of the loop, with the reader made explicit. -/
theorem decodeEntities_succ (n : Nat) (r : ByteReader) :
    (decodeEntities (n + 1) r).1 =
      if (decodeEntity r).2.mFailed then none
      else (decodeEntities n (decodeEntity r).2).1.map ((decodeEntity r).1 :: ·) := by
  rw [decodeEntities, bind_run, failed_bind]
  split
  · rfl
  · rw [bind_run]
    rfl

/-- The loop gives up when the bytes do not reach for all entities. -/
theorem decodeEntities_short (n : Nat) {r : ByteReader} {bs : Bytes} (hat : r.At bs)
    (h : bs.length < 61 * n) : (decodeEntities n r).1 = none := by
  induction n generalizing r bs with
  | zero => omega
  | succ n ih =>
      rw [decodeEntities_succ]
      by_cases hone : 61 ≤ bs.length
      · obtain ⟨e, he⟩ := fixed_decodeEntity.enough bs hone
        obtain ⟨r', hr, hat'⟩ := he r hat
        have hrest := ih hat' (by simp only [List.length_drop]; omega)
        simp [hr, hat'.1, hrest]
      · simp [fixed_decodeEntity.short r bs hat (by omega)]

/-- What is left to do once the fixed part of a snapshot with an acceptable count is read. -/
theorem decodeSnapshot_count (tick : UInt32) (serverTimeMs : UInt64) (timeOfDay : UInt32)
    (count : UInt16) (hcount : count.toNat ≤ kMaxEntitiesPerSnapshot) (rest : Bytes) :
    ∃ r : ByteReader, r.At rest ∧
      decodeSnapshot (ByteWriter.u32 tick ++ ByteWriter.u64 serverTimeMs ++
          ByteWriter.f32 timeOfDay ++ ByteWriter.u16 count ++ rest) =
        (decodeEntities count.toNat r).1.map (⟨tick, serverTimeMs, timeOfDay, ·⟩) := by
  simp only [List.append_assoc]
  obtain ⟨r₁, hat₁, h₁⟩ := (yields_u32 tick _).run_bind (start_at _)
  obtain ⟨r₂, hat₂, h₂⟩ := (yields_u64 serverTimeMs _).run_bind hat₁
  obtain ⟨r₃, hat₃, h₃⟩ := (yields_f32 timeOfDay _).run_bind hat₂
  obtain ⟨r₄, hat₄, h₄⟩ := (yields_u16 count rest).run_bind hat₃
  refine ⟨r₄, hat₄, ?_⟩
  have hle : ¬ kMaxEntitiesPerSnapshot < count.toNat := Nat.not_lt.mpr hcount
  unfold decodeSnapshot
  dsimp only
  rw [h₁, h₂, h₃, h₄, failed_bind, hat₄.1]
  simp only [hle, decide_false, Bool.or_false, Bool.false_eq_true, if_false]
  rfl

theorem count_toNat {n : Nat} (h : n ≤ kMaxEntitiesPerSnapshot) : (UInt16.ofNat n).toNat = n := by
  have h512 : n ≤ 512 := h
  exact UInt16.toNat_ofNat_of_lt' (by simp only [UInt16.size]; omega)

/-- A snapshot within the cap is read back, whatever follows it. -/
theorem decodeSnapshot_encodeSnapshot (s : Snapshot UInt32)
    (h : s.entities.length ≤ kMaxEntitiesPerSnapshot) (rest : Bytes) :
    decodeSnapshot (encodeSnapshot s ++ rest) = some s := by
  have hcount := count_toNat h
  obtain ⟨r, hat, hrun⟩ := decodeSnapshot_count s.tick s.serverTimeMs s.timeOfDay
    (UInt16.ofNat s.entities.length) (by rw [hcount]; exact h)
    (s.entities.flatMap encodeEntity ++ rest)
  obtain ⟨r', hr, -⟩ := yields_decodeEntities s.entities rest r hat
  rw [hcount, hr] at hrun
  rw [encodeSnapshot, List.append_assoc, hrun]
  rfl

/-- A snapshot that arrives cut off behind its fixed part is discarded. -/
theorem decodeSnapshot_truncated (s : Snapshot UInt32)
    (h : s.entities.length ≤ kMaxEntitiesPerSnapshot) {k : Nat} (hk : 18 ≤ k)
    (hlt : k < (encodeSnapshot s).length) : decodeSnapshot ((encodeSnapshot s).take k) = none := by
  have hcount := count_toNat h
  obtain ⟨j, rfl⟩ : ∃ j, k = 18 + j := ⟨k - 18, by omega⟩
  rw [encodeSnapshot_length] at hlt
  have hcut : (encodeSnapshot s).take (18 + j) = ByteWriter.u32 s.tick ++
      ByteWriter.u64 s.serverTimeMs ++ ByteWriter.f32 s.timeOfDay ++
      ByteWriter.u16 (UInt16.ofNat s.entities.length) ++
      (s.entities.flatMap encodeEntity).take j := by
    rw [encodeSnapshot, ← List.take_length_add_append]
    simp
  obtain ⟨r, hat, hrun⟩ := decodeSnapshot_count s.tick s.serverTimeMs s.timeOfDay
    (UInt16.ofNat s.entities.length) (by rw [hcount]; exact h)
    ((s.entities.flatMap encodeEntity).take j)
  have hshort : ((s.entities.flatMap encodeEntity).take j).length < 61 * s.entities.length := by
    simp only [List.length_take]
    omega
  rw [hcount, decodeEntities_short _ hat hshort] at hrun
  rw [hcut, hrun]
  rfl

theorem readUdpHeader_writeUdpHeader (type : UInt16) (sequence : UInt32) (body : Bytes) :
    readUdpHeader (writeUdpHeader type sequence ++ body) = some (⟨type, sequence⟩, 10) := by
  rw [writeUdpHeader, List.append_assoc, List.append_assoc]
  obtain ⟨r₁, hat₁, h₁⟩ := (yields_u32 kUdpMagic _).run_bind (start_at _)
  obtain ⟨r₂, hat₂, h₂⟩ := (yields_u16 type _).run_bind hat₁
  obtain ⟨r₃, hat₃, h₃⟩ := (yields_u32 sequence _).run_bind hat₂
  unfold readUdpHeader
  dsimp only
  rw [h₁, if_neg (by simp), h₂, h₃, failed_bind, hat₃.1]
  rfl

end Decode

end UntitledGame.Net
