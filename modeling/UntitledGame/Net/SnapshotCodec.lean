import UntitledGame.Net.Snapshot

/-!
# What `decodeSnapshot` accepts

Every field of a snapshot takes any bytes of its width, so the only things that
`decodeSnapshot` can object to are a count above the cap and a lack of bytes,
wherever it shows: in the fixed part, or inside any field of any entity.

`Onto n enc` says that `enc` writes every `n` bytes for some value. It is the
counterpart of `Fixed` for writers, and is put together field by field as well.
-/

namespace UntitledGame.Net

open Sim (Vec3)

section Writers

variable {α β γ : Type}

/-- Every `n` bytes are what is written for some value. -/
def Onto (n : Nat) (enc : α → Bytes) : Prop := ∀ bs : Bytes, bs.length = n → ∃ a, enc a = bs

theorem Onto.append {m n : Nat} {enc : α → Bytes} {enc' : β → Bytes} (h : Onto m enc)
    (h' : Onto n enc') : Onto (m + n) fun p : α × β => enc p.1 ++ enc' p.2 := by
  intro bs hbs
  obtain ⟨a, ha⟩ := h (bs.take m) (by rw [List.length_take]; omega)
  obtain ⟨b, hb⟩ := h' (bs.drop m) (by rw [List.length_drop]; omega)
  refine ⟨(a, b), ?_⟩
  dsimp only
  rw [ha, hb, List.take_append_drop]

theorem Onto.of_surjective {n : Nat} {enc : α → Bytes} {enc' : β → Bytes} (h : Onto n enc)
    (f : α → β) (hf : ∀ a, enc' (f a) = enc a) : Onto n enc' := by
  intro bs hbs
  obtain ⟨a, ha⟩ := h bs hbs
  exact ⟨f a, (hf a).trans ha⟩

/-- The bytes of a word are any bytes. -/
theorem little_value {n : Nat} {bs : Bytes} (h : bs.length = n) :
    ByteWriter.little n (Lib.LittleEndian.value bs) = bs := by
  rw [ByteWriter.little, Lib.LittleEndian.shifted_eq_bytes, ← h]
  exact Lib.LittleEndian.bytes_value bs

theorem value_lt_of_length {n : Nat} {bs : Bytes} (h : bs.length = n) :
    Lib.LittleEndian.value bs < 256 ^ n := h ▸ Lib.LittleEndian.value_lt bs

theorem onto_u8 : Onto 1 ByteWriter.u8 := by
  intro bs hbs
  obtain ⟨b, rfl⟩ := List.length_eq_one_iff.mp hbs
  exact ⟨b, rfl⟩

theorem onto_u16 : Onto 2 ByteWriter.u16 := by
  intro bs hbs
  refine ⟨UInt16.ofNat (Lib.LittleEndian.value bs), ?_⟩
  rw [ByteWriter.u16, UInt16.toNat_ofNat_of_lt' (by simpa using value_lt_of_length hbs),
    little_value hbs]

theorem onto_u32 : Onto 4 ByteWriter.u32 := by
  intro bs hbs
  refine ⟨UInt32.ofNat (Lib.LittleEndian.value bs), ?_⟩
  rw [ByteWriter.u32, UInt32.toNat_ofNat_of_lt' (by simpa using value_lt_of_length hbs),
    little_value hbs]

theorem onto_u64 : Onto 8 ByteWriter.u64 := by
  intro bs hbs
  refine ⟨UInt64.ofNat (Lib.LittleEndian.value bs), ?_⟩
  rw [ByteWriter.u64, UInt64.toNat_ofNat_of_lt' (by simpa using value_lt_of_length hbs),
    little_value hbs]

theorem onto_f32 : Onto 4 ByteWriter.f32 := onto_u32

theorem onto_encodeVec3 : Onto 12 encodeVec3 :=
  (onto_f32.append (onto_f32.append onto_f32)).of_surjective (fun p => ⟨p.1, p.2.1, p.2.2⟩)
    fun p => by simp only [encodeVec3, List.append_assoc]

theorem onto_encodeQuat : Onto 16 encodeQuat :=
  (onto_f32.append (onto_f32.append (onto_f32.append onto_f32))).of_surjective
    (fun p => ⟨p.1, p.2.1, p.2.2.1, p.2.2.2⟩) fun p => by simp only [encodeQuat, List.append_assoc]

theorem onto_encodeEntity : Onto 61 encodeEntity :=
  (onto_u32.append <| onto_u8.append <| onto_encodeVec3.append <| onto_encodeQuat.append <|
    onto_encodeVec3.append <| onto_encodeVec3.append onto_u32).of_surjective
      (fun p => ⟨p.1, p.2.1, p.2.2.1, p.2.2.2.1, p.2.2.2.2.1, p.2.2.2.2.2.1, p.2.2.2.2.2.2⟩)
      fun p => by simp only [encodeEntity, List.append_assoc]

/-- The bytes of `n` entities are any bytes. -/
theorem entities_of_length (n : Nat) {bs : Bytes} (h : bs.length = 61 * n) :
    ∃ es : List (EntityState UInt32), es.length = n ∧ es.flatMap encodeEntity = bs := by
  induction n generalizing bs with
  | zero => exact ⟨[], rfl, (List.length_eq_zero_iff.mp h).symm⟩
  | succ n ih =>
      obtain ⟨e, he⟩ := onto_encodeEntity (bs.take 61) (by rw [List.length_take]; omega)
      have hrest : (bs.drop 61).length = 61 * n := by
        rw [List.length_drop]
        omega
      obtain ⟨es, hlength, hes⟩ := ih hrest
      refine ⟨e :: es, by rw [List.length_cons, hlength], ?_⟩
      rw [List.flatMap_cons, he, hes, List.take_append_drop]

/-- The fixed part of a snapshot. -/
theorem onto_fixed : Onto 18 fun p : UInt32 × UInt64 × UInt32 × UInt16 =>
    ByteWriter.u32 p.1 ++ ByteWriter.u64 p.2.1 ++ ByteWriter.f32 p.2.2.1 ++
      ByteWriter.u16 p.2.2.2 :=
  (onto_u32.append (onto_u64.append (onto_f32.append onto_u16))).of_surjective id
    fun p => by simp only [id, List.append_assoc]

end Writers

section Acceptance

open ByteReader

theorem fixed_u16 : Fixed 2 u16 := (fixed_take 2 (by decide)).bind fun _ => Fixed.pure _
theorem fixed_u64 : Fixed 8 u64 := (fixed_take 8 (by decide)).bind fun _ => Fixed.pure _

/-- The reads of the fixed part. -/
def readFixed : StateM ByteReader (UInt32 × UInt64 × UInt32 × UInt16) := do
  let tick ← u32
  let serverTimeMs ← u64
  let timeOfDay ← f32
  let count ← u16
  return (tick, serverTimeMs, timeOfDay, count)

theorem fixed_readFixed : Fixed 18 readFixed :=
  fixed_u32.bind fun _ => fixed_u64.bind fun _ => fixed_f32.bind fun _ => fixed_u16.bind fun _ =>
    Fixed.pure _

/-- Without the fixed part there is no snapshot. -/
theorem decodeSnapshot_short {b : Bytes} (h : b.length < 18) : decodeSnapshot b = none := by
  have hfailed : (readFixed (start b)).2.mFailed = true :=
    fixed_readFixed.short _ b (start_at b) h
  change ((if (readFixed (start b)).2.mFailed || _ then pure none else _ :
    StateM ByteReader _) (readFixed (start b)).2).1 = none
  rw [hfailed, Bool.true_or, if_pos rfl]
  rfl

/-- A count above the cap is refused, whatever follows. -/
theorem decodeSnapshot_capped (tick : UInt32) (serverTimeMs : UInt64) (timeOfDay : UInt32)
    (count : UInt16) (hcount : kMaxEntitiesPerSnapshot < count.toNat) (rest : Bytes) :
    decodeSnapshot (ByteWriter.u32 tick ++ ByteWriter.u64 serverTimeMs ++
      ByteWriter.f32 timeOfDay ++ ByteWriter.u16 count ++ rest) = none := by
  simp only [List.append_assoc]
  obtain ⟨r₁, hat₁, h₁⟩ := (yields_u32 tick _).run_bind (start_at _)
  obtain ⟨r₂, hat₂, h₂⟩ := (yields_u64 serverTimeMs _).run_bind hat₁
  obtain ⟨r₃, hat₃, h₃⟩ := (yields_f32 timeOfDay _).run_bind hat₂
  obtain ⟨r₄, hat₄, h₄⟩ := (yields_u16 count rest).run_bind hat₃
  unfold decodeSnapshot
  dsimp only
  rw [h₁, h₂, h₃, h₄, failed_bind, decide_eq_true hcount, Bool.or_true, if_pos rfl]
  rfl

/-- The number of entities that the fixed part claims. -/
def entityCount (b : Bytes) : Nat := Lib.LittleEndian.value ((b.drop 16).take 2)

/-- A datagram that has the fixed part begins with its fields. -/
theorem split_fixed {b : Bytes} (h : 18 ≤ b.length) :
    ∃ (tick : UInt32) (serverTimeMs : UInt64) (timeOfDay : UInt32) (count : UInt16),
      b = ByteWriter.u32 tick ++ ByteWriter.u64 serverTimeMs ++ ByteWriter.f32 timeOfDay ++
          ByteWriter.u16 count ++ b.drop 18 ∧ count.toNat = entityCount b := by
  obtain ⟨⟨tick, serverTimeMs, timeOfDay, count⟩, hfixed⟩ :=
    onto_fixed (b.take 18) (by rw [List.length_take]; omega)
  dsimp only at hfixed
  refine ⟨tick, serverTimeMs, timeOfDay, count, ?_, ?_⟩
  · rw [hfixed, List.take_append_drop]
  · have htwo : (b.drop 16).take 2 = ByteWriter.u16 count := by
      calc (b.drop 16).take 2 = (b.take 18).drop 16 := by rw [List.drop_take]
        _ = ByteWriter.u16 count := by
            rw [← hfixed]
            exact List.drop_left' (by simp)
    rw [entityCount, htwo, ByteWriter.u16, ByteWriter.little,
      Lib.LittleEndian.shifted_eq_bytes,
      Lib.LittleEndian.value_bytes_of_lt (by simpa using count.toNat_lt)]

/-- Too many entities, or too few bytes for them. -/
theorem decodeSnapshot_refused {b : Bytes} (h : 18 ≤ b.length)
    (hrefused : kMaxEntitiesPerSnapshot < entityCount b ∨ b.length < 18 + 61 * entityCount b) :
    decodeSnapshot b = none := by
  obtain ⟨tick, serverTimeMs, timeOfDay, count, hsplit, hcount⟩ := split_fixed h
  rw [hsplit]
  by_cases hcapped : kMaxEntitiesPerSnapshot < count.toNat
  · exact decodeSnapshot_capped tick serverTimeMs timeOfDay count hcapped (b.drop 18)
  · rw [← hcount] at hrefused
    obtain ⟨r, hat, hrun⟩ := decodeSnapshot_count tick serverTimeMs timeOfDay count
      (Nat.not_lt.mp hcapped) (b.drop 18)
    have hshort : (b.drop 18).length < 61 * count.toNat := by
      rw [List.length_drop]
      have hfew := hrefused.resolve_left hcapped
      omega
    rw [hrun, decodeEntities_short _ hat hshort]
    rfl

/-- Enough bytes are the encoding of some snapshot. -/
theorem decodeSnapshot_accepted {b : Bytes} (h : 18 ≤ b.length)
    (hcap : entityCount b ≤ kMaxEntitiesPerSnapshot)
    (hlength : 18 + 61 * entityCount b ≤ b.length) :
    ∃ s, decodeSnapshot b = some s ∧ encodeSnapshot s = b.take (18 + 61 * entityCount b) := by
  obtain ⟨tick, serverTimeMs, timeOfDay, count, hsplit, hcount⟩ := split_fixed h
  have hbody : ((b.drop 18).take (61 * entityCount b)).length = 61 * entityCount b := by
    simp only [List.length_take, List.length_drop]
    omega
  obtain ⟨es, hes, hbytes⟩ := entities_of_length (entityCount b) hbody
  let s : Snapshot UInt32 := ⟨tick, serverTimeMs, timeOfDay, es⟩
  have hencode : encodeSnapshot s = b.take (18 + 61 * entityCount b) := by
    have hfields : ByteWriter.u32 tick ++ ByteWriter.u64 serverTimeMs ++
        ByteWriter.f32 timeOfDay ++ ByteWriter.u16 count = b.take 18 := by
      conv_rhs => rw [hsplit]
      exact (List.take_left' (by simp)).symm
    calc encodeSnapshot s
        = ByteWriter.u32 tick ++ ByteWriter.u64 serverTimeMs ++ ByteWriter.f32 timeOfDay ++
            ByteWriter.u16 count ++ (b.drop 18).take (61 * entityCount b) := by
          rw [encodeSnapshot, hbytes, hes, ← hcount, UInt16.ofNat_toNat]
      _ = b.take (18 + 61 * entityCount b) := by rw [hfields, List.take_add]
  refine ⟨s, ?_, hencode⟩
  have hread := decodeSnapshot_encodeSnapshot s (by rw [hes]; exact hcap)
    (b.drop (18 + 61 * entityCount b))
  rwa [hencode, List.take_append_drop] at hread

/-- What `decodeSnapshot` makes of any bytes. -/
theorem decodeSnapshot_isSome_iff (b : Bytes) :
    (decodeSnapshot b).isSome ↔ 18 ≤ b.length ∧ entityCount b ≤ kMaxEntitiesPerSnapshot ∧
      18 + 61 * entityCount b ≤ b.length := by
  constructor
  · intro hsome
    have hfixed : 18 ≤ b.length := by
      by_contra hshort
      rw [decodeSnapshot_short (Nat.not_le.mp hshort)] at hsome
      cases hsome
    have hnot : ¬ (kMaxEntitiesPerSnapshot < entityCount b ∨
        b.length < 18 + 61 * entityCount b) := by
      intro hrefused
      rw [decodeSnapshot_refused hfixed hrefused] at hsome
      cases hsome
    rw [not_or, Nat.not_lt, Nat.not_lt] at hnot
    exact ⟨hfixed, hnot⟩
  · rintro ⟨hfixed, hcap, hlength⟩
    obtain ⟨s, hs, -⟩ := decodeSnapshot_accepted hfixed hcap hlength
    rw [hs]
    rfl

/-- A snapshot within the cap is read back, whatever follows it. Any bytes are accepted if and only
if they have the fixed part, a count within the cap and the bytes for so many entities; the snapshot
read is then the one that these bytes encode. -/
theorem snapshot_codec (s : Snapshot UInt32) (rest b : Bytes) :
    (s.entities.length ≤ kMaxEntitiesPerSnapshot →
      decodeSnapshot (encodeSnapshot s ++ rest) = some s) ∧
    ((decodeSnapshot b).isSome ↔ 18 ≤ b.length ∧ entityCount b ≤ kMaxEntitiesPerSnapshot ∧
      18 + 61 * entityCount b ≤ b.length) ∧
    ∀ t, decodeSnapshot b = some t → encodeSnapshot t = b.take (18 + 61 * entityCount b) := by
  refine ⟨fun hcap => decodeSnapshot_encodeSnapshot s hcap rest, decodeSnapshot_isSome_iff b, ?_⟩
  intro t ht
  obtain ⟨hfixed, hcap, hlength⟩ := (decodeSnapshot_isSome_iff b).mp (by rw [ht]; rfl)
  obtain ⟨u, hu, hencode⟩ := decodeSnapshot_accepted hfixed hcap hlength
  rw [ht] at hu
  rw [Option.some.inj hu]
  exact hencode

/-- A snapshot of one entity. -/
def lone : Snapshot UInt32 :=
  ⟨7, 1000, 0x3F000000, [⟨1000, 1, ⟨1, 2, 3⟩, ⟨0, 0, 0, 0x3F800000⟩, ⟨4, 5, 6⟩, ⟨0, 0, 0⟩, 9⟩]⟩

/-- Read back in front of a byte that does not belong to it. -/
theorem snapshot_codec_lone :
    decodeSnapshot (encodeSnapshot lone ++ [7]) = some lone ∧
      encodeSnapshot lone =
        (encodeSnapshot lone ++ [7]).take (18 + 61 * entityCount (encodeSnapshot lone ++ [7])) :=
  ⟨(snapshot_codec lone [7] []).1 (by decide),
    (snapshot_codec lone [] (encodeSnapshot lone ++ [7])).2.2 lone (by decide +kernel)⟩

end Acceptance

end UntitledGame.Net
