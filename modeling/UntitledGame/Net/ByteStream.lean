import UntitledGame.Lib.LittleEndian

/-!
# `net::ByteWriter` and `net::ByteReader`

The wire encoding of every message. A writer method is modelled by the bytes it
appends to its buffer. A reader is the pair of the data and a position, with
the failure flag that every read past the end sets.

`float` values travel as their 32-bit patterns, so `f32` has type `UInt32` on
both sides.

## Implementation notes

`At r bs` says that the unread part of a reader that has not failed is `bs`.
`Yields` and `Fixed` are the two rules that decoders are proved with: the value
read and the bytes left when they are there, and what happens in both cases for
a decoder that consumes a fixed number of bytes.
-/

namespace UntitledGame.Net

abbrev Bytes := List UInt8

namespace ByteWriter

def kMaxStringLength : Nat := 1024

/-- `little`: the `size` bytes of `v`, least significant first. -/
def little (size v : Nat) : Bytes := Lib.LittleEndian.shifted size v

def u8 (v : UInt8) : Bytes := [v]
def u16 (v : UInt16) : Bytes := little 2 v.toNat
def u32 (v : UInt32) : Bytes := little 4 v.toNat
def u64 (v : UInt64) : Bytes := little 8 v.toNat
def i32 (v : Int32) : Bytes := u32 v.toUInt32

/-- A float is written as its bit pattern. -/
def f32 (bits : UInt32) : Bytes := u32 bits

/-- Length-prefixed, cut off at `kMaxStringLength`. -/
def string (v : Bytes) : Bytes :=
  let length := if v.length > kMaxStringLength then kMaxStringLength else v.length
  u16 (UInt16.ofNat length) ++ v.take length

@[simp] theorem u8_length (v : UInt8) : (u8 v).length = 1 := rfl

@[simp] theorem u16_length (v : UInt16) : (u16 v).length = 2 := by
  simp [u16, little, Lib.LittleEndian.shifted]

@[simp] theorem u32_length (v : UInt32) : (u32 v).length = 4 := by
  simp [u32, little, Lib.LittleEndian.shifted]

@[simp] theorem u64_length (v : UInt64) : (u64 v).length = 8 := by
  simp [u64, little, Lib.LittleEndian.shifted]

@[simp] theorem f32_length (v : UInt32) : (f32 v).length = 4 := u32_length v

end ByteWriter

/-- The reader's state; `mSize` is the length of `mData`. -/
structure ByteReader where
  mData : Bytes
  mOffset : Nat
  mFailed : Bool
  deriving DecidableEq, Repr

namespace ByteReader

/-- A reader over a whole message. -/
def start (data : Bytes) : ByteReader := ⟨data, 0, false⟩

def remaining (r : ByteReader) : Nat := if r.mFailed then 0 else r.mData.length - r.mOffset

def failed : StateM ByteReader Bool := fun r => (r.mFailed, r)

/-- `take<T>` for `sizeof(T) = size`: zero and the failure flag when too few bytes remain. -/
def take (size : Nat) : StateM ByteReader Nat := fun r =>
  if r.remaining < size then (0, { r with mFailed := true })
  else
    (Lib.LittleEndian.assembled ((r.mData.drop r.mOffset).take size),
      { r with mOffset := r.mOffset + size })

def u8 : StateM ByteReader UInt8 := do return UInt8.ofNat (← take 1)
def u16 : StateM ByteReader UInt16 := do return UInt16.ofNat (← take 2)
def u32 : StateM ByteReader UInt32 := do return UInt32.ofNat (← take 4)
def u64 : StateM ByteReader UInt64 := do return UInt64.ofNat (← take 8)
def i32 : StateM ByteReader Int32 := do return (← u32).toInt32
def f32 : StateM ByteReader UInt32 := u32

def string : StateM ByteReader Bytes := fun r =>
  let (length, r) := u16 r
  if r.mFailed || ByteWriter.kMaxStringLength < length.toNat || r.remaining < length.toNat then
    ([], { r with mFailed := true })
  else
    ((r.mData.drop r.mOffset).take length.toNat,
      { r with mOffset := r.mOffset + length.toNat })

/-- The reader has not failed and `bs` is what it has not read yet. -/
def At (r : ByteReader) (bs : Bytes) : Prop :=
  r.mFailed = false ∧ r.mOffset ≤ r.mData.length ∧ r.mData.drop r.mOffset = bs

theorem start_at (data : Bytes) : (start data).At data := by
  simp [start, At]

theorem At.remaining_eq {r : ByteReader} {bs : Bytes} (h : r.At bs) :
    r.remaining = bs.length := by
  obtain ⟨hf, -, rfl⟩ := h
  simp [ByteReader.remaining, hf]

/-- Moving the offset forward inside the unread part drops that many bytes. -/
theorem At.advance {r : ByteReader} {bs : Bytes} (h : r.At bs) {n : Nat} (hn : n ≤ bs.length) :
    ({ r with mOffset := r.mOffset + n } : ByteReader).At (bs.drop n) := by
  obtain ⟨hf, hle, rfl⟩ := h
  refine ⟨hf, ?_, ?_⟩
  · simp only [List.length_drop] at hn ⊢
    omega
  · rw [List.drop_drop]

section Rules

variable {α β : Type}

/-- On every reader whose unread part is `bs`, `p` returns `a` and leaves `rest` unread. -/
def Yields (p : StateM ByteReader α) (bs : Bytes) (a : α) (rest : Bytes) : Prop :=
  ∀ r : ByteReader, r.At bs → ∃ r', p r = (a, r') ∧ r'.At rest

/-- A sequence of reads, with the reader made explicit. -/
theorem bind_run (p : StateM ByteReader α) (f : α → StateM ByteReader β) (r : ByteReader) :
    (p >>= f) r = f (p r).1 (p r).2 := rfl

theorem Yields.pure (a : α) (bs : Bytes) : Yields (Pure.pure a) bs a bs :=
  fun r h => ⟨r, rfl, h⟩

theorem Yields.bind {p : StateM ByteReader α} {f : α → StateM ByteReader β}
    {bs mid rest : Bytes} {a : α} {b : β} (hp : Yields p bs a mid)
    (hf : Yields (f a) mid b rest) : Yields (p >>= f) bs b rest := by
  intro r h
  obtain ⟨r₁, h₁, hat⟩ := hp r h
  obtain ⟨r₂, h₂, hat₂⟩ := hf r₁ hat
  refine ⟨r₂, ?_, hat₂⟩
  rw [bind_run, h₁, h₂]

theorem Yields.andReturn {p : StateM ByteReader α} {bs rest : Bytes} {a : α}
    (hp : Yields p bs a rest) (g : α → β) :
    Yields (p >>= fun x => Pure.pure (g x)) bs (g a) rest :=
  hp.bind (f := fun x => Pure.pure (g x)) (Yields.pure (g a) rest)

/-- A decoder run on a whole payload. -/
theorem Yields.whole {p : StateM ByteReader α} {bs rest : Bytes} {a : α}
    (h : Yields p bs a rest) : (p (start bs)).1 = a := by
  obtain ⟨r, hr, -⟩ := h _ (start_at bs)
  rw [hr]

/-- Running a program whose first read is known. -/
theorem Yields.run_bind {p : StateM ByteReader α} {bs rest : Bytes} {a : α}
    (hp : Yields p bs a rest) {r : ByteReader} (h : r.At bs) :
    ∃ r', r'.At rest ∧ ∀ f : α → StateM ByteReader β, (p >>= f) r = f a r' := by
  obtain ⟨r', hr, hat⟩ := hp r h
  refine ⟨r', hat, fun f => ?_⟩
  rw [bind_run, hr]

/-- Asking for the failure flag does not move the reader. -/
theorem failed_bind (f : Bool → StateM ByteReader β) (r : ByteReader) :
    (failed >>= f) r = f r.mFailed r := rfl

/-- A reader that has not failed says so. -/
theorem yields_failed (bs : Bytes) : Yields failed bs false bs :=
  fun r h => ⟨r, by rw [failed, h.1], h⟩

theorem yields_take {n : Nat} {bs : Bytes} (h : n ≤ bs.length) :
    Yields (take n) bs (Lib.LittleEndian.value (bs.take n)) (bs.drop n) := by
  intro r hat
  have hrem : ¬ r.remaining < n := by rw [hat.remaining_eq]; omega
  refine ⟨_, ?_, hat.advance h⟩
  simp [take, hrem, hat.2.2, Lib.LittleEndian.assembled_eq_value]

/-- The bytes a fixed-width writer emits are read back as the same number. -/
theorem yields_take_little {n v : Nat} (h : v < 256 ^ n) (rest : Bytes) :
    Yields (take n) (ByteWriter.little n v ++ rest) v rest := by
  have hlen : (ByteWriter.little n v).length = n := by
    simp [ByteWriter.little, Lib.LittleEndian.shifted]
  have hle : n ≤ (ByteWriter.little n v ++ rest).length := by simp [hlen]
  have hy := yields_take hle
  rw [List.take_left' hlen, List.drop_left' hlen, ByteWriter.little,
    Lib.LittleEndian.shifted_eq_bytes, Lib.LittleEndian.value_bytes_of_lt h] at hy
  rw [ByteWriter.little, Lib.LittleEndian.shifted_eq_bytes]
  exact hy

theorem yields_u8 (v : UInt8) (rest : Bytes) : Yields u8 (ByteWriter.u8 v ++ rest) v rest := by
  have hy := yields_take_little (n := 1) (v := v.toNat) (by simpa using v.toNat_lt) rest
  have hone : ByteWriter.little 1 v.toNat = ByteWriter.u8 v := by
    simp [ByteWriter.little, Lib.LittleEndian.shifted, ByteWriter.u8]
  rw [hone] at hy
  simpa [u8] using hy.andReturn UInt8.ofNat

theorem yields_u16 (v : UInt16) (rest : Bytes) : Yields u16 (ByteWriter.u16 v ++ rest) v rest := by
  have hy := yields_take_little (n := 2) (v := v.toNat) (by simpa using v.toNat_lt) rest
  simpa [u16, ByteWriter.u16] using hy.andReturn UInt16.ofNat

theorem yields_u32 (v : UInt32) (rest : Bytes) : Yields u32 (ByteWriter.u32 v ++ rest) v rest := by
  have hy := yields_take_little (n := 4) (v := v.toNat) (by simpa using v.toNat_lt) rest
  simpa [u32, ByteWriter.u32] using hy.andReturn UInt32.ofNat

theorem yields_u64 (v : UInt64) (rest : Bytes) : Yields u64 (ByteWriter.u64 v ++ rest) v rest := by
  have hy := yields_take_little (n := 8) (v := v.toNat) (by simpa using v.toNat_lt) rest
  simpa [u64, ByteWriter.u64] using hy.andReturn UInt64.ofNat

theorem yields_f32 (v : UInt32) (rest : Bytes) : Yields f32 (ByteWriter.f32 v ++ rest) v rest :=
  yields_u32 v rest

/-- A string comes back as far as the writer's cap. -/
theorem yields_string (v rest : Bytes) :
    Yields string (ByteWriter.string v ++ rest) (v.take ByteWriter.kMaxStringLength) rest := by
  set length := if v.length > ByteWriter.kMaxStringLength then ByteWriter.kMaxStringLength
    else v.length with hlength
  have hcap : length ≤ ByteWriter.kMaxStringLength := by
    rw [hlength]
    split <;> omega
  have hle : length ≤ v.length := by
    rw [hlength]
    split <;> omega
  have htake : v.take length = v.take ByteWriter.kMaxStringLength := by
    rw [hlength]
    split
    · rfl
    · rw [List.take_length, List.take_of_length_le (by omega)]
  have hread : (UInt16.ofNat length).toNat = length := by
    apply UInt16.toNat_ofNat_of_lt
    have : ByteWriter.kMaxStringLength = 1024 := rfl
    change length < 2 ^ 16
    omega
  intro r hat
  obtain ⟨r₁, h₁, hat₁⟩ := yields_u16 (UInt16.ofNat length) (v.take length ++ rest) r
    (by rw [← List.append_assoc]; exact hat)
  have hremaining : ¬ r₁.remaining < length := by
    rw [hat₁.remaining_eq, List.length_append, List.length_take]
    omega
  refine ⟨{ r₁ with mOffset := r₁.mOffset + length }, ?_, ?_⟩
  · simp only [string, h₁, hread, hat₁.1, Bool.false_or, decide_eq_true_eq, Bool.or_eq_true,
      hremaining, or_false, Nat.not_lt.mpr hcap, if_false, hat₁.2.2, ← htake]
    rw [List.take_left' (by rw [List.length_take]; omega)]
  · have hadvance := hat₁.advance (n := length) (by
      rw [List.length_append, List.length_take]
      omega)
    rwa [List.drop_left' (by rw [List.length_take]; omega)] at hadvance

/-- A decoder that consumes exactly `n` bytes: it fails when fewer remain, and never
recovers from an earlier failure. -/
structure Fixed (n : Nat) (p : StateM ByteReader α) : Prop where
  sticky : ∀ r : ByteReader, r.mFailed = true → (p r).2.mFailed = true
  enough : ∀ bs : Bytes, n ≤ bs.length → ∃ a, Yields p bs a (bs.drop n)
  short : ∀ (r : ByteReader) (bs : Bytes), r.At bs → bs.length < n → (p r).2.mFailed = true

theorem Fixed.pure (a : α) : Fixed 0 (Pure.pure a : StateM ByteReader α) where
  sticky _ h := h
  enough bs _ := ⟨a, Yields.pure a bs⟩
  short _ _ _ h := absurd h (Nat.not_lt_zero _)

theorem Fixed.bind {m n : Nat} {p : StateM ByteReader α} {f : α → StateM ByteReader β}
    (hp : Fixed m p) (hf : ∀ a, Fixed n (f a)) : Fixed (m + n) (p >>= f) where
  sticky r h := (hf _).sticky _ (hp.sticky r h)
  enough bs h := by
    obtain ⟨a, ha⟩ := hp.enough bs (by omega)
    obtain ⟨b, hb⟩ := (hf a).enough (bs.drop m) (by simp only [List.length_drop]; omega)
    refine ⟨b, ?_⟩
    rw [List.drop_drop] at hb
    exact ha.bind hb
  short r bs hat h := by
    by_cases hm : m ≤ bs.length
    · obtain ⟨a, ha⟩ := hp.enough bs hm
      obtain ⟨r', hr, hat'⟩ := ha r hat
      rw [bind_run, hr]
      exact (hf a).short r' _ hat' (by simp only [List.length_drop]; omega)
    · exact (hf _).sticky _ (hp.short r bs hat (by omega))

theorem fixed_take (n : Nat) (hn : 0 < n) : Fixed n (take n) where
  sticky r h := by
    have hlt : r.remaining < n := by simp [remaining, h, hn]
    simp [take, hlt]
  enough bs h := ⟨_, yields_take h⟩
  short r bs hat h := by
    have hlt : r.remaining < n := by rw [hat.remaining_eq]; exact h
    simp [take, hlt]

theorem fixed_u8 : Fixed 1 u8 := (fixed_take 1 (by decide)).bind fun _ => Fixed.pure _
theorem fixed_u32 : Fixed 4 u32 := (fixed_take 4 (by decide)).bind fun _ => Fixed.pure _
theorem fixed_f32 : Fixed 4 f32 := fixed_u32

end Rules

end ByteReader

end UntitledGame.Net
