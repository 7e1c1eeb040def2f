import UntitledGame.Net.ByteStream
import UntitledGame.Lib.Runs

/-!
# `net::ByteReader` and the memory behind the message

A reader is a pointer and a size. The pointer leads past the message into memory
that is not the reader's, and only the tests in `take` and `string` keep it from
there. `perform` is a call over the memory; it notes every index that it reads.

`reader_safety` is the account of a sequence of calls. `reads_refines` ties it to
the reader over a list of bytes, which the messages are decoded with.
-/

namespace UntitledGame.Net.ReaderMemory

/-- The bytes from the pointer on, whether or not they belong to the message. -/
abbrev Memory := Nat → UInt8

/-- A `ByteReader` without its pointer; `touched` holds the indices that were read. -/
structure Cursor where
  mSize : Nat
  mOffset : Nat
  mFailed : Bool
  touched : List Nat
  deriving DecidableEq, Repr

inductive Call where
  | u8
  | u16
  | u32
  | u64
  | i32
  | f32
  | string
  deriving DecidableEq, Repr

/-- What a call returns; a float is its bit pattern. -/
inductive Value where
  | u8 (v : UInt8)
  | u16 (v : UInt16)
  | u32 (v : UInt32)
  | u64 (v : UInt64)
  | i32 (v : Int32)
  | f32 (bits : UInt32)
  | string (v : Bytes)
  deriving DecidableEq, Repr

/-- Zero, or the empty string. -/
def Call.zero : Call → Value
  | .u8 => .u8 0
  | .u16 => .u16 0
  | .u32 => .u32 0
  | .u64 => .u64 0
  | .i32 => .i32 0
  | .f32 => .f32 0
  | .string => .string []

section Reading

variable (mData : Memory)

namespace Cursor

def start (mSize : Nat) : Cursor := ⟨mSize, 0, false, []⟩

def remaining (c : Cursor) : Nat := if c.mFailed then 0 else c.mSize - c.mOffset

/-- `size` bytes at the offset. -/
def bytes (c : Cursor) (size : Nat) : Bytes := (List.range' c.mOffset size).map mData

/-- Past `size` bytes that were read. -/
def advance (c : Cursor) (size : Nat) : Cursor :=
  { c with mOffset := c.mOffset + size, touched := c.touched ++ List.range' c.mOffset size }

def fail (c : Cursor) : Cursor := { c with mFailed := true }

/-- `take<T>` for `sizeof(T) = size`. -/
def take (c : Cursor) (size : Nat) : Nat × Cursor :=
  if c.remaining < size then (0, c.fail)
  else (Lib.LittleEndian.assembled (c.bytes mData size), c.advance size)

def string (c : Cursor) : Bytes × Cursor :=
  let (prefixed, c) := c.take mData 2
  let length := (UInt16.ofNat prefixed).toNat
  if c.mFailed || ByteWriter.kMaxStringLength < length || c.remaining < length then ([], c.fail)
  else (c.bytes mData length, c.advance length)

/-- The bytes of the message that have not been read. -/
def unread (c : Cursor) : Bytes := c.bytes mData (c.mSize - c.mOffset)

end Cursor

/-- The calls that take a fixed number of bytes. -/
def fixed (c : Cursor) (size : Nat) (value : Nat → Value) : Value × Cursor :=
  let (v, c) := c.take mData size
  (value v, c)

def perform (c : Cursor) : Call → Value × Cursor
  | .u8 => fixed mData c 1 fun v => .u8 (UInt8.ofNat v)
  | .u16 => fixed mData c 2 fun v => .u16 (UInt16.ofNat v)
  | .u32 => fixed mData c 4 fun v => .u32 (UInt32.ofNat v)
  | .u64 => fixed mData c 8 fun v => .u64 (UInt64.ofNat v)
  | .i32 => fixed mData c 4 fun v => .i32 (UInt32.ofNat v).toInt32
  | .f32 => fixed mData c 4 fun v => .f32 (UInt32.ofNat v)
  | .string =>
      let (v, c) := c.string mData
      (.string v, c)

/-- A call, with the values returned so far. -/
def step (s : Cursor × List Value) (call : Call) : Cursor × List Value :=
  let (v, c) := perform mData s.1 call
  (c, s.2 ++ [v])

/-- A sequence of calls on a fresh reader. -/
def reads (mSize : Nat) (calls : List Call) : Cursor × List Value :=
  Lib.Runs.run (step mData) (.start mSize, []) calls

/-- The call does not fail after the others. -/
def Succeeds (mSize : Nat) (calls : List Call) (call : Call) : Prop :=
  (perform mData (reads mData mSize calls).1 call).2.mFailed = false

end Reading

/-- The bytes that a call needs are in front. -/
def Present (unread : Bytes) : Call → Prop
  | .u8 => 1 ≤ unread.length
  | .u16 => 2 ≤ unread.length
  | .u32 => 4 ≤ unread.length
  | .u64 => 8 ≤ unread.length
  | .i32 => 4 ≤ unread.length
  | .f32 => 4 ≤ unread.length
  | .string =>
      let length := Lib.LittleEndian.value (unread.take 2)
      2 ≤ unread.length ∧ length ≤ ByteWriter.kMaxStringLength ∧ 2 + length ≤ unread.length

/-- The offset is in the message, and so is every byte that was read. -/
structure Inside (c : Cursor) : Prop where
  offset : c.mOffset ≤ c.mSize
  touched : ∀ i ∈ c.touched, i < c.mSize

/-- The same reader of a longer message. -/
def Cursor.extended (c : Cursor) (mSize : Nat) : Cursor := { c with mSize := mSize }

/-- What one call of a reader keeps to: `zero` is its answer to a failure, and `enough` says what
it needs in front of it. -/
structure Sound {α : Type} (p : Memory → Cursor → α × Cursor) (zero : α) (enough : Bytes → Prop) :
    Prop where
  inside : ∀ mData c, Inside c → Inside (p mData c).2
  size : ∀ mData c, (p mData c).2.mSize = c.mSize
  succeeds : ∀ mData c, Inside c →
    ((p mData c).2.mFailed = false ↔ c.mFailed = false ∧ enough (c.unread mData))
  zero : ∀ mData c, (p mData c).2.mFailed = true → (p mData c).1 = zero
  extend : ∀ mData mData' c mSize, Inside c → c.mSize ≤ mSize →
    (∀ i < c.mSize, mData' i = mData i) → (p mData c).2.mFailed = false →
      p mData' (c.extended mSize) = ((p mData c).1, (p mData c).2.extended mSize)

section Calls

theorem inside_start (mSize : Nat) : Inside (.start mSize) :=
  ⟨Nat.zero_le _, by simp [Cursor.start]⟩

theorem Inside.advance {c : Cursor} (h : Inside c) {size : Nat}
    (hsize : size ≤ c.mSize - c.mOffset) : Inside (c.advance size) := by
  have hoffset := h.offset
  constructor
  · change c.mOffset + size ≤ c.mSize
    omega
  · intro i hi
    change i < c.mSize
    cases List.mem_append.mp hi with
    | inl hi => exact h.touched i hi
    | inr hi =>
        have hrange := List.mem_range'_1.mp hi
        omega

theorem Inside.fail {c : Cursor} (h : Inside c) : Inside c.fail := ⟨h.offset, h.touched⟩

@[simp] theorem unread_length (mData : Memory) (c : Cursor) :
    (c.unread mData).length = c.mSize - c.mOffset := by
  simp [Cursor.unread, Cursor.bytes]

/-- Bytes of the message are the same in every memory that holds it. -/
theorem bytes_congr {mData mData' : Memory} {c : Cursor} (h : Inside c)
    (hsame : ∀ i < c.mSize, mData' i = mData i) {size : Nat} (hsize : size ≤ c.mSize - c.mOffset) :
    c.bytes mData' size = c.bytes mData size := by
  apply List.map_congr_left
  intro i hi
  have hrange := List.mem_range'_1.mp hi
  have hoffset := h.offset
  exact hsame i (by omega)

/-- The two ways that `take` goes. -/
theorem take_cases (mData : Memory) (c : Cursor) (size : Nat) (hpos : 0 < size) :
    (c.mFailed = false ∧ size ≤ c.mSize - c.mOffset) ∧ c.take mData size =
        (Lib.LittleEndian.assembled (c.bytes mData size), c.advance size) ∨
      ¬(c.mFailed = false ∧ size ≤ c.mSize - c.mOffset) ∧ c.take mData size = (0, c.fail) := by
  cases hfailed : c.mFailed with
  | true =>
      refine Or.inr ⟨by simp, if_pos ?_⟩
      rw [Cursor.remaining, hfailed, if_pos rfl]
      exact hpos
  | false =>
      have hremaining : c.remaining = c.mSize - c.mOffset := by simp [Cursor.remaining, hfailed]
      by_cases hshort : c.mSize - c.mOffset < size
      · exact Or.inr ⟨by simp [hshort], if_pos (hremaining ▸ hshort)⟩
      · exact Or.inl ⟨⟨rfl, Nat.not_lt.mp hshort⟩, if_neg (hremaining ▸ hshort)⟩

theorem sound_take {size : Nat} (hpos : 0 < size) :
    Sound (fun mData c => c.take mData size) 0 (fun unread => size ≤ unread.length) where
  inside mData c h := by
    rcases take_cases mData c size hpos with ⟨henough, heq⟩ | ⟨-, heq⟩
    · rw [heq]
      exact h.advance henough.2
    · rw [heq]
      exact h.fail
  size mData c := by
    rcases take_cases mData c size hpos with ⟨-, heq⟩ | ⟨-, heq⟩
    · rw [heq]
      rfl
    · rw [heq]
      rfl
  succeeds mData c h := by
    rw [unread_length]
    rcases take_cases mData c size hpos with ⟨henough, heq⟩ | ⟨hshort, heq⟩
    · rw [heq]
      exact iff_of_true henough.1 henough
    · rw [heq]
      exact iff_of_false (by simp [Cursor.fail]) hshort
  zero mData c hfailed := by
    rcases take_cases mData c size hpos with ⟨henough, heq⟩ | ⟨-, heq⟩
    · rw [heq] at hfailed
      have hsame : c.mFailed = true := hfailed
      rw [henough.1] at hsame
      cases hsame
    · rw [heq]
  extend mData mData' c mSize h hle hsame hok := by
    rcases take_cases mData c size hpos with ⟨henough, heq⟩ | ⟨-, heq⟩
    · have hlonger : (c.extended mSize).mFailed = false ∧
          size ≤ (c.extended mSize).mSize - (c.extended mSize).mOffset := by
        refine ⟨henough.1, henough.2.trans ?_⟩
        exact Nat.sub_le_sub_right hle _
      rcases take_cases mData' (c.extended mSize) size hpos with ⟨-, heq'⟩ | ⟨hnot, -⟩
      · have hbytes : (c.extended mSize).bytes mData' size = c.bytes mData size :=
          bytes_congr h hsame henough.2
        rw [heq, heq', hbytes]
        rfl
      · exact absurd hlonger hnot
    · rw [heq] at hok
      cases hok

/-- Wrapping up what was read. -/
theorem Sound.map {α β : Type} {p : Memory → Cursor → α × Cursor} {zero : α} {enough : Bytes → Prop}
    (h : Sound p zero enough) (f : α → β) :
    Sound (fun mData c => (f (p mData c).1, (p mData c).2)) (f zero) enough where
  inside := h.inside
  size := h.size
  succeeds := h.succeeds
  zero mData c hfailed := congrArg f (h.zero mData c hfailed)
  extend mData mData' c mSize hinside hle hsame hok := by
    rw [h.extend mData mData' c mSize hinside hle hsame hok]

theorem unread_take (mData : Memory) {c : Cursor} {size : Nat} (h : size ≤ c.mSize - c.mOffset) :
    (c.unread mData).take size = c.bytes mData size := by
  rw [Cursor.unread, Cursor.bytes, ← List.map_take, List.take_range'_of_length_ge h, Cursor.bytes]

/-- The three ways that `string` goes: the string is read, or the call fails behind the length or
in front of it. -/
theorem string_cases (mData : Memory) (c : Cursor) :
    let length := Lib.LittleEndian.value (c.bytes mData 2)
    (c.mFailed = false ∧ 2 ≤ c.mSize - c.mOffset ∧ length ≤ ByteWriter.kMaxStringLength ∧
        2 + length ≤ c.mSize - c.mOffset) ∧
        c.string mData = ((c.advance 2).bytes mData length, (c.advance 2).advance length) ∨
      (2 ≤ c.mSize - c.mOffset ∧
        ¬(length ≤ ByteWriter.kMaxStringLength ∧ 2 + length ≤ c.mSize - c.mOffset)) ∧
        c.string mData = ([], (c.advance 2).fail) ∨
      ¬(c.mFailed = false ∧ 2 ≤ c.mSize - c.mOffset) ∧ c.string mData = ([], c.fail) := by
  intro length
  rcases take_cases mData c 2 (by decide) with ⟨henough, heq⟩ | ⟨hshort, heq⟩
  · have hlt : length < 256 ^ 2 := by
      have hvalue := Lib.LittleEndian.value_lt (c.bytes mData 2)
      have htwo : (c.bytes mData 2).length = 2 := by simp [Cursor.bytes]
      rwa [htwo] at hvalue
    have hlength : (UInt16.ofNat (Lib.LittleEndian.assembled (c.bytes mData 2))).toNat = length := by
      rw [Lib.LittleEndian.assembled_eq_value]
      exact UInt16.toNat_ofNat_of_lt' hlt
    have hremaining : (c.advance 2).remaining = c.mSize - c.mOffset - 2 := by
      have hfailed : (c.advance 2).mFailed = false := henough.1
      rw [Cursor.remaining, hfailed, if_neg Bool.false_ne_true, ← Nat.sub_add_eq]
      rfl
    have hfailed : (c.advance 2).mFailed = false := henough.1
    simp only [Cursor.string, heq, hlength, hfailed, hremaining, Bool.false_or, Bool.or_eq_true,
      decide_eq_true_eq]
    by_cases hfits : length ≤ ByteWriter.kMaxStringLength ∧ 2 + length ≤ c.mSize - c.mOffset
    · exact Or.inl ⟨⟨henough.1, henough.2, hfits⟩, if_neg (by omega)⟩
    · exact Or.inr (Or.inl ⟨⟨henough.2, hfits⟩, if_pos (by omega)⟩)
  · refine Or.inr (Or.inr ⟨hshort, ?_⟩)
    simp only [Cursor.string, heq]
    rfl

theorem sound_string : Sound (fun mData c => c.string mData) [] (fun unread => Present unread .string)
    where
  inside mData c h := by
    rcases string_cases mData c with ⟨henough, heq⟩ | ⟨hlong, heq⟩ | ⟨-, heq⟩
    · rw [heq]
      apply (h.advance henough.2.1).advance
      change _ ≤ c.mSize - (c.mOffset + 2)
      omega
    · rw [heq]
      exact (h.advance hlong.1).fail
    · rw [heq]
      exact h.fail
  size mData c := by
    rcases string_cases mData c with ⟨-, heq⟩ | ⟨-, heq⟩ | ⟨-, heq⟩
    · rw [heq]
      rfl
    · rw [heq]
      rfl
    · rw [heq]
      rfl
  succeeds mData c h := by
    simp only [Present, unread_length]
    rcases string_cases mData c with ⟨henough, heq⟩ | ⟨hlong, heq⟩ | ⟨hshort, heq⟩
    · rw [heq, unread_take mData henough.2.1]
      exact iff_of_true henough.1 henough
    · rw [heq, unread_take mData hlong.1]
      exact iff_of_false (by simp [Cursor.fail]) fun hpresent => hlong.2 hpresent.2.2
    · rw [heq]
      exact iff_of_false (by simp [Cursor.fail]) fun hpresent => hshort ⟨hpresent.1, hpresent.2.1⟩
  zero mData c hfailed := by
    rcases string_cases mData c with ⟨henough, heq⟩ | ⟨-, heq⟩ | ⟨-, heq⟩
    · rw [heq] at hfailed
      have hsame : c.mFailed = true := hfailed
      rw [henough.1] at hsame
      cases hsame
    · rw [heq]
    · rw [heq]
  extend mData mData' c mSize h hle hsame hok := by
    rcases string_cases mData c with ⟨henough, heq⟩ | ⟨-, heq⟩ | ⟨-, heq⟩
    · have htwo : (c.extended mSize).bytes mData' 2 = c.bytes mData 2 :=
        bytes_congr h hsame henough.2.1
      have hbytes : ((c.extended mSize).advance 2).bytes mData'
            (Lib.LittleEndian.value (c.bytes mData 2)) =
          (c.advance 2).bytes mData (Lib.LittleEndian.value (c.bytes mData 2)) := by
        apply bytes_congr (h.advance henough.2.1) hsame
        change _ ≤ c.mSize - (c.mOffset + 2)
        omega
      have hlonger : c.mSize - c.mOffset ≤ (c.extended mSize).mSize - (c.extended mSize).mOffset :=
        Nat.sub_le_sub_right hle _
      have hcases := string_cases mData' (c.extended mSize)
      simp only [htwo] at hcases
      rcases hcases with ⟨-, heq'⟩ | ⟨hlong, -⟩ | ⟨hshort, -⟩
      · rw [heq, heq', hbytes]
        rfl
      · exact absurd ⟨henough.2.2.1, henough.2.2.2.trans hlonger⟩ hlong.2
      · exact absurd ⟨henough.1, henough.2.1.trans hlonger⟩ hshort
    · rw [heq] at hok
      cases hok
    · rw [heq] at hok
      cases hok

theorem sound_fixed (size : Nat) (value : Nat → Value) (hpos : 0 < size) :
    Sound (fun mData c => fixed mData c size value) (value 0) (fun unread => size ≤ unread.length) :=
  (sound_take hpos).map value

theorem sound_perform (call : Call) :
    Sound (fun mData c => perform mData c call) call.zero (fun unread => Present unread call) := by
  cases call with
  | u8 => exact sound_fixed 1 (fun v => .u8 (UInt8.ofNat v)) (by decide)
  | u16 => exact sound_fixed 2 (fun v => .u16 (UInt16.ofNat v)) (by decide)
  | u32 => exact sound_fixed 4 (fun v => .u32 (UInt32.ofNat v)) (by decide)
  | u64 => exact sound_fixed 8 (fun v => .u64 (UInt64.ofNat v)) (by decide)
  | i32 => exact sound_fixed 4 (fun v => .i32 (UInt32.ofNat v).toInt32) (by decide)
  | f32 => exact sound_fixed 4 (fun v => .f32 (UInt32.ofNat v)) (by decide)
  | string => exact sound_string.map Value.string

end Calls

section Sequences

variable (mData : Memory) (mSize : Nat) (calls : List Call)

theorem reads_concat (call : Call) :
    reads mData mSize (calls ++ [call]) = step mData (reads mData mSize calls) call :=
  Lib.Runs.run_concat _ _ _ _

theorem inside_reads :
    Inside (reads mData mSize calls).1 ∧ (reads mData mSize calls).1.mSize = mSize := by
  have hstep : ∀ (s : Cursor × List Value) (call : Call), Inside s.1 ∧ s.1.mSize = mSize →
      Inside (step mData s call).1 ∧ (step mData s call).1.mSize = mSize := by
    rintro s call ⟨hinside, hsize⟩
    refine ⟨(sound_perform call).inside mData s.1 hinside, ?_⟩
    exact ((sound_perform call).size mData s.1).trans hsize
  have hstart : Inside (Cursor.start mSize) ∧ (Cursor.start mSize).mSize = mSize :=
    ⟨inside_start mSize, rfl⟩
  exact Lib.Runs.run_preserves hstep hstart calls

/-- A failure stays. -/
theorem failed_perform {c : Cursor} (hinside : Inside c) (h : c.mFailed = true) (call : Call) :
    (perform mData c call).2.mFailed = true := by
  by_contra hok
  rw [Bool.not_eq_true] at hok
  have hbefore := (((sound_perform call).succeeds mData c hinside).mp hok).1
  rw [h] at hbefore
  cases hbefore

/-- A reader has not failed when every call on it has succeeded. -/
theorem not_failed_iff : (reads mData mSize calls).1.mFailed = false ↔
    ∀ pre call, pre ++ [call] <+: calls → Succeeds mData mSize pre call := by
  have hstep : ∀ (s : Cursor × List Value) (call : Call), Inside s.1 →
      ((step mData s call).1.mFailed = false ↔
        s.1.mFailed = false ∧ (perform mData s.1 call).2.mFailed = false) := by
    intro s call h
    refine (and_iff_right_of_imp fun hok => ?_).symm
    exact (((sound_perform call).succeeds mData s.1 h).mp hok).1
  have hrun := Lib.Runs.run_iff_along (fun s => Inside s.1) (fun s => s.1.mFailed = false)
    (fun s call h => (sound_perform call).inside mData s.1 h) hstep
    (s := (Cursor.start mSize, [])) (inside_start mSize) calls
  rw [reads, hrun]
  constructor
  · exact fun h => Lib.Runs.along_iff_forall.mp h.2
  · exact fun h => ⟨rfl, Lib.Runs.along_iff_forall.mpr h⟩

/-- More bytes behind the message do not change what was read. -/
theorem reads_extend {mData' : Memory} {mSize' : Nat} (hle : mSize ≤ mSize')
    (hsame : ∀ i < mSize, mData' i = mData i)
    (hok : (reads mData mSize calls).1.mFailed = false) :
    reads mData' mSize' calls =
      ((reads mData mSize calls).1.extended mSize', (reads mData mSize calls).2) := by
  induction calls using List.reverseRecOn with
  | nil => rfl
  | append_singleton calls call ih =>
      obtain ⟨hinside, hsize⟩ := inside_reads mData mSize calls
      rw [reads_concat] at hok
      have hbefore := (((sound_perform call).succeeds mData _ hinside).mp hok).1
      rw [reads_concat, reads_concat, ih hbefore]
      have hcall := (sound_perform call).extend mData mData' _ mSize' hinside (hsize.trans_le hle)
        (hsize.symm ▸ hsame) hok
      simp only [step]
      rw [hcall]

end Sequences

section Refinement

/-- The call of the reader over a list. -/
def listed : Call → StateM ByteReader Value
  | .u8 => do return .u8 (← ByteReader.u8)
  | .u16 => do return .u16 (← ByteReader.u16)
  | .u32 => do return .u32 (← ByteReader.u32)
  | .u64 => do return .u64 (← ByteReader.u64)
  | .i32 => do return .i32 (← ByteReader.i32)
  | .f32 => do return .f32 (← ByteReader.f32)
  | .string => do return .string (← ByteReader.string)

def listedStep (s : ByteReader × List Value) (call : Call) : ByteReader × List Value :=
  let (v, r) := listed call s.1
  (r, s.2 ++ [v])

/-- The memory holds the reader's list, and both readers are in the same place. -/
structure Represents (mData : Memory) (c : Cursor) (r : ByteReader) : Prop where
  size : c.mSize = r.mData.length
  data : ∀ (i : Nat) (h : i < r.mData.length), mData i = r.mData[i]
  offset : c.mOffset = r.mOffset
  failed : c.mFailed = r.mFailed

variable {mData : Memory} {c : Cursor} {r : ByteReader} (h : Represents mData c r)

include h

theorem represents_remaining : c.remaining = r.remaining := by
  rw [Cursor.remaining, ByteReader.remaining, h.size, h.offset, h.failed]

theorem represents_bytes {size : Nat} (hsize : size ≤ c.remaining) :
    c.bytes mData size = (r.mData.drop r.mOffset).take size := by
  have hle : size ≤ r.mData.length - r.mOffset := by
    rw [represents_remaining h, ByteReader.remaining] at hsize
    split at hsize
    · exact hsize.trans (Nat.zero_le _)
    · exact hsize
  apply List.ext_getElem
  · simp [Cursor.bytes, Nat.min_eq_left hle]
  · intro i hi _
    simp only [Cursor.bytes, List.getElem_map, List.getElem_range', List.getElem_take,
      List.getElem_drop, Nat.one_mul, ← h.offset]
    apply h.data

theorem represents_take (size : Nat) :
    (c.take mData size).1 = (ByteReader.take size r).1 ∧
      Represents mData (c.take mData size).2 (ByteReader.take size r).2 := by
  simp only [Cursor.take, ByteReader.take, represents_remaining h]
  split
  · exact ⟨rfl, h.size, h.data, h.offset, rfl⟩
  · rename_i hsize
    rw [represents_bytes h (represents_remaining h ▸ Nat.not_lt.mp hsize)]
    exact ⟨rfl, h.size, h.data, congrArg (· + size) h.offset, h.failed⟩

theorem represents_string :
    (c.string mData).1 = (ByteReader.string r).1 ∧
      Represents mData (c.string mData).2 (ByteReader.string r).2 := by
  obtain ⟨hvalue, hafter⟩ := represents_take h 2
  have hlength : ByteReader.u16 r =
      (UInt16.ofNat (c.take mData 2).1, (ByteReader.take 2 r).2) := by
    rw [hvalue]
    rfl
  simp only [Cursor.string, ByteReader.string, hlength, represents_remaining hafter, hafter.failed]
  split
  · exact ⟨rfl, hafter.size, hafter.data, hafter.offset, rfl⟩
  · rename_i hfits
    have hsize : (UInt16.ofNat (c.take mData 2).1).toNat ≤ (c.take mData 2).2.remaining := by
      simp only [Bool.or_eq_true, decide_eq_true_eq, not_or, Nat.not_lt] at hfits
      rw [represents_remaining hafter]
      exact hfits.2
    rw [represents_bytes hafter hsize]
    exact ⟨rfl, hafter.size, hafter.data, congrArg (· + _) hafter.offset, hafter.failed⟩

theorem represents_perform (call : Call) :
    (perform mData c call).1 = (listed call r).1 ∧
      Represents mData (perform mData c call).2 (listed call r).2 := by
  have hfixed : ∀ (size : Nat) (value : Nat → Value),
      (fixed mData c size value).1 = value (ByteReader.take size r).1 ∧
        Represents mData (fixed mData c size value).2 (ByteReader.take size r).2 := by
    intro size value
    obtain ⟨hvalue, hafter⟩ := represents_take h size
    exact ⟨congrArg value hvalue, hafter⟩
  cases call with
  | u8 => exact hfixed 1 fun v => .u8 (UInt8.ofNat v)
  | u16 => exact hfixed 2 fun v => .u16 (UInt16.ofNat v)
  | u32 => exact hfixed 4 fun v => .u32 (UInt32.ofNat v)
  | u64 => exact hfixed 8 fun v => .u64 (UInt64.ofNat v)
  | i32 => exact hfixed 4 fun v => .i32 (UInt32.ofNat v).toInt32
  | f32 => exact hfixed 4 fun v => .f32 (UInt32.ofNat v)
  | string =>
      obtain ⟨hvalue, hafter⟩ := represents_string h
      exact ⟨congrArg Value.string hvalue, hafter⟩

end Refinement

/-- Over a message, the two readers return the same values. -/
theorem reads_refines {mData : Memory} {data : Bytes}
    (h : ∀ (i : Nat) (hi : i < data.length), mData i = data[i]) (calls : List Call) :
    let s := reads mData data.length calls
    let t := Lib.Runs.run listedStep (ByteReader.start data, []) calls
    s.2 = t.2 ∧ Represents mData s.1 t.1 := by
  induction calls using List.reverseRecOn with
  | nil => exact ⟨rfl, rfl, h, rfl, rfl⟩
  | append_singleton calls call ih =>
      obtain ⟨hvalues, hrepresents⟩ := ih
      obtain ⟨hvalue, hafter⟩ := represents_perform hrepresents call
      simp only [reads_concat, Lib.Runs.run_concat]
      exact ⟨congrArg₂ (fun values v => values ++ [v]) hvalues hvalue, hafter⟩

/-- A reader of a message stays in it, whatever is asked of it: a call succeeds if and only if no
call before it has failed and what it needs is there; a failure stays, and the answer to it is zero;
and bytes behind the message have no part in what is read. -/
theorem reader_safety (mData : Memory) (mSize : Nat) (calls : List Call) :
    let c := (reads mData mSize calls).1
    (c.mOffset ≤ mSize ∧ ∀ i ∈ c.touched, i < mSize) ∧
      (∀ call, Succeeds mData mSize calls call ↔
        (∀ pre earlier, pre ++ [earlier] <+: calls → Succeeds mData mSize pre earlier) ∧
          Present (c.unread mData) call) ∧
      (∀ call, c.mFailed = true → (perform mData c call).2.mFailed = true) ∧
      (∀ call, (perform mData c call).2.mFailed = true → (perform mData c call).1 = call.zero) ∧
      (c.mFailed = false → ∀ mData' mSize', mSize ≤ mSize' → (∀ i < mSize, mData' i = mData i) →
        reads mData' mSize' calls = (c.extended mSize', (reads mData mSize calls).2)) := by
  intro c
  obtain ⟨hinside, hsize⟩ := inside_reads mData mSize calls
  refine ⟨⟨hsize ▸ hinside.offset, hsize ▸ hinside.touched⟩, ?_, ?_, ?_, ?_⟩
  · intro call
    rw [← not_failed_iff]
    exact (sound_perform call).succeeds mData c hinside
  · exact fun call hfailed => failed_perform mData hinside hfailed call
  · exact fun call hfailed => (sound_perform call).zero mData c hfailed
  · exact fun hok mData' mSize' hle hsame => reads_extend mData mSize calls hle hsame hok

end UntitledGame.Net.ReaderMemory
