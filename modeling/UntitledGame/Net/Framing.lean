import UntitledGame.Net.ByteStream

/-!
# `net::MessageStream`

Every TCP message is framed as `[u32 payloadSize][u16 type][payload]`. The
receiving side buffers bytes until a whole frame is there; the sending side
keeps an offset into its write buffer and retries what the socket refused.

## Implementation notes

What a socket call does is chosen outside the program, so `pump` and `flush`
take the outcomes of the coming calls as a list and recurse on it. A list that
ends stands for a socket that would block. `inFlight` is what the operating
system holds for a reader, and `wire` what it has taken from a writer.
-/

namespace UntitledGame.Net

structure Message where
  type : UInt16
  payload : Bytes
  deriving DecidableEq, Repr

/-- The outcome of one `TcpSocket::receive`: the connection is closed or broken, or the
system is ready to hand over this many bytes, zero when the call would block. -/
inductive Receive where
  | closed
  | ready (n : Nat)
  deriving DecidableEq, Repr

/-- The outcome of one `TcpSocket::send`: a broken connection, or the number of bytes
that the system takes. -/
inductive Send where
  | broken
  | accepts (n : Nat)
  deriving DecidableEq, Repr

structure MessageStream where
  mReadBuffer : Bytes
  mWriteBuffer : Bytes
  mWriteOffset : Nat
  deriving DecidableEq, Repr

namespace MessageStream

def kHeaderSize : Nat := 6
def kMaxPayloadSize : Nat := 1 <<< 20

/-- The size of the buffer that `pump` reads into. -/
def kChunkSize : Nat := 4096

/-- The stream around a socket that has just been connected or accepted. -/
def fresh : MessageStream := ⟨[], [], 0⟩

def readU32 (data : Bytes) : Nat :=
  (data.getD 0 0).toNat ||| (data.getD 1 0).toNat <<< 8 ||| (data.getD 2 0).toNat <<< 16 |||
    (data.getD 3 0).toNat <<< 24

def readU16 (data : Bytes) : UInt16 :=
  UInt16.ofNat ((data.getD 0 0).toNat ||| (data.getD 1 0).toNat <<< 8)

/-- Drains the socket into the read buffer. The flag is false when the peer is gone or
claims an oversized payload. -/
def pump (s : MessageStream) (inFlight : Bytes) : List Receive → MessageStream × Bytes × Bool
  | [] => (s, inFlight, true)
  | .closed :: _ => (s, inFlight, false)
  | .ready n :: rest =>
      let chunk := inFlight.take (min n kChunkSize)
      let inFlight := inFlight.drop (min n kChunkSize)
      if chunk = [] then (s, inFlight, true)
      else
        let s := { s with mReadBuffer := s.mReadBuffer ++ chunk }
        if kHeaderSize ≤ s.mReadBuffer.length ∧ kMaxPayloadSize < readU32 s.mReadBuffer then
          (s, inFlight, false)
        else pump s inFlight rest

/-- Pops one complete message, if there is one. -/
def next (s : MessageStream) : Option (Message × MessageStream) :=
  if s.mReadBuffer.length < kHeaderSize then none
  else
    let payloadSize := readU32 s.mReadBuffer
    if kMaxPayloadSize < payloadSize then none
    else if s.mReadBuffer.length < kHeaderSize + payloadSize then none
    else
      some (⟨readU16 (s.mReadBuffer.drop 4), (s.mReadBuffer.drop kHeaderSize).take payloadSize⟩,
        { s with mReadBuffer := s.mReadBuffer.drop (kHeaderSize + payloadSize) })

/-- Pops messages while there are any, at most `fuel` of them. -/
def drainUpTo : Nat → MessageStream → List Message × MessageStream
  | 0, s => ([], s)
  | fuel + 1, s =>
      match s.next with
      | none => ([], s)
      | some (m, s') =>
          let r := drainUpTo fuel s'
          (m :: r.1, r.2)

/-- The loop `while (next(&message))` of every consumer: a message takes bytes out of the
buffer, so there are at most as many messages as bytes. -/
def drain (s : MessageStream) : List Message × MessageStream := drainUpTo s.mReadBuffer.length s

/-- Writes as much queued data as the socket takes. -/
def flush (s : MessageStream) (wire : Bytes) : List Send → MessageStream × Bytes × Bool
  | outcomes =>
      if s.mWriteOffset < s.mWriteBuffer.length then
        match outcomes with
        | [] => (s, wire, true)
        | .broken :: _ => (s, wire, false)
        | .accepts n :: rest =>
            let sent := min n (s.mWriteBuffer.length - s.mWriteOffset)
            if sent = 0 then (s, wire, true)
            else
              flush { s with mWriteOffset := s.mWriteOffset + sent }
                (wire ++ (s.mWriteBuffer.drop s.mWriteOffset).take sent) rest
      else ({ s with mWriteBuffer := [], mWriteOffset := 0 }, wire, true)

/-- The bytes that `send` appends for one message. -/
def frame (m : Message) : Bytes :=
  ByteWriter.u32 (UInt32.ofNat m.payload.length) ++ ByteWriter.u16 m.type ++ m.payload

/-- Queues a message and tries to flush at once. -/
def send (s : MessageStream) (m : Message) (wire : Bytes) (outcomes : List Send) :
    MessageStream × Bytes :=
  let r := flush { s with mWriteBuffer := s.mWriteBuffer ++ frame m } wire outcomes
  (r.1, r.2.1)

def hasPendingWrites (s : MessageStream) : Bool := s.mWriteOffset < s.mWriteBuffer.length

/-- What is still to be written. -/
def unsent (s : MessageStream) : Bytes := s.mWriteBuffer.drop s.mWriteOffset

/-- A payload the peer will accept. -/
def Sendable (m : Message) : Prop := m.payload.length ≤ kMaxPayloadSize

instance (m : Message) : Decidable (Sendable m) := inferInstanceAs (Decidable (_ ≤ _))

theorem frame_length (m : Message) : (frame m).length = kHeaderSize + m.payload.length := by
  simp [frame, kHeaderSize]
  omega

theorem readU32_eq {buf : Bytes} (h : 4 ≤ buf.length) :
    readU32 buf = Lib.LittleEndian.value (buf.take 4) := by
  match buf, h with
  | b₀ :: b₁ :: b₂ :: b₃ :: rest, _ =>
      rw [← Lib.LittleEndian.assembled_eq_value]
      simp [readU32, Lib.LittleEndian.assembled, List.zipIdx]

theorem readU16_eq {buf : Bytes} (h : 2 ≤ buf.length) :
    readU16 buf = UInt16.ofNat (Lib.LittleEndian.value (buf.take 2)) := by
  match buf, h with
  | b₀ :: b₁ :: rest, _ =>
      rw [← Lib.LittleEndian.assembled_eq_value]
      simp [readU16, Lib.LittleEndian.assembled, List.zipIdx]

/-- A buffer that holds the size field of a frame reads its payload size. -/
theorem readU32_of_frame {m : Message} {buf tail more : Bytes} (hm : Sendable m)
    (h : buf ++ tail = frame m ++ more) (hlen : kHeaderSize ≤ buf.length) :
    readU32 buf = m.payload.length := by
  have hbuf : 4 ≤ buf.length := by simp only [kHeaderSize] at hlen; omega
  have hsmall : m.payload.length < 4294967296 := by
    have hmax : m.payload.length ≤ 1048576 := hm
    omega
  have htake : buf.take 4 = ByteWriter.u32 (UInt32.ofNat m.payload.length) :=
    calc buf.take 4 = (buf ++ tail).take 4 := (List.take_append_of_le_length hbuf).symm
      _ = (frame m ++ more).take 4 := by rw [h]
      _ = ByteWriter.u32 (UInt32.ofNat m.payload.length) := by
          rw [frame, List.append_assoc, List.append_assoc,
            List.take_left' (ByteWriter.u32_length _)]
  rw [readU32_eq hbuf, htake, ByteWriter.u32, ByteWriter.little,
    Lib.LittleEndian.shifted_eq_bytes, UInt32.toNat_ofNat_of_lt' hsmall,
    Lib.LittleEndian.value_bytes_of_lt (by simpa using hsmall)]

theorem readU16_of_frame {m : Message} {buf tail more : Bytes}
    (h : buf ++ tail = frame m ++ more) (hlen : kHeaderSize ≤ buf.length) :
    readU16 (buf.drop 4) = m.type := by
  have hbuf : 6 ≤ buf.length := hlen
  have hdrop : 2 ≤ (buf.drop 4).length := by simp only [List.length_drop]; omega
  have htake : (buf.drop 4).take 2 = ByteWriter.u16 m.type :=
    calc (buf.drop 4).take 2 = (buf.drop 4 ++ tail).take 2 :=
          (List.take_append_of_le_length hdrop).symm
      _ = ((buf ++ tail).drop 4).take 2 := by
          rw [List.drop_append_of_le_length (by omega : 4 ≤ buf.length)]
      _ = ((frame m ++ more).drop 4).take 2 := by rw [h]
      _ = ByteWriter.u16 m.type := by
          rw [frame, List.append_assoc, List.append_assoc,
            List.drop_left' (ByteWriter.u32_length _), List.take_left' (ByteWriter.u16_length _)]
  rw [readU16_eq hdrop, htake, ByteWriter.u16, ByteWriter.little,
    Lib.LittleEndian.shifted_eq_bytes,
    Lib.LittleEndian.value_bytes_of_lt (by simpa using m.type.toNat_lt), UInt16.ofNat_toNat]

/-- While the front frame is still arriving, nothing is popped. -/
theorem next_of_incomplete {m : Message} {s : MessageStream} {tail more : Bytes} (hm : Sendable m)
    (h : s.mReadBuffer ++ tail = frame m ++ more)
    (hlen : s.mReadBuffer.length < (frame m).length) : s.next = none := by
  rw [frame_length] at hlen
  by_cases hhead : s.mReadBuffer.length < kHeaderSize
  · simp [next, hhead]
  · have hsize := readU32_of_frame hm h (by omega)
    simp [next, hhead, hsize, hlen]

/-- Once the front frame is complete, exactly its message is popped and exactly its bytes go. -/
theorem next_of_complete {m : Message} {s : MessageStream} {tail more : Bytes} (hm : Sendable m)
    (h : s.mReadBuffer ++ tail = frame m ++ more)
    (hlen : (frame m).length ≤ s.mReadBuffer.length) :
    s.next = some (m, { s with mReadBuffer := s.mReadBuffer.drop (frame m).length }) := by
  have hlen' := hlen
  rw [frame_length] at hlen
  have hhead : kHeaderSize ≤ s.mReadBuffer.length := by omega
  have hsize := readU32_of_frame hm h hhead
  have hmax : ¬ kMaxPayloadSize < m.payload.length := Nat.not_lt.mpr hm
  have htake : s.mReadBuffer.take (frame m).length = frame m :=
    calc s.mReadBuffer.take (frame m).length
        = (s.mReadBuffer ++ tail).take (frame m).length :=
          (List.take_append_of_le_length hlen').symm
      _ = (frame m ++ more).take (frame m).length := by rw [h]
      _ = frame m := List.take_left
  have hpayload : (s.mReadBuffer.drop kHeaderSize).take m.payload.length = m.payload := by
    have hcut := congrArg (List.drop kHeaderSize) htake
    have hdrop : (frame m).drop kHeaderSize = m.payload := by
      rw [frame]
      exact List.drop_left' (by simp [kHeaderSize])
    rwa [List.drop_take, frame_length, Nat.add_sub_cancel_left, hdrop] at hcut
  simp [next, Nat.not_lt.mpr hhead, hsize, hmax, Nat.not_lt.mpr hlen,
    readU16_of_frame h hhead, hpayload, frame_length]

/-- Popping does not touch the write side. -/
theorem next_write_side {s s' : MessageStream} {m : Message} (h : s.next = some (m, s')) :
    s'.mWriteBuffer = s.mWriteBuffer ∧ s'.mWriteOffset = s.mWriteOffset := by
  unfold next at h
  dsimp only at h
  split at h
  · cases h
  · split at h
    · cases h
    · split at h
      · cases h
      · cases h
        exact ⟨rfl, rfl⟩

/-- Flushing moves bytes from the write buffer to the wire and loses none of them. -/
theorem flush_conserves (outcomes : List Send) (s : MessageStream) (wire : Bytes) :
    (s.flush wire outcomes).2.1 ++ (s.flush wire outcomes).1.unsent = wire ++ s.unsent ∧
      (s.flush wire outcomes).1.mReadBuffer = s.mReadBuffer := by
  induction outcomes generalizing s wire with
  | nil =>
      rw [flush]
      by_cases hmore : s.mWriteOffset < s.mWriteBuffer.length
      · simp [hmore]
      · simp [hmore, unsent, List.drop_of_length_le (Nat.not_lt.mp hmore)]
  | cons outcome rest ih =>
      unfold flush
      by_cases hmore : s.mWriteOffset < s.mWriteBuffer.length
      · cases outcome with
        | broken => simp [hmore]
        | accepts n =>
            simp only [hmore, if_true]
            split
            · exact ⟨rfl, rfl⟩
            · obtain ⟨hbytes, hread⟩ := ih
                { s with mWriteOffset :=
                    s.mWriteOffset + min n (s.mWriteBuffer.length - s.mWriteOffset) }
                (wire ++ (s.mWriteBuffer.drop s.mWriteOffset).take
                  (min n (s.mWriteBuffer.length - s.mWriteOffset)))
              refine ⟨hbytes.trans ?_, hread⟩
              simp only [unsent, List.append_assoc, ← List.drop_drop]
              rw [List.take_append_drop]
      · simp [hmore, unsent, List.drop_of_length_le (Nat.not_lt.mp hmore)]

/-- Sending queues exactly one frame behind everything that was unsent. -/
theorem send_conserves (s : MessageStream) (m : Message) (wire : Bytes) (outcomes : List Send)
    (h : s.mWriteOffset ≤ s.mWriteBuffer.length) :
    (s.send m wire outcomes).2 ++ (s.send m wire outcomes).1.unsent =
        wire ++ s.unsent ++ frame m ∧
      (s.send m wire outcomes).1.mReadBuffer = s.mReadBuffer := by
  obtain ⟨hbytes, hread⟩ :=
    flush_conserves outcomes { s with mWriteBuffer := s.mWriteBuffer ++ frame m } wire
  refine ⟨hbytes.trans ?_, hread⟩
  rw [List.append_assoc, unsent, unsent, List.drop_append_of_le_length h]

theorem flush_offset_le (outcomes : List Send) (s : MessageStream) (wire : Bytes)
    (h : s.mWriteOffset ≤ s.mWriteBuffer.length) :
    (s.flush wire outcomes).1.mWriteOffset ≤ (s.flush wire outcomes).1.mWriteBuffer.length := by
  induction outcomes generalizing s wire with
  | nil =>
      rw [flush]
      by_cases hmore : s.mWriteOffset < s.mWriteBuffer.length <;> simp [hmore, h]
  | cons outcome rest ih =>
      unfold flush
      by_cases hmore : s.mWriteOffset < s.mWriteBuffer.length
      · cases outcome with
        | broken => simp [hmore, h]
        | accepts n =>
            simp only [hmore, if_true]
            split
            · exact h
            · apply ih
              change s.mWriteOffset + min n (s.mWriteBuffer.length - s.mWriteOffset) ≤
                s.mWriteBuffer.length
              omega
      · simp [hmore]

/-- Pumping moves bytes from the network into the read buffer and loses none of them. -/
theorem pump_conserves (outcomes : List Receive) (s : MessageStream) (inFlight : Bytes) :
    ∃ chunk, (s.pump inFlight outcomes).1 = { s with mReadBuffer := s.mReadBuffer ++ chunk } ∧
      inFlight = chunk ++ (s.pump inFlight outcomes).2.1 := by
  induction outcomes generalizing s inFlight with
  | nil => exact ⟨[], by simp [pump], by simp [pump]⟩
  | cons outcome rest ih =>
      cases outcome with
      | closed => exact ⟨[], by simp [pump], by simp [pump]⟩
      | ready n =>
          rw [pump]
          split
          case isTrue hempty =>
            refine ⟨[], by simp, ?_⟩
            change inFlight = inFlight.drop (min n kChunkSize)
            conv_lhs => rw [← List.take_append_drop (min n kChunkSize) inFlight, hempty]
            rfl
          case isFalse hchunk =>
            dsimp only
            split
            case isTrue => exact ⟨_, rfl, (List.take_append_drop _ _).symm⟩
            case isFalse =>
              obtain ⟨chunk, hstream, hbytes⟩ := ih
                { s with mReadBuffer := s.mReadBuffer ++ inFlight.take (min n kChunkSize) }
                (inFlight.drop (min n kChunkSize))
              refine ⟨inFlight.take (min n kChunkSize) ++ chunk, ?_, ?_⟩
              · rw [hstream, List.append_assoc]
              · rw [List.append_assoc, ← hbytes, List.take_append_drop]

/-- Every message that is popped shortens the buffer. -/
theorem next_shorter {s s' : MessageStream} {m : Message} (h : s.next = some (m, s')) :
    s'.mReadBuffer.length < s.mReadBuffer.length := by
  simp only [next] at h
  split at h
  · cases h
  · rename_i hhead
    split at h
    · cases h
    · split at h
      · cases h
      · simp only [Option.some.injEq, Prod.mk.injEq] at h
        obtain ⟨-, rfl⟩ := h
        simp only [List.length_drop]
        simp only [kHeaderSize] at hhead ⊢
        omega

theorem drainUpTo_next (fuel : Nat) (s : MessageStream) (h : s.mReadBuffer.length ≤ fuel) :
    (drainUpTo fuel s).2.next = none := by
  induction fuel generalizing s with
  | zero =>
      have hhead : s.mReadBuffer.length < kHeaderSize := by simp only [kHeaderSize]; omega
      simp [drainUpTo, next, hhead]
  | succ fuel ih =>
      simp only [drainUpTo]
      split
      · assumption
      · rename_i m s' hnext
        apply ih
        have hshort := next_shorter hnext
        omega

/-- The loop ends when no complete message is left. -/
theorem drain_next (s : MessageStream) : s.drain.2.next = none := drainUpTo_next _ s le_rfl

end MessageStream

end UntitledGame.Net
