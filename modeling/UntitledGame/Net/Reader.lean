import UntitledGame.Net.Connection

/-!
# What a stream has read and what it has written

The bytes that a socket has handed over are, byte for byte, the messages that
were popped and the read buffer behind them. So a consumer has been given every
complete message exactly when `next` finds nothing more.

The write side is touched by `send` and `flush` only.
-/

namespace UntitledGame.Net.Reader

open MessageStream Connection

section Frames

/-- The bytes of a frame determine the message, and where the next one starts. -/
theorem frame_append_inj {m n : Message} (hm : Sendable m) (hn : Sendable n) {rest tail : Bytes}
    (h : frame m ++ rest = frame n ++ tail) : m = n ∧ rest = tail := by
  let s : MessageStream := ⟨frame m ++ rest, [], 0⟩
  have hpopped : s.next = some (m, ⟨rest, [], 0⟩) := by
    have hnext := next_of_complete (s := s) hm (List.append_nil _) (by simp [s])
    rwa [show s.mReadBuffer.drop (frame m).length = rest from List.drop_left] at hnext
  have hpopped' : s.next = some (n, ⟨tail, [], 0⟩) := by
    have hbuffer : s.mReadBuffer = frame n ++ tail := h
    have hnext := next_of_complete (s := s) hn
      ((List.append_nil _).trans hbuffer) (by simp [hbuffer])
    rwa [hbuffer, List.drop_left] at hnext
  rw [hpopped] at hpopped'
  simp only [Option.some.injEq, Prod.mk.injEq, MessageStream.mk.injEq, and_true] at hpopped'
  exact hpopped'

/-- A popped message is one that a peer may send, and its frame was the front of the buffer. -/
theorem next_eq_frame {s s' : MessageStream} {m : Message} (h : s.next = some (m, s')) :
    Sendable m ∧ s.mReadBuffer = frame m ++ s'.mReadBuffer := by
  simp only [next] at h
  split at h
  · cases h
  · rename_i hhead
    split at h
    · cases h
    · rename_i hmax
      split at h
      · cases h
      · rename_i hbody
        obtain ⟨rfl, rfl⟩ := Prod.mk.inj (Option.some.inj h)
        have hhead' : 6 ≤ s.mReadBuffer.length := Nat.not_lt.mp hhead
        have hbody' : kHeaderSize + readU32 s.mReadBuffer ≤ s.mReadBuffer.length :=
          Nat.not_lt.mp hbody
        have hlength : ((s.mReadBuffer.drop kHeaderSize).take (readU32 s.mReadBuffer)).length =
            readU32 s.mReadBuffer := by
          simp only [List.length_take, List.length_drop]
          omega
        have hfour : (s.mReadBuffer.take 4).length = 4 := by
          simp only [List.length_take]
          omega
        have htwo : ((s.mReadBuffer.drop 4).take 2).length = 2 := by
          simp only [List.length_take, List.length_drop]
          omega
        have hsize : ByteWriter.u32 (UInt32.ofNat (readU32 s.mReadBuffer)) =
            s.mReadBuffer.take 4 := by
          have hlt := Lib.LittleEndian.value_lt (s.mReadBuffer.take 4)
          rw [hfour] at hlt
          rw [readU32_eq (by omega), ByteWriter.u32, ByteWriter.little,
            Lib.LittleEndian.shifted_eq_bytes, UInt32.toNat_ofNat_of_lt' (by simpa using hlt)]
          have hbytes := Lib.LittleEndian.bytes_value (s.mReadBuffer.take 4)
          rwa [hfour] at hbytes
        have htype : ByteWriter.u16 (readU16 (s.mReadBuffer.drop 4)) =
            (s.mReadBuffer.drop 4).take 2 := by
          have hlt := Lib.LittleEndian.value_lt ((s.mReadBuffer.drop 4).take 2)
          rw [htwo] at hlt
          rw [readU16_eq (by simp only [List.length_drop]; omega), ByteWriter.u16,
            ByteWriter.little, Lib.LittleEndian.shifted_eq_bytes,
            UInt16.toNat_ofNat_of_lt' (by simpa using hlt)]
          have hbytes := Lib.LittleEndian.bytes_value ((s.mReadBuffer.drop 4).take 2)
          rwa [htwo] at hbytes
        refine ⟨?_, ?_⟩
        · rw [Sendable, hlength]
          exact Nat.not_lt.mp hmax
        · calc s.mReadBuffer
              = s.mReadBuffer.take 4 ++ ((s.mReadBuffer.drop 4).take 2 ++
                  ((s.mReadBuffer.drop 4).drop 2).take (readU32 s.mReadBuffer) ++
                  ((s.mReadBuffer.drop 4).drop 2).drop (readU32 s.mReadBuffer)) := by
                rw [List.append_assoc, List.take_append_drop, List.take_append_drop,
                  List.take_append_drop]
            _ = _ := by
                rw [frame, hlength, hsize, htype, List.drop_drop, List.drop_drop]
                simp only [kHeaderSize, List.append_assoc]

end Frames

section Reading

/-- The bytes received are the messages handed on, and the buffer. -/
structure Reads (s : MessageStream) (received : Bytes) (handed : List Message) : Prop where
  sendable : ∀ m ∈ handed, Sendable m
  bytes : received = frames handed ++ s.mReadBuffer

/-- Every complete message that the bytes received contain has been handed on: whatever
well-formed messages they begin with. -/
def Caught (received : Bytes) (handed : List Message) : Prop :=
  ∀ ms : List Message, (∀ m ∈ ms, Sendable m) → frames ms <+: received → ms <+: handed

theorem reads_fresh : Reads MessageStream.fresh [] [] := ⟨nofun, rfl⟩

variable {s : MessageStream} {received : Bytes} {handed : List Message}

theorem Reads.of_buffer (h : Reads s received handed) {s' : MessageStream}
    (hbuffer : s'.mReadBuffer = s.mReadBuffer) : Reads s' received handed :=
  ⟨h.sendable, hbuffer ▸ h.bytes⟩

/-- Whether there is a complete message is a matter of the read buffer. -/
theorem next_eq_none_of_buffer {s' : MessageStream} (hbuffer : s'.mReadBuffer = s.mReadBuffer)
    (hnone : s.next = none) : s'.next = none := by
  simp only [MessageStream.next, hbuffer] at hnone ⊢
  simpa using hnone

/-- What a pump takes from the socket. -/
def pumped (s : MessageStream) (arriving : Bytes) (receives : List Receive) : Bytes :=
  arriving.take (arriving.length - (s.pump arriving receives).2.1.length)

theorem pump_eq (s : MessageStream) (arriving : Bytes) (receives : List Receive) :
    (s.pump arriving receives).1 =
      { s with mReadBuffer := s.mReadBuffer ++ pumped s arriving receives } := by
  obtain ⟨chunk, hstream, hbytes⟩ := pump_conserves receives s arriving
  have hchunk : pumped s arriving receives = chunk := by
    have hlength := congrArg List.length hbytes
    rw [List.length_append] at hlength
    rw [pumped, hlength, Nat.add_sub_cancel]
    conv_lhs => rw [hbytes]
    exact List.take_left
  rw [hchunk]
  exact hstream

theorem Reads.pump (h : Reads s received handed) (arriving : Bytes) (receives : List Receive) :
    Reads (s.pump arriving receives).1 (received ++ pumped s arriving receives) handed := by
  rw [pump_eq]
  exact ⟨h.sendable, by rw [h.bytes, List.append_assoc]⟩

theorem Reads.next (h : Reads s received handed) {s' : MessageStream} {m : Message}
    (hnext : s.next = some (m, s')) : Reads s' received (handed ++ [m]) := by
  obtain ⟨hm, hbuffer⟩ := next_eq_frame hnext
  constructor
  · intro k hk
    cases List.mem_append.mp hk with
    | inl hk => exact h.sendable k hk
    | inr hk =>
        rw [List.mem_singleton.mp hk]
        exact hm
  · rw [h.bytes, hbuffer, frames_append, frames_cons, frames_nil, List.append_nil,
      List.append_assoc]

/-- When `next` finds nothing, the messages at the front of the bytes have been handed on. -/
theorem prefix_of_frames (hnone : s.next = none) {ms : List Message}
    (hms : ∀ m ∈ ms, Sendable m) (hhanded : ∀ m ∈ handed, Sendable m)
    (h : frames ms <+: frames handed ++ s.mReadBuffer) : ms <+: handed := by
  induction ms generalizing handed with
  | nil => exact List.nil_prefix
  | cons m ms ih =>
      obtain ⟨tail, htail⟩ := h
      rw [frames_cons, List.append_assoc] at htail
      cases handed with
      | nil =>
          have hbuffer : s.mReadBuffer ++ [] = frame m ++ (frames ms ++ tail) := by
            rw [List.append_nil]
            exact htail.symm
          have hcomplete := next_of_complete (hms m List.mem_cons_self) hbuffer (by
            rw [List.append_nil] at hbuffer
            simp [hbuffer])
          rw [hnone] at hcomplete
          cases hcomplete
      | cons n handed =>
          rw [frames_cons, List.append_assoc] at htail
          obtain ⟨rfl, hrest⟩ := frame_append_inj (hms m List.mem_cons_self)
            (hhanded n List.mem_cons_self) htail
          rw [List.cons_prefix_cons]
          refine ⟨rfl, ih (fun k hk => hms k (List.mem_cons_of_mem _ hk))
            (fun k hk => hhanded k (List.mem_cons_of_mem _ hk)) ⟨tail, hrest⟩⟩

/-- A consumer has been given everything exactly when `next` finds nothing more. -/
theorem Reads.caught_iff (h : Reads s received handed) :
    Caught received handed ↔ s.next = none := by
  constructor
  · intro hcaught
    cases hnext : s.next with
    | none => rfl
    | some popped =>
        obtain ⟨m, s'⟩ := popped
        have hmore := h.next hnext
        have hprefix := hcaught (handed ++ [m]) hmore.sendable ⟨_, hmore.bytes.symm⟩
        have hlength := hprefix.length_le
        rw [List.length_append, List.length_singleton] at hlength
        omega
  · intro hnone ms hms hfront
    rw [h.bytes] at hfront
    exact prefix_of_frames hnone hms h.sendable hfront

end Reading

section Writing

/-- The socket takes at least this much at once. -/
def Accepts (outcomes : List Send) (size : Nat) : Prop :=
  match outcomes with
  | .accepts n :: _ => size ≤ n
  | _ => False

instance (outcomes : List Send) (size : Nat) : Decidable (Accepts outcomes size) := by
  unfold Accepts
  split
  · infer_instance
  · infer_instance

/-- Nothing is left to flush. -/
theorem flush_done {s : MessageStream} (h : ¬ s.mWriteOffset < s.mWriteBuffer.length) (wire : Bytes)
    (outcomes : List Send) : (s.flush wire outcomes).1.hasPendingWrites = false := by
  rw [flush.eq_def, if_neg h]
  rfl

/-- A socket that takes everything leaves nothing pending. -/
theorem flush_willing {s : MessageStream} {outcomes : List Send}
    (h : Accepts outcomes s.unsent.length) (wire : Bytes) :
    (s.flush wire outcomes).1.hasPendingWrites = false := by
  unfold Accepts at h
  split at h
  case h_2 => exact h.elim
  rename_i n rest
  rw [unsent, List.length_drop] at h
  by_cases hmore : s.mWriteOffset < s.mWriteBuffer.length
  · have hall : min n (s.mWriteBuffer.length - s.mWriteOffset) =
        s.mWriteBuffer.length - s.mWriteOffset := Nat.min_eq_right h
    rw [flush, if_pos hmore]
    dsimp only
    rw [hall, if_neg (by omega)]
    apply flush_done
    dsimp only
    omega
  · exact flush_done hmore wire _

theorem send_willing {s : MessageStream} {m : Message} {outcomes : List Send}
    (hoffset : s.mWriteOffset ≤ s.mWriteBuffer.length)
    (h : Accepts outcomes (s.unsent.length + (frame m).length)) (wire : Bytes) :
    (s.send m wire outcomes).1.hasPendingWrites = false := by
  refine flush_willing ?_ wire
  rwa [unsent, List.drop_append_of_le_length hoffset, List.length_append]

theorem send_mReadBuffer (s : MessageStream) (m : Message) (wire : Bytes) (outcomes : List Send) :
    (s.send m wire outcomes).1.mReadBuffer = s.mReadBuffer :=
  (flush_conserves outcomes { s with mWriteBuffer := s.mWriteBuffer ++ frame m } wire).2

theorem send_offset_le {s : MessageStream} (h : s.mWriteOffset ≤ s.mWriteBuffer.length) (m : Message)
    (wire : Bytes) (outcomes : List Send) :
    (s.send m wire outcomes).1.mWriteOffset ≤ (s.send m wire outcomes).1.mWriteBuffer.length := by
  apply flush_offset_le
  simp only [List.length_append]
  omega

/-- The same bytes are queued, and the same part of them is written. -/
def SameWrites (s s' : MessageStream) : Prop :=
  s'.mWriteBuffer = s.mWriteBuffer ∧ s'.mWriteOffset = s.mWriteOffset

theorem SameWrites.pending {s s' : MessageStream} (h : SameWrites s s') :
    s'.hasPendingWrites = s.hasPendingWrites := by
  rw [hasPendingWrites, hasPendingWrites, h.1, h.2]

theorem sameWrites_pump (s : MessageStream) (arriving : Bytes) (receives : List Receive) :
    SameWrites s (s.pump arriving receives).1 := by
  rw [pump_eq]
  exact ⟨rfl, rfl⟩

end Writing

end UntitledGame.Net.Reader
