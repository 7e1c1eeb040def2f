import UntitledGame.Net.Reader

/-!
# However a stream is cut

A receiver meets its bytes in chunks that it does not choose, pumps when it gets
to it, and pops messages until there is none. `reference` reads the same bytes at
once, and stops at the first frame that is not whole or claims too much.

`pump` looks at the size that the front frame claims, and at no other, so an
oversized header behind other frames passes it and is met later, by `next`, which
then finds nothing for good.
-/

namespace UntitledGame.Net.Chunks

open MessageStream Connection Reader

section Reference

/-- The payload size in the first four bytes. -/
def claimed (bs : Bytes) : Nat := Lib.LittleEndian.value (bs.take 4)

/-- A header that claims too much is in front. -/
def Oversized (bs : Bytes) : Prop := kHeaderSize ≤ bs.length ∧ kMaxPayloadSize < claimed bs

instance (bs : Bytes) : Decidable (Oversized bs) := inferInstanceAs (Decidable (_ ∧ _))

/-- There is no message in front. -/
def Stuck (bs : Bytes) : Prop := Oversized bs ∨ bs.length < kHeaderSize + claimed bs

instance (bs : Bytes) : Decidable (Stuck bs) := inferInstanceAs (Decidable (_ ∨ _))

/-- The messages of a byte string, and what is left behind them. -/
def parseUpTo : Nat → Bytes → List Message × Bytes
  | 0, bs => ([], bs)
  | fuel + 1, bs =>
      if Stuck bs then ([], bs)
      else
        let type := UInt16.ofNat (Lib.LittleEndian.value ((bs.drop 4).take 2))
        let payload := (bs.drop kHeaderSize).take (claimed bs)
        let rest := parseUpTo fuel (bs.drop (kHeaderSize + claimed bs))
        (⟨type, payload⟩ :: rest.1, rest.2)

/-- A message takes bytes, so there are at most as many messages as bytes. -/
def reference (bs : Bytes) : List Message := (parseUpTo bs.length bs).1

/-- A whole frame in front is read as its message. -/
theorem of_frame {m : Message} (hm : Sendable m) (tail : Bytes) :
    claimed (frame m ++ tail) = m.payload.length ∧
      UInt16.ofNat (Lib.LittleEndian.value (((frame m ++ tail).drop 4).take 2)) = m.type ∧
      ((frame m ++ tail).drop kHeaderSize).take m.payload.length = m.payload := by
  have hlength : kHeaderSize ≤ (frame m ++ tail).length := by
    rw [List.length_append, frame_length]
    omega
  have hhead : 6 ≤ (frame m ++ tail).length := hlength
  refine ⟨?_, ?_, ?_⟩
  · rw [claimed, ← readU32_eq (by omega)]
    exact readU32_of_frame hm (List.append_nil _) hlength
  · rw [← readU16_eq (by rw [List.length_drop]; omega)]
    exact readU16_of_frame (List.append_nil _) hlength
  · have hpayload : (frame m ++ tail).drop kHeaderSize = m.payload ++ tail := by
      rw [frame, List.append_assoc]
      exact List.drop_left' (by simp [kHeaderSize])
    rw [hpayload]
    exact List.take_left

theorem not_stuck_frame {m : Message} (hm : Sendable m) (tail : Bytes) :
    ¬ Stuck (frame m ++ tail) := by
  rw [Stuck, Oversized, (of_frame hm tail).1, List.length_append, frame_length]
  have hmax : m.payload.length ≤ kMaxPayloadSize := hm
  omega

/-- The reference parse of some frames and something without a message in front. -/
theorem parseUpTo_frames {ms : List Message} (hms : ∀ m ∈ ms, Sendable m) {rest : Bytes}
    (hrest : Stuck rest) {fuel : Nat} (hfuel : (frames ms ++ rest).length ≤ fuel) :
    parseUpTo fuel (frames ms ++ rest) = (ms, rest) := by
  induction ms generalizing fuel with
  | nil =>
      cases fuel with
      | zero => rfl
      | succ fuel => exact if_pos hrest
  | cons m ms ih =>
      rw [frames_cons, List.append_assoc] at hfuel ⊢
      have hm : Sendable m := hms m List.mem_cons_self
      obtain ⟨hsize, htype, hpayload⟩ := of_frame hm (frames ms ++ rest)
      have hdrop : (frame m ++ (frames ms ++ rest)).drop (kHeaderSize + m.payload.length) =
          frames ms ++ rest :=
        List.drop_left' (frame_length m)
      rw [List.length_append, frame_length] at hfuel
      cases fuel with
      | zero =>
          rw [kHeaderSize] at hfuel
          omega
      | succ fuel =>
          have hmore : (frames ms ++ rest).length ≤ fuel := by
            rw [kHeaderSize] at hfuel
            omega
          rw [parseUpTo, if_neg (not_stuck_frame hm _)]
          dsimp only
          rw [hsize, hdrop, htype, hpayload,
            ih (fun n hn => hms n (List.mem_cons_of_mem m hn)) hmore]

end Reference

section Streams

variable {s : MessageStream}

/-- The stream and the reference agree about whether there is a message. -/
theorem next_eq_none_iff : s.next = none ↔ Stuck s.mReadBuffer := by
  rw [Stuck, Oversized]
  simp only [next]
  by_cases hhead : s.mReadBuffer.length < kHeaderSize
  · simp [hhead]
    omega
  · have hfour : 4 ≤ s.mReadBuffer.length := by
      have hsix : 6 ≤ s.mReadBuffer.length := Nat.not_lt.mp hhead
      omega
    rw [readU32_eq hfour, ← claimed, if_neg hhead]
    by_cases hmax : kMaxPayloadSize < claimed s.mReadBuffer
    · simp [hmax, Nat.not_lt.mp hhead]
    · rw [if_neg hmax]
      by_cases hbody : s.mReadBuffer.length < kHeaderSize + claimed s.mReadBuffer
      · simp [hbody]
      · simp [hbody, hmax]

/-- More bytes behind it do not change the header in front. -/
theorem Oversized.append {bs : Bytes} (h : Oversized bs) (more : Bytes) :
    Oversized (bs ++ more) := by
  have hfour : 4 ≤ bs.length := by
    have hsix : 6 ≤ bs.length := h.1
    omega
  refine ⟨?_, ?_⟩
  · rw [List.length_append]
    have hsix := h.1
    omega
  · rw [claimed, List.take_append_of_le_length hfour]
    exact h.2

/-- Draining hands on what the buffer has. -/
theorem reads_drainUpTo {received : Bytes} {handed : List Message} (h : Reads s received handed)
    (fuel : Nat) : Reads (MessageStream.drainUpTo fuel s).2 received
      (handed ++ (MessageStream.drainUpTo fuel s).1) := by
  induction fuel generalizing s handed with
  | zero => simpa [MessageStream.drainUpTo] using h
  | succ fuel ih =>
      rw [MessageStream.drainUpTo]
      cases hnext : s.next with
      | none => simpa using h
      | some popped =>
          obtain ⟨m, s'⟩ := popped
          have hrest := ih (h.next hnext)
          rwa [List.append_assoc] at hrest

/-- Nothing is drained when there is no message. -/
theorem drain_of_stuck (h : Stuck s.mReadBuffer) : s.drain = ([], s) := by
  rw [drain]
  cases s.mReadBuffer.length with
  | zero => rfl
  | succ fuel => rw [MessageStream.drainUpTo, next_eq_none_iff.mpr h]

/-- A pump that takes a byte behind an oversized header fails. -/
theorem pump_of_oversized (h : Oversized s.mReadBuffer) {inFlight : Bytes}
    {outcomes : List Receive}
    (htaken : (s.pump inFlight outcomes).2.1.length < inFlight.length) :
    (s.pump inFlight outcomes).2.2 = false := by
  cases outcomes with
  | nil => exact absurd htaken (lt_irrefl _)
  | cons outcome rest =>
      cases outcome with
      | closed => rfl
      | ready n =>
          rw [pump] at htaken ⊢
          dsimp only at htaken ⊢
          by_cases hempty : inFlight.take (min n kChunkSize) = []
          · -- nothing was taken after all
            rw [if_pos hempty, List.length_drop] at htaken
            have hnone := congrArg List.length hempty
            rw [List.length_take, List.length_nil] at hnone
            omega
          · rw [if_neg hempty]
            have hgrown := h.append (inFlight.take (min n kChunkSize))
            have hfour : 4 ≤ (s.mReadBuffer ++ inFlight.take (min n kChunkSize)).length := by
              have hsix : 6 ≤ (s.mReadBuffer ++ inFlight.take (min n kChunkSize)).length :=
                hgrown.1
              omega
            rw [if_pos ⟨hgrown.1, by rw [readU32_eq hfour]; exact hgrown.2⟩]

end Streams

section Schedules

/-- A stream, the bytes that its socket has yet to hand over, and the messages delivered. -/
structure Port where
  stream : MessageStream
  inFlight : Bytes
  delivered : List Message
  deriving DecidableEq, Repr

/-- A pump, and the messages popped until there is none. -/
def turn (p : Port) (outcomes : List Receive) : Port :=
  let (stream, inFlight, _) := p.stream.pump p.inFlight outcomes
  let (messages, stream) := stream.drain
  ⟨stream, inFlight, p.delivered ++ messages⟩

/-- The bytes of a peer, chunk by chunk: each pump comes with the outcomes of its reads. -/
def run (bytes : Bytes) (schedule : List (List Receive)) : Port :=
  Lib.Runs.run turn ⟨.fresh, bytes, []⟩ schedule

/-- The bytes that the socket has handed over. -/
def received (bytes : Bytes) (p : Port) : Bytes :=
  bytes.take (bytes.length - p.inFlight.length)

theorem received_eq {bytes pre : Bytes} {p : Port} (h : bytes = pre ++ p.inFlight) :
    received bytes p = pre := by
  rw [received, h, List.length_append, Nat.add_sub_cancel]
  exact List.take_left

/-- The delivered messages and the buffer are the bytes received, and no message is left. -/
structure Parsed (bytes : Bytes) (p : Port) : Prop where
  reads : Reads p.stream (received bytes p) p.delivered
  stuck : Stuck p.stream.mReadBuffer
  flight : bytes = received bytes p ++ p.inFlight

theorem parsed_fresh (bytes : Bytes) : Parsed bytes ⟨.fresh, bytes, []⟩ where
  reads := ⟨nofun, by simp [received, MessageStream.fresh]⟩
  stuck := (by decide : Stuck [])
  flight := by simp [received]

theorem parsed_turn (bytes : Bytes) (p : Port) (outcomes : List Receive) (h : Parsed bytes p) :
    Parsed bytes (turn p outcomes) := by
  obtain ⟨chunk, hstream, hchunk⟩ := pump_conserves outcomes p.stream p.inFlight
  have hbytes : bytes = received bytes p ++ chunk ++ (turn p outcomes).inFlight := by
    rw [List.append_assoc]
    exact h.flight.trans (congrArg _ hchunk)
  have hreceived := received_eq hbytes
  have hread : Reads (p.stream.pump p.inFlight outcomes).1 (received bytes p ++ chunk)
      p.delivered := by
    rw [hstream]
    exact ⟨h.reads.sendable, by rw [h.reads.bytes, List.append_assoc]⟩
  constructor
  · rw [hreceived]
    exact reads_drainUpTo hread _
  · exact next_eq_none_iff.mp (drain_next _)
  · rw [hreceived]
    exact hbytes

theorem parsed_run (bytes : Bytes) (schedule : List (List Receive)) :
    Parsed bytes (run bytes schedule) :=
  Lib.Runs.run_preserves (parsed_turn bytes) (parsed_fresh bytes) schedule

/-- What is delivered is what the reference finds. -/
theorem Parsed.delivered {bytes : Bytes} {p : Port} (h : Parsed bytes p) :
    p.delivered = reference (received bytes p) := by
  rw [reference, h.reads.bytes, parseUpTo_frames h.reads.sendable h.stuck le_rfl]

/-- An oversized header in front stays there, and nothing is delivered any more. -/
theorem oversized_turn (p : Port) (outcomes : List Receive) (h : Oversized p.stream.mReadBuffer) :
    Oversized (turn p outcomes).stream.mReadBuffer ∧
      (turn p outcomes).delivered = p.delivered := by
  obtain ⟨chunk, hstream, -⟩ := pump_conserves outcomes p.stream p.inFlight
  have hgrown : Oversized (p.stream.pump p.inFlight outcomes).1.mReadBuffer := by
    rw [hstream]
    exact h.append chunk
  have hdrain := drain_of_stuck (Or.inl hgrown)
  simp only [turn, hdrain]
  exact ⟨hgrown, List.append_nil _⟩

/-- Whatever the chunks and the pumps, what has been delivered is what the reference finds in the
bytes received. Once an oversized header is in front, nothing more is delivered, and every pump that
receives something fails; else the buffer is shorter than the largest frame. -/
theorem chunking (bytes : Bytes) (schedule later : List (List Receive)) (outcomes : List Receive) :
    let p := run bytes schedule
    let q := run bytes (schedule ++ later)
    p.delivered = reference (received bytes p) ∧
      (Oversized p.stream.mReadBuffer → q.delivered = p.delivered ∧
        ((q.stream.pump q.inFlight outcomes).2.1.length < q.inFlight.length →
          (q.stream.pump q.inFlight outcomes).2.2 = false)) ∧
      (Oversized p.stream.mReadBuffer ∨
        p.stream.mReadBuffer.length < kHeaderSize + kMaxPayloadSize) := by
  intro p q
  have hparsed : Parsed bytes p := parsed_run bytes schedule
  refine ⟨hparsed.delivered, ?_, ?_⟩
  · intro hoversized
    have hkept : Oversized q.stream.mReadBuffer ∧ q.delivered = p.delivered := by
      have hstart : Oversized p.stream.mReadBuffer ∧ p.delivered = p.delivered :=
        ⟨hoversized, rfl⟩
      have hkeep : ∀ (r : Port) (outcomes : List Receive),
          Oversized r.stream.mReadBuffer ∧ r.delivered = p.delivered →
            Oversized (turn r outcomes).stream.mReadBuffer ∧
              (turn r outcomes).delivered = p.delivered := by
        intro r outcomes h
        obtain ⟨hfront, hsame⟩ := oversized_turn r outcomes h.1
        exact ⟨hfront, hsame.trans h.2⟩
      have hq : q = Lib.Runs.run turn p later := Lib.Runs.run_append _ _ _ _
      rw [hq]
      exact Lib.Runs.run_preserves hkeep hstart later
    exact ⟨hkept.2, pump_of_oversized hkept.1⟩
  · by_cases hover : Oversized p.stream.mReadBuffer
    · exact Or.inl hover
    · have hshort := hparsed.stuck.resolve_left hover
      rw [Oversized] at hover
      exact Or.inr (by omega)

/-- A message, a header that claims a megabyte and a byte, and another message. -/
def hostile : Bytes := frame ⟨3, [9]⟩ ++ [1, 0, 16, 0, 7, 0] ++ frame ⟨3, [8]⟩

/-- The first message is met in two pieces, the second of which passes the check of `pump`. -/
def cut : List (List Receive) := [[.ready 3], [.ready 10, .ready 0]]

theorem chunking_hostile :
    (run hostile cut).delivered = reference (received hostile (run hostile cut)) ∧
      ((run hostile cut).stream.pump (run hostile cut).inFlight [.ready 1]).2.2 = false :=
  ⟨(chunking hostile cut [] []).1,
    ((chunking hostile cut [] [.ready 1]).2.1 (by decide +kernel)).2 (by decide +kernel)⟩

end Schedules

end UntitledGame.Net.Chunks
