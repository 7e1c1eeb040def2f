import UntitledGame.Lib.Runs
import UntitledGame.Net.Framing

/-!
# Two message streams over one TCP connection

The two ends of a connection, each with its `MessageStream`, and the bytes the
network holds for each of them. Either end may send, flush, pump or pop at any
moment, and the network decides how many bytes each socket call moves.

`Flow` is the invariant of one direction: the messages sent but not popped are,
byte for byte, the receiver's buffer followed by the bytes in flight followed by
the sender's unsent bytes. Everything about delivery follows from it.
-/

namespace UntitledGame.Net.Connection

open MessageStream

/-- One end of a connection. `incoming` is what the network holds for it; `sent`, `popped`
and `received` record what this end has sent, what it has popped, and how many bytes its
socket has handed over. -/
structure Endpoint where
  stream : MessageStream
  incoming : Bytes
  sent : List Message
  popped : List Message
  received : Nat
  deriving DecidableEq, Repr

def Endpoint.fresh : Endpoint := ⟨MessageStream.fresh, [], [], [], 0⟩

/-- One call on a `MessageStream`, with the socket outcomes it meets. -/
inductive Call where
  | send (m : Message) (outcomes : List Send)
  | flush (outcomes : List Send)
  | pump (outcomes : List Receive)
  | next
  deriving DecidableEq, Repr

/-- A call on `self`; what its socket takes goes to the bytes in flight to `peer`. -/
def call (self peer : Endpoint) : Call → Endpoint × Endpoint
  | .send m outcomes =>
      let r := self.stream.send m peer.incoming outcomes
      ({ self with stream := r.1, sent := self.sent ++ [m] }, { peer with incoming := r.2 })
  | .flush outcomes =>
      let r := self.stream.flush peer.incoming outcomes
      ({ self with stream := r.1 }, { peer with incoming := r.2.1 })
  | .pump outcomes =>
      let r := self.stream.pump self.incoming outcomes
      ({ self with
          stream := r.1, incoming := r.2.1,
          received := self.received + (self.incoming.length - r.2.1.length) }, peer)
  | .next =>
      match self.stream.next with
      | none => (self, peer)
      | some (m, stream) => ({ self with stream := stream, popped := self.popped ++ [m] }, peer)

/-- The two ends. -/
structure Link where
  a : Endpoint
  b : Endpoint
  deriving DecidableEq, Repr

def Link.fresh : Link := ⟨Endpoint.fresh, Endpoint.fresh⟩

/-- Which end makes the call, and which call. -/
inductive Event where
  | atA (c : Call)
  | atB (c : Call)
  deriving DecidableEq, Repr

def step (l : Link) : Event → Link
  | .atA c => ⟨(call l.a l.b c).1, (call l.a l.b c).2⟩
  | .atB c => ⟨(call l.b l.a c).2, (call l.b l.a c).1⟩

def run (events : List Event) : Link := Lib.Runs.run step Link.fresh events

/-- Every message that a call sends has a payload of at most `kMaxPayloadSize` bytes. -/
def Call.Sendable : Call → Prop
  | .send m _ => MessageStream.Sendable m
  | _ => True

def Event.Sendable : Event → Prop
  | .atA c => c.Sendable
  | .atB c => c.Sendable

instance : DecidablePred Call.Sendable
  | .send m _ => inferInstanceAs (Decidable (MessageStream.Sendable m))
  | .flush _ => inferInstanceAs (Decidable True)
  | .pump _ => inferInstanceAs (Decidable True)
  | .next => inferInstanceAs (Decidable True)

instance : DecidablePred Event.Sendable
  | .atA c => inferInstanceAs (Decidable c.Sendable)
  | .atB c => inferInstanceAs (Decidable c.Sendable)

/-- The byte stream of a list of messages. -/
def frames (ms : List Message) : Bytes := ms.flatMap frame

@[simp] theorem frames_nil : frames [] = [] := rfl

@[simp] theorem frames_cons (m : Message) (ms : List Message) :
    frames (m :: ms) = frame m ++ frames ms := rfl

@[simp] theorem frames_append (ms ns : List Message) :
    frames (ms ++ ns) = frames ms ++ frames ns := by
  simp [frames]

/-- The state of the direction from `writer` to `reader`. -/
structure Flow (writer reader : Endpoint) : Prop where
  sendable : ∀ m ∈ writer.sent, MessageStream.Sendable m
  offset_le : writer.stream.mWriteOffset ≤ writer.stream.mWriteBuffer.length
  delivered : ∃ pending, writer.sent = reader.popped ++ pending ∧
    frames pending = reader.stream.mReadBuffer ++ reader.incoming ++ writer.stream.unsent
  counted : reader.received = (frames reader.popped).length + reader.stream.mReadBuffer.length

theorem flow_fresh : Flow Endpoint.fresh Endpoint.fresh where
  sendable := by simp [Endpoint.fresh]
  offset_le := by simp [Endpoint.fresh, MessageStream.fresh]
  delivered := ⟨[], by simp [Endpoint.fresh, MessageStream.fresh, unsent]⟩
  counted := by simp [Endpoint.fresh, MessageStream.fresh]

/-- A call on the writer keeps the flow from it. -/
theorem flow_writer {writer reader : Endpoint} (h : Flow writer reader) (c : Call)
    (hc : c.Sendable) : Flow (call writer reader c).1 (call writer reader c).2 := by
  obtain ⟨hsendable, hoffset, ⟨pending, hsent, hbytes⟩, hcount⟩ := h
  cases c with
  | send m outcomes =>
      obtain ⟨hmoved, -⟩ := send_conserves writer.stream m reader.incoming outcomes hoffset
      refine ⟨?_, ?_, ⟨pending ++ [m], ?_, ?_⟩, hcount⟩
      · intro k hk
        cases List.mem_append.mp hk with
        | inl hk => exact hsendable k hk
        | inr hk =>
            rw [List.mem_singleton.mp hk]
            exact hc
      · exact flush_offset_le _ _ _ (by
          simp only [List.length_append]
          omega)
      · simp [call, hsent]
      · simp only [call, frames_append, frames_cons, frames_nil, List.append_nil, hbytes,
          List.append_assoc] at hmoved ⊢
        rw [hmoved]
  | flush outcomes =>
      obtain ⟨hmoved, -⟩ := flush_conserves outcomes writer.stream reader.incoming
      refine ⟨hsendable, flush_offset_le _ _ _ hoffset, ⟨pending, hsent, ?_⟩, hcount⟩
      simp only [call, List.append_assoc] at hmoved ⊢
      rw [hmoved, hbytes, List.append_assoc]
  | pump outcomes =>
      obtain ⟨chunk, hstream, -⟩ := pump_conserves outcomes writer.stream writer.incoming
      refine ⟨hsendable, ?_, ⟨pending, hsent, ?_⟩, hcount⟩
      · simpa only [call, hstream] using hoffset
      · simpa only [call, hstream, unsent] using hbytes
  | next =>
      simp only [call]
      split
      · exact ⟨hsendable, hoffset, ⟨pending, hsent, hbytes⟩, hcount⟩
      · rename_i m stream hnext
        have hwrite : stream.mWriteBuffer = writer.stream.mWriteBuffer ∧
            stream.mWriteOffset = writer.stream.mWriteOffset := next_write_side hnext
        refine ⟨hsendable, ?_, ⟨pending, hsent, ?_⟩, hcount⟩
        · rw [hwrite.1, hwrite.2]
          exact hoffset
        · simpa only [unsent, hwrite.1, hwrite.2] using hbytes

/-- When the messages still to be popped are `m` and more, the receiver's buffer starts with
the frame of `m`, as far as it has arrived. -/
theorem next_pending {s : MessageStream} {m : Message} {rest : List Message} {tail : Bytes}
    (hm : MessageStream.Sendable m) (h : frames (m :: rest) = s.mReadBuffer ++ tail) :
    (s.next = none ∧ s.mReadBuffer.length < (frame m).length) ∨
      ∃ s', s.next = some (m, s') ∧ frames rest = s'.mReadBuffer ++ tail ∧
        s.mReadBuffer.length = (frame m).length + s'.mReadBuffer.length := by
  have hfront : s.mReadBuffer ++ tail = frame m ++ frames rest := by rw [← h, frames_cons]
  by_cases hlen : (frame m).length ≤ s.mReadBuffer.length
  · refine Or.inr ⟨_, next_of_complete hm hfront hlen, ?_, ?_⟩
    · have hdrop := congrArg (List.drop (frame m).length) hfront
      rw [List.drop_append_of_le_length hlen, List.drop_left] at hdrop
      exact hdrop.symm
    · simp only [List.length_drop]
      omega
  · exact Or.inl ⟨next_of_incomplete hm hfront (by omega), by omega⟩

/-- Nothing is popped from a buffer when no message is under way. -/
theorem next_idle {s : MessageStream} {tail : Bytes} (h : frames [] = s.mReadBuffer ++ tail) :
    s.next = none := by
  have hempty : s.mReadBuffer = [] := (List.append_eq_nil_iff.mp h.symm).1
  simp [next, hempty, kHeaderSize]

/-- A call on the reader keeps the flow to it. -/
theorem flow_reader {writer reader : Endpoint} (h : Flow writer reader) (c : Call) :
    Flow (call reader writer c).2 (call reader writer c).1 := by
  obtain ⟨hsendable, hoffset, ⟨pending, hsent, hbytes⟩, hcount⟩ := h
  cases c with
  | send m outcomes =>
      have hread : (reader.stream.send m writer.incoming outcomes).1.mReadBuffer =
          reader.stream.mReadBuffer := (flush_conserves outcomes _ _).2
      refine ⟨hsendable, hoffset, ⟨pending, hsent, ?_⟩, ?_⟩
      · simpa only [call, hread] using hbytes
      · simpa only [call, hread] using hcount
  | flush outcomes =>
      obtain ⟨-, hread⟩ := flush_conserves outcomes reader.stream writer.incoming
      refine ⟨hsendable, hoffset, ⟨pending, hsent, ?_⟩, ?_⟩
      · simpa only [call, hread] using hbytes
      · simpa only [call, hread] using hcount
  | pump outcomes =>
      obtain ⟨chunk, hstream, hmoved⟩ := pump_conserves outcomes reader.stream reader.incoming
      refine ⟨hsendable, hoffset, ⟨pending, hsent, ?_⟩, ?_⟩
      · rw [hbytes, hmoved]
        simp [call, hstream]
      · have hlen := congrArg List.length hmoved
        simp only [List.length_append] at hlen
        simp only [call, hstream, List.length_append, hcount]
        omega
  | next =>
      cases pending with
      | nil =>
          rw [List.append_assoc] at hbytes
          simp only [call, next_idle hbytes]
          exact ⟨hsendable, hoffset, ⟨[], hsent, by rw [hbytes, List.append_assoc]⟩, hcount⟩
      | cons m rest =>
          have hm : MessageStream.Sendable m := hsendable m (by simp [hsent])
          have hfront := hbytes
          rw [List.append_assoc] at hfront
          rcases next_pending hm hfront with ⟨hnone, -⟩ | ⟨s', hsome, hrest, hlen⟩
          · simp only [call, hnone]
            exact ⟨hsendable, hoffset, ⟨m :: rest, hsent, hbytes⟩, hcount⟩
          · simp only [call, hsome]
            refine ⟨hsendable, hoffset, ⟨rest, by simp [hsent], ?_⟩, ?_⟩
            · rw [hrest, List.append_assoc]
            · simp only [frames_append, frames_cons, frames_nil, List.append_nil,
                List.length_append, hcount]
              omega

/-- Both directions of a link are in order. -/
def Inv (l : Link) : Prop := Flow l.a l.b ∧ Flow l.b l.a

theorem inv_fresh : Inv Link.fresh := ⟨flow_fresh, flow_fresh⟩

theorem inv_step {l : Link} (h : Inv l) (e : Event) (he : e.Sendable) : Inv (step l e) := by
  cases e with
  | atA c => exact ⟨flow_writer h.1 c he, flow_reader h.2 c⟩
  | atB c => exact ⟨flow_reader h.1 c, flow_writer h.2 c he⟩

/-- The invariant holds after every sequence of calls. -/
theorem inv_run (events : List Event) (h : ∀ e ∈ events, e.Sendable) : Inv (run events) := by
  rw [run]
  exact Lib.Runs.run_invariant (fun l e (hl : Inv l) he => inv_step hl e he) inv_fresh
    (Lib.Runs.along_of_forall h _)

/-- What has been popped is the start of what was sent. -/
theorem Flow.popped_prefix {writer reader : Endpoint} (h : Flow writer reader) :
    reader.popped <+: writer.sent := by
  obtain ⟨pending, hsent, -⟩ := h.delivered
  exact ⟨pending, hsent.symm⟩

/-- When nothing more can be popped, every message whose last byte is among the received
bytes has been popped. -/
theorem Flow.popped_received {writer reader : Endpoint} (h : Flow writer reader)
    (hnone : reader.stream.next = none) (k : Nat) (hk : k ≤ writer.sent.length)
    (hreceived : (frames (writer.sent.take k)).length ≤ reader.received) :
    k ≤ reader.popped.length := by
  obtain ⟨hsendable, -, ⟨pending, hsent, hbytes⟩, hcount⟩ := h
  by_contra hlt
  cases pending with
  | nil =>
      rw [hsent, List.append_nil] at hk
      exact hlt hk
  | cons m rest =>
      have hm : MessageStream.Sendable m := hsendable m (by simp [hsent])
      rw [List.append_assoc] at hbytes
      rcases next_pending hm hbytes with ⟨-, hshort⟩ | ⟨s', hsome, -⟩
      · -- the first `k` sent messages include the popped ones and `m`
        obtain ⟨j, rfl⟩ : ∃ j, k = reader.popped.length + (j + 1) :=
          ⟨k - reader.popped.length - 1, by omega⟩
        rw [hsent, List.take_length_add_append, List.take_succ_cons, frames_append, frames_cons,
          List.length_append, List.length_append] at hreceived
        omega
      · rw [hnone] at hsome
        cases hsome

/-- Whatever the two ends call and however the network cuts the byte streams, each end pops
a prefix of what the other sent, and an end that pops nothing more has popped every message
it has received completely. -/
theorem delivery (events : List Event) (h : ∀ e ∈ events, e.Sendable) :
    let l := run events
    (l.b.popped <+: l.a.sent ∧ l.a.popped <+: l.b.sent) ∧
      (l.b.stream.next = none → ∀ k ≤ l.a.sent.length,
        (frames (l.a.sent.take k)).length ≤ l.b.received → k ≤ l.b.popped.length) ∧
      (l.a.stream.next = none → ∀ k ≤ l.b.sent.length,
        (frames (l.b.sent.take k)).length ≤ l.a.received → k ≤ l.a.popped.length) := by
  obtain ⟨hab, hba⟩ := inv_run events h
  exact ⟨⟨hab.popped_prefix, hba.popped_prefix⟩, hab.popped_received, hba.popped_received⟩

/-- Two messages whose frames are cut inside the header and inside the payload, while the
other end answers. -/
def interleaved : List Event :=
  [.atA (.send ⟨1, [10, 11]⟩ [.accepts 3, .accepts 0]), .atB (.pump [.ready 2, .ready 9]),
    .atB .next, .atA (.send ⟨2, []⟩ [.accepts 7]), .atB (.send ⟨3, [12]⟩ []),
    .atB (.pump [.ready 4, .ready 1]), .atB .next, .atB (.pump [.ready 100]), .atB .next,
    .atA (.flush [.accepts 50]), .atB (.pump [.ready 1, .ready 1, .ready 8]), .atB .next,
    .atB .next]

theorem delivery_interleaved :
    (run interleaved).b.popped <+: (run interleaved).a.sent ∧
      (run interleaved).b.popped = [⟨1, [10, 11]⟩, ⟨2, []⟩] ∧
      (run interleaved).b.stream.next = none :=
  ⟨(delivery interleaved (by decide)).1.1, by decide +kernel, by decide +kernel⟩

end UntitledGame.Net.Connection
