import UntitledGame.Server.DbSocket
import UntitledGame.Server.SocketServer

/-!
# The last messages before a connection closes

A pump reads on until the socket has nothing more, and says with one flag whether
the peer is gone. `TcpServer::poll` and `DbClient::poll` look at the flag first,
so what arrives together with the end of the stream stays in the buffer.

`caught_before_close` says in which runs every complete message is handed out
before its connection is reported closed, or the handlers are failed.
-/

namespace UntitledGame.Server.Hangups

open Net Reader

section Server

open SocketServer

/-- A pump that fails leaves no complete message, and a call of `poll` that a callback makes does
not close a connection whose messages are still being handed out. -/
def Lossless (s : SocketServer) (e : Event) : Prop :=
  match e, s.polls with
  | .read (some (arriving, receives)), .reading (id :: _) :: _ =>
      ∀ c ∈ s.mConnections[id]?, (c.stream.pump arriving receives).2.2 = false →
        (c.stream.pump arriving receives).1.next = none
  | .finish, .reading [] :: below => ∀ place ∈ below, ∀ id ∈ place.current, id ∉ s.mClosing
  | _, _ => True

instance (s : SocketServer) (e : Event) : Decidable (Lossless s e) := by
  unfold Lossless
  -- `UInt64` is a finite type, and its elements must not be tried one by one.
  have (place : Place) : Decidable (∀ id ∈ place.current, id ∉ s.mClosing) :=
    Option.decidableForallMem place.current
  split
  · infer_instance
  · infer_instance
  · infer_instance

/-- Every connection has had its complete messages handed out, except those whose turn it is, and
so had those that are closed. -/
structure Attended (s : SocketServer) : Prop where
  reads : ∀ (id : UInt64) (c : Connection), s.mConnections[id]? = some c →
    Reads c.stream c.received c.handed
  idle : ∀ (id : UInt64) (c : Connection), s.mConnections[id]? = some c →
    c.stream.next = none ∨ ∃ ids, .dispatching id ids ∈ s.polls
  caught : ∀ (id : UInt64) (c : Connection), .disconnect id c ∈ s.log →
    Caught c.received c.handed

theorem attended_listening : Attended listening where
  reads id c h := by cases h
  idle id c h := by cases h
  caught id c h := by cases h

variable {s : SocketServer}

/-- The connection of one id is replaced. -/
theorem Attended.replace (h : Attended s) {s' : SocketServer} {id : UInt64} {c : Connection}
    (hconnections : s'.mConnections = s.mConnections.insert id c)
    (hreads : Reads c.stream c.received c.handed)
    (hidle : c.stream.next = none ∨ ∃ ids, .dispatching id ids ∈ s'.polls)
    (hpolls : ∀ k ids, k ≠ id → .dispatching k ids ∈ s.polls → .dispatching k ids ∈ s'.polls)
    (hlog : ∀ k c, .disconnect k c ∈ s'.log → .disconnect k c ∈ s.log) : Attended s' := by
  constructor
  · intro k c' hc'
    rw [hconnections, getElem?_insert] at hc'
    split at hc'
    · obtain rfl := Option.some.inj hc'
      exact hreads
    · exact h.reads k c' hc'
  · intro k c' hc'
    rw [hconnections, getElem?_insert] at hc'
    split at hc'
    · rename_i hk
      obtain rfl := Option.some.inj hc'
      rw [← hk]
      exact hidle
    · rename_i hk
      refine (h.idle k c' hc').imp_right ?_
      rintro ⟨ids, hids⟩
      exact ⟨ids, hpolls k ids (Ne.symm hk) hids⟩
  · intro k c' hc'
    exact h.caught k c' (hlog k c' hc')

/-- The innermost call goes on to the next connection. -/
theorem Attended.move_on (h : Attended s) {place : Place} {below : List Place}
    (hpolls : s.polls = place :: below) (places : List Place) (hbelow : below ⊆ places)
    (hplace : ∀ id ids, place = .dispatching id ids → ∀ c, s.mConnections[id]? = some c →
      c.stream.next = none) : Attended { s with polls := places } := by
  refine ⟨h.reads, fun id c hc => ?_, h.caught⟩
  rcases h.idle id c hc with hnone | ⟨ids, hids⟩
  · exact Or.inl hnone
  · rw [hpolls] at hids
    rcases List.mem_cons.mp hids with hhead | hids
    · exact Or.inl (hplace id ids hhead.symm c hc)
    · exact Or.inr ⟨ids, hbelow hids⟩

theorem Attended.send (h : Attended s) (id : UInt64) (m : Message) (outcomes : List Send) :
    Attended (s.send id m outcomes) := by
  rw [SocketServer.send]
  split
  · exact h
  · rename_i c hc
    have hbuffer := send_mReadBuffer c.stream m [] outcomes
    refine h.replace rfl ((h.reads id c hc).of_buffer hbuffer) ?_ (fun _ _ _ hids => hids) ?_
    · exact (h.idle id c hc).imp_left (next_eq_none_of_buffer hbuffer)
    · intro k c' hc'
      simpa using hc'

theorem Attended.closeConnection (h : Attended s) (id : UInt64) :
    Attended (s.closeConnection id) :=
  ⟨h.reads, h.idle, fun k c hc => h.caught k c (by simpa [SocketServer.closeConnection] using hc)⟩

theorem Attended.accept (h : Attended s) (peer : Client.Address) : Attended (s.accept peer) := by
  constructor
  · intro k c hc
    rw [getElem?_accept] at hc
    split at hc
    · obtain rfl := Option.some.inj hc
      exact reads_fresh
    · exact h.reads k c hc
  · intro k c hc
    rw [getElem?_accept] at hc
    split at hc
    · obtain rfl := Option.some.inj hc
      exact Or.inl rfl
    · exact h.idle k c hc
  · intro k c hc
    exact h.caught k c (by simpa [SocketServer.accept] using hc)

theorem Attended.read (h : Attended s) {id : UInt64} {ids : List UInt64} {below : List Place}
    (hpolls : s.polls = .reading (id :: ids) :: below) {ready : Option (Bytes × List Receive)}
    (hlossless : Lossless s (.read ready)) : Attended (s.read id ids below ready) := by
  have hrest : ∀ (place : Place) (k : UInt64) (left : List UInt64), k ≠ id →
      .dispatching k left ∈ s.polls → .dispatching k left ∈ place :: below := by
    intro place k left _ hids
    rw [hpolls] at hids
    rcases List.mem_cons.mp hids with hhead | hids
    · cases hhead
    · exact List.mem_cons_of_mem _ hids
  simp only [SocketServer.read]
  split
  · rename_i arriving receives c hc
    simp only [Lossless, hpolls, hc, Option.mem_some_iff, forall_eq'] at hlossless
    have hreads := (h.reads id c hc).pump arriving receives
    split
    · exact h.replace rfl hreads (Or.inr ⟨ids, List.mem_cons_self⟩) (hrest _) fun _ _ hc' => hc'
    · rename_i hclosed
      refine h.replace rfl hreads (Or.inl (hlossless (by simpa using hclosed))) (hrest _) ?_
      intro k c' hc'
      simpa [SocketServer.closeConnection] using hc'
  · exact h.move_on hpolls _ (List.subset_cons_self _ _) nofun

theorem Attended.next (h : Attended s) {id : UInt64} {ids : List UInt64} {below : List Place}
    (hpolls : s.polls = .dispatching id ids :: below) : Attended (s.next id ids below) := by
  rw [SocketServer.next]
  split
  · rename_i hgone
    refine h.move_on hpolls _ (List.subset_cons_self _ _) fun k left hplace c hc => ?_
    obtain ⟨rfl, rfl⟩ := Place.dispatching.inj hplace
    rw [hgone] at hc
    cases hc
  · rename_i c hc
    split
    · rename_i hnone
      refine h.move_on hpolls _ (List.subset_cons_self _ _) fun k left hplace c' hc' => ?_
      obtain ⟨rfl, rfl⟩ := Place.dispatching.inj hplace
      rw [hc] at hc'
      obtain rfl := Option.some.inj hc'
      exact hnone
    · rename_i m stream hnext
      refine h.replace rfl ((h.reads id c hc).next hnext) ?_ (fun _ _ _ hids => hids) ?_
      · refine Or.inr ⟨ids, ?_⟩
        rw [hpolls]
        exact List.mem_cons_self
      · intro k c' hc'
        simpa using hc'

theorem Attended.finish (h : Attended s) {below : List Place}
    (hpolls : s.polls = .reading [] :: below) (hlossless : Lossless s .finish) :
    Attended { s.closeDeferred with polls := below } := by
  have hidle : ∀ (id : UInt64) (c : Connection), s.mConnections[id]? = some c →
      c.stream.next = none ∨ ∃ ids, .dispatching id ids ∈ below := by
    intro id c hc
    refine (h.idle id c hc).imp_right ?_
    rintro ⟨ids, hids⟩
    rw [hpolls] at hids
    rcases List.mem_cons.mp hids with hhead | hids
    · cases hhead
    · exact ⟨ids, hids⟩
  have hlive : ∀ (id : UInt64) (c : Connection), s.closeDeferred.mConnections[id]? = some c →
      s.mConnections[id]? = some c := by
    intro id c hc
    rw [getElem?_closeDeferred] at hc
    split at hc
    · cases hc
    · exact hc
  refine ⟨fun id c hc => h.reads id c (hlive id c hc), fun id c hc => hidle id c (hlive id c hc), ?_⟩
  intro id c hc
  rcases disconnect_mem_closeDeferred s id hc with hold | ⟨hclosing, hc⟩
  · exact h.caught id c hold
  · refine (h.reads id c hc).caught_iff.mpr ?_
    rcases hidle id c hc with hnone | ⟨ids, hids⟩
    · exact hnone
    · simp only [Lossless, hpolls] at hlossless
      exact absurd hclosing (hlossless _ hids id rfl)

theorem attended_step (s : SocketServer) (e : Event) (h : Attended s) (hlossless : Lossless s e) :
    Attended (step s e) := by
  have hstretch := step_stretch s e
  generalize step s e = s' at hstretch ⊢
  cases hstretch with
  | send id m outcomes => exact h.send id m outcomes
  | closeConnection id => exact h.closeConnection id
  | poll =>
      refine ⟨h.reads, fun id c hc => (h.idle id c hc).imp_right ?_, h.caught⟩
      rintro ⟨ids, hids⟩
      exact ⟨ids, List.mem_cons_of_mem _ hids⟩
  | accept _ peer => exact h.accept peer
  | accepted hpolls => exact h.move_on hpolls _ (List.subset_cons_self _ _) nofun
  | read hpolls ready => exact h.read hpolls hlossless
  | next hpolls => exact h.next hpolls
  | finish hpolls => exact h.finish hpolls hlossless
  | stay _ => exact h

end Server

section Client

/-- A pump that fails leaves no complete message. -/
def LosslessPoll (s : DbSocket) : DbSocket.Event → Prop
  | .poll arriving receives => s.connected → (s.stream.pump arriving receives).2.2 = false →
      (s.stream.pump arriving receives).1.next = none
  | _ => True

/-- Where the handlers were failed, all complete messages had been handed out. -/
def Answered (s : DbSocket) : Prop := ∀ f ∈ s.failures, Caught f.1 f.2

def Consistent (s : DbSocket) : Prop := Reads s.stream s.received s.handed

theorem consistent_init : Consistent .init := reads_fresh

theorem consistent_step (s : DbSocket) (e : DbSocket.Event) (h : Consistent s) :
    Consistent (s.step e) := by
  cases e with
  | call body outcomes =>
      refine Reads.of_buffer h ?_
      simp only [DbSocket.step, DbSocket.call]
      split
      · exact send_mReadBuffer s.stream _ [] outcomes
      · rfl
  | connect up =>
      simp only [DbSocket.step, DbSocket.connect]
      split
      · exact reads_fresh
      · exact h
  | poll arriving receives =>
      have hpumped := Reads.pump h arriving receives
      simp only [DbSocket.step, DbSocket.poll]
      split
      · split
        · exact hpumped
        · exact hpumped
      · exact h
  | next =>
      simp only [DbSocket.step, DbSocket.next]
      split
      · exact h
      · split
        · exact h
        · rename_i m stream hnext
          exact Reads.next h hnext

theorem answered_step (s : DbSocket) (e : DbSocket.Event) (h : Consistent s) :
    Answered (s.step e) ↔ Answered s ∧ LosslessPoll s e := by
  cases e with
  | call body outcomes => exact (iff_of_eq (and_true _)).symm
  | connect up =>
      simp only [LosslessPoll, and_true, DbSocket.step, DbSocket.connect]
      split
      · exact Iff.rfl
      · exact Iff.rfl
  | next =>
      simp only [LosslessPoll, and_true, DbSocket.step, DbSocket.next]
      split
      · exact Iff.rfl
      · split
        · exact Iff.rfl
        · exact Iff.rfl
  | poll arriving receives =>
      have hcaught := (Reads.pump h arriving receives).caught_iff
      simp only [LosslessPoll, DbSocket.step, DbSocket.poll]
      cases hconnected : s.connected with
      | false => simp
      | true =>
          cases hopen : (s.stream.pump arriving receives).2.2 with
          | true => simp [Answered]
          | false => simp [Answered, or_imp, forall_and, hcaught]

end Client

/-- In every run of a server in which no pump that fails leaves a complete message in its buffer,
every connection that is reported closed has had every complete message handed out that its socket
delivered; and a client has had all of them handed out whenever its handlers are failed, if and only
if no pump of it that fails leaves one. -/
theorem caught_before_close (events : List SocketServer.Event) (calls : List DbSocket.Event) :
    (Lib.Runs.Along SocketServer.step Lossless .listening events →
      ∀ id c, .disconnect id c ∈ (SocketServer.run events).log → Caught c.received c.handed) ∧
    (Answered (DbSocket.run calls) ↔
      Lib.Runs.Along DbSocket.step LosslessPoll .init calls) := by
  constructor
  · intro hlossless
    exact (Lib.Runs.run_invariant attended_step attended_listening hlossless).caught
  · have hiff := Lib.Runs.run_iff_along Consistent Answered consistent_step answered_step
      consistent_init calls
    rw [DbSocket.run, hiff]
    exact and_iff_right nofun

section Examples

open SocketServer

def greeting : Message := ⟨3, [9]⟩

/-- A connection, and a poll in which its socket has these bytes and behaves like this. -/
def visit (arriving : Bytes) (receives : List Receive) : List Event :=
  [.poll, .accept ⟨1, 7⟩, .accepted, .finish, .poll, .accepted, .read (some (arriving, receives))]

/-- The peer closes the connection after its message has been read. -/
def orderly : List Event :=
  visit (MessageStream.frame greeting) [.ready 4096] ++
    [.next, .next, .finish, .poll, .accepted, .read (some ([], [.closed])), .finish]

theorem caught_before_close_orderly :
    (run orderly).log = [.connect 1 ⟨1, 7⟩ 0, .message 1 greeting, .closing 1,
        .disconnect 1 ⟨.fresh, ⟨1, 7⟩, 0, MessageStream.frame greeting, [greeting]⟩] ∧
      ∀ id c, .disconnect id c ∈ (run orderly).log → Caught c.received c.handed :=
  ⟨by decide +kernel, (caught_before_close orderly []).1 (by decide +kernel)⟩

/-- The reply to the first request of a client. -/
def sessionReply : Message :=
  ⟨DbMessage.sessionLookupResponse.toU16, ByteWriter.u32 1 ++ ByteWriter.u8 0⟩

/-- The message and the end of the stream are read in one pump: the connection is reported closed
without the message, and the handlers are failed without the reply. -/
theorem lost_with_the_end :
    (run (visit (MessageStream.frame greeting) [.ready 4096, .closed] ++ [.finish])).log =
        [.connect 1 ⟨1, 7⟩ 0, .closing 1, .disconnect 1 ⟨⟨MessageStream.frame greeting, [], 0⟩,
          ⟨1, 7⟩, 0, MessageStream.frame greeting, []⟩] ∧
      ¬ Caught (MessageStream.frame greeting) [] ∧
      (DbSocket.run [.connect true, .call (.sessionLookup [1]) [.accepts 100],
        .poll (MessageStream.frame sessionReply) [.ready 4096, .closed]]).failures =
          [(MessageStream.frame sessionReply, [])] ∧
      ¬ Caught (MessageStream.frame sessionReply) [] := by
  have hlost : ∀ m : Message, MessageStream.Sendable m → ¬ Caught (MessageStream.frame m) [] := by
    intro m hm hcaught
    have hprefix := hcaught [m] (fun k hk => by rwa [List.mem_singleton.mp hk])
      ⟨[], by simp⟩
    exact absurd (List.prefix_nil.mp hprefix) (List.cons_ne_nil _ _)
  exact ⟨by decide +kernel, hlost greeting (by decide), by decide +kernel,
    hlost sessionReply (by decide)⟩

end Examples

end UntitledGame.Server.Hangups
