import UntitledGame.Server.PendingWrites
import UntitledGame.Server.TcpServer

/-!
# The table of connections, and the sockets below it

The auth server and the world server are modelled over `TcpServer`, whose
connections are numbers and whose messages are handed over whole. Here is what the
byte-level server makes of its sockets, as a list of events of that table, and the
proof that the table follows.

`sockets_refine` also says that a message, or the end of a stream, is only ever reported
for a connection that the table has, so the guards in front of the handlers of the
two servers let everything through that the sockets report.

## Implementation notes

Nothing in the table stands for a call of `poll`, or for the bytes of a message that
is not complete.
-/

namespace UntitledGame.Server.TcpRefinement

open Net SocketServer
open Connection (frames)
open Std (ExtTreeMap ExtTreeSet)

/-- What the table of connections sees. -/
inductive Upcall where
  | accept
  | send (id : Nat) (m : Message)
  | closeConnection (id : Nat)
  | message (id : Nat) (m : Message)
  | hangUp (id : Nat)
  | closeDeferred
  deriving DecidableEq, Repr

/-- A message is handed to the handlers; what they do are events of their own. -/
def perform (t : TcpServer) : Upcall → TcpServer
  | .accept => t.accept
  | .send id m => t.send id m.type m.payload
  | .closeConnection id => t.closeConnection id
  | .message _ _ => t
  | .hangUp id => t.closeConnection id
  | .closeDeferred => t.closeDeferred

/-- The guard in front of the handlers. -/
def Legal (t : TcpServer) : Upcall → Prop
  | .message id _ => id ∈ t.mConnections
  | .hangUp id => id ∈ t.mConnections
  | _ => True

/-- A stream that fails in its pump. -/
def hungUp (s : SocketServer) (id : UInt64) (ready : Option (Bytes × List Receive)) : List Upcall :=
  match ready, s.mConnections[id]? with
  | some (arriving, receives), some c =>
      if (c.stream.pump arriving receives).2.2 then [] else [.hangUp id.toNat]
  | _, _ => []

/-- A message that is complete. -/
def popped (s : SocketServer) (id : UInt64) : List Upcall :=
  match s.mConnections[id]? with
  | none => []
  | some c =>
      match c.stream.next with
      | none => []
      | some (m, _) => [.message id.toNat m]

/-- What the table sees of an event. -/
def seen (s : SocketServer) (e : Event) : List Upcall :=
  match e, s.polls with
  | .send id m _, _ => [.send id.toNat m]
  | .closeConnection id, _ => [.closeConnection id.toNat]
  | .accept _, .accepting _ :: _ => [.accept]
  | .read ready, .reading (id :: _) :: _ => hungUp s id ready
  | .next, .dispatching id _ :: _ => popped s id
  | .finish, .reading [] :: _ => [.closeDeferred]
  | _, _ => []

/-- The bytes that the socket of a connection has taken. -/
def wrote (id : UInt64) (log : List Entry) : Bytes :=
  log.flatMap fun e =>
    match e with
    | .wrote k _ bytes => if k = id then bytes else []
    | _ => []

/-- The messages handed to the stream of a connection. -/
def sentOn (id : Nat) (sent : List (Nat × Message)) : List Message :=
  (sent.filter fun entry => entry.1 = id).map Prod.snd

/-- The table has the connections of the sockets, and what it has sent is what the sockets have
taken and what still waits for them. -/
structure Refines (s : SocketServer) (t : TcpServer) : Prop where
  nextId : s.mNextId = UInt64.ofNat (1 + s.accepted)
  next : t.mNextId = 1 + s.accepted
  live : ∀ id : UInt64, id ∈ s.mConnections ↔ id.toNat ∈ t.mConnections
  old : (∀ n ∈ t.mConnections, n < t.mNextId) ∧ ∀ entry ∈ t.sent, entry.1 < t.mNextId
  closing : t.mClosing = s.mClosing.map UInt64.toNat
  placed : PendingWrites.Placed s
  begun : ∀ id : UInt64, wrote id s.log <+: frames (sentOn id.toNat t.sent)
  bytes : ∀ (id : UInt64) (c : Connection), s.mConnections[id]? = some c →
    wrote id s.log ++ c.stream.unsent = frames (sentOn id.toNat t.sent)

section Logs

theorem wrote_append (id : UInt64) (log more : List Entry) :
    wrote id (log ++ more) = wrote id log ++ wrote id more :=
  List.flatMap_append

theorem sentOn_append (id : Nat) (sent more : List (Nat × Message)) :
    sentOn id (sent ++ more) = sentOn id sent ++ sentOn id more := by
  rw [sentOn, List.filter_append, List.map_append]
  rfl

/-- Nothing has been sent on an id that is not in use yet. -/
theorem sentOn_eq_nil {id : Nat} {sent : List (Nat × Message)} (h : ∀ entry ∈ sent, entry.1 ≠ id) :
    sentOn id sent = [] := by
  have hnone : sent.filter (fun entry => entry.1 = id) = [] := by
    apply List.filter_eq_nil_iff.mpr
    intro entry hentry
    simpa using h entry hentry
  rw [sentOn, hnone]
  rfl

/-- Closing connections writes nothing. -/
theorem wrote_closeDeferred (id : UInt64) (s : SocketServer) :
    wrote id s.closeDeferred.log = wrote id s.log := by
  have hall : ∀ (ids : List UInt64) (t : SocketServer),
      wrote id (ids.foldl disconnect t).log = wrote id t.log := by
    intro ids
    induction ids with
    | nil => exact fun t => rfl
    | cons k ids ih =>
        intro t
        rw [List.foldl_cons, ih, disconnect]
        split
        · rfl
        · rw [wrote_append]
          exact List.append_nil _
  exact hall s.mClosing s

/-- The deferred close of the table. -/
theorem mem_closeDeferred (t : TcpServer) (n : Nat) :
    n ∈ t.closeDeferred.mConnections ↔ n ∉ t.mClosing ∧ n ∈ t.mConnections := by
  have hall : ∀ (ids : List Nat) (t : TcpServer),
      n ∈ (ids.foldl TcpServer.erase t).mConnections ↔ n ∉ ids ∧ n ∈ t.mConnections := by
    intro ids
    induction ids with
    | nil => exact fun t => by simp
    | cons id ids ih =>
        intro t
        rw [List.foldl_cons, ih, TcpServer.mem_erase, List.mem_cons, not_or]
        constructor
        · rintro ⟨hids, hne, hlive⟩
          exact ⟨⟨hne, hids⟩, hlive⟩
        · rintro ⟨⟨hne, hids⟩, hlive⟩
          exact ⟨hids, hne, hlive⟩
  exact hall t.mClosing t

end Logs

section Steps

variable {s : SocketServer} {t : TcpServer}

/-- Where a call of `poll` stands does not matter. -/
theorem Refines.at (h : Refines s t) (polls : List Place) : Refines { s with polls := polls } t :=
  ⟨h.nextId, h.next, h.live, h.old, h.closing, h.placed, h.begun, h.bytes⟩

/-- A connection gets another stream with the same write side, and nothing is written. -/
theorem Refines.touch (h : Refines s t) {id : UInt64} {c c' : Connection}
    (hc : s.mConnections[id]? = some c) (hwrites : Reader.SameWrites c.stream c'.stream)
    {more : List Entry} (hmore : ∀ k, wrote k more = []) :
    Refines { s with mConnections := s.mConnections.insert id c', log := s.log ++ more } t := by
  have hlog : ∀ k, wrote k (s.log ++ more) = wrote k s.log := by
    intro k
    rw [wrote_append, hmore, List.append_nil]
  have hlookup : ∀ (k : UInt64) (d : Connection), (s.mConnections.insert id c')[k]? = some d →
      ∃ d' : Connection, s.mConnections[k]? = some d' ∧
        Reader.SameWrites d'.stream d.stream := by
    intro k d hd
    rw [getElem?_insert] at hd
    split at hd
    · rename_i hk
      subst hk
      obtain rfl := Option.some.inj hd
      exact ⟨c, hc, hwrites⟩
    · exact ⟨d, hd, rfl, rfl⟩
  refine ⟨h.nextId, h.next, ?_, h.old, h.closing, ?_, ?_, ?_⟩
  · intro k
    rw [← h.live, ExtTreeMap.mem_insert, Std.compare_eq_iff_eq]
    refine or_iff_right_of_imp ?_
    rintro rfl
    exact ExtTreeMap.mem_iff_isSome_getElem?.mpr (by rw [hc]; rfl)
  · intro k d hd
    obtain ⟨d', hd', hsame⟩ := hlookup k d hd
    rw [hsame.1, hsame.2]
    exact h.placed k d' hd'
  · intro k
    rw [hlog]
    exact h.begun k
  · intro k d hd
    obtain ⟨d', hd', hsame⟩ := hlookup k d hd
    rw [hlog, MessageStream.unsent, hsame.1, hsame.2]
    exact h.bytes k d' hd'

theorem Refines.closeConnection (h : Refines s t) (id : UInt64) :
    Refines (s.closeConnection id) (t.closeConnection id.toNat) := by
  have hlog : ∀ k, wrote k (s.log ++ [.closing id]) = wrote k s.log := by
    intro k
    rw [wrote_append]
    exact List.append_nil _
  refine ⟨h.nextId, h.next, h.live, h.old, ?_, h.placed, ?_, ?_⟩
  · rw [SocketServer.closeConnection, TcpServer.closeConnection, h.closing, List.map_append]
    rfl
  · intro k
    rw [SocketServer.closeConnection, hlog]
    exact h.begun k
  · intro k c hc
    rw [SocketServer.closeConnection, hlog]
    exact h.bytes k c hc

/-- A message for a connection that is gone goes nowhere on both levels. -/
theorem Refines.send (h : Refines s t) (id : UInt64) (m : Message) (outcomes : List Send) :
    Refines (s.send id m outcomes) (t.send id.toNat m.type m.payload) := by
  rw [SocketServer.send, TcpServer.send]
  cases hc : s.mConnections[id]? with
  | none =>
      have hgone : id.toNat ∉ t.mConnections := by
        rw [← h.live, ExtTreeMap.mem_iff_isSome_getElem?, hc]
        exact Bool.false_ne_true
      rw [if_neg hgone]
      exact h
  | some c =>
      have hlive : id.toNat ∈ t.mConnections := by
        rw [← h.live, ExtTreeMap.mem_iff_isSome_getElem?, hc]
        rfl
      rw [if_pos hlive]
      obtain ⟨hbytes, -⟩ := MessageStream.send_conserves c.stream m [] outcomes (h.placed id c hc)
      have hwrote : ∀ k, wrote k (s.log ++ [.wrote id c.socket (c.stream.send m [] outcomes).2]) =
          wrote k s.log ++ if id = k then (c.stream.send m [] outcomes).2 else [] := by
        intro k
        rw [wrote_append]
        congr 1
        exact List.append_nil _
      have hsent : ∀ k : UInt64, sentOn k.toNat (t.sent ++ [(id.toNat, m)]) =
          sentOn k.toNat t.sent ++ if id = k then [m] else [] := by
        intro k
        rw [sentOn_append]
        congr 1
        by_cases hk : id = k
        · simp [sentOn, hk]
        · simp [sentOn, hk, UInt64.toNat_inj]
      -- what the socket takes now, and what it leaves, is what was left, and the new frame
      have hown : wrote id s.log ++ (c.stream.send m [] outcomes).2 ++
          (c.stream.send m [] outcomes).1.unsent =
            frames (sentOn id.toNat t.sent ++ [m]) := by
        rw [List.append_assoc, hbytes, List.nil_append, ← List.append_assoc, h.bytes id c hc,
          Connection.frames_append, Connection.frames_cons, Connection.frames_nil, List.append_nil]
      refine ⟨h.nextId, h.next, ?_, ⟨h.old.1, ?_⟩, h.closing, ?_, ?_, ?_⟩
      · intro k
        rw [← h.live, ExtTreeMap.mem_insert, Std.compare_eq_iff_eq]
        refine or_iff_right_of_imp ?_
        rintro rfl
        exact ExtTreeMap.mem_iff_isSome_getElem?.mpr (by rw [hc]; rfl)
      · intro entry hentry
        cases List.mem_append.mp hentry with
        | inl hold => exact h.old.2 entry hold
        | inr hnew =>
            obtain rfl := List.mem_singleton.mp hnew
            exact h.old.1 _ hlive
      · intro k d hd
        rw [getElem?_insert] at hd
        split at hd
        · obtain rfl := Option.some.inj hd
          exact Reader.send_offset_le (h.placed id c hc) m [] outcomes
        · exact h.placed k d hd
      · intro k
        rw [hwrote, hsent]
        by_cases hk : id = k
        · subst hk
          rw [if_pos rfl, if_pos rfl, ← hown]
          exact List.prefix_append _ _
        · rw [if_neg hk, if_neg hk, List.append_nil, List.append_nil]
          exact h.begun k
      · intro k d hd
        rw [getElem?_insert] at hd
        rw [hwrote, hsent]
        by_cases hk : id = k
        · subst hk
          rw [if_pos rfl] at hd
          obtain rfl := Option.some.inj hd
          rw [if_pos rfl, if_pos rfl]
          exact hown
        · rw [if_neg hk] at hd
          rw [if_neg hk, if_neg hk, List.append_nil, List.append_nil]
          exact h.bytes k d hd

/-- The next id is not in use, as long as the ids last. -/
theorem Refines.toNat_nextId (h : Refines s t) (hbound : 1 + s.accepted < 2 ^ 64) :
    s.mNextId.toNat = t.mNextId := by
  rw [h.nextId, h.next, UInt64.toNat_ofNat_of_lt' hbound]

theorem Refines.accept (h : Refines s t) (peer : Client.Address)
    (hbound : 1 + s.accepted < 2 ^ 64) : Refines (s.accept peer) t.accept := by
  have hid := h.toNat_nextId hbound
  have hfresh : s.mNextId ∉ s.mConnections := by
    rw [h.live, hid]
    exact fun hmem => Nat.lt_irrefl _ (h.old.1 _ hmem)
  have hlookup : ∀ k : UInt64, (s.accept peer).mConnections[k]? =
      if s.mNextId = k then some ⟨.fresh, peer, s.accepted, [], []⟩ else s.mConnections[k]? := by
    intro k
    rw [getElem?_accept]
    by_cases hk : s.mNextId = k
    · rw [if_pos ⟨hk, hfresh⟩, if_pos hk]
    · rw [if_neg fun hc => hk hc.1, if_neg hk]
  have hlog : ∀ k, wrote k (s.accept peer).log = wrote k s.log := by
    intro k
    rw [SocketServer.accept, wrote_append]
    exact List.append_nil _
  refine ⟨?_, ?_, ?_, ⟨?_, ?_⟩, h.closing, ?_, ?_, ?_⟩
  · rw [SocketServer.accept, h.nextId]
    exact (UInt64.ofNat_add (1 + s.accepted) 1).symm
  · rw [TcpServer.accept, h.next]
    rfl
  · intro k
    rw [TcpServer.mem_accept, ← h.live, ExtTreeMap.mem_iff_isSome_getElem?, hlookup, ← hid,
      ExtTreeMap.mem_iff_isSome_getElem?]
    by_cases hk : s.mNextId = k
    · simp [hk]
    · rw [if_neg hk, or_iff_right]
      intro heq
      exact hk (UInt64.toNat_inj.mp heq.symm)
  · intro n hn
    rcases (TcpServer.mem_accept t n).mp hn with rfl | hold
    · exact Nat.lt_succ_self _
    · exact Nat.lt_succ_of_lt (h.old.1 n hold)
  · intro entry hentry
    exact Nat.lt_succ_of_lt (h.old.2 entry hentry)
  · intro k c hc
    rw [hlookup] at hc
    split at hc
    · obtain rfl := Option.some.inj hc
      exact Nat.le_refl _
    · exact h.placed k c hc
  · intro k
    rw [hlog]
    exact h.begun k
  · intro k c hc
    rw [hlookup] at hc
    rw [hlog]
    split at hc
    · rename_i hk
      subst hk
      obtain rfl := Option.some.inj hc
      have hnone : sentOn s.mNextId.toNat t.sent = [] := by
        rw [hid]
        exact sentOn_eq_nil fun entry hentry => (h.old.2 entry hentry).ne
      have hbegun := h.begun s.mNextId
      rw [hnone, Connection.frames_nil] at hbegun
      rw [TcpServer.accept, hnone, List.prefix_nil.mp hbegun]
      rfl
    · exact h.bytes k c hc

theorem Refines.closeDeferred (h : Refines s t) : Refines s.closeDeferred t.closeDeferred := by
  have hfields : ∀ (ids : List UInt64) (b : SocketServer),
      (ids.foldl disconnect b).mNextId = b.mNextId ∧
        (ids.foldl disconnect b).accepted = b.accepted := by
    intro ids
    induction ids with
    | nil => exact fun b => ⟨rfl, rfl⟩
    | cons id ids ih =>
        intro b
        rw [List.foldl_cons, (ih _).1, (ih _).2, disconnect]
        split
        · exact ⟨rfl, rfl⟩
        · exact ⟨rfl, rfl⟩
  have hnext : t.closeDeferred.mNextId = t.mNextId := by
    have hall : ∀ (ids : List Nat) (b : TcpServer),
        (ids.foldl TcpServer.erase b).mNextId = b.mNextId := by
      intro ids
      induction ids with
      | nil => exact fun b => rfl
      | cons id ids ih => exact fun b => ih (b.erase id)
    exact hall t.mClosing t
  have hclosing : ∀ id : UInt64, id.toNat ∈ t.mClosing ↔ id ∈ s.mClosing := by
    intro id
    rw [h.closing, List.mem_map]
    constructor
    · rintro ⟨k, hk, heq⟩
      rw [← UInt64.toNat_inj.mp heq]
      exact hk
    · exact fun hmem => ⟨id, hmem, rfl⟩
  refine ⟨?_, ?_, ?_, ⟨?_, ?_⟩, rfl, ?_, ?_, ?_⟩
  · rw [SocketServer.closeDeferred]
    dsimp only
    rw [(hfields _ s).1, (hfields _ s).2, h.nextId]
  · rw [hnext, h.next, SocketServer.closeDeferred]
    dsimp only
    rw [(hfields _ s).2]
  · intro id
    rw [mem_closeDeferred, hclosing, ← h.live, ExtTreeMap.mem_iff_isSome_getElem?,
      getElem?_closeDeferred, ExtTreeMap.mem_iff_isSome_getElem?]
    by_cases hid : id ∈ s.mClosing
    · simp [hid]
    · simp [hid]
  · intro n hn
    rw [hnext]
    exact h.old.1 n ((mem_closeDeferred t n).mp hn).2
  · intro entry hentry
    rw [TcpServer.closeDeferred_sent] at hentry
    rw [hnext]
    exact h.old.2 entry hentry
  · intro id c hc
    rw [getElem?_closeDeferred] at hc
    split at hc
    · cases hc
    · exact h.placed id c hc
  · intro id
    rw [wrote_closeDeferred, TcpServer.closeDeferred_sent]
    exact h.begun id
  · intro id c hc
    rw [getElem?_closeDeferred] at hc
    rw [wrote_closeDeferred, TcpServer.closeDeferred_sent]
    split at hc
    · cases hc
    · exact h.bytes id c hc

/-- A stretch of the loop that reads. -/
theorem Refines.read (h : Refines s t) (id : UInt64) (ids : List UInt64) (below : List Place)
    (ready : Option (Bytes × List Receive)) :
    Refines (s.read id ids below ready) (Lib.Runs.run perform t (hungUp s id ready)) ∧
      Lib.Runs.Along perform Legal t (hungUp s id ready) := by
  rcases ready with _ | ⟨arriving, receives⟩
  · exact ⟨h.at _, trivial⟩
  cases hc : s.mConnections[id]? with
  | none =>
      simp only [SocketServer.read, hungUp, hc]
      exact ⟨h.at _, trivial⟩
  | some c =>
      let pumped : Connection :=
        { c with
          stream := (c.stream.pump arriving receives).1
          received := c.received ++ Reader.pumped c.stream arriving receives }
      have htouch : Refines
          { s with mConnections := s.mConnections.insert id pumped, log := s.log ++ [] } t :=
        h.touch hc (Reader.sameWrites_pump c.stream arriving receives) fun _ => rfl
      rw [List.append_nil] at htouch
      simp only [SocketServer.read, hungUp, hc]
      split
      · exact ⟨htouch.at _, trivial⟩
      · refine ⟨(htouch.closeConnection id).at _, ?_, trivial⟩
        rw [Legal, ← h.live, ExtTreeMap.mem_iff_isSome_getElem?, hc]
        rfl

/-- A turn of the loop that hands out messages. -/
theorem Refines.handOut (h : Refines s t) (id : UInt64) (ids : List UInt64) (below : List Place) :
    Refines (s.next id ids below) (Lib.Runs.run perform t (popped s id)) ∧
      Lib.Runs.Along perform Legal t (popped s id) := by
  cases hc : s.mConnections[id]? with
  | none =>
      simp only [SocketServer.next, popped, hc]
      exact ⟨h.at _, trivial⟩
  | some c =>
      cases hnext : c.stream.next with
      | none =>
          simp only [SocketServer.next, popped, hc, hnext]
          exact ⟨h.at _, trivial⟩
      | some pair =>
          obtain ⟨m, stream⟩ := pair
          simp only [SocketServer.next, popped, hc, hnext]
          refine ⟨h.touch hc (MessageStream.next_write_side hnext) fun _ => rfl, ?_, trivial⟩
          rw [Legal, ← h.live, ExtTreeMap.mem_iff_isSome_getElem?, hc]
          rfl

/-- The table sees nothing of an event that the innermost call cannot take. -/
theorem seen_blocked {e : Event} (h : s.Blocked e) : seen s e = [] := by
  cases e with
  | send id m outcomes => exact h.elim
  | closeConnection id => exact h.elim
  | poll => rfl
  | accepted => rfl
  | accept peer =>
      rcases hpolls : s.polls with _ | ⟨ids | ids | ⟨id, ids⟩, below⟩
      · rw [seen.eq_def, hpolls]
      · exact absurd hpolls (h ids below)
      · rw [seen.eq_def, hpolls]
      · rw [seen.eq_def, hpolls]
  | read ready =>
      rcases hpolls : s.polls with _ | ⟨ids | (_ | ⟨id, ids⟩) | ⟨id, ids⟩, below⟩
      · rw [seen.eq_def, hpolls]
      · rw [seen.eq_def, hpolls]
      · rw [seen.eq_def, hpolls]
      · exact absurd hpolls (h id ids below)
      · rw [seen.eq_def, hpolls]
  | next =>
      rcases hpolls : s.polls with _ | ⟨ids | ids | ⟨id, ids⟩, below⟩
      · rw [seen.eq_def, hpolls]
      · rw [seen.eq_def, hpolls]
      · rw [seen.eq_def, hpolls]
      · exact absurd hpolls (h id ids below)
  | finish =>
      rcases hpolls : s.polls with _ | ⟨ids | (_ | ⟨id, ids⟩) | ⟨id, ids⟩, below⟩
      · rw [seen.eq_def, hpolls]
      · rw [seen.eq_def, hpolls]
      · exact absurd hpolls (h below)
      · rw [seen.eq_def, hpolls]
      · rw [seen.eq_def, hpolls]

/-- What an event does to the sockets is what its upcalls do to the table. -/
theorem Refines.step (h : Refines s t) (e : Event)
    (hbound : 1 + (SocketServer.step s e).accepted < 2 ^ 64) :
    Refines (SocketServer.step s e) (Lib.Runs.run perform t (seen s e)) ∧
      Lib.Runs.Along perform Legal t (seen s e) := by
  have hstretch := step_stretch s e
  generalize hs' : SocketServer.step s e = s' at hstretch hbound
  cases hstretch with
  | send id m outcomes => exact ⟨h.send id m outcomes, trivial, trivial⟩
  | closeConnection id => exact ⟨h.closeConnection id, trivial, trivial⟩
  | poll => exact ⟨h.at _, trivial⟩
  | accept hpolls peer =>
      have hseen : seen s (.accept peer) = [.accept] := by
        rw [seen.eq_def, hpolls]
      rw [hseen]
      exact ⟨h.accept peer (by simp only [SocketServer.accept] at hbound; omega), trivial, trivial⟩
  | accepted hpolls => exact ⟨h.at _, trivial⟩
  | read hpolls ready =>
      rename_i id ids below
      have hseen : seen s (.read ready) = hungUp s id ready := by
        rw [seen.eq_def, hpolls]
      rw [hseen]
      exact h.read id ids below ready
  | next hpolls =>
      rename_i id ids below
      have hseen : seen s .next = popped s id := by
        rw [seen.eq_def, hpolls]
      rw [hseen]
      exact h.handOut id ids below
  | finish hpolls =>
      have hseen : seen s .finish = [.closeDeferred] := by
        rw [seen.eq_def, hpolls]
      rw [hseen]
      exact ⟨h.closeDeferred.at _, trivial, trivial⟩
  | stay hblocked =>
      rw [seen_blocked hblocked]
      exact ⟨h, trivial⟩

end Steps

section Runs

theorem accepted_step (s : SocketServer) (e : Event) :
    s.accepted ≤ (SocketServer.step s e).accepted := by
  have hstretch := step_stretch s e
  generalize SocketServer.step s e = s' at hstretch ⊢
  cases hstretch with
  | send id m outcomes =>
      unfold SocketServer.send
      split <;> exact Nat.le_refl _
  | accept hpolls peer => exact Nat.le_succ _
  | read hpolls ready =>
      unfold SocketServer.read
      split
      · dsimp only
        split <;> exact Nat.le_refl _
      · exact Nat.le_refl _
  | next hpolls =>
      unfold SocketServer.next
      split
      · exact Nat.le_refl _
      · split <;> exact Nat.le_refl _
  | finish hpolls =>
      have hall : ∀ (ids : List UInt64) (b : SocketServer),
          (ids.foldl disconnect b).accepted = b.accepted := by
        intro ids
        induction ids with
        | nil => exact fun b => rfl
        | cons id ids ih =>
            intro b
            rw [List.foldl_cons, ih, disconnect]
            split <;> rfl
      exact (hall s.mClosing s).ge
  | closeConnection id => exact Nat.le_refl _
  | poll => exact Nat.le_refl _
  | accepted hpolls => exact Nat.le_refl _
  | stay hblocked => exact Nat.le_refl _

/-- The upcalls of a run. -/
def upcalls (events : List Event) : List Upcall :=
  (Lib.Runs.run (Lib.Runs.record SocketServer.step seen) (listening, []) events).2

theorem refines_listening : Refines listening .listening where
  nextId := rfl
  next := rfl
  live id := iff_of_false ExtTreeMap.not_mem_empty Std.ExtTreeSet.not_mem_empty
  old := ⟨fun n hn => absurd hn Std.ExtTreeSet.not_mem_empty, nofun⟩
  closing := rfl
  placed := PendingWrites.placed_listening
  begun _ := List.nil_prefix
  bytes _ _ hc := by cases hc

/-- In every run that accepts fewer than 2^64 - 1 connections, the upcalls lead from the empty
table to one that the sockets refine, and messages and hang-ups are reported for live connections
only. -/
theorem sockets_refine (events : List Event)
    (hbound : 1 + (SocketServer.run events).accepted < 2 ^ 64) :
    Refines (SocketServer.run events) (Lib.Runs.run perform .listening (upcalls events)) ∧
      Lib.Runs.Along perform Legal .listening (upcalls events) := by
  induction events using List.reverseRecOn with
  | nil => exact ⟨refines_listening, trivial⟩
  | append_singleton events e ih =>
      have hstep : SocketServer.run (events ++ [e]) =
          SocketServer.step (SocketServer.run events) e :=
        Lib.Runs.run_concat _ _ events e
      have hupcalls : upcalls (events ++ [e]) =
          upcalls events ++ seen (SocketServer.run events) e := by
        rw [upcalls, Lib.Runs.run_concat, Lib.Runs.record, Lib.Runs.run_record_fst]
        rfl
      rw [hstep] at hbound
      have hgrow := accepted_step (SocketServer.run events) e
      obtain ⟨hrefines, hlegal⟩ := ih (by omega)
      obtain ⟨hnext, hnew⟩ := hrefines.step e hbound
      rw [hstep, hupcalls, Lib.Runs.run_append]
      exact ⟨hnext, Lib.Runs.along_append.mpr ⟨hlegal, hnew⟩⟩

def greeting : Message := ⟨1, [10, 11]⟩

def answer : Message := ⟨2, [7]⟩

/-- A client is heard and answered, its socket takes half of the answer, and it hangs up. -/
def conversation : List Event :=
  [.poll, .accept ⟨1, 7⟩, .accepted, .finish, .poll, .accepted,
    .read (some (MessageStream.frame greeting, [.ready 64])), .next,
    .send 1 answer [.accepts 3], .next, .finish, .poll, .accepted,
    .read (some ([], [.closed])), .finish]

theorem sockets_refine_conversation :
    upcalls conversation = [.accept, .closeDeferred, .message 1 greeting, .send 1 answer,
        .closeDeferred, .hangUp 1, .closeDeferred] ∧
      Refines (SocketServer.run conversation)
        (Lib.Runs.run perform .listening (upcalls conversation)) ∧
      Lib.Runs.Along perform Legal .listening (upcalls conversation) :=
  ⟨by decide +kernel, sockets_refine conversation (by decide +kernel)⟩

end Runs

end UntitledGame.Server.TcpRefinement
