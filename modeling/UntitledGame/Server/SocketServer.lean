import UntitledGame.Client.NetClient
import UntitledGame.Lib.Runs
import UntitledGame.Net.Reader

/-!
# `serverutil::TcpServer`, byte for byte

The server that the three services share, with its sockets and its 64-bit ids.

A callback may call the server again, `poll` included, so a call of `poll` is
not one step: `polls` has the place at which each call stands that has not
returned, the innermost first, and each event takes the innermost call as far as
the next callback. What a callback does is what the environment does before it
lets that call go on.

## Implementation notes

`accepted` and `log`, and the fields of a connection from `socket` on, only
record what happened. A socket is known by its number, in the order of their
acceptance, and a callback that is not set is one that does nothing.
-/

namespace UntitledGame.Server

open Net
open Client (Address)
open Std (ExtTreeMap)

namespace SocketServer

/-- An entry of `mConnections`. `received` is what the socket has handed over, and `handed` what
`onMessage` was called with. -/
structure Connection where
  stream : MessageStream
  peer : Address
  socket : Nat
  received : Bytes
  handed : List Message
  deriving DecidableEq, Repr

/-- Where a call of `poll` stands; `ids` are the connections that it has yet to look at. -/
inductive Place where
  | accepting (ids : List UInt64)
  | reading (ids : List UInt64)
  | dispatching (id : UInt64) (ids : List UInt64)
  deriving DecidableEq, Repr

/-- The connection whose messages are being handed out. -/
def Place.current : Place → Option UInt64
  | .dispatching id _ => some id
  | .accepting _ => none
  | .reading _ => none

/-- The callbacks, with the connection as `onDisconnect` finds it; the bytes that a socket takes
from a call of `send`; and the requests to close. -/
inductive Entry where
  | connect (id : UInt64) (peer : Address) (socket : Nat)
  | message (id : UInt64) (m : Message)
  | disconnect (id : UInt64) (c : Connection)
  | wrote (id : UInt64) (socket : Nat) (bytes : Bytes)
  | closing (id : UInt64)
  deriving DecidableEq, Repr

end SocketServer

open SocketServer in
structure SocketServer where
  mConnections : ExtTreeMap UInt64 Connection
  mClosing : List UInt64
  mNextId : UInt64
  polls : List Place
  accepted : Nat
  log : List Entry

namespace SocketServer

def listening : SocketServer := ⟨∅, [], 1, [], 0, []⟩

def send (s : SocketServer) (id : UInt64) (m : Message) (outcomes : List Send) : SocketServer :=
  match s.mConnections[id]? with
  | none => s
  | some c =>
      let (stream, bytes) := c.stream.send m [] outcomes
      { s with
        mConnections := s.mConnections.insert id { c with stream := stream }
        log := s.log ++ [.wrote id c.socket bytes] }

def closeConnection (s : SocketServer) (id : UInt64) : SocketServer :=
  { s with mClosing := s.mClosing ++ [id], log := s.log ++ [.closing id] }

/-- The body of the accept loop. -/
def accept (s : SocketServer) (peer : Address) : SocketServer :=
  let id := s.mNextId
  { s with
    mNextId := id + 1
    mConnections := s.mConnections.insertIfNew id ⟨.fresh, peer, s.accepted, [], []⟩
    accepted := s.accepted + 1
    log := s.log ++ [.connect id peer s.accepted] }

/-- The body of the loop over the ids, up to the first message. `ready` is what there is to read,
if `waitReadable` has reported the socket. -/
def read (s : SocketServer) (id : UInt64) (ids : List UInt64) (below : List Place)
    (ready : Option (Bytes × List Receive)) : SocketServer :=
  match ready, s.mConnections[id]? with
  | some (arriving, receives), some c =>
      let (stream, _, open_) := c.stream.pump arriving receives
      let c := { c with
        stream := stream
        received := c.received ++ Reader.pumped c.stream arriving receives }
      let s := { s with mConnections := s.mConnections.insert id c }
      if open_ then { s with polls := .dispatching id ids :: below }
      else { s.closeConnection id with polls := .reading ids :: below }
  | _, _ => { s with polls := .reading ids :: below }

/-- One turn of the loop over the messages of a connection, which is left when the connection is
gone or has no complete message. -/
def next (s : SocketServer) (id : UInt64) (ids : List UInt64) (below : List Place) : SocketServer :=
  match s.mConnections[id]? with
  | none => { s with polls := .reading ids :: below }
  | some c =>
      match c.stream.next with
      | none => { s with polls := .reading ids :: below }
      | some (m, stream) =>
          { s with
            mConnections :=
              s.mConnections.insert id { c with stream := stream, handed := c.handed ++ [m] }
            log := s.log ++ [.message id m] }

/-- The body of the loop over `mClosing`. -/
def disconnect (s : SocketServer) (id : UInt64) : SocketServer :=
  match s.mConnections[id]? with
  | none => s
  | some c =>
      { s with mConnections := s.mConnections.erase id, log := s.log ++ [.disconnect id c] }

/-- The end of `poll`. -/
def closeDeferred (s : SocketServer) : SocketServer :=
  { s.mClosing.foldl disconnect s with mClosing := [] }

inductive Event where
  | send (id : UInt64) (m : Message) (outcomes : List Send)
  | closeConnection (id : UInt64)
  | poll
  | accept (peer : Address)
  | accepted
  | read (ready : Option (Bytes × List Receive))
  | next
  | finish
  deriving DecidableEq, Repr

/-- A call, or the next stretch of the innermost call of `poll`. -/
def step (s : SocketServer) (e : Event) : SocketServer :=
  match e, s.polls with
  | .send id m outcomes, _ => s.send id m outcomes
  | .closeConnection id, _ => s.closeConnection id
  | .poll, polls => { s with polls := .accepting s.mConnections.keys :: polls }
  | .accept peer, .accepting _ :: _ => s.accept peer
  | .accepted, .accepting ids :: below => { s with polls := .reading ids :: below }
  | .read ready, .reading (id :: ids) :: below => s.read id ids below ready
  | .next, .dispatching id ids :: below => s.next id ids below
  | .finish, .reading [] :: below => { s.closeDeferred with polls := below }
  | _, _ => s

def run (events : List Event) : SocketServer := Lib.Runs.run step listening events

theorem run_append (before events : List Event) :
    run (before ++ events) = Lib.Runs.run step (run before) events :=
  Lib.Runs.run_append step listening before events

section Stretches

variable (s : SocketServer)

/-- The innermost call of `poll` does not stand where the event would take it on. -/
def Blocked : Event → Prop
  | .accept _ => ∀ ids below, s.polls ≠ .accepting ids :: below
  | .accepted => ∀ ids below, s.polls ≠ .accepting ids :: below
  | .read _ => ∀ id ids below, s.polls ≠ .reading (id :: ids) :: below
  | .next => ∀ id ids below, s.polls ≠ .dispatching id ids :: below
  | .finish => ∀ below, s.polls ≠ .reading [] :: below
  | .send _ _ _ => False
  | .closeConnection _ => False
  | .poll => False

/-- What an event does, with the place at which it is met. -/
inductive Stretch : Event → SocketServer → Prop
  | send (id : UInt64) (m : Message) (outcomes : List Send) :
      Stretch (.send id m outcomes) (s.send id m outcomes)
  | closeConnection (id : UInt64) : Stretch (.closeConnection id) (s.closeConnection id)
  | poll : Stretch .poll { s with polls := .accepting s.mConnections.keys :: s.polls }
  | accept {ids : List UInt64} {below : List Place} (h : s.polls = .accepting ids :: below)
      (peer : Address) : Stretch (.accept peer) (s.accept peer)
  | accepted {ids : List UInt64} {below : List Place} (h : s.polls = .accepting ids :: below) :
      Stretch .accepted { s with polls := .reading ids :: below }
  | read {id : UInt64} {ids : List UInt64} {below : List Place}
      (h : s.polls = .reading (id :: ids) :: below) (ready : Option (Bytes × List Receive)) :
      Stretch (.read ready) (s.read id ids below ready)
  | next {id : UInt64} {ids : List UInt64} {below : List Place}
      (h : s.polls = .dispatching id ids :: below) : Stretch .next (s.next id ids below)
  | finish {below : List Place} (h : s.polls = .reading [] :: below) :
      Stretch .finish { s.closeDeferred with polls := below }
  | stay {e : Event} (h : s.Blocked e) : Stretch e s

/-- Every proof about a step goes through its stretch. -/
theorem step_stretch (e : Event) : s.Stretch e (step s e) := by
  -- The splitter of `step` is too deep, so the innermost call is taken apart by hand.
  unfold step
  cases e with
  | send id m outcomes => exact .send id m outcomes
  | closeConnection id => exact .closeConnection id
  | poll => exact .poll
  | accept peer =>
      rcases hpolls : s.polls with _ | ⟨ids | ids | ⟨id, ids⟩, below⟩
      · exact .stay fun ids below h => by simp [hpolls] at h
      · exact .accept hpolls peer
      · exact .stay fun ids below h => by simp [hpolls] at h
      · exact .stay fun ids below h => by simp [hpolls] at h
  | accepted =>
      rcases hpolls : s.polls with _ | ⟨ids | ids | ⟨id, ids⟩, below⟩
      · exact .stay fun ids below h => by simp [hpolls] at h
      · exact .accepted hpolls
      · exact .stay fun ids below h => by simp [hpolls] at h
      · exact .stay fun ids below h => by simp [hpolls] at h
  | read ready =>
      rcases hpolls : s.polls with _ | ⟨ids | (_ | ⟨id, ids⟩) | ⟨id, ids⟩, below⟩
      · exact .stay fun id ids below h => by simp [hpolls] at h
      · exact .stay fun id ids below h => by simp [hpolls] at h
      · exact .stay fun id ids below h => by simp [hpolls] at h
      · exact .read hpolls ready
      · exact .stay fun id ids below h => by simp [hpolls] at h
  | next =>
      rcases hpolls : s.polls with _ | ⟨ids | ids | ⟨id, ids⟩, below⟩
      · exact .stay fun id ids below h => by simp [hpolls] at h
      · exact .stay fun id ids below h => by simp [hpolls] at h
      · exact .stay fun id ids below h => by simp [hpolls] at h
      · exact .next hpolls
  | finish =>
      rcases hpolls : s.polls with _ | ⟨ids | (_ | ⟨id, ids⟩) | ⟨id, ids⟩, below⟩
      · exact .stay fun below h => by simp [hpolls] at h
      · exact .stay fun below h => by simp [hpolls] at h
      · exact .finish hpolls
      · exact .stay fun below h => by simp [hpolls] at h
      · exact .stay fun below h => by simp [hpolls] at h

end Stretches

section Tables

variable (s : SocketServer) (id k : UInt64)

theorem getElem?_insert (c : Connection) :
    (s.mConnections.insert id c)[k]? = if id = k then some c else s.mConnections[k]? := by
  simp only [ExtTreeMap.getElem?_insert, Std.compare_eq_iff_eq]

theorem getElem?_disconnect :
    (s.disconnect id).mConnections[k]? = if id = k then none else s.mConnections[k]? := by
  rw [disconnect]
  split
  · rename_i hnone
    split
    · rename_i hid
      rw [← hid, hnone]
    · rfl
  · simp only [ExtTreeMap.getElem?_erase, Std.compare_eq_iff_eq]

theorem getElem?_accept (peer : Address) :
    (s.accept peer).mConnections[k]? =
      if s.mNextId = k ∧ s.mNextId ∉ s.mConnections then some ⟨.fresh, peer, s.accepted, [], []⟩
      else s.mConnections[k]? := by
  simp only [accept, ExtTreeMap.getElem?_insertIfNew, Std.compare_eq_iff_eq]

theorem getElem?_closeDeferred :
    s.closeDeferred.mConnections[k]? = if k ∈ s.mClosing then none else s.mConnections[k]? := by
  have hall : ∀ (ids : List UInt64) (t : SocketServer),
      (ids.foldl disconnect t).mConnections[k]? = if k ∈ ids then none else t.mConnections[k]? := by
    intro ids
    induction ids with
    | nil => exact fun t => rfl
    | cons id ids ih =>
        intro t
        rw [List.foldl_cons, ih, getElem?_disconnect]
        by_cases hk : k ∈ ids
        · simp [hk]
        · by_cases hid : id = k
          · simp [hid]
          · simp [hk, hid, Ne.symm hid]
  exact hall s.mClosing s

/-- What is reported closed at the end of `poll` was live and to be closed. -/
theorem disconnect_mem_closeDeferred {c : Connection} (h : .disconnect k c ∈ s.closeDeferred.log) :
    .disconnect k c ∈ s.log ∨ k ∈ s.mClosing ∧ s.mConnections[k]? = some c := by
  have hall : ∀ (ids : List UInt64) (t : SocketServer),
      .disconnect k c ∈ (ids.foldl disconnect t).log →
        .disconnect k c ∈ t.log ∨ k ∈ ids ∧ t.mConnections[k]? = some c := by
    intro ids
    induction ids with
    | nil => exact fun t h => Or.inl h
    | cons id ids ih =>
        intro t h
        rcases ih (t.disconnect id) h with hold | ⟨hk, hc⟩
        · rw [disconnect] at hold
          split at hold
          · exact Or.inl hold
          · rename_i c' hc'
            rcases List.mem_append.mp hold with hold | hnew
            · exact Or.inl hold
            · obtain ⟨rfl, rfl⟩ := Entry.disconnect.inj (List.mem_singleton.mp hnew)
              exact Or.inr ⟨List.mem_cons_self, hc'⟩
        · rw [getElem?_disconnect] at hc
          split at hc
          · cases hc
          · exact Or.inr ⟨List.mem_cons_of_mem _ hk, hc⟩
  exact hall s.mClosing s h

end Tables

end SocketServer

end UntitledGame.Server
