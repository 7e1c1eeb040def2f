import UntitledGame.Server.SocketServer

/-!
# The life of a connection

What the callbacks see of one id: it connects, has messages and is written to,
and disconnects, once. `Move` is what a step can do to an id, and `Life` what
its moves add up to.

`one_life` is about every run of fewer than 2^64 connections, with callbacks that
send, close and poll as they like.
-/

namespace UntitledGame.Server.ConnectionLife

open Net SocketServer
open Client (Address)

/-- The id that a callback or a write is about. -/
def about : Entry → Option UInt64
  | .connect id _ _ => some id
  | .message id _ => some id
  | .disconnect id _ => some id
  | .wrote id _ _ => some id
  | .closing _ => none

/-- The part of the log about one id. -/
def trace (id : UInt64) (log : List Entry) : List Entry := log.filter fun e => about e = some id

/-- Messages and writes, all of them on one socket. -/
def Within (id : UInt64) (socket : Nat) (body : List Entry) : Prop :=
  ∀ e ∈ body, (∃ m, e = .message id m) ∨ ∃ bytes, e = .wrote id socket bytes

/-- The connection that an id has, if it has one, and what the log says about the id. -/
inductive Life (id : UInt64) : Option Connection → List Entry → Prop
  | unborn : Life id none []
  | live {c : Connection} {body : List Entry} (h : Within id c.socket body) :
      Life id (some c) (.connect id c.peer c.socket :: body)
  | ended {c : Connection} {body : List Entry} (h : Within id c.socket body) :
      Life id none (.connect id c.peer c.socket :: body ++ [.disconnect id c])

/-- What a step other than an accept does to an id, and what it adds to the log. -/
inductive Move (id : UInt64) : Option Connection → Option Connection → List Entry → Prop
  | absent : Move id none none []
  | touched {c c' : Connection} {more : List Entry} (hpeer : c'.peer = c.peer)
      (hsocket : c'.socket = c.socket) (h : Within id c.socket more) :
      Move id (some c) (some c') more
  | closed {c : Connection} : Move id (some c) none [.disconnect id c]

theorem within_nil (id : UInt64) (socket : Nat) : Within id socket [] := nofun

theorem Within.append {id : UInt64} {socket : Nat} {body more : List Entry}
    (h : Within id socket body) (hmore : Within id socket more) :
    Within id socket (body ++ more) := by
  intro e he
  cases List.mem_append.mp he with
  | inl he => exact h e he
  | inr he => exact hmore e he

theorem Move.stay (id : UInt64) : ∀ o : Option Connection, Move id o o []
  | none => .absent
  | some c => .touched rfl rfl (within_nil id c.socket)

theorem Life.move {id : UInt64} {o o' : Option Connection} {log more : List Entry}
    (h : Life id o log) (hmove : Move id o o' more) : Life id o' (log ++ more) := by
  cases hmove with
  | absent =>
      rw [List.append_nil]
      exact h
  | touched hpeer hsocket hmore =>
      cases h with
      | live hbody =>
          rw [← hpeer, ← hsocket] at *
          exact .live (hbody.append hmore)
  | closed =>
      cases h with
      | live hbody => exact .ended hbody

/-- The log of an id without a connection has no connect, or a disconnect. -/
theorem Life.isSome_iff {id : UInt64} {o : Option Connection} {log : List Entry}
    (h : Life id o log) :
    o.isSome ↔ (∃ peer socket, .connect id peer socket ∈ log) ∧ ∀ c, .disconnect id c ∉ log := by
  cases h with
  | unborn => simp
  | live hbody =>
      refine iff_of_true rfl ⟨⟨_, _, List.mem_cons_self⟩, fun c hc => ?_⟩
      rcases List.mem_cons.mp hc with hc | hc
      · cases hc
      · rcases hbody _ hc with ⟨m, hm⟩ | ⟨bytes, hb⟩
        · cases hm
        · cases hb
  | @ended c body hbody =>
      refine iff_of_false (by simp) fun h => h.2 c ?_
      exact List.mem_append_right _ List.mem_cons_self

/-- An id without a connect has nothing. -/
theorem Life.eq_of_no_connect {id : UInt64} {o : Option Connection} {log : List Entry}
    (h : Life id o log) (hnone : ∀ peer socket, .connect id peer socket ∉ log) :
    o = none ∧ log = [] := by
  cases h with
  | unborn => exact ⟨rfl, rfl⟩
  | live hbody => exact absurd List.mem_cons_self (hnone _ _)
  | ended hbody => exact absurd List.mem_cons_self (hnone _ _)

theorem Move.no_connect {id : UInt64} {o o' : Option Connection} {more : List Entry}
    (h : Move id o o' more) (peer : Address) (socket : Nat) : .connect id peer socket ∉ more := by
  intro hconnect
  cases h with
  | absent => cases hconnect
  | touched hpeer hsocket hwithin =>
      rcases hwithin _ hconnect with ⟨m, hm⟩ | ⟨bytes, hb⟩
      · cases hm
      · cases hb
  | closed => cases List.mem_singleton.mp hconnect

section Steps

/-- A step that accepts nothing: what it adds to the log of an id is what it does to it. -/
structure Kept (s s' : SocketServer) : Prop where
  next : s'.mNextId = s.mNextId
  accepted : s'.accepted = s.accepted
  moves : ∀ id, ∃ more, trace id s'.log = trace id s.log ++ more ∧
    Move id s.mConnections[id]? s'.mConnections[id]? more

theorem Kept.of_eq {s s' : SocketServer} (hnext : s'.mNextId = s.mNextId)
    (haccepted : s'.accepted = s.accepted) (hconnections : s'.mConnections = s.mConnections)
    (hlog : ∀ id, trace id s'.log = trace id s.log) : Kept s s' where
  next := hnext
  accepted := haccepted
  moves id := ⟨[], by rw [hlog, List.append_nil], by
    rw [hconnections]
    exact Move.stay id _⟩

theorem trace_append (id : UInt64) (log more : List Entry) :
    trace id (log ++ more) = trace id log ++ trace id more :=
  List.filter_append log more

/-- The connection of one id is replaced, with these entries about it. -/
theorem Kept.touch {s s' : SocketServer} {id : UInt64} {c c' : Connection} {more : List Entry}
    (hnext : s'.mNextId = s.mNextId) (haccepted : s'.accepted = s.accepted)
    (hc : s.mConnections[id]? = some c) (hconnections : s'.mConnections = s.mConnections.insert id c')
    (hlog : s'.log = s.log ++ more) (hpeer : c'.peer = c.peer) (hsocket : c'.socket = c.socket)
    (hmore : Within id c.socket more) : Kept s s' where
  next := hnext
  accepted := haccepted
  moves k := by
    rw [hlog, trace_append, hconnections, getElem?_insert]
    by_cases hk : id = k
    · subst hk
      have hall : trace id more = more := by
        apply List.filter_eq_self.mpr
        intro e he
        rcases hmore e he with ⟨m, rfl⟩ | ⟨bytes, rfl⟩
        · simp [about]
        · simp [about]
      rw [hall, if_pos rfl, hc]
      exact ⟨more, rfl, .touched hpeer hsocket hmore⟩
    · have hnone : trace k more = [] := by
        apply List.filter_eq_nil_iff.mpr
        intro e he
        rcases hmore e he with ⟨m, rfl⟩ | ⟨bytes, rfl⟩
        · simpa [about] using hk
        · simpa [about] using hk
      rw [hnone, if_neg hk]
      exact ⟨[], rfl, Move.stay k _⟩

theorem kept_send (s : SocketServer) (id : UInt64) (m : Message) (outcomes : List Send) :
    Kept s (s.send id m outcomes) := by
  rw [send]
  split
  · exact Kept.of_eq rfl rfl rfl fun _ => rfl
  · rename_i c hc
    refine Kept.touch rfl rfl hc rfl rfl rfl rfl fun e he => ?_
    exact Or.inr ⟨_, List.mem_singleton.mp he⟩

theorem trace_closing (id k : UInt64) (log : List Entry) :
    trace k (log ++ [.closing id]) = trace k log := by
  rw [trace_append]
  exact List.append_nil _

theorem kept_closeConnection (s : SocketServer) (id : UInt64) : Kept s (s.closeConnection id) :=
  Kept.of_eq rfl rfl rfl fun k => trace_closing id k s.log

theorem Kept.closing {s s' : SocketServer} (h : Kept s s') (id : UInt64) :
    Kept s (s'.closeConnection id) where
  next := h.next
  accepted := h.accepted
  moves k := by
    obtain ⟨more, hmore, hmove⟩ := h.moves k
    exact ⟨more, (trace_closing id k s'.log).trans hmore, hmove⟩

theorem Kept.polls {s s' : SocketServer} (h : Kept s s') (places : List Place) :
    Kept s { s' with polls := places } := ⟨h.next, h.accepted, h.moves⟩

theorem kept_read (s : SocketServer) (id : UInt64) (ids : List UInt64) (below : List Place)
    (ready : Option (Bytes × List Receive)) : Kept s (s.read id ids below ready) := by
  simp only [SocketServer.read]
  split
  · rename_i arriving receives c hc
    have htouch : Kept s { s with
        mConnections := s.mConnections.insert id { c with
          stream := (c.stream.pump arriving receives).1
          received := c.received ++ Reader.pumped c.stream arriving receives } } :=
      Kept.touch rfl rfl hc rfl (List.append_nil _).symm rfl rfl (within_nil id c.socket)
    split
    · exact htouch.polls _
    · exact (htouch.closing id).polls _
  · exact Kept.of_eq rfl rfl rfl fun _ => rfl

theorem kept_next (s : SocketServer) (id : UInt64) (ids : List UInt64) (below : List Place) :
    Kept s (s.next id ids below) := by
  rw [next]
  split
  · exact Kept.of_eq rfl rfl rfl fun _ => rfl
  · rename_i c hc
    split
    · exact Kept.of_eq rfl rfl rfl fun _ => rfl
    · rename_i m stream hnext
      refine Kept.touch rfl rfl hc rfl rfl rfl rfl fun e he => ?_
      exact Or.inl ⟨m, List.mem_singleton.mp he⟩

theorem kept_disconnect (s : SocketServer) (id : UInt64) : Kept s (s.disconnect id) := by
  cases hc : s.mConnections[id]? with
  | none =>
      have hsame : s.disconnect id = s := by
        rw [disconnect, hc]
      rw [hsame]
      exact Kept.of_eq rfl rfl rfl fun _ => rfl
  | some c =>
      have hlog : (s.disconnect id).log = s.log ++ [.disconnect id c] := by
        rw [disconnect, hc]
      refine ⟨by rw [disconnect, hc], by rw [disconnect, hc], fun k => ?_⟩
      rw [hlog, trace_append, getElem?_disconnect]
      by_cases hk : id = k
      · subst hk
        refine ⟨[.disconnect id c], by simp [trace, about], ?_⟩
        rw [if_pos rfl, hc]
        exact .closed
      · refine ⟨[], by simp [trace, about, hk], ?_⟩
        rw [if_neg hk]
        exact Move.stay k _

end Steps

section Runs

/-- The account of all ids; the sockets are numbered as the ids are. -/
structure Lived (s : SocketServer) : Prop where
  next : s.mNextId = UInt64.ofNat (s.accepted + 1)
  lives : ∀ id, Life id s.mConnections[id]? (trace id s.log)
  issued : ∀ id peer socket, .connect id peer socket ∈ s.log →
    socket < s.accepted ∧ id.toNat = socket + 1

theorem mem_trace {id : UInt64} {e : Entry} {log : List Entry} (h : about e = some id) :
    e ∈ trace id log ↔ e ∈ log := by
  simp [trace, h]

theorem Lived.kept {s s' : SocketServer} (h : Lived s) (hkept : Kept s s') : Lived s' where
  next := by
    rw [hkept.next, hkept.accepted]
    exact h.next
  lives id := by
    obtain ⟨more, hmore, hmove⟩ := hkept.moves id
    rw [hmore]
    exact (h.lives id).move hmove
  issued id peer socket hconnect := by
    obtain ⟨more, hmore, hmove⟩ := hkept.moves id
    rw [← mem_trace (by rfl), hmore, List.mem_append, mem_trace (by rfl)] at hconnect
    rw [hkept.accepted]
    rcases hconnect with hold | hnew
    · exact h.issued id peer socket hold
    · exact absurd hnew (hmove.no_connect peer socket)

theorem lived_listening : Lived listening where
  next := rfl
  lives id := by
    rw [show listening.mConnections[id]? = none from rfl]
    exact .unborn
  issued id peer socket h := by cases h

/-- An id that has not been issued has no connection and no entries. -/
theorem Lived.unborn {s : SocketServer} (h : Lived s) (id : UInt64) (hid : s.accepted < id.toNat) :
    s.mConnections[id]? = none ∧ trace id s.log = [] := by
  refine (h.lives id).eq_of_no_connect fun peer socket hconnect => ?_
  have hissued := h.issued id peer socket ((mem_trace rfl).mp hconnect)
  omega

/-- The next id is new, as long as the counter has not wrapped. -/
theorem lived_accept {s : SocketServer} (h : Lived s) (hbound : s.accepted + 1 < 2 ^ 64)
    (peer : Address) : Lived (s.accept peer) := by
  have hid : s.mNextId.toNat = s.accepted + 1 := by
    rw [h.next]
    exact UInt64.toNat_ofNat_of_lt' hbound
  obtain ⟨hnone, hsilent⟩ := h.unborn s.mNextId (by omega)
  constructor
  · simp only [accept, h.next]
    exact (UInt64.ofNat_add _ 1).symm
  · intro id
    rw [getElem?_accept]
    simp only [accept, trace_append]
    by_cases hsame : s.mNextId = id
    · subst hsame
      have hfresh : s.mNextId ∉ s.mConnections := by
        rw [← Std.ExtTreeMap.isSome_getElem?_iff_mem, hnone]
        exact Bool.false_ne_true
      rw [if_pos ⟨rfl, hfresh⟩, hsilent]
      simpa [trace, about] using Life.live (within_nil s.mNextId s.accepted)
    · rw [if_neg fun hc => hsame hc.1]
      simpa [trace, about, hsame] using h.lives id
  · intro id peer' socket hconnect
    simp only [accept] at hconnect ⊢
    rcases List.mem_append.mp hconnect with hold | hnew
    · obtain ⟨hlt, hnumber⟩ := h.issued id peer' socket hold
      exact ⟨Nat.lt_succ_of_lt hlt, hnumber⟩
    · obtain ⟨rfl, rfl, rfl⟩ := Entry.connect.inj (List.mem_singleton.mp hnew)
      exact ⟨Nat.lt_succ_self _, hid⟩

/-- What keeps the account of the ids accepts nothing. -/
def Keeps (s s' : SocketServer) : Prop := s'.accepted = s.accepted ∧ (Lived s → Lived s')

theorem Kept.keeps {s s' : SocketServer} (h : Kept s s') : Keeps s s' :=
  ⟨h.accepted, fun hlived => hlived.kept h⟩

theorem keeps_closeDeferred (s : SocketServer) (places : List Place) :
    Keeps s { s.closeDeferred with polls := places } := by
  have hall : Keeps s (s.mClosing.foldl disconnect s) := by
    refine Lib.Runs.run_preserves (fun t id h => ?_) ⟨rfl, id⟩ s.mClosing
    obtain ⟨haccepted, hlived⟩ := (kept_disconnect t id).keeps
    exact ⟨haccepted.trans h.1, hlived ∘ h.2⟩
  have hend : Kept (s.mClosing.foldl disconnect s) { s.closeDeferred with polls := places } :=
    Kept.of_eq rfl rfl rfl fun _ => rfl
  exact ⟨hend.accepted.trans hall.1, hend.keeps.2 ∘ hall.2⟩

theorem step_keeps (s : SocketServer) (e : Event) :
    (∃ peer, step s e = s.accept peer) ∨ Keeps s (step s e) := by
  have hpolls : ∀ places : List Place, Keeps s { s with polls := places } := by
    intro places
    apply Kept.keeps
    exact Kept.of_eq rfl rfl rfl fun _ => rfl
  have hstretch := step_stretch s e
  generalize step s e = s' at hstretch ⊢
  cases hstretch with
  | send id m outcomes => exact Or.inr (kept_send s id m outcomes).keeps
  | closeConnection id => exact Or.inr (kept_closeConnection s id).keeps
  | poll => exact Or.inr (hpolls _)
  | accept h peer => exact Or.inl ⟨peer, rfl⟩
  | accepted h => exact Or.inr (hpolls _)
  | read h ready => exact Or.inr (kept_read s _ _ _ ready).keeps
  | next h => exact Or.inr (kept_next s _ _ _).keeps
  | finish h => exact Or.inr (keeps_closeDeferred s _)
  | stay h => exact Or.inr ⟨rfl, id⟩

theorem lived_step (s : SocketServer) (e : Event) (h : s.accepted < 2 ^ 64 → Lived s) :
    (step s e).accepted < 2 ^ 64 → Lived (step s e) := by
  rcases step_keeps s e with ⟨peer, hstep⟩ | ⟨haccepted, hlived⟩
  · rw [hstep]
    intro hbound
    exact lived_accept (h (Nat.lt_of_succ_lt hbound)) hbound peer
  · rw [haccepted]
    exact fun hbound => hlived (h hbound)

theorem lived_run (events : List Event) (hbound : (run events).accepted < 2 ^ 64) :
    Lived (run events) :=
  Lib.Runs.run_preserves lived_step (fun _ => lived_listening) events hbound

/-- A connection that is gone, or was never there, is not written to. -/
theorem send_of_gone {s : SocketServer} {id : UInt64} (h : id ∉ s.mConnections) (m : Message)
    (outcomes : List Send) : s.send id m outcomes = s := by
  rw [send, Std.ExtTreeMap.getElem?_eq_none h]

/-- A write goes to one connection. -/
theorem send_of_live {s : SocketServer} {id : UInt64} {c : Connection}
    (h : s.mConnections[id]? = some c) (m : Message) (outcomes : List Send) :
    (s.send id m outcomes).log =
        s.log ++ [.wrote id c.socket (c.stream.send m [] outcomes).2] ∧
      ∀ k ≠ id, (s.send id m outcomes).mConnections[k]? = s.mConnections[k]? := by
  simp only [send, h]
  refine ⟨trivial, fun k hk => ?_⟩
  rw [getElem?_insert, if_neg hk.symm]

/-- In every run of fewer than `2 ^ 64` connections, with callbacks that call the server as they
like: the trace of an id is empty, or one connect, then messages, and writes to its own socket, and
at most one disconnect at the end; an id is issued once; `mConnections` has those that have
connected and not disconnected; and `send` writes to the socket for which the id was issued, or does
nothing. -/
theorem one_life (events : List Event) (hbound : (run events).accepted < 2 ^ 64) (id : UInt64) :
    let s := run events
    (trace id s.log = [] ∨ ∃ peer socket body, Within id socket body ∧
      (trace id s.log = .connect id peer socket :: body ∨
        ∃ c, trace id s.log = .connect id peer socket :: body ++ [.disconnect id c])) ∧
    (∀ peer socket, .connect id peer socket ∈ s.log → id.toNat = socket + 1) ∧
    (id ∈ s.mConnections ↔
      (∃ peer socket, .connect id peer socket ∈ s.log) ∧ ∀ c, .disconnect id c ∉ s.log) ∧
    ∀ m outcomes, (id ∉ s.mConnections → s.send id m outcomes = s) ∧
      ∀ c, s.mConnections[id]? = some c →
        .connect id c.peer c.socket ∈ s.log ∧
        (s.send id m outcomes).log =
          s.log ++ [.wrote id c.socket (c.stream.send m [] outcomes).2] ∧
        ∀ k ≠ id, (s.send id m outcomes).mConnections[k]? = s.mConnections[k]? := by
  have hlived := lived_run events hbound
  have hlife := hlived.lives id
  refine ⟨?_, ?_, ?_, ?_⟩
  · generalize (run events).mConnections[id]? = o at hlife
    generalize trace id (run events).log = log at hlife ⊢
    cases hlife with
    | unborn => exact Or.inl rfl
    | live hbody => exact Or.inr ⟨_, _, _, hbody, Or.inl rfl⟩
    | ended hbody => exact Or.inr ⟨_, _, _, hbody, Or.inr ⟨_, rfl⟩⟩
  · intro peer socket hconnect
    exact (hlived.issued id peer socket hconnect).2
  · have hiff := hlife.isSome_iff
    simp only [mem_trace (show about (.connect id _ _) = some id from rfl),
      mem_trace (show about (.disconnect id _) = some id from rfl)] at hiff
    rw [← hiff, Std.ExtTreeMap.isSome_getElem?_iff_mem]
  · intro m outcomes
    refine ⟨fun hgone => send_of_gone hgone m outcomes, fun c hc => ?_⟩
    refine ⟨?_, send_of_live hc m outcomes⟩
    rw [hc] at hlife
    generalize htrace : trace id (run events).log = log at hlife
    cases hlife with
    | live hbody =>
        rw [← mem_trace (by rfl), htrace]
        exact List.mem_cons_self

/-- A connection is greeted, sends one message, and is closed twice by the handler, which also
writes to an id that was never issued. -/
def visited : List Event :=
  [.poll, .accept ⟨1, 7⟩, .send 1 ⟨2, []⟩ [.accepts 2], .accepted, .finish, .poll, .accepted,
    .read (some (MessageStream.frame ⟨3, [9]⟩, [.ready 4096])), .next, .closeConnection 1,
    .send 5 ⟨2, []⟩ [], .closeConnection 1, .next, .finish]

theorem one_life_visited :
    (1 ∈ (run visited).mConnections ↔
      (∃ peer socket, .connect 1 peer socket ∈ (run visited).log) ∧
        ∀ c, .disconnect 1 c ∉ (run visited).log) ∧
      (run visited).log = [.connect 1 ⟨1, 7⟩ 0, .wrote 1 0 [0, 0], .message 1 ⟨3, [9]⟩, .closing 1,
        .closing 1, .disconnect 1 ⟨⟨[], [0, 0, 0, 0, 2, 0], 2⟩, ⟨1, 7⟩, 0,
          MessageStream.frame ⟨3, [9]⟩, [⟨3, [9]⟩]⟩] :=
  ⟨(one_life visited (by decide +kernel) 1).2.2.1, by decide +kernel⟩

end Runs

end UntitledGame.Server.ConnectionLife
