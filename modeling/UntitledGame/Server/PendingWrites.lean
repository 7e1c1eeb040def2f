import UntitledGame.Server.DbSocket
import UntitledGame.Server.SocketServer

/-!
# Bytes that a socket refused

`send` queues a message and flushes once. What the socket does not take stays in
the write buffer, to be retried by whoever drives the stream; but neither
`TcpServer::poll` nor `DbClient::poll` calls `flush`.

`drained_iff` says when a call of `poll` nevertheless leaves nothing pending on a
connection whose socket takes everything.
-/

namespace UntitledGame.Server.PendingWrites

open Net Reader

section Server

open SocketServer

/-- Whether a live connection has pending writes. -/
def pending (s : SocketServer) (id : UInt64) : Option Bool :=
  s.mConnections[id]?.map (·.stream.hasPendingWrites)

/-- Something is sent on this connection. -/
def Sends (id : UInt64) : Event → Prop
  | .send k _ _ => k = id
  | _ => False

instance (id : UInt64) : DecidablePred (Sends id)
  | .send k _ _ => inferInstanceAs (Decidable (k = id))
  | .closeConnection _ => inferInstanceAs (Decidable False)
  | .poll => inferInstanceAs (Decidable False)
  | .accept _ => inferInstanceAs (Decidable False)
  | .accepted => inferInstanceAs (Decidable False)
  | .read _ => inferInstanceAs (Decidable False)
  | .next => inferInstanceAs (Decidable False)
  | .finish => inferInstanceAs (Decidable False)

/-- If this writes to the socket of the connection, the socket takes all that is outstanding. -/
def Takes (id : UInt64) (c : Connection) : Event → Prop
  | .send k m outcomes =>
      k = id → Accepts outcomes (c.stream.unsent.length + (MessageStream.frame m).length)
  | _ => True

instance (id : UInt64) (c : Connection) : DecidablePred (Takes id c)
  | .send _ _ _ => inferInstanceAs (Decidable (_ → _))
  | .closeConnection _ => inferInstanceAs (Decidable True)
  | .poll => inferInstanceAs (Decidable True)
  | .accept _ => inferInstanceAs (Decidable True)
  | .accepted => inferInstanceAs (Decidable True)
  | .read _ => inferInstanceAs (Decidable True)
  | .next => inferInstanceAs (Decidable True)
  | .finish => inferInstanceAs (Decidable True)

/-- The connection is live, and its socket is willing. -/
def Willing (id : UInt64) (s : SocketServer) (e : Event) : Prop :=
  ∃ c ∈ s.mConnections[id]?, Takes id c e

instance (id : UInt64) (s : SocketServer) (e : Event) : Decidable (Willing id s e) :=
  inferInstanceAs (Decidable (∃ c ∈ s.mConnections[id]?, _))

/-- No offset is behind its buffer. -/
def Placed (s : SocketServer) : Prop :=
  ∀ (id : UInt64) (c : Connection), s.mConnections[id]? = some c →
    c.stream.mWriteOffset ≤ c.stream.mWriteBuffer.length

/-- The write side of a connection after a step: it is new, it has been sent to, or it is as it
was. -/
inductive WriteSide (s : SocketServer) (e : Event) (id : UInt64) (stream : MessageStream) : Prop
  | fresh (hnone : s.mConnections[id]? = none) (h : stream = .fresh)
  | sent {c : Connection} {m : Message} {outcomes : List Send} (hc : s.mConnections[id]? = some c)
      (he : e = .send id m outcomes) (h : stream = (c.stream.send m [] outcomes).1)
  | kept {c : Connection} (hc : s.mConnections[id]? = some c) (he : ¬ Sends id e)
      (h : SameWrites c.stream stream)

/-- One connection is replaced by one with the same write side. -/
theorem writeSide_insert {s : SocketServer} {e : Event} {id k : UInt64} {c d c' : Connection}
    (hk : s.mConnections[k]? = some c) (hd : SameWrites c.stream d.stream) (he : ¬ Sends id e)
    (h : (s.mConnections.insert k d)[id]? = some c') : WriteSide s e id c'.stream := by
  rw [getElem?_insert] at h
  split at h
  · rename_i hid
    subst hid
    obtain rfl := Option.some.inj h
    exact .kept hk he hd
  · exact .kept h he ⟨rfl, rfl⟩

theorem writeSide_step {s : SocketServer} {e : Event} {id : UInt64} {c' : Connection}
    (h : (step s e).mConnections[id]? = some c') : WriteSide s e id c'.stream := by
  have hstretch := step_stretch s e
  generalize step s e = s' at hstretch h
  cases hstretch with
  | send k m outcomes =>
      rw [SocketServer.send] at h
      split at h
      · rename_i hgone
        refine .kept h ?_ ⟨rfl, rfl⟩
        rintro rfl
        rw [hgone] at h
        cases h
      · rename_i c hc
        dsimp only at h
        rw [getElem?_insert] at h
        split at h
        · rename_i hk
          subst hk
          obtain rfl := Option.some.inj h
          exact .sent hc rfl rfl
        · rename_i hk
          exact .kept h hk ⟨rfl, rfl⟩
  | closeConnection k => exact .kept h nofun ⟨rfl, rfl⟩
  | poll => exact .kept h nofun ⟨rfl, rfl⟩
  | accept _ peer =>
      rw [getElem?_accept] at h
      split at h
      · rename_i hnew
        obtain rfl := Option.some.inj h
        exact .fresh (Std.ExtTreeMap.getElem?_eq_none (hnew.1 ▸ hnew.2)) rfl
      · exact .kept h nofun ⟨rfl, rfl⟩
  | accepted _ => exact .kept h nofun ⟨rfl, rfl⟩
  | read _ ready =>
      simp only [SocketServer.read] at h
      split at h
      · rename_i arriving receives c hc
        have hwrites := sameWrites_pump c.stream arriving receives
        split at h
        · exact writeSide_insert hc hwrites nofun h
        · exact writeSide_insert hc hwrites nofun h
      · exact .kept h nofun ⟨rfl, rfl⟩
  | next _ =>
      rw [SocketServer.next] at h
      split at h
      · exact .kept h nofun ⟨rfl, rfl⟩
      · rename_i c hc
        split at h
        · exact .kept h nofun ⟨rfl, rfl⟩
        · rename_i m stream hnext
          have hwrites : SameWrites c.stream stream := MessageStream.next_write_side hnext
          exact writeSide_insert hc hwrites nofun h
  | finish _ =>
      dsimp only at h
      rw [getElem?_closeDeferred] at h
      split at h
      · cases h
      · exact .kept h nofun ⟨rfl, rfl⟩
  | stay hblocked =>
      refine .kept h ?_ ⟨rfl, rfl⟩
      cases e with
      | send k m outcomes => exact hblocked.elim
      | closeConnection _ | poll | accept _ | accepted | read _ | next | finish => exact nofun

theorem placed_listening : Placed listening := by
  intro id c hc
  cases hc

theorem placed_step (s : SocketServer) (e : Event) (h : Placed s) : Placed (step s e) := by
  intro id c' hc'
  cases writeSide_step hc' with
  | fresh _ hfresh => simp [hfresh, MessageStream.fresh]
  | sent hc _ hsent =>
      rw [hsent]
      exact send_offset_le (h id _ hc) _ [] _
  | kept hc _ hkept =>
      rw [hkept.1, hkept.2]
      exact h id _ hc

/-- A write to a willing socket leaves nothing pending, and nothing else changes that. -/
theorem pending_step {s : SocketServer} {e : Event} {id : UInt64} (hplaced : Placed s)
    (hwilling : Willing id s e) (hlive : id ∈ (step s e).mConnections) :
    pending (step s e) id = some false ↔ pending s id = some false ∨ Sends id e := by
  obtain ⟨c, hmem, haccepts⟩ := hwilling
  have hc : s.mConnections[id]? = some c := hmem
  obtain ⟨c', hc'⟩ := Option.isSome_iff_exists.mp
    (Std.ExtTreeMap.isSome_getElem?_iff_mem.mpr hlive)
  simp only [pending, hc, hc', Option.map_some, Option.some.injEq]
  cases writeSide_step hc' with
  | fresh hnone _ =>
      rw [hc] at hnone
      cases hnone
  | sent hd he hsent =>
      rw [hc] at hd
      obtain rfl := Option.some.inj hd
      subst he
      rw [hsent]
      exact iff_of_true (send_willing (hplaced id c hc) (haccepts rfl) []) (Or.inr rfl)
  | kept hd he hkept =>
      rw [hc] at hd
      obtain rfl := Option.some.inj hd
      rw [hkept.pending]
      exact (or_iff_left he).symm

/-- The same for a run, in which the connection stays live. -/
theorem pending_run {s : SocketServer} {events : List Event} {id : UInt64} (hplaced : Placed s)
    (hwilling : Lib.Runs.Along step (Willing id) s events)
    (hlive : id ∈ (Lib.Runs.run step s events).mConnections) :
    pending (Lib.Runs.run step s events) id = some false ↔
      pending s id = some false ∨ ∃ e ∈ events, Sends id e := by
  induction events generalizing s with
  | nil => simp
  | cons e events ih =>
      have hnext : id ∈ (step s e).mConnections := by
        cases events with
        | nil => exact hlive
        | cons e' events =>
            obtain ⟨c, hc, -⟩ := hwilling.2.1
            rw [← Std.ExtTreeMap.isSome_getElem?_iff_mem, hc]
            rfl
      rw [Lib.Runs.run_cons, ih (placed_step s e hplaced) hwilling.2 hlive,
        pending_step hplaced hwilling.1 hnext]
      simp only [List.mem_cons, exists_eq_or_imp, or_assoc]

end Server

section Client

open DbSocket

/-- A request is written. -/
def Writes : DbSocket.Event → Prop
  | .call _ _ => True
  | _ => False

instance : DecidablePred Writes
  | .call _ _ => inferInstanceAs (Decidable True)
  | .connect _ => inferInstanceAs (Decidable False)
  | .poll _ _ => inferInstanceAs (Decidable False)
  | .next => inferInstanceAs (Decidable False)

/-- The client is connected and stays with its stream, and whenever something is written to it, the
socket takes all that is outstanding. -/
def WillingPeer (s : DbSocket) (e : DbSocket.Event) : Prop :=
  s.connected ∧ match e with
    | .call body outcomes => Accepts outcomes
        (s.stream.unsent.length + (MessageStream.frame (s.request body)).length)
    | .connect up => up = false
    | .poll _ _ => True
    | .next => True

instance (s : DbSocket) : DecidablePred (WillingPeer s)
  | .call _ _ => inferInstanceAs (Decidable (_ ∧ _))
  | .connect _ => inferInstanceAs (Decidable (_ ∧ _))
  | .poll _ _ => inferInstanceAs (Decidable (_ ∧ _))
  | .next => inferInstanceAs (Decidable (_ ∧ _))

def PlacedPeer (s : DbSocket) : Prop := s.stream.mWriteOffset ≤ s.stream.mWriteBuffer.length

/-- What a step does to the write side of the stream. -/
inductive PeerWriteSide (s : DbSocket) (e : DbSocket.Event) (stream : MessageStream) : Prop
  | fresh (he : e = .connect true) (h : stream = .fresh)
  | sent {body : DbRequest} {outcomes : List Send} (he : e = .call body outcomes)
      (hconnected : s.connected) (h : stream = (s.stream.send (s.request body) [] outcomes).1)
  | kept (he : s.connected → ¬ Writes e) (h : SameWrites s.stream stream)

theorem peerWriteSide_step (s : DbSocket) (e : DbSocket.Event) :
    PeerWriteSide s e (s.step e).stream := by
  cases e with
  | call body outcomes =>
      simp only [DbSocket.step, DbSocket.call]
      split
      · rename_i hconnected
        exact .sent rfl hconnected rfl
      · rename_i hconnected
        exact .kept (fun h => absurd h hconnected) ⟨rfl, rfl⟩
  | connect up =>
      cases up with
      | true => exact .fresh rfl rfl
      | false => exact .kept (fun _ => nofun) ⟨rfl, rfl⟩
  | poll arriving receives =>
      have hwrites := sameWrites_pump s.stream arriving receives
      refine .kept (fun _ => nofun) ?_
      simp only [DbSocket.step, DbSocket.poll]
      split
      · split
        · exact hwrites
        · exact hwrites
      · exact ⟨rfl, rfl⟩
  | next =>
      refine .kept (fun _ => nofun) ?_
      simp only [DbSocket.step, DbSocket.next]
      split
      · exact ⟨rfl, rfl⟩
      · split
        · exact ⟨rfl, rfl⟩
        · rename_i m stream hnext
          exact MessageStream.next_write_side hnext

theorem placedPeer_init : PlacedPeer .init := Nat.le_refl 0

theorem placedPeer_step (s : DbSocket) (e : DbSocket.Event) (h : PlacedPeer s) :
    PlacedPeer (s.step e) := by
  rw [PlacedPeer]
  cases peerWriteSide_step s e with
  | fresh _ hfresh => simp [hfresh, MessageStream.fresh]
  | sent _ _ hsent =>
      rw [hsent]
      exact send_offset_le h _ [] _
  | kept _ hkept =>
      rw [hkept.1, hkept.2]
      exact h

theorem peer_pending_run {s : DbSocket} {events : List DbSocket.Event} (hplaced : PlacedPeer s)
    (hwilling : Lib.Runs.Along DbSocket.step WillingPeer s events) :
    (Lib.Runs.run DbSocket.step s events).stream.hasPendingWrites = false ↔
      s.stream.hasPendingWrites = false ∨ ∃ e ∈ events, Writes e := by
  induction events generalizing s with
  | nil => simp
  | cons e events ih =>
      have hone : (s.step e).stream.hasPendingWrites = false ↔
          s.stream.hasPendingWrites = false ∨ Writes e := by
        obtain ⟨hconnected, htakes⟩ := hwilling.1
        cases peerWriteSide_step s e with
        | fresh he _ =>
            subst he
            cases htakes
        | sent he _ hsent =>
            subst he
            rw [hsent]
            exact iff_of_true (send_willing hplaced htakes []) (Or.inr trivial)
        | kept he hkept =>
            rw [hkept.pending]
            exact (or_iff_left (he hconnected)).symm
      rw [Lib.Runs.run_cons, ih (placedPeer_step s e hplaced) hwilling.2, hone]
      simp only [List.mem_cons, exists_eq_or_imp, or_assoc]

end Client

/-- From every reachable state, over a call of `poll` and whatever is done during it, on a
connection whose socket takes everything: nothing is pending at the end if and only if nothing was
pending before, or something is sent on it in between. The same for the client and its stream. -/
theorem drained_iff (before events : List SocketServer.Event) (id : UInt64)
    (earlier calls : List DbSocket.Event) (arriving : Bytes) (receives : List Receive) :
    (Lib.Runs.Along SocketServer.step (Willing id) (SocketServer.run before) (.poll :: events) →
      id ∈ (SocketServer.run (before ++ .poll :: events)).mConnections →
        (pending (SocketServer.run (before ++ .poll :: events)) id = some false ↔
          pending (SocketServer.run before) id = some false ∨ ∃ e ∈ events, Sends id e)) ∧
    (Lib.Runs.Along DbSocket.step WillingPeer (DbSocket.run earlier)
        (.poll arriving receives :: calls) →
      ((DbSocket.run (earlier ++ .poll arriving receives :: calls)).stream.hasPendingWrites = false ↔
        (DbSocket.run earlier).stream.hasPendingWrites = false ∨ ∃ e ∈ calls, Writes e)) := by
  constructor
  · intro hwilling hlive
    have hplaced : Placed (SocketServer.run before) :=
      Lib.Runs.run_preserves placed_step placed_listening before
    rw [SocketServer.run_append] at hlive ⊢
    rw [pending_run hplaced hwilling hlive, List.exists_mem_cons_iff]
    exact or_congr_right (or_iff_right nofun)
  · intro hwilling
    have hplaced : PlacedPeer (DbSocket.run earlier) :=
      Lib.Runs.run_preserves placedPeer_step placedPeer_init earlier
    rw [DbSocket.run_append, peer_pending_run hplaced hwilling, List.exists_mem_cons_iff]
    exact or_congr_right (or_iff_right nofun)

section Examples

open SocketServer

/-- A connection is greeted, and its socket takes two bytes. -/
def refused : List Event :=
  [.poll, .accept ⟨1, 7⟩, .send 1 ⟨3, [9]⟩ [.accepts 2], .accepted, .finish]

/-- A client whose request the socket has taken in part. -/
def asked : List DbSocket.Event := [.connect true, .call .adminExists [.accepts 2]]

/-- A poll in which the next message is sent takes the rest along. -/
theorem drained_iff_answer :
    pending (run (refused ++ [.poll, .accepted, .read none, .send 1 ⟨4, []⟩ [.accepts 100]])) 1 =
        some false ∧
      (DbSocket.run (asked ++ [.poll [] [], .call .adminExists [.accepts 100]])).stream.hasPendingWrites
        = false :=
  ⟨((drained_iff refused _ 1 [] [] [] []).1 (by decide +kernel) (by decide +kernel)).mpr
      (Or.inr (by decide)),
    ((drained_iff [] [] 1 asked _ [] []).2 (by decide +kernel)).mpr
      (Or.inr (by decide))⟩

/-- In a poll in which nothing is sent the bytes stay, however willing the socket is, and although
the peer is heard. -/
theorem pending_after_poll :
    let polled : List Event := [.poll, .accepted,
      .read (some (MessageStream.frame ⟨3, [9]⟩, [.ready 4096])), .next, .next, .finish]
    let asking : List DbSocket.Event := [.poll [] [.ready 0], .next]
    (Lib.Runs.Along step (Willing 1) (run refused) polled ∧ pending (run refused) 1 = some true ∧
        pending (run (refused ++ polled)) 1 = some true) ∧
      Lib.Runs.Along DbSocket.step WillingPeer (DbSocket.run asked) asking ∧
        (DbSocket.run asked).stream.hasPendingWrites = true ∧
        (DbSocket.run (asked ++ asking)).stream.hasPendingWrites = true := by
  decide +kernel

end Examples

end UntitledGame.Server.PendingWrites
