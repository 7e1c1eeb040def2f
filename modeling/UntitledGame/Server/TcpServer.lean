import UntitledGame.Net.Framing
import Std.Data.ExtTreeSet.Lemmas

/-!
# `serverutil::TcpServer`

The table of connections that the servers share. Ids are handed out in order and
never again. Closing a connection is deferred: the id is put on a list that the
end of the next `poll` works through.

The streams themselves are `Net.Connection`; here a connection is its id, and
`sent` is the log of the messages that were handed to a stream.
-/

namespace UntitledGame.Server

open Net (Bytes Message)
open Std (ExtTreeSet)

structure TcpServer where
  mConnections : ExtTreeSet Nat
  mClosing : List Nat
  mNextId : Nat
  sent : List (Nat × Message)

namespace TcpServer

def listening : TcpServer := ⟨∅, [], 1, []⟩

/-- `poll` takes a connection from the accept queue. -/
def accept (s : TcpServer) : TcpServer :=
  { s with mConnections := s.mConnections.insert s.mNextId, mNextId := s.mNextId + 1 }

/-- Nothing is sent on a connection that is gone. -/
def send (s : TcpServer) (id : Nat) (type : UInt16) (payload : Bytes) : TcpServer :=
  if id ∈ s.mConnections then { s with sent := s.sent ++ [(id, ⟨type, payload⟩)] } else s

def closeConnection (s : TcpServer) (id : Nat) : TcpServer :=
  { s with mClosing := s.mClosing ++ [id] }

/-- `mConnections.erase` in the deferred close. -/
def erase (s : TcpServer) (id : Nat) : TcpServer :=
  { s with mConnections := s.mConnections.erase id }

/-- The deferred close of a server without an `onDisconnect`. -/
def closeDeferred (s : TcpServer) : TcpServer :=
  { s.mClosing.foldl erase s with mClosing := [] }

@[simp] theorem send_mConnections (s : TcpServer) (id : Nat) (type : UInt16) (payload : Bytes) :
    (s.send id type payload).mConnections = s.mConnections := by
  rw [send]
  split <;> rfl

theorem mem_accept (s : TcpServer) (c : Nat) :
    c ∈ s.accept.mConnections ↔ c = s.mNextId ∨ c ∈ s.mConnections := by
  simp only [accept, ExtTreeSet.mem_insert, Nat.compare_eq_eq]
  exact or_congr_left eq_comm

theorem mem_erase (s : TcpServer) (id c : Nat) :
    c ∈ (s.erase id).mConnections ↔ c ≠ id ∧ c ∈ s.mConnections := by
  simp only [erase, ExtTreeSet.mem_erase, Nat.compare_eq_eq, ne_eq]
  exact and_congr_left' (not_congr eq_comm)

/-- Closing sends nothing. -/
theorem closeDeferred_sent (s : TcpServer) : s.closeDeferred.sent = s.sent := by
  have herase : ∀ (ids : List Nat) (t : TcpServer), (ids.foldl erase t).sent = t.sent := by
    intro ids
    induction ids with
    | nil => exact fun t => rfl
    | cons id ids ih => exact fun t => ih (t.erase id)
  exact herase s.mClosing s

end TcpServer

end UntitledGame.Server
