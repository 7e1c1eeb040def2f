import UntitledGame.Client.Traffic
import UntitledGame.Lib.Runs

/-!
# The datagrams of a poll

A poll first goes through the states of the login and the join, and over the
messages of the world server. Only when it ends up in the world does it turn to
its UDP socket. `turn` is the client at that point: what comes before does not
look at a datagram, and what comes after looks at nothing else.

`Replica` is the part of the client that snapshots write.
-/

namespace UntitledGame.Client.UdpTurn

open Net NetClient
open Std (ExtTreeMap)

/-- The calls that the application makes on its client. -/
inductive Call where
  | login (host : String) (username password : Bytes) (os : Os)
  | poll (now : ℚ) (os : Os)
  | sendInput (input : InputBits) (dropped : Bool)
  | logout
  deriving DecidableEq, Repr

def call (c : NetClient) : Call → NetClient
  | .login host username password os => c.login host username password os
  | .poll now os => c.poll now os
  | .sendInput input dropped => c.sendInput input dropped
  | .logout => c.logout

def run (mFakeLatency mFakeLoss : ℚ) (calls : List Call) : NetClient :=
  Lib.Runs.run call (NetClient.init mFakeLatency mFakeLoss) calls

/-- Announces the client again, as long as no snapshot has come. -/
def greet (c : NetClient) (now : ℚ) : NetClient :=
  if c.mSnapshotsReceived = 0 && kHelloRetrySeconds < now - c.mLastHelloAt then
    { c.sendUdpHello with mLastHelloAt := now }
  else c

/-- The client after the messages of the world server, if its stream is still open. -/
def heard (c : NetClient) (now : ℚ) (os : Os) : Option NetClient :=
  c.mWorld.bind fun stream =>
    let (stream, _, open_) := stream.pump os.arriving os.receives
    if open_ then
      some (handleWorld { c with mWorld := some stream.drain.2 } now os.udpOpens stream.drain.1)
    else none

/-- The client with which a poll gets to its datagrams, if it does. -/
def turn (c : NetClient) (now : ℚ) (os : Os) : Option NetClient :=
  if c.mState = .awaitingJoin ∨ c.mState = .inWorld then
    (heard { c with mLastPollTime := now } now os).bind fun d =>
      if d.mState = .inWorld then some (greet d now) else none
  else none

/-- What snapshots write, and what decides about them. -/
structure Replica where
  mEntities : ExtTreeMap UInt32 Replicated
  mTimeOfDay : UInt32
  mLastSnapshotSequence : UInt32
  mSnapshotsReceived : UInt32
  mDelayedIncoming : List DelayedPacket
  mFakeLatency : ℚ

def replica (c : NetClient) : Replica :=
  ⟨c.mEntities, c.mTimeOfDay, c.mLastSnapshotSequence, c.mSnapshotsReceived, c.mDelayedIncoming,
    c.mFakeLatency⟩

theorem replica_of_transmits {c c' : NetClient} (h : Transmits c c') : replica c' = replica c := by
  obtain ⟨_, _, rfl⟩ := h
  rfl

theorem replica_of_negotiates {c c' : NetClient} (h : Negotiates c c') :
    replica c' = replica c := by
  have htraffic := h.traffic
  simp only [traffic, Prod.mk.injEq] at htraffic
  obtain ⟨hentities, htime, hsequence, hreceived, hincoming, -, hlatency⟩ := htraffic
  simp only [replica, hentities, htime, hsequence, hreceived, hincoming, hlatency]

theorem negotiates_greet (c : NetClient) (now : ℚ) : Negotiates c (greet c now) := by
  simp only [greet]
  split
  · refine (negotiates_sendUdpHello c).trans ?_
    exact Negotiates.of_eq rfl rfl
  · exact Negotiates.refl c

theorem handleAuth_datagrams (c : NetClient) (os : Os) (datagrams : List (Address × Bytes))
    (messages : List Message) :
    c.handleAuth { os with datagrams := datagrams } messages = c.handleAuth os messages := by
  induction messages with
  | nil => rfl
  | cons m rest ih =>
      simp only [handleAuth]
      split
      · exact ih
      · rfl

theorem pumpAuth_datagrams (c : NetClient) (os : Os) (datagrams : List (Address × Bytes)) :
    c.pumpAuth { os with datagrams := datagrams } = c.pumpAuth os := by
  simp only [pumpAuth, handleAuth_datagrams]

theorem negotiates_heard {c d : NetClient} {now : ℚ} {os : Os} (h : heard c now os = some d) :
    Negotiates c d := by
  obtain ⟨stream, -, hd⟩ := Option.bind_eq_some_iff.mp h
  dsimp only at hd
  split at hd
  · obtain rfl := Option.some.inj hd
    refine Negotiates.trans ?_ (negotiates_handleWorld _ now _ _)
    exact Negotiates.of_eq rfl rfl
  · cases hd

theorem negotiates_turn {c d : NetClient} {now : ℚ} {os : Os} (h : turn c now os = some d) :
    Negotiates c d := by
  simp only [turn] at h
  split at h
  · obtain ⟨e, he, hd⟩ := Option.bind_eq_some_iff.mp h
    split at hd
    · obtain rfl := Option.some.inj hd
      have hstamp : Negotiates c { c with mLastPollTime := now } := Negotiates.of_eq rfl rfl
      exact (hstamp.trans (negotiates_heard he)).trans (negotiates_greet e now)
    · cases hd
  · cases h

/-- The world pump: the messages, and in the world the datagrams. -/
theorem pumpWorld_eq (c : NetClient) (now : ℚ) (os : Os) :
    c.pumpWorld now os = match heard c now os with
      | none => c.fail "world server closed the connection"
      | some d =>
          if d.mState = .inWorld then
            ((greet d now).receiveDatagrams now os.datagrams).flushDelayed now
          else d := by
  simp only [pumpWorld, heard]
  cases hstream : c.mWorld with
  | none => rfl
  | some stream =>
      simp only [Option.bind_some]
      cases hopen : (stream.pump os.arriving os.receives).2.2 with
      | false => simp
      | true =>
          simp only [Bool.not_true, Bool.false_eq_true, if_false, if_true, ne_eq, ite_not]
          rfl

theorem poll_of_joined {c : NetClient} (h : c.mState = .awaitingJoin ∨ c.mState = .inWorld) (now : ℚ)
    (os : Os) : c.poll now os = NetClient.pumpWorld { c with mLastPollTime := now } now os := by
  simp only [poll]
  rcases h with h | h
  · simp only [h]
  · simp only [h]

/-- A poll that gets to its datagrams. -/
theorem poll_of_turn {c d : NetClient} {now : ℚ} {os : Os} (h : turn c now os = some d) :
    c.poll now os = (d.receiveDatagrams now os.datagrams).flushDelayed now := by
  simp only [turn] at h
  split at h
  · rename_i hjoined
    obtain ⟨e, he, hd⟩ := Option.bind_eq_some_iff.mp h
    split at hd
    · rename_i hworld
      obtain rfl := Option.some.inj hd
      rw [poll_of_joined hjoined, pumpWorld_eq, he]
      exact if_pos hworld
    · cases hd
  · cases h

/-- The messages alone, of a poll that does not get to its datagrams. -/
theorem pumpWorld_of_no_turn {c : NetClient} {now : ℚ} {os : Os} (h : turn c now os = none)
    (hjoined : c.mState = .awaitingJoin ∨ c.mState = .inWorld) (datagrams : List (Address × Bytes)) :
    NetClient.pumpWorld { c with mLastPollTime := now } now { os with datagrams := datagrams } =
      (heard { c with mLastPollTime := now } now os).getD
        (NetClient.fail { c with mLastPollTime := now } "world server closed the connection") := by
  rw [turn, if_pos hjoined] at h
  rw [pumpWorld_eq]
  have hsame : heard { c with mLastPollTime := now } now { os with datagrams := datagrams } =
      heard { c with mLastPollTime := now } now os := rfl
  rw [hsame]
  cases he : heard { c with mLastPollTime := now } now os with
  | none => rfl
  | some e =>
      rw [he, Option.bind_some] at h
      split at h
      · cases h
      · rename_i hworld
        exact if_neg hworld

/-- A poll that does not leaves them, and everything that snapshots write. -/
theorem poll_of_no_turn {c : NetClient} {now : ℚ} {os : Os} (h : turn c now os = none) :
    replica (c.poll now os) = replica c ∧
      ∀ datagrams, c.poll now { os with datagrams := datagrams } = c.poll now os := by
  by_cases hjoined : c.mState = .awaitingJoin ∨ c.mState = .inWorld
  · have hpoll : ∀ datagrams, c.poll now { os with datagrams := datagrams } =
        (heard { c with mLastPollTime := now } now os).getD
          (NetClient.fail { c with mLastPollTime := now } "world server closed the connection") :=
      fun datagrams => (poll_of_joined hjoined now _).trans (pumpWorld_of_no_turn h hjoined datagrams)
    refine ⟨?_, fun datagrams => (hpoll datagrams).trans (hpoll os.datagrams).symm⟩
    rw [show c.poll now os = c.poll now { os with datagrams := os.datagrams } from rfl, hpoll]
    cases he : heard { c with mLastPollTime := now } now os with
    | none => rfl
    | some e =>
        have hheard := replica_of_negotiates (negotiates_heard he)
        exact hheard
  · rw [not_or] at hjoined
    simp only [poll]
    split
    · have hauth := replica_of_negotiates
        (negotiates_pollConnectingAuth { c with mLastPollTime := now } os)
      exact ⟨hauth, fun _ => rfl⟩
    · have hauth := replica_of_negotiates (negotiates_pumpAuth { c with mLastPollTime := now } os)
      exact ⟨hauth, pumpAuth_datagrams _ os⟩
    · have hworld := replica_of_negotiates
        (negotiates_pollConnectingWorld { c with mLastPollTime := now } os)
      exact ⟨hworld, fun _ => rfl⟩
    · rename_i hstate
      exact absurd hstate hjoined.1
    · rename_i hstate
      exact absurd hstate hjoined.2
    · exact ⟨rfl, fun _ => rfl⟩
    · exact ⟨rfl, fun _ => rfl⟩

/-- The buffers that the loop looks at: those before the first of size zero. -/
def taken (datagrams : List (Address × Bytes)) : List Bytes :=
  (datagrams.map fun d => receiveFrom d.2).takeWhile (·.length ≠ 0)

theorem receiveDatagrams_eq (c : NetClient) (now : ℚ) (datagrams : List (Address × Bytes)) :
    c.receiveDatagrams now datagrams =
      Lib.Runs.run (fun c buffer => c.handleDatagram now buffer) c (taken datagrams) := by
  induction datagrams generalizing c with
  | nil => rfl
  | cons d rest ih =>
      simp only [receiveDatagrams, taken, List.map_cons, List.takeWhile_cons, ne_eq]
      split
      · rename_i hempty
        simp [hempty]
      · rename_i hsome
        simp only [hsome, not_false_eq_true, decide_true, if_true, Lib.Runs.run_cons]
        exact ih _

/-- The number of a snapshot, if the header says that the datagram is one. -/
def snapshotNumber (buffer : Bytes) : Option UInt32 :=
  (readUdpHeader buffer).bind fun (header, _) =>
    if WorldMessage.ofU16 header.type = some .snapshot then some header.sequence else none

/-- Anything else is passed over. -/
theorem handleDatagram_of_other {buffer : Bytes} (h : snapshotNumber buffer = none) (c : NetClient)
    (now : ℚ) : c.handleDatagram now buffer = c := by
  simp only [handleDatagram]
  split
  · rfl
  · rename_i header bodyOffset hheader
    rw [snapshotNumber, hheader, Option.bind_some] at h
    dsimp only at h
    split
    · rfl
    · rename_i htype
      rw [if_pos (not_not.mp htype)] at h
      cases h

/-- A snapshot is passed over, held back or applied. -/
theorem handleDatagram_of_snapshot {buffer : Bytes} {n : UInt32} (h : snapshotNumber buffer = some n)
    (c : NetClient) (now : ℚ) : ∃ header bodyOffset,
    readUdpHeader buffer = some (header, bodyOffset) ∧ header.sequence = n ∧
      c.handleDatagram now buffer =
        if 0 < c.mSnapshotsReceived ∧ n ≤ c.mLastSnapshotSequence then c
        else if 0 < c.mFakeLatency then
          { c with
            mDelayedIncoming :=
              c.mDelayedIncoming ++ [⟨now + c.mFakeLatency, buffer.drop bodyOffset⟩]
            mLastSnapshotSequence := n }
        else c.applySnapshotPacket (buffer.drop bodyOffset) n now := by
  obtain ⟨⟨header, bodyOffset⟩, hheader, hn⟩ := Option.bind_eq_some_iff.mp h
  dsimp only at hn
  split at hn
  · rename_i htype
    obtain rfl := Option.some.inj hn
    refine ⟨header, bodyOffset, hheader, rfl, ?_⟩
    simp only [handleDatagram, hheader, htype, ne_eq, not_true_eq_false, if_false,
      Bool.and_eq_true, decide_eq_true_eq]
  · cases hn

end UntitledGame.Client.UdpTurn
