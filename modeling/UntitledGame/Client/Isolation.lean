import UntitledGame.Client.Session
import UntitledGame.Client.Staleness

/-!
# Datagrams from strangers

The client asks the socket who sent a datagram, and does not look at the answer.
`Port` puts the queue of the UDP socket beside the client, so that a run says
which datagrams arrived, from where, before which poll.

`isolated` compares two runs with the same datagrams from the server: if every
other datagram is one that the loop passes over anyway, they end in the same
client.
-/

namespace UntitledGame.Client.Isolation

open Net NetClient UdpTurn Session

/-- The client, and the datagrams that wait in its UDP socket. -/
structure Port where
  client : NetClient
  queue : List (Address × Bytes)

/-- One of the messages that this poll reads is a join response, which opens a new socket. -/
def rejoins (c : NetClient) (os : Os) : Bool :=
  c.mWorld.any fun stream =>
    (stream.pump os.arriving os.receives).1.drain.1.any fun m =>
      WorldMessage.ofU16 m.type = some .joinResponse

/-- What the socket holds when a poll gets to it: `os.datagrams` are those that have arrived
since the last call. -/
def pending (s : Port) (os : Os) : List (Address × Bytes) :=
  (if rejoins s.client os then [] else s.queue) ++ os.datagrams

/-- What stays behind a datagram of size zero, at which the loop stops. -/
def leftover (datagrams : List (Address × Bytes)) : List (Address × Bytes) :=
  (datagrams.dropWhile fun d => (receiveFrom d.2).length ≠ 0).tail

def step (s : Port) : Call → Port
  | .poll now os =>
      let c := s.client.poll now { os with datagrams := pending s os }
      let rest := if (turn s.client now os).isSome then leftover (pending s os) else pending s os
      ⟨c, if c.mUdp then rest else []⟩
  | e =>
      let c := call s.client e
      ⟨c, if c.mUdp then s.queue else []⟩

def start (mFakeLatency mFakeLoss : ℚ) : Port := ⟨NetClient.init mFakeLatency mFakeLoss, []⟩

/-- The server that the client talks to when it gets to its datagrams. -/
def target (c : NetClient) (now : ℚ) (os : Os) : Address :=
  ((turn c now os).getD c).mUdpTarget

/-- The same call, without the datagrams of others. -/
def withoutOthers (s : Port) : Call → Call
  | .poll now os =>
      .poll now { os with datagrams := os.datagrams.filter (·.1 = target s.client now os) }
  | e => e

/-- The same port, without the datagrams of others. -/
def genuine (s : Port) : Port := ⟨s.client, s.queue.filter (·.1 = s.client.mUdpTarget)⟩

/-- A datagram that the loop passes over. -/
def Harmless (c : NetClient) (buffer : Bytes) : Prop :=
  ∀ n ∈ snapshotNumber buffer, (0 < c.mSnapshotsReceived ∧ n ≤ c.mLastSnapshotSequence) ∨
    (c.mFakeLatency ≤ 0 ∧ (Replication.parse buffer).isNone)

instance (c : NetClient) (buffer : Bytes) : Decidable (Harmless c buffer) :=
  Option.decidableForallMem (snapshotNumber buffer)

/-- Whatever comes from others is passed over, in the state in which the loop comes to it; where
it stops the loop, nothing from the server is behind it. -/
def Undisturbed (server : Address) (now : ℚ) : NetClient → List (Address × Bytes) → Prop
  | _, [] => True
  | c, (sender, datagram) :: rest =>
      if (receiveFrom datagram).length = 0 then sender = server ∨ ∀ d ∈ rest, d.1 ≠ server
      else (sender = server ∨ Harmless c (receiveFrom datagram)) ∧
        Undisturbed server now (c.handleDatagram now (receiveFrom datagram)) rest

instance decidableUndisturbed (server : Address) (now : ℚ) :
    ∀ (c : NetClient) (datagrams : List (Address × Bytes)),
      Decidable (Undisturbed server now c datagrams)
  | _, [] => inferInstanceAs (Decidable True)
  | c, (_, datagram) :: rest =>
      have := decidableUndisturbed server now (c.handleDatagram now (receiveFrom datagram)) rest
      inferInstanceAs (Decidable (if (receiveFrom datagram).length = 0 then _ else _))

/-- In this call no datagram of others makes a difference. -/
def Quiet (s : Port) : Call → Prop
  | .poll now os => ∀ d ∈ turn s.client now os, Undisturbed d.mUdpTarget now d (pending s os)
  | _ => True

instance (s : Port) : ∀ e : Call, Decidable (Quiet s e)
  | .poll now os => inferInstanceAs (Decidable (∀ d ∈ turn s.client now os, _))
  | .login _ _ _ _ => inferInstanceAs (Decidable True)
  | .sendInput _ _ => inferInstanceAs (Decidable True)
  | .logout => inferInstanceAs (Decidable True)

section Loop

theorem handleDatagram_of_harmless {c : NetClient} {buffer : Bytes} (h : Harmless c buffer)
    (now : ℚ) : c.handleDatagram now buffer = c := by
  cases hn : snapshotNumber buffer with
  | none => exact handleDatagram_of_other hn c now
  | some n =>
      obtain ⟨header, bodyOffset, hheader, -, heq⟩ := handleDatagram_of_snapshot hn c now
      rcases h n hn with hold | ⟨hlatency, hbody⟩
      · rw [heq, if_pos hold]
      · rw [Replication.parse, hheader] at hbody
        have hdecode : decodeSnapshot (buffer.drop bodyOffset) = none := by simpa using hbody
        rw [if_neg (not_lt.mpr hlatency)] at heq
        simp only [applySnapshotPacket, hdecode, ite_self] at heq
        exact heq

theorem leftover_cons_empty {d : Address × Bytes} (h : (receiveFrom d.2).length = 0)
    (rest : List (Address × Bytes)) : leftover (d :: rest) = rest := by
  rw [leftover, List.dropWhile_cons_of_neg (by simp [h]), List.tail_cons]

theorem leftover_cons {d : Address × Bytes} (h : (receiveFrom d.2).length ≠ 0)
    (rest : List (Address × Bytes)) : leftover (d :: rest) = leftover rest := by
  rw [leftover, List.dropWhile_cons_of_pos (by simp [h])]
  rfl

theorem receiveDatagrams_cons_empty {d : Address × Bytes} (h : (receiveFrom d.2).length = 0)
    (c : NetClient) (now : ℚ) (rest : List (Address × Bytes)) :
    c.receiveDatagrams now (d :: rest) = c :=
  if_pos h

theorem receiveDatagrams_cons {d : Address × Bytes} (h : (receiveFrom d.2).length ≠ 0)
    (c : NetClient) (now : ℚ) (rest : List (Address × Bytes)) :
    c.receiveDatagrams now (d :: rest) =
      (c.handleDatagram now (receiveFrom d.2)).receiveDatagrams now rest :=
  if_neg h

/-- The loop sees only the datagrams of the server. -/
theorem receiveDatagrams_undisturbed {server : Address} {now : ℚ} {c : NetClient}
    {datagrams : List (Address × Bytes)} (h : Undisturbed server now c datagrams) :
    c.receiveDatagrams now (datagrams.filter (·.1 = server)) = c.receiveDatagrams now datagrams ∧
      leftover (datagrams.filter (·.1 = server)) = (leftover datagrams).filter (·.1 = server) := by
  induction datagrams generalizing c with
  | nil => exact ⟨rfl, rfl⟩
  | cons d rest ih =>
      simp only [Undisturbed] at h
      by_cases hempty : (receiveFrom d.2).length = 0
      · rw [if_pos hempty] at h
        rw [receiveDatagrams_cons_empty hempty, leftover_cons_empty hempty]
        by_cases hsender : d.1 = server
        · rw [List.filter_cons_of_pos (by simpa using hsender)]
          exact ⟨receiveDatagrams_cons_empty hempty c now _, leftover_cons_empty hempty _⟩
        · have hnone : rest.filter (·.1 = server) = [] := by
            simpa using h.resolve_left hsender
          rw [List.filter_cons_of_neg (by simpa using hsender), hnone]
          exact ⟨rfl, rfl⟩
      · rw [if_neg hempty] at h
        obtain ⟨hloop, hleft⟩ := ih h.2
        rw [receiveDatagrams_cons hempty, leftover_cons hempty, ← hloop, ← hleft]
        by_cases hsender : d.1 = server
        · rw [List.filter_cons_of_pos (by simpa using hsender)]
          exact ⟨receiveDatagrams_cons hempty c now _, leftover_cons hempty _⟩
        · rw [List.filter_cons_of_neg (by simpa using hsender),
            handleDatagram_of_harmless (h.1.resolve_left hsender)]
          exact ⟨rfl, rfl⟩

end Loop

section Target

theorem target_of_transmits {c c' : NetClient} (h : Transmits c c') :
    c'.mUdpTarget = c.mUdpTarget := by
  obtain ⟨_, _, rfl⟩ := h
  rfl

theorem target_of_receives {c c' : NetClient} (h : Receives c c') :
    c'.mUdpTarget = c.mUdpTarget := by
  obtain ⟨_, _, _, _, _, _, rfl⟩ := h
  rfl

/-- Neither the datagrams nor the packets that are due move the client to another server. -/
theorem target_datagrams (c : NetClient) (now : ℚ) (datagrams : List (Address × Bytes)) :
    ((c.receiveDatagrams now datagrams).flushDelayed now).mUdpTarget = c.mUdpTarget := by
  rw [flushDelayed, target_of_receives (receives_flushIncoming _ now),
    target_of_transmits (transmits_flushOutgoing _ now),
    target_of_receives (receives_receiveDatagrams c now datagrams)]

theorem target_handleWorld {messages : List Message}
    (h : ∀ m ∈ messages, WorldMessage.ofU16 m.type ≠ some .joinResponse) (c : NetClient) (now : ℚ)
    (udpOpens : List (Bool × Option Address)) :
    (c.handleWorld now udpOpens messages).mUdpTarget = c.mUdpTarget := by
  induction messages generalizing c udpOpens with
  | nil => rfl
  | cons m rest ih =>
      simp only [handleWorld]
      split
      · rename_i hjoin
        exact absurd hjoin (h m List.mem_cons_self)
      · rfl
      · exact ih (fun m hm => h m (List.mem_cons_of_mem _ hm)) c udpOpens

/-- Without a join response a poll stays with its server. -/
theorem target_turn {c d : NetClient} {now : ℚ} {os : Os} (h : turn c now os = some d)
    (hjoin : rejoins c os = false) : d.mUdpTarget = c.mUdpTarget := by
  simp only [turn] at h
  split at h
  · obtain ⟨e, he, hd⟩ := Option.bind_eq_some_iff.mp h
    obtain ⟨stream, hstream, hheard⟩ := Option.bind_eq_some_iff.mp he
    have hstream' : c.mWorld = some stream := hstream
    rw [rejoins, hstream', Option.any_some] at hjoin
    have hnone : ∀ m ∈ (stream.pump os.arriving os.receives).1.drain.1,
        WorldMessage.ofU16 m.type ≠ some .joinResponse := by
      simpa using hjoin
    dsimp only at hheard
    split at hheard
    · obtain rfl := Option.some.inj hheard
      split at hd
      · obtain rfl := Option.some.inj hd
        have hgreet : ∀ e : NetClient, (greet e now).mUdpTarget = e.mUdpTarget := by
          intro e
          simp only [greet]
          split
          · have hhello := target_of_transmits (transmits_sendUdpHello e)
            exact hhello
          · rfl
        rw [hgreet]
        exact target_handleWorld hnone _ now _
      · cases hd
    · cases hheard
  · cases h

end Target

section Step

theorem handleAuth_state {c : NetClient} (h : c.mState ≠ .inWorld) (os : Os)
    (messages : List Message) : (c.handleAuth os messages).mState ≠ .inWorld := by
  induction messages with
  | nil => exact h
  | cons m rest ih =>
      simp only [handleAuth]
      split
      · exact ih
      · simp only [handleLoginResponse]
        split
        · exact State.noConfusion
        · split
          · exact State.noConfusion
          · split
            · exact State.noConfusion
            · split
              · exact State.noConfusion
              · exact State.noConfusion

/-- A poll that does not get to its datagrams does not end in the world. -/
theorem poll_state_of_no_turn {c : NetClient} {now : ℚ} {os : Os} (h : turn c now os = none) :
    (c.poll now os).mState ≠ .inWorld := by
  by_cases hjoined : c.mState = .awaitingJoin ∨ c.mState = .inWorld
  · have hmessages := pumpWorld_of_no_turn h hjoined os.datagrams
    rw [poll_of_joined hjoined, show os = { os with datagrams := os.datagrams } from rfl, hmessages]
    rw [turn, if_pos hjoined] at h
    cases he : heard { c with mLastPollTime := now } now os with
    | none => exact State.noConfusion
    | some e =>
        rw [he, Option.bind_some] at h
        split at h
        · cases h
        · rename_i hworld
          exact hworld
  · rw [not_or] at hjoined
    simp only [poll]
    split
    · rename_i hstate
      simp only [pollConnectingAuth]
      split
      · simp [hstate]
      · split
        · exact State.noConfusion
        · exact State.noConfusion
    · rename_i hstate
      simp only [pumpAuth]
      split
      · exact State.noConfusion
      · split
        · exact State.noConfusion
        · exact handleAuth_state (by simp [hstate]) os _
    · rename_i hstate
      simp only [pollConnectingWorld]
      split
      · simp [hstate]
      · split
        · exact State.noConfusion
        · exact State.noConfusion
    · rename_i hstate
      exact absurd hstate hjoined.1
    · rename_i hstate
      exact absurd hstate hjoined.2
    · rename_i hstate
      simp [hstate]
    · rename_i hstate
      simp [hstate]

theorem udp_of_tidy {c : NetClient} (h : Tidy c) (hstate : c.mState ≠ .inWorld) :
    c.mUdp = false := by
  have hopen : (sockets c).udp = (needed c.mState).udp := congrArg Sockets.udp h
  cases hc : c.mState with
  | inWorld => exact absurd hc hstate
  | idle | connectingAuth | awaitingLogin | connectingWorld | awaitingJoin | failed =>
      rw [hc] at hopen
      exact hopen

theorem tidy_step (s : Port) (e : Call) (h : Tidy s.client) : Tidy (step s e).client := by
  cases e with
  | login host username password os => exact tidy_login s.client host username password os
  | poll now os => exact tidy_poll h now _
  | sendInput input dropped => 
      exact h.of_status (status_of_transmits (transmits_sendInput s.client input dropped))
  | logout => exact tidy_disconnect s.client

theorem udp_login (c : NetClient) (host : String) (username password : Bytes) (os : Os) :
    (c.login host username password os).mUdp = false := by
  simp only [login]
  split
  · rfl
  · split
    · rfl
    · rfl

/-- Neither question is about the datagrams. -/
theorem turn_datagrams (c : NetClient) (now : ℚ) (os : Os) (datagrams : List (Address × Bytes)) :
    turn c now { os with datagrams := datagrams } = turn c now os := rfl

theorem rejoins_datagrams (c : NetClient) (os : Os) (datagrams : List (Address × Bytes)) :
    rejoins c { os with datagrams := datagrams } = rejoins c os := rfl

/-- Of what the socket holds, the server's part. -/
theorem pending_genuine {s : Port} {d : NetClient} {now : ℚ} {os : Os}
    (h : turn s.client now os = some d) :
    pending (genuine s) { os with datagrams := os.datagrams.filter (·.1 = target s.client now os) } =
      (pending s os).filter (·.1 = d.mUdpTarget) := by
  have htarget : target s.client now os = d.mUdpTarget := by rw [target, h, Option.getD_some]
  simp only [pending, genuine, rejoins_datagrams, htarget, List.filter_append]
  cases hjoin : rejoins s.client os with
  | true => simp
  | false => simp [target_turn h hjoin]

/-- A step without the datagrams of others leads to the same port, without theirs. -/
theorem step_genuine (s : Port) (e : Call) (htidy : Tidy s.client) (h : Quiet s e) :
    step (genuine s) (withoutOthers s e) = genuine (step s e) := by
  cases e with
  | login host username password os =>
      simp [step, withoutOthers, genuine, call, udp_login]
  | poll now os =>
      cases hturn : turn s.client now os with
      | none =>
          have hsame := (poll_of_no_turn hturn).2
          have hudp := udp_of_tidy (tidy_poll htidy now os) (poll_state_of_no_turn hturn)
          simp [step, withoutOthers, genuine, hsame, hudp]
      | some d =>
          have hpending := pending_genuine hturn
          obtain ⟨hloop, hleft⟩ := receiveDatagrams_undisturbed (h d hturn)
          have hpoll := fun datagrams => poll_of_turn ((turn_datagrams _ _ _ datagrams).trans hturn)
          simp only [step, withoutOthers, hpending, turn_datagrams]
          simp only [genuine, hpoll, hloop, hleft, hturn, target_datagrams]
          split
          · rfl
          · rfl
  | sendInput input dropped =>
      have hqueue : ∀ open_ : Bool,
          (if open_ then s.queue.filter (·.1 = s.client.mUdpTarget) else []) =
            (if open_ then s.queue else []).filter (·.1 = s.client.mUdpTarget) := by
        intro open_
        cases open_ with
        | true => rfl
        | false => rfl
      simp only [step, withoutOthers, genuine, call,
        target_of_transmits (transmits_sendInput s.client input dropped)]
      exact congrArg (Port.mk _) (hqueue _)
  | logout => rfl

/-- Two runs with the same datagrams from the server, in which whatever comes from others is
passed over, end in the same client. -/
theorem isolated (mFakeLatency mFakeLoss : ℚ) (calls calls' : List Call)
    (hsame : Lib.Runs.edited step withoutOthers (start mFakeLatency mFakeLoss) calls =
      Lib.Runs.edited step withoutOthers (start mFakeLatency mFakeLoss) calls')
    (hquiet : Lib.Runs.Along step Quiet (start mFakeLatency mFakeLoss) calls)
    (hquiet' : Lib.Runs.Along step Quiet (start mFakeLatency mFakeLoss) calls') :
    (Lib.Runs.run step (start mFakeLatency mFakeLoss) calls).client =
      (Lib.Runs.run step (start mFakeLatency mFakeLoss) calls').client := by
  have htidy : Tidy (start mFakeLatency mFakeLoss).client := rfl
  have hview := Lib.Runs.run_edited tidy_step step_genuine htidy hquiet
  have hview' := Lib.Runs.run_edited tidy_step step_genuine htidy hquiet'
  have hend : genuine (Lib.Runs.run step (start mFakeLatency mFakeLoss) calls) =
      genuine (Lib.Runs.run step (start mFakeLatency mFakeLoss) calls') := by
    rw [← hview, ← hview', hsame]
  exact (Port.mk.inj hend).1

end Step

section Strangers

open Client.Numbering Staleness

def stranger : Address := ⟨0x0A000001, 4000⟩

/-- A datagram with no header, and one that repeats a number. -/
def passedOver : List (Address × Bytes) :=
  [(stranger, [1, 2, 3]), (stranger, Replication.snapshotPacket 3 ⟨9, 0, 9, []⟩)]

def forged : Address × Bytes := (stranger, Replication.snapshotPacket 4000000000 ⟨9, 0, 9, []⟩)

theorem isolated_passedOver :
    (Lib.Runs.run step (start 0 0)
        (joining [numbered 3] ++ [later 1 (passedOver ++ [numbered 4])])).client =
      (Lib.Runs.run step (start 0 0) (joining [numbered 3] ++ [later 1 [numbered 4]])).client :=
  isolated 0 0 _ _ (by decide +kernel) (by decide +kernel) (by decide +kernel)

/-- One forged snapshot sets the clock of the client, and the next one from the server is
dropped. -/
theorem forged_snapshot_applied :
    let calls := joining [numbered 3] ++ [later 1 [forged], later 2 [numbered 4]]
    let calls' := joining [numbered 3] ++ [later 1 [], later 2 [numbered 4]]
    let c := (Lib.Runs.run step (start 0 0) calls).client
    let c' := (Lib.Runs.run step (start 0 0) calls').client
    Lib.Runs.edited step withoutOthers (start 0 0) calls =
        Lib.Runs.edited step withoutOthers (start 0 0) calls' ∧
      (c.mTimeOfDay, c.mLastSnapshotSequence, c.mSnapshotsReceived) = (9, 4000000000, 2) ∧
      (c'.mTimeOfDay, c'.mLastSnapshotSequence, c'.mSnapshotsReceived) = (4, 4, 2) := by
  decide +kernel

end Strangers

end UntitledGame.Client.Isolation
