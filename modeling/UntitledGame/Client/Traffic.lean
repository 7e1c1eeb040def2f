import UntitledGame.Client.NetClient

/-!
# What the parts of a poll leave alone

A poll of `NetClient` deals with the two servers over TCP, and in the world it also
receives and sends datagrams. Each part writes its own fields: what a poll does to
the rest of the client is said once here, by a relation between the client before
and after (`Negotiates`, `Transmits`, `Receives`).
-/

namespace UntitledGame.Client.NetClient

open Net

section Negotiating

/-- What snapshots write and the queues of the simulated latency. -/
def traffic (c : NetClient) :
    Std.ExtTreeMap UInt32 Replicated × UInt32 × UInt32 × UInt32 × List DelayedPacket ×
      List DelayedPacket × ℚ :=
  (c.mEntities, c.mTimeOfDay, c.mLastSnapshotSequence, c.mSnapshotsReceived, c.mDelayedIncoming,
    c.mDelayedOutgoing, c.mFakeLatency)

/-- From `c` to `c'` the session may have changed, but nothing was received or held back, and
nothing was sent but hellos. -/
structure Negotiates (c c' : NetClient) : Prop where
  traffic : traffic c' = traffic c
  outbox : ∃ hellos, c'.outbox = c.outbox ++ hellos ∧
    ∀ d ∈ hellos, ∃ playerId token, d.2 = helloPacket playerId token

theorem Negotiates.of_eq {c c' : NetClient} (h : NetClient.traffic c' = NetClient.traffic c)
    (houtbox : c'.outbox = c.outbox) : Negotiates c c' :=
  ⟨h, [], by rw [houtbox, List.append_nil], by simp⟩

theorem Negotiates.refl (c : NetClient) : Negotiates c c := Negotiates.of_eq rfl rfl

theorem Negotiates.trans {c d e : NetClient} (h : Negotiates c d) (k : Negotiates d e) :
    Negotiates c e := by
  obtain ⟨first, hfirst, hhello⟩ := h.outbox
  obtain ⟨second, hsecond, hhello'⟩ := k.outbox
  refine ⟨k.traffic.trans h.traffic, first ++ second, ?_, fun d hd => ?_⟩
  · rw [hsecond, hfirst, List.append_assoc]
  · cases List.mem_append.mp hd with
    | inl hd => exact hhello d hd
    | inr hd => exact hhello' d hd

theorem negotiates_fail (c : NetClient) (message : String) : Negotiates c (c.fail message) :=
  Negotiates.of_eq rfl rfl

theorem negotiates_sendUdpHello (c : NetClient) : Negotiates c c.sendUdpHello := by
  simp only [sendUdpHello, sendTo]
  split
  · refine ⟨rfl, [(c.mUdpTarget, helloPacket c.mPlayerId c.mToken)], rfl, fun d hd => ?_⟩
    obtain rfl := List.mem_singleton.mp hd
    exact ⟨_, _, rfl⟩
  · exact Negotiates.refl c

theorem negotiates_pollConnectingAuth (c : NetClient) (os : Os) :
    Negotiates c (c.pollConnectingAuth os) := by
  simp only [pollConnectingAuth]
  split
  · exact Negotiates.refl c
  · split
    · exact negotiates_fail c _
    · exact Negotiates.of_eq rfl rfl

theorem negotiates_pollConnectingWorld (c : NetClient) (os : Os) :
    Negotiates c (c.pollConnectingWorld os) := by
  simp only [pollConnectingWorld]
  split
  · exact Negotiates.refl c
  · split
    · exact negotiates_fail c _
    · exact Negotiates.of_eq rfl rfl

theorem negotiates_handleAuth (c : NetClient) (os : Os) (messages : List Message) :
    Negotiates c (c.handleAuth os messages) := by
  induction messages with
  | nil => exact Negotiates.refl c
  | cons m rest ih =>
      simp only [handleAuth]
      split
      · exact ih
      · simp only [handleLoginResponse]
        split
        · exact Negotiates.of_eq rfl rfl
        · split
          · exact Negotiates.of_eq rfl rfl
          · split
            · exact Negotiates.of_eq rfl rfl
            · split
              · exact Negotiates.of_eq rfl rfl
              · exact Negotiates.of_eq rfl rfl

theorem negotiates_pumpAuth (c : NetClient) (os : Os) : Negotiates c (c.pumpAuth os) := by
  simp only [pumpAuth]
  split
  · exact negotiates_fail c _
  · split
    · exact negotiates_fail c _
    · refine Negotiates.trans ?_ (negotiates_handleAuth _ os _)
      exact Negotiates.of_eq rfl rfl

theorem negotiates_handleJoinResponse (c : NetClient) (now : ℚ) (udpOpen : Bool × Option Address)
    (payload : Bytes) : Negotiates c (c.handleJoinResponse now udpOpen payload) := by
  simp only [handleJoinResponse]
  split
  · exact Negotiates.of_eq rfl rfl
  · split
    · exact Negotiates.of_eq rfl rfl
    · split
      · exact Negotiates.of_eq rfl rfl
      · split
        · exact Negotiates.of_eq rfl rfl
        · refine Negotiates.trans ?_ ((negotiates_sendUdpHello _).trans (Negotiates.of_eq rfl rfl))
          exact Negotiates.of_eq rfl rfl

theorem negotiates_handleWorld (c : NetClient) (now : ℚ) (udpOpens : List (Bool × Option Address))
    (messages : List Message) : Negotiates c (c.handleWorld now udpOpens messages) := by
  induction messages generalizing c udpOpens with
  | nil => exact Negotiates.refl c
  | cons m rest ih =>
      simp only [handleWorld]
      split
      · have hjoin := negotiates_handleJoinResponse c now (udpOpens.headD (false, none)) m.payload
        split
        · exact hjoin
        · exact hjoin.trans (ih _ _)
      · exact negotiates_fail c _
      · exact ih c udpOpens

/-- The repeated hello, and then the datagrams. -/
theorem pumpUdp_cases (c : NetClient) (now : ℚ) (datagrams : List (Address × Bytes)) :
    ∃ d, Negotiates c d ∧
      c.pumpUdp now datagrams = (d.receiveDatagrams now datagrams).flushDelayed now := by
  have hgreeted : Negotiates c { c.sendUdpHello with mLastHelloAt := now } := by
    refine (negotiates_sendUdpHello c).trans ?_
    exact Negotiates.of_eq rfl rfl
  simp only [pumpUdp]
  split
  · exact ⟨_, hgreeted, rfl⟩
  · exact ⟨c, Negotiates.refl c, rfl⟩

theorem pumpWorld_cases (c : NetClient) (now : ℚ) (os : Os) :
    ∃ d, Negotiates c d ∧ (c.pumpWorld now os = d ∨
      c.pumpWorld now os = (d.receiveDatagrams now os.datagrams).flushDelayed now) := by
  simp only [pumpWorld]
  split
  · exact ⟨_, negotiates_fail c _, Or.inl rfl⟩
  · split
    · exact ⟨_, negotiates_fail c _, Or.inl rfl⟩
    · have hmessages : ∀ (s : MessageStream) (messages : List Message), Negotiates c
          (({ c with mWorld := some s } : NetClient).handleWorld now os.udpOpens messages) := by
        intro s messages
        refine Negotiates.trans ?_ (negotiates_handleWorld _ now _ messages)
        exact Negotiates.of_eq rfl rfl
      split
      · exact ⟨_, hmessages _ _, Or.inl rfl⟩
      · obtain ⟨d, hd, heq⟩ := pumpUdp_cases _ now os.datagrams
        exact ⟨d, (hmessages _ _).trans hd, Or.inr heq⟩

/-- A poll negotiates, and in the world it then turns to its datagrams. -/
theorem poll_cases (c : NetClient) (now : ℚ) (os : Os) :
    ∃ d, Negotiates c d ∧ (c.poll now os = d ∨
      c.poll now os = (d.receiveDatagrams now os.datagrams).flushDelayed now) := by
  have hstamp : Negotiates c { c with mLastPollTime := now } := Negotiates.of_eq rfl rfl
  have hworld : ∃ d, Negotiates c d ∧
      (NetClient.pumpWorld { c with mLastPollTime := now } now os = d ∨
        NetClient.pumpWorld { c with mLastPollTime := now } now os =
          (d.receiveDatagrams now os.datagrams).flushDelayed now) := by
    obtain ⟨d, hd, heq⟩ := pumpWorld_cases { c with mLastPollTime := now } now os
    exact ⟨d, hstamp.trans hd, heq⟩
  simp only [poll]
  split
  · exact ⟨_, hstamp.trans (negotiates_pollConnectingAuth _ os), Or.inl rfl⟩
  · exact ⟨_, hstamp.trans (negotiates_pumpAuth _ os), Or.inl rfl⟩
  · exact ⟨_, hstamp.trans (negotiates_pollConnectingWorld _ os), Or.inl rfl⟩
  · exact hworld
  · exact hworld
  · exact ⟨_, hstamp, Or.inl rfl⟩
  · exact ⟨_, hstamp, Or.inl rfl⟩

end Negotiating

section Sending

/-- From `c` to `c'` nothing has changed but what was sent and what is held back for sending. -/
def Transmits (c c' : NetClient) : Prop :=
  ∃ packets delayed, c' = { c with outbox := packets, mDelayedOutgoing := delayed }

theorem Transmits.refl (c : NetClient) : Transmits c c := ⟨_, _, rfl⟩

theorem Transmits.trans {c d e : NetClient} (h : Transmits c d) (k : Transmits d e) :
    Transmits c e := by
  obtain ⟨_, _, rfl⟩ := h
  obtain ⟨_, _, rfl⟩ := k
  exact ⟨_, _, rfl⟩

theorem transmits_sendTo (c : NetClient) (packet : Bytes) : Transmits c (c.sendTo packet) := by
  simp only [sendTo]
  split
  · exact ⟨_, _, rfl⟩
  · exact Transmits.refl c

theorem transmits_sendUdpHello (c : NetClient) : Transmits c c.sendUdpHello := transmits_sendTo c _

/-- Packets handed to the socket one after the other. -/
theorem foldl_sendTo (packets : List DelayedPacket) (c : NetClient) :
    ∃ taken : List Bytes, taken.Sublist (packets.map (·.data)) ∧
      packets.foldl (fun c p => c.sendTo p.data) c =
        { c with outbox := c.outbox ++ taken.map (c.mUdpTarget, ·) } := by
  induction packets generalizing c with
  | nil => exact ⟨[], List.Sublist.refl _, by simp⟩
  | cons p packets ih =>
      obtain ⟨taken, hsub, heq⟩ := ih (c.sendTo p.data)
      rw [List.foldl_cons, heq]
      by_cases hudp : c.mUdp
      · exact ⟨p.data :: taken, hsub.cons_cons _, by simp [sendTo, hudp]⟩
      · exact ⟨taken, hsub.cons _, by simp [sendTo, hudp]⟩

theorem transmits_flushOutgoing (c : NetClient) (now : ℚ) : Transmits c (c.flushOutgoing now) := by
  obtain ⟨taken, -, heq⟩ := foldl_sendTo (c.mDelayedOutgoing.takeWhile (·.dueAt ≤ now)) c
  rw [flushOutgoing, heq]
  exact ⟨_, _, rfl⟩

theorem transmits_sendInput (c : NetClient) (input : InputBits) (dropped : Bool) :
    Transmits c (c.sendInput input dropped) := by
  simp only [sendInput]
  split
  · exact Transmits.refl c
  · split
    · exact Transmits.refl c
    · split
      · exact ⟨_, _, rfl⟩
      · exact transmits_sendTo c _

end Sending

section Receiving

/-- From `c` to `c'` only what snapshots bring has changed: the picture of the world, the account
of the snapshots, and the packets held back. -/
def Receives (c c' : NetClient) : Prop :=
  ∃ entities timeOfDay sequence snapshotAt received delayed,
    c' = { c with
      mEntities := entities
      mTimeOfDay := timeOfDay
      mLastSnapshotSequence := sequence
      mLastSnapshotAt := snapshotAt
      mSnapshotsReceived := received
      mDelayedIncoming := delayed }

theorem Receives.refl (c : NetClient) : Receives c c := ⟨_, _, _, _, _, _, rfl⟩

theorem Receives.trans {c d e : NetClient} (h : Receives c d) (k : Receives d e) :
    Receives c e := by
  obtain ⟨_, _, _, _, _, _, rfl⟩ := h
  obtain ⟨_, _, _, _, _, _, rfl⟩ := k
  exact ⟨_, _, _, _, _, _, rfl⟩

theorem receives_applySnapshotPacket (c : NetClient) (data : Bytes) (sequence : UInt32) (now : ℚ) :
    Receives c (c.applySnapshotPacket data sequence now) := by
  simp only [applySnapshotPacket]
  split
  · exact Receives.refl c
  · exact ⟨_, _, _, _, _, _, rfl⟩

theorem receives_handleDatagram (c : NetClient) (now : ℚ) (buffer : Bytes) :
    Receives c (c.handleDatagram now buffer) := by
  simp only [handleDatagram]
  split
  · exact Receives.refl c
  · split
    · exact Receives.refl c
    · split
      · exact Receives.refl c
      · split
        · exact ⟨_, _, _, _, _, _, rfl⟩
        · exact receives_applySnapshotPacket c _ _ now

theorem receives_receiveDatagrams (c : NetClient) (now : ℚ) (datagrams : List (Address × Bytes)) :
    Receives c (c.receiveDatagrams now datagrams) := by
  induction datagrams generalizing c with
  | nil => exact Receives.refl c
  | cons d rest ih =>
      simp only [receiveDatagrams]
      split
      · exact Receives.refl c
      · exact (receives_handleDatagram c now _).trans (ih _)

theorem receives_flushIncoming (c : NetClient) (now : ℚ) : Receives c (c.flushIncoming now) := by
  have happlied : ∀ (packets : List DelayedPacket) (d : NetClient), Receives d (packets.foldl
      (fun c p => c.applySnapshotPacket p.data c.mLastSnapshotSequence now) d) := by
    intro packets
    induction packets with
    | nil => exact fun d => Receives.refl d
    | cons p packets ih => exact fun d => (receives_applySnapshotPacket d _ _ now).trans (ih _)
  exact (happlied _ c).trans ⟨_, _, _, _, _, _, rfl⟩

end Receiving

section Exchanging

/-- From `c` to `c'` only what datagrams bring and take, and the time of the last hello, has
changed. -/
def Exchanges (c c' : NetClient) : Prop :=
  ∃ packets outgoing helloAt entities timeOfDay sequence snapshotAt received incoming,
    c' = { c with
      outbox := packets
      mDelayedOutgoing := outgoing
      mLastHelloAt := helloAt
      mEntities := entities
      mTimeOfDay := timeOfDay
      mLastSnapshotSequence := sequence
      mLastSnapshotAt := snapshotAt
      mSnapshotsReceived := received
      mDelayedIncoming := incoming }

theorem Transmits.exchanges {c c' : NetClient} (h : Transmits c c') : Exchanges c c' := by
  obtain ⟨_, _, rfl⟩ := h
  exact ⟨_, _, _, _, _, _, _, _, _, rfl⟩

theorem Receives.exchanges {c c' : NetClient} (h : Receives c c') : Exchanges c c' := by
  obtain ⟨_, _, _, _, _, _, rfl⟩ := h
  exact ⟨_, _, _, _, _, _, _, _, _, rfl⟩

theorem Exchanges.trans {c d e : NetClient} (h : Exchanges c d) (k : Exchanges d e) :
    Exchanges c e := by
  obtain ⟨_, _, _, _, _, _, _, _, _, rfl⟩ := h
  obtain ⟨_, _, _, _, _, _, _, _, _, rfl⟩ := k
  exact ⟨_, _, _, _, _, _, _, _, _, rfl⟩

theorem exchanges_pumpUdp (c : NetClient) (now : ℚ) (datagrams : List (Address × Bytes)) :
    Exchanges c (c.pumpUdp now datagrams) := by
  have hpumped : ∀ d : NetClient,
      Exchanges d ((d.receiveDatagrams now datagrams).flushDelayed now) := by
    intro d
    have hreceived := (receives_receiveDatagrams d now datagrams).exchanges
    rw [flushDelayed]
    exact hreceived.trans ((transmits_flushOutgoing _ now).exchanges.trans
      (receives_flushIncoming _ now).exchanges)
  simp only [pumpUdp]
  split
  · have hhello := (transmits_sendUdpHello c).exchanges
    exact (hhello.trans ⟨_, _, now, _, _, _, _, _, _, rfl⟩).trans (hpumped _)
  · exact hpumped c

end Exchanging

end UntitledGame.Client.NetClient
