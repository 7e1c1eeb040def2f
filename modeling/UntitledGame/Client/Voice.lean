import UntitledGame.Client.Session
import UntitledGame.Client.UdpTurn

/-!
# What a client in the world puts on the wire

Besides the hellos, which a poll repeats until the first snapshot has been applied,
a client in the world sends inputs. They come from the tick loop, which skips them
unless the application is in the game, and the simulated latency may hold them back.

`frame_voice` is the account of one frame that stays in the world and opens no
further socket: what was sent before stays, everything new is a hello of the session
or an input, and a tick in the game is heard.
-/

namespace UntitledGame.Client.Voice

open Net NetClient Client.Numbering Session UdpTurn

/-- The part of the client that decides what it sends, and what it has sent. -/
def voice (c : NetClient) :
    UInt64 × Bytes × ℚ × ℚ × List (Address × Bytes) × List DelayedPacket :=
  (c.mPlayerId, c.mToken, c.mFakeLatency, c.mFakeLoss, c.outbox, c.mDelayedOutgoing)

def IsInput (packet : Bytes) : Prop := ∃ playerId input, packet = inputPacket playerId input

/-- The packets of a session. -/
def IsOwn (playerId : UInt64) (token : Bytes) (packet : Bytes) : Prop :=
  packet = helloPacket playerId token ∨ IsInput packet

/-- Only inputs are held back. -/
def Queued (c : NetClient) : Prop := ∀ p ∈ c.mDelayedOutgoing, IsInput p.data

/-- From `c` to `c'` the client has gone on with its session. -/
structure Continues (c c' : NetClient) : Prop where
  playerId : c'.mPlayerId = c.mPlayerId
  token : c'.mToken = c.mToken
  latency : c'.mFakeLatency = c.mFakeLatency
  loss : c'.mFakeLoss = c.mFakeLoss
  queued : Queued c → Queued c'
  sent : Queued c → ∃ packets, c'.outbox = c.outbox ++ packets ∧
    ∀ d ∈ packets, IsOwn c.mPlayerId c.mToken d.2

theorem Continues.of_voice {c c' : NetClient} (h : voice c' = voice c) : Continues c c' := by
  simp only [voice, Prod.mk.injEq] at h
  obtain ⟨hplayerId, htoken, hlatency, hloss, houtbox, hqueue⟩ := h
  refine ⟨hplayerId, htoken, hlatency, hloss, ?_, fun _ => ⟨[], ?_, by simp⟩⟩
  · intro hqueued p hp
    rw [hqueue] at hp
    exact hqueued p hp
  · rw [houtbox, List.append_nil]

theorem Continues.refl (c : NetClient) : Continues c c := Continues.of_voice rfl

/-- What the server sends has no part in it. -/
theorem voice_of_receives {c c' : NetClient} (h : Receives c c') : voice c' = voice c := by
  obtain ⟨_, _, _, _, _, _, rfl⟩ := h
  rfl

theorem Continues.trans {c d e : NetClient} (h : Continues c d) (k : Continues d e) :
    Continues c e := by
  refine ⟨k.playerId.trans h.playerId, k.token.trans h.token, k.latency.trans h.latency,
    k.loss.trans h.loss, k.queued ∘ h.queued, fun hqueued => ?_⟩
  obtain ⟨first, hfirst, hown⟩ := h.sent hqueued
  obtain ⟨second, hsecond, hown'⟩ := k.sent (h.queued hqueued)
  refine ⟨first ++ second, by rw [hsecond, hfirst, List.append_assoc], fun d hd => ?_⟩
  rw [h.playerId, h.token] at hown'
  cases List.mem_append.mp hd with
  | inl hd => exact hown d hd
  | inr hd => exact hown' d hd

/-- Nothing that was sent is taken back. -/
theorem Continues.length_le {c c' : NetClient} (h : Continues c c') (hqueued : Queued c) :
    c.outbox.length ≤ c'.outbox.length := by
  obtain ⟨packets, houtbox, -⟩ := h.sent hqueued
  rw [houtbox, List.length_append]
  exact Nat.le_add_right _ _

section Poll

/-- One packet of the session goes to the socket. -/
theorem continues_sendTo (c : NetClient) {packet : Bytes}
    (h : Queued c → IsOwn c.mPlayerId c.mToken packet) : Continues c (c.sendTo packet) := by
  simp only [sendTo]
  split
  · refine ⟨rfl, rfl, rfl, rfl, id, fun hqueued => ⟨[(c.mUdpTarget, packet)], rfl, ?_⟩⟩
    intro d hd
    obtain rfl := List.mem_singleton.mp hd
    exact h hqueued
  · exact Continues.refl c

theorem continues_greet (c : NetClient) (now : ℚ) : Continues c (greet c now) := by
  simp only [greet]
  split
  · have hhello : Continues c c.sendUdpHello := continues_sendTo c fun _ => Or.inl rfl
    exact hhello.trans (Continues.of_voice rfl)
  · exact Continues.refl c

/-- The packets that are due move from the queue to the socket. -/
theorem continues_flushOutgoing (c : NetClient) (now : ℚ) : Continues c (c.flushOutgoing now) := by
  obtain ⟨taken, hsub, heq⟩ := foldl_sendTo (c.mDelayedOutgoing.takeWhile (·.dueAt ≤ now)) c
  simp only [flushOutgoing, heq]
  refine ⟨rfl, rfl, rfl, rfl, fun hqueued p hp => ?_, fun hqueued => ⟨_, rfl, ?_⟩⟩
  · exact hqueued p ((List.dropWhile_suffix _).subset hp)
  · intro d hd
    obtain ⟨packet, hpacket, rfl⟩ := List.mem_map.mp hd
    obtain ⟨p, hp, rfl⟩ := List.mem_map.mp (hsub.subset hpacket)
    exact Or.inr (hqueued p ((List.takeWhile_prefix _).subset hp))

/-- Without a socket for it, a join response ends the session. -/
theorem handleJoinResponse_closed (c : NetClient) (now : ℚ) (payload : Bytes) :
    (c.handleJoinResponse now (false, none) payload).mState = .failed := by
  simp only [handleJoinResponse]
  split
  · rfl
  · split
    · rfl
    · rfl

/-- Messages that leave the client in the world and open no socket change nothing. -/
theorem voice_handleWorld {c : NetClient} {now : ℚ} {messages : List Message}
    (h : (c.handleWorld now [] messages).mState = .inWorld) :
    voice (c.handleWorld now [] messages) = voice c := by
  induction messages with
  | nil => rfl
  | cons m rest ih =>
      simp only [handleWorld, List.headD_nil, handleJoinResponse_closed, if_true] at h ⊢
      split at h
      · rw [handleJoinResponse_closed] at h
        cases h
      · cases h
      · exact ih h

/-- A poll that stays in the world. -/
theorem continues_poll {c : NetClient} {now : ℚ} {os : Os} (hworld : c.mState = .inWorld)
    (hopens : os.udpOpens = []) (h : (c.poll now os).mState = .inWorld) :
    Continues c (c.poll now os) := by
  rw [poll_of_joined (Or.inr hworld), pumpWorld_eq] at h ⊢
  cases hheard : heard { c with mLastPollTime := now } now os with
  | none =>
      rw [hheard] at h
      cases h
  | some d =>
      simp only [hheard] at h ⊢
      by_cases hd : d.mState = .inWorld
      · have hvoice : voice d = voice c := by
          obtain ⟨stream, -, hmessages⟩ := Option.bind_eq_some_iff.mp hheard
          dsimp only at hmessages
          split at hmessages
          · obtain rfl := Option.some.inj hmessages
            rw [hopens] at hd ⊢
            have hquiet := voice_handleWorld hd
            exact hquiet
          · cases hmessages
        rw [if_pos hd]
        have hgreeted := (Continues.of_voice hvoice).trans (continues_greet d now)
        have hreceived := hgreeted.trans
          (Continues.of_voice (voice_of_receives (receives_receiveDatagrams _ now os.datagrams)))
        have hflushed := hreceived.trans (continues_flushOutgoing _ now)
        exact hflushed.trans (Continues.of_voice (voice_of_receives (receives_flushIncoming _ now)))
      · rw [if_neg hd] at h
        exact absurd h hd

end Poll

section Ticks

variable {F : Type*} [Scalar F]

theorem continues_sendInput (c : NetClient) (input : InputBits) (dropped : Bool) :
    Continues c (c.sendInput input dropped) := by
  have hown : IsInput (inputPacket c.mPlayerId input) := ⟨_, _, rfl⟩
  simp only [sendInput]
  split
  · exact Continues.refl c
  · split
    · exact Continues.refl c
    · split
      · refine ⟨rfl, rfl, rfl, rfl, fun hqueued p hp => ?_, fun _ => ⟨[], by simp, by simp⟩⟩
        cases List.mem_append.mp hp with
        | inl hp => exact hqueued p hp
        | inr hp =>
            obtain rfl := List.mem_singleton.mp hp
            exact hown
      · exact continues_sendTo c fun _ => Or.inr hown

/-- Without simulated latency or loss, an input goes to the socket. -/
theorem sendInput_heard {c : NetClient} (hworld : c.mState = .inWorld) (hudp : c.mUdp = true)
    (hlatency : c.mFakeLatency ≤ 0) {dropped : Bool} (hkept : 0 < c.mFakeLoss → dropped = false)
    (input : InputBits) : c.outbox.length < (c.sendInput input dropped).outbox.length := by
  have hsent : ¬(0 < c.mFakeLoss && dropped) = true := by
    rw [Bool.and_eq_true, decide_eq_true_eq]
    rintro ⟨hloss, hdropped⟩
    rw [hkept hloss] at hdropped
    cases hdropped
  have hopen : ¬(c.mState ≠ .inWorld || !c.mUdp) = true := by simp [hworld, hudp]
  rw [sendInput, if_neg hopen, if_neg hsent, if_neg (not_lt.mpr hlatency), sendTo, if_pos hudp]
  simp

/-- What the tick loop leaves alone. -/
theorem tickLoop_frame (host : Host F) (intent : Prediction.Intent F) (fuel : Nat)
    (dropped : List Bool) (a : Application F) :
    let b := a.tickLoop host intent fuel dropped
    b.mElapsedSeconds = a.mElapsedSeconds ∧ status b.mNet = status a.mNet ∧
      Continues a.mNet b.mNet := by
  apply Application.tickLoop_preserves (P := fun b => b.mElapsedSeconds = a.mElapsedSeconds ∧
      status b.mNet = status a.mNet ∧ Continues a.mNet b.mNet)
    host intent fuel dropped a ⟨rfl, rfl, Continues.refl _⟩
  rintro b drop ⟨helapsed, hstatus, hcontinues⟩ -
  simp only [Application.tick]
  split
  · exact ⟨helapsed, hstatus, hcontinues⟩
  · refine ⟨helapsed, ?_, hcontinues.trans (continues_sendInput _ _ _)⟩
    exact (status_of_transmits (transmits_sendInput _ _ _)).trans hstatus

theorem tickLoop_nonneg (host : Host F) (intent : Prediction.Intent F) (fuel : Nat)
    (dropped : List Bool) {a : Application F} (h : 0 ≤ a.mTickAccumulator) :
    0 ≤ (a.tickLoop host intent fuel dropped).mTickAccumulator := by
  apply Application.tickLoop_preserves (P := fun b => 0 ≤ b.mTickAccumulator) host intent fuel
    dropped a h
  intro b drop _ hdue
  rw [Application.tick_accumulator]
  exact sub_nonneg.mpr hdue

/-- In the game, a tick that is due sends an input. -/
theorem tickLoop_heard (host : Host F) (intent : Prediction.Intent F) {dropped : List Bool}
    {a : Application F} (hgame : a.mState = .inGame) (hworld : a.mNet.mState = .inWorld)
    (hudp : a.mNet.mUdp = true) (hqueued : Queued a.mNet) (hlatency : a.mNet.mFakeLatency ≤ 0)
    (hkept : 0 < a.mNet.mFakeLoss → ∀ drop ∈ dropped, drop = false)
    (hdue : Application.kTickSeconds ≤ a.mTickAccumulator) :
    a.mNet.outbox.length <
      (a.tickLoop host intent Application.kMaxTicks dropped).mNet.outbox.length := by
  have hfirst : 0 < a.mNet.mFakeLoss → dropped.headD false = false := by
    intro hloss
    cases dropped with
    | nil => rfl
    | cons drop dropped => exact hkept hloss drop List.mem_cons_self
  have hsent := sendInput_heard hworld hudp hlatency hfirst
    (Application.inputBits host (a.mPrediction.step host.phys intent).2)
  have hqueued' := (continues_sendInput a.mNet
    (Application.inputBits host (a.mPrediction.step host.phys intent).2) (dropped.headD false)).queued
      hqueued
  simp only [Application.kMaxTicks, Application.tickLoop, if_neg (not_lt.mpr hdue)]
  refine lt_of_lt_of_le ?_ ((tickLoop_frame host intent 15 _ _).2.2.length_le ?_)
  · simpa only [Application.tick, hgame, ne_eq, not_true_eq_false, if_false] using hsent
  · simpa only [Application.tick, hgame, ne_eq, not_true_eq_false, if_false] using hqueued'

/-- The network, the clock and the tick accumulator: all that decides when inputs are sent. -/
def clockwork (a : Application F) : NetClient × ℚ × ℚ :=
  (a.mNet, a.mElapsedSeconds, a.mTickAccumulator)

theorem clockwork_predictOwn (host : Host F) (a : Application F) (e : EntityState F) :
    clockwork (a.predictOwn host e) = clockwork a := by
  simp only [Application.predictOwn]
  split
  · rfl
  · split
    · rfl
    · rfl

theorem clockwork_replicateEntity (host : Host F) (s : Application F × Std.ExtTreeSet UInt32)
    (entry : UInt32 × Replicated) :
    clockwork (Application.replicateEntity host s entry).1 = clockwork s.1 := by
  simp only [Application.replicateEntity]
  split
  · split
    · exact clockwork_predictOwn host s.1 _
    · rfl
  · rfl

theorem clockwork_applyReplication (host : Host F) (a : Application F) :
    clockwork (a.applyReplication host) = clockwork a := by
  simp only [Application.applyReplication]
  split
  · rfl
  · have hfold := List.foldlRecOn a.mNet.mEntities.toList (Application.replicateEntity host)
      (motive := fun s => clockwork s.1 = clockwork a) (b := (a, ∅)) rfl
      fun s hs entry _ => (clockwork_replicateEntity host s entry).trans hs
    exact hfold

theorem clockwork_transition (a : Application F) : clockwork a.transition = clockwork a := by
  simp only [Application.transition]
  split
  · split
    · rfl
    · split
      · rfl
      · rfl
  · split
    · rfl
    · rfl

/-- A login starts outside the world. -/
theorem login_state (c : NetClient) (host : String) (username password : Bytes) (os : Os) :
    (c.login host username password os).mState ≠ .inWorld := by
  simp only [login]
  split
  · simp [fail]
  · split
    · simp [fail]
    · simp

/-- The screens leave the clocks alone, and a network that is in the world after them. -/
theorem clockwork_drawUi (host : Host F) {a : Application F} {f : Frame F}
    (h : (a.drawUi host f).mNet.mState = .inWorld) :
    clockwork (a.drawUi host f) = clockwork a := by
  have hlogin : (a.drawLogin host f).mNet.mState = .inWorld →
      clockwork (a.drawLogin host f) = clockwork a := by
    simp only [Application.drawLogin]
    split
    · exact fun _ => rfl
    · split
      · simp only [Application.beginLogin]
        split
        · exact fun _ => rfl
        · exact fun hworld => absurd hworld (login_state _ _ _ _ _)
      · exact fun _ => rfl
  revert h
  simp only [Application.drawUi]
  split
  · exact hlogin
  · exact hlogin
  · split
    · exact fun _ => rfl
    · exact fun _ => rfl
  · split
    · exact fun _ => rfl
    · split
      · intro hworld
        cases hworld
      · exact fun _ => rfl

end Ticks

section Frame

variable {F : Type*} [Scalar F]

/-- A tick comes due in the frame. -/
def Due (a : Application F) (f : Frame F) : Prop :=
  Application.kTickSeconds ≤ a.mTickAccumulator + f.deltaSeconds

instance (a : Application F) (f : Frame F) : Decidable (Due a f) :=
  inferInstanceAs (Decidable (_ ≤ _))

/-- The accumulator between two frames. -/
structure Settled (a : Application F) : Prop where
  nonneg : 0 ≤ a.mTickAccumulator
  lt_tick : a.mTickAccumulator < Application.kTickSeconds

/-- What a frame in the world does to the wire and to the clocks. -/
structure Voiced (a b : Application F) (f : Frame F) : Prop where
  continues : Continues a.mNet b.mNet
  elapsed : b.mElapsedSeconds = a.mElapsedSeconds + f.deltaSeconds
  settled : Settled b
  accumulates : ¬ Due a f → b.mTickAccumulator = a.mTickAccumulator + f.deltaSeconds
  heard : Due a f → a.mState = .inGame → a.mNet.mFakeLatency ≤ 0 →
    (0 < a.mNet.mFakeLoss → ∀ drop ∈ f.dropped, drop = false) →
    a.mNet.outbox.length < b.mNet.outbox.length

/-- The application as the tick loop of a frame finds it. -/
def beforeTicks (a : Application F) (f : Frame F) : Application F :=
  let polled := Application.transition { a with
    mElapsedSeconds := a.mElapsedSeconds + f.deltaSeconds
    mNet := a.mNet.poll (a.mElapsedSeconds + f.deltaSeconds) f.os }
  { polled with mTickAccumulator :=
      if 1 / 4 < polled.mTickAccumulator + f.deltaSeconds then 1 / 4
      else polled.mTickAccumulator + f.deltaSeconds }

/-- A frame that ends in the world comes down to its ticks. -/
theorem frame_clockwork (host : Host F) {a : Application F} {f : Frame F}
    (h : (a.frame host f).mNet.mState = .inWorld) :
    clockwork (a.frame host f) =
      clockwork ((beforeTicks a f).tickLoop host f.intent Application.kMaxTicks f.dropped) := by
  have hticked : clockwork (a.advance host f) =
      clockwork ((beforeTicks a f).tickLoop host f.intent Application.kMaxTicks f.dropped) := rfl
  rw [Application.frame, clockwork_drawUi host h, Application.update, clockwork_applyReplication,
    hticked]

theorem beforeTicks_clockwork (a : Application F) (f : Frame F) :
    clockwork (beforeTicks a f) =
      (a.mNet.poll (a.mElapsedSeconds + f.deltaSeconds) f.os, a.mElapsedSeconds + f.deltaSeconds,
        if 1 / 4 < a.mTickAccumulator + f.deltaSeconds then 1 / 4
        else a.mTickAccumulator + f.deltaSeconds) := by
  have hpolled := clockwork_transition { a with
    mElapsedSeconds := a.mElapsedSeconds + f.deltaSeconds
    mNet := a.mNet.poll (a.mElapsedSeconds + f.deltaSeconds) f.os }
  simp only [clockwork, Prod.mk.injEq] at hpolled
  simp only [beforeTicks, clockwork, hpolled]

/-- The game goes on as long as the network is in the world. -/
theorem beforeTicks_state {a : Application F} {f : Frame F} (hgame : a.mState = .inGame)
    (h : (beforeTicks a f).mNet.mState = .inWorld) : (beforeTicks a f).mState = .inGame := by
  have hnet : (beforeTicks a f).mNet = a.mNet.poll (a.mElapsedSeconds + f.deltaSeconds) f.os :=
    congrArg Prod.fst (beforeTicks_clockwork a f)
  have hpolled : (a.mNet.poll (a.mElapsedSeconds + f.deltaSeconds) f.os).mState = .inWorld := by
    rw [← hnet]
    exact h
  simp [beforeTicks, Application.transition, hgame, hpolled]

/-- The first tick of a frame is heard, if the network is in the world and tidy before it. -/
theorem beforeTicks_heard (host : Host F) {a : Application F} {f : Frame F} (htidy : Tidy a.mNet)
    (hqueued : Queued a.mNet) (hpoll : Continues a.mNet (beforeTicks a f).mNet)
    (hstays : (beforeTicks a f).mNet.mState = .inWorld) (hdue : Due a f)
    (hgame : a.mState = .inGame) (hlatency : a.mNet.mFakeLatency ≤ 0)
    (hlossless : 0 < a.mNet.mFakeLoss → ∀ drop ∈ f.dropped, drop = false) :
    a.mNet.outbox.length < ((beforeTicks a f).tickLoop host f.intent Application.kMaxTicks
      f.dropped).mNet.outbox.length := by
  have hbefore := beforeTicks_clockwork a f
  simp only [clockwork, Prod.mk.injEq] at hbefore
  obtain ⟨hpolled, -, hcapped⟩ := hbefore
  have htidy' : Tidy (beforeTicks a f).mNet := by
    rw [hpolled]
    exact tidy_poll htidy _ _
  have hudp : (beforeTicks a f).mNet.mUdp = true := by
    rw [Tidy, hstays] at htidy'
    exact congrArg Sockets.udp htidy'
  have hticks : Application.kTickSeconds ≤ (beforeTicks a f).mTickAccumulator := by
    rw [hcapped]
    split
    · norm_num [Application.kTickSeconds, kServerTickHz]
    · exact hdue
  refine lt_of_le_of_lt (hpoll.length_le hqueued) ?_
  apply tickLoop_heard host f.intent (beforeTicks_state hgame hstays) hstays hudp
    (hpoll.queued hqueued) ?_ ?_ hticks
  · rw [hpoll.latency]
    exact hlatency
  · rw [hpoll.loss]
    exact hlossless

/-- A frame in which no tick is due accumulates its seconds. -/
theorem tickLoop_not_due (host : Host F) {a : Application F} {f : Frame F} (hdue : ¬ Due a f) :
    ((beforeTicks a f).tickLoop host f.intent Application.kMaxTicks f.dropped).mTickAccumulator =
      a.mTickAccumulator + f.deltaSeconds := by
  have hbefore := beforeTicks_clockwork a f
  simp only [clockwork, Prod.mk.injEq] at hbefore
  obtain ⟨-, -, hcapped⟩ := hbefore
  have hlt : a.mTickAccumulator + f.deltaSeconds < Application.kTickSeconds := not_le.mp hdue
  have htick : Application.kTickSeconds ≤ 1 / 4 := by
    norm_num [Application.kTickSeconds, kServerTickHz]
  rw [if_neg (not_lt.mpr (hlt.le.trans htick))] at hcapped
  rw [← hcapped]
  rw [← hcapped] at hlt
  simp [Application.kMaxTicks, Application.tickLoop, hlt]

/-- A frame from a state of the world to one, in which no further socket is opened. -/
theorem frame_voice (host : Host F) {a : Application F} {f : Frame F} (htidy : Tidy a.mNet)
    (hqueued : Queued a.mNet) (hsettled : Settled a) (hworld : a.mNet.mState = .inWorld)
    (hopens : f.os.udpOpens = []) (hdelta : 0 ≤ f.deltaSeconds)
    (h : (a.frame host f).mNet.mState = .inWorld) : Voiced a (a.frame host f) f := by
  have hframe := frame_clockwork host h
  have hbefore := beforeTicks_clockwork a f
  simp only [clockwork, Prod.mk.injEq] at hframe hbefore
  obtain ⟨hnet, helapsed, haccumulator⟩ := hframe
  obtain ⟨hpolled, hclock, hcapped⟩ := hbefore
  obtain ⟨hkept, hstatus, hsaid⟩ :=
    tickLoop_frame host f.intent Application.kMaxTicks f.dropped (beforeTicks a f)
  have hstays : (beforeTicks a f).mNet.mState = .inWorld := by
    rw [← mState_of_status hstatus, ← hnet]
    exact h
  have hpoll : Continues a.mNet (beforeTicks a f).mNet := by
    rw [hpolled] at hstays ⊢
    exact continues_poll hworld hopens hstays
  have hsmall : (beforeTicks a f).mTickAccumulator ≤ 1 / 4 := by
    rw [hcapped]
    split
    · exact le_refl _
    · rename_i hle
      exact not_lt.mp hle
  have hgrown : 0 ≤ a.mTickAccumulator + f.deltaSeconds := add_nonneg hsettled.nonneg hdelta
  constructor
  · rw [hnet]
    exact hpoll.trans hsaid
  · rw [helapsed, hkept, hclock]
  · constructor
    · rw [haccumulator]
      apply tickLoop_nonneg
      rw [hcapped]
      split
      · norm_num
      · exact hgrown
    · rw [haccumulator]
      exact Application.tickLoop_ends host f.intent f.dropped _ hsmall
  · intro hdue
    rw [haccumulator]
    exact tickLoop_not_due host hdue
  · intro hdue hgame hlatency hlossless
    rw [hnet]
    exact beforeTicks_heard host htidy hqueued hpoll hstays hdue hgame hlatency hlossless

end Frame

section Run

/-- What is held back after a call was held back before it. -/
def Fewer (c c' : NetClient) : Prop := c'.mDelayedOutgoing ⊆ c.mDelayedOutgoing

theorem Fewer.of_eq {c c' : NetClient} (h : c'.mDelayedOutgoing = c.mDelayedOutgoing) :
    Fewer c c' := by
  rw [Fewer, h]
  exact List.Subset.refl _

theorem Fewer.of_voice {c c' : NetClient} (h : voice c' = voice c) : Fewer c c' := by
  simp only [voice, Prod.mk.injEq] at h
  exact Fewer.of_eq h.2.2.2.2.2

theorem Fewer.trans {c d e : NetClient} (h : Fewer c d) (k : Fewer d e) : Fewer c e :=
  List.Subset.trans k h

theorem Fewer.queued {c c' : NetClient} (h : Fewer c c') (hqueued : Queued c) : Queued c' :=
  fun p hp => hqueued p (h hp)

theorem Fewer.of_negotiates {c c' : NetClient} (h : Negotiates c c') : Fewer c c' := by
  have htraffic := h.traffic
  simp only [traffic, Prod.mk.injEq] at htraffic
  exact Fewer.of_eq htraffic.2.2.2.2.2.1

theorem fewer_flushOutgoing (c : NetClient) (now : ℚ) : Fewer c (c.flushOutgoing now) := by
  obtain ⟨taken, -, heq⟩ := foldl_sendTo (c.mDelayedOutgoing.takeWhile (·.dueAt ≤ now)) c
  simp only [flushOutgoing, heq]
  exact (List.dropWhile_suffix _).subset

/-- A poll holds nothing back. -/
theorem fewer_poll (c : NetClient) (now : ℚ) (os : Os) : Fewer c (c.poll now os) := by
  obtain ⟨d, hd, heq | heq⟩ := poll_cases c now os
  · rw [heq]
    exact Fewer.of_negotiates hd
  · have hreceived := Fewer.of_voice
      (voice_of_receives (receives_receiveDatagrams d now os.datagrams))
    have hflushed := fewer_flushOutgoing (d.receiveDatagrams now os.datagrams) now
    rw [heq]
    refine ((Fewer.of_negotiates hd).trans (hreceived.trans hflushed)).trans ?_
    exact Fewer.of_voice (voice_of_receives (receives_flushIncoming _ now))

variable {F : Type*} [Scalar F]

/-- What a client is between two frames. -/
structure Ready (a : Application F) : Prop where
  sound : Sound a
  queued : Queued a.mNet
  settled : Settled a

theorem ready_init (mFakeLatency mFakeLoss : ℚ) :
    Ready (Application.init mFakeLatency mFakeLoss : Application F) where
  sound := sound_init mFakeLatency mFakeLoss
  queued p hp := by cases hp
  settled := by
    refine ⟨le_refl _, ?_⟩
    norm_num [Application.init, Application.kTickSeconds, kServerTickHz]

/-- The screens end a session, or leave its network alone; the accumulator is not theirs. -/
theorem drawUi_frame (host : Host F) (a : Application F) (f : Frame F) :
    Fewer a.mNet (a.drawUi host f).mNet ∧
      (a.drawUi host f).mTickAccumulator = a.mTickAccumulator := by
  have hlogin : Fewer a.mNet (a.drawLogin host f).mNet ∧
      (a.drawLogin host f).mTickAccumulator = a.mTickAccumulator := by
    simp only [Application.drawLogin]
    split
    · exact ⟨Fewer.of_eq rfl, rfl⟩
    · split
      · simp only [Application.beginLogin]
        split
        · exact ⟨Fewer.of_eq rfl, rfl⟩
        · refine ⟨?_, rfl⟩
          simp only [login]
          split
          · exact List.nil_subset _
          · split
            · exact List.nil_subset _
            · exact List.nil_subset _
      · exact ⟨Fewer.of_eq rfl, rfl⟩
  simp only [Application.drawUi]
  split
  · exact hlogin
  · exact hlogin
  · split
    · exact ⟨Fewer.of_eq rfl, rfl⟩
    · exact ⟨Fewer.of_eq rfl, rfl⟩
  · split
    · exact ⟨Fewer.of_eq rfl, rfl⟩
    · split
      · exact ⟨List.nil_subset _, rfl⟩
      · exact ⟨Fewer.of_eq rfl, rfl⟩

theorem ready_frame (host : Host F) {a : Application F} (h : Ready a) {f : Frame F}
    (hdelta : 0 ≤ f.deltaSeconds) : Ready (a.frame host f) := by
  have hupdate : clockwork (a.update host f) =
      clockwork ((beforeTicks a f).tickLoop host f.intent Application.kMaxTicks f.dropped) :=
    clockwork_applyReplication host (a.advance host f)
  have hbefore := beforeTicks_clockwork a f
  simp only [clockwork, Prod.mk.injEq] at hupdate hbefore
  obtain ⟨hnet, -, haccumulator⟩ := hupdate
  obtain ⟨hpolled, -, hcapped⟩ := hbefore
  obtain ⟨hfewer, hkept⟩ := drawUi_frame host (a.update host f) f
  refine ⟨sound_frame host h.sound f, ?_, ?_, ?_⟩
  · apply hfewer.queued
    rw [hnet]
    apply (tickLoop_frame host f.intent Application.kMaxTicks f.dropped _).2.2.queued
    rw [hpolled]
    exact (fewer_poll _ _ _).queued h.queued
  · rw [Application.frame, hkept, haccumulator]
    apply tickLoop_nonneg
    rw [hcapped]
    split
    · norm_num
    · exact add_nonneg h.settled.nonneg hdelta
  · rw [Application.frame, hkept, haccumulator]
    apply Application.tickLoop_ends
    rw [hcapped]
    split
    · exact le_refl _
    · rename_i hle
      exact not_lt.mp hle

/-- After every run of the application. -/
theorem ready_run (host : Host F) (mFakeLatency mFakeLoss : ℚ) {frames : List (Frame F)}
    (hdeltas : ∀ f ∈ frames, 0 ≤ f.deltaSeconds) :
    Ready (Application.run host mFakeLatency mFakeLoss frames) := by
  have hstep : ∀ (a : Application F) (f : Frame F), Ready a → 0 ≤ f.deltaSeconds →
      Ready (a.frame host f) := fun a f h hdelta => ready_frame host h hdelta
  exact Lib.Runs.run_invariant hstep (ready_init mFakeLatency mFakeLoss)
    (Lib.Runs.along_of_forall hdeltas _)

end Run

end UntitledGame.Client.Voice
