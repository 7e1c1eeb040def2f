import UntitledGame.Client.Voice
import UntitledGame.Lib.Keepalive
import UntitledGame.Server.LastHeard
import UntitledGame.Server.Registration

/-!
# The silence of a player in the world

The world server drops a player whose UDP has gone silent. The client has no
keepalive: what it sends are the inputs of its tick loop, which skips them in the
menu, and hellos, which end with the first snapshot. A `Link` is one client
application, the world server, and the datagrams of the client on their way, under
one clock; other clients are part of what the server does.

`kept_alive` says when the sweep leaves the player alone: as long as no frame that
follows a skipped tick comes later than `UDP_TIMEOUT_SECONDS - 1` seconds after the
client last sent something.

## Implementation notes

`spokenAt` and `skipped` are not part of the program. The client's datagrams carry
their time of sending, and time does not pass the moment at which one must have
arrived, or at which the next frame must have come.
-/

namespace UntitledGame.Server.UdpSilence

open Net Endpoints LastHeard Registration
open Client (Address Application Frame Host NetClient)
open Client.Voice
open Client.Session (Sound sound_frame)
open Std (ExtTreeMap)

/-- A datagram of the client that has not arrived. -/
structure Flying where
  sentAt : ℚ
  data : Bytes
  deriving DecidableEq, Repr

/-- The client and its server. -/
structure Link (F : Type*) where
  app : Application F
  server : WorldServer ℚ
  now : ℚ
  flight : List Flying
  spokenAt : ℚ
  skipped : Bool

/-- How the server knows the client: where its datagrams come from, the connection of its player,
and its hello. -/
structure Peer where
  address : Address
  connection : Nat
  hello : ClientHello
  deriving DecidableEq, Repr

/-- The client whose hello has been accepted. -/
def Peer.of (b : Accepted ℚ) : Peer := ⟨b.source, b.connection, b.hello⟩

/-- A frame of the client, the arrival of one of its datagrams, or work of the server. -/
inductive Act (F : Type*) where
  | frame (f : Frame F)
  | arrive (i : Nat) (now : Clocks ℚ)
  | work (e : WorldServer.Event ℚ)

/-- The reading of the clock that a piece of work takes. -/
def moment : WorldServer.Event ℚ → Option ℚ
  | .reply _ _ now => some now.steadySeconds
  | .dbLost now => some now.steadySeconds
  | .datagram _ _ now => some now.steadySeconds
  | .tick now => some now.steadySeconds
  | .release now => some now
  | .sweep now => some now
  | _ => none

section System

variable {F : Type*} [Scalar F]

/-- The link at the moment at which the server has bound the client's address. -/
def Link.bound (app : Application F) (server : WorldServer ℚ) (now : ℚ) (flight : List Flying) :
    Link F :=
  ⟨app, server, now, flight, app.mElapsedSeconds, false⟩

variable (peer : Peer) (host : Host F) (setup : Setup ℚ)

/-- What the client hands to its socket goes on its way. -/
def step (s : Link F) : Act F → Link F
  | .frame f =>
      let app := s.app.frame host f
      let sent := app.mNet.outbox.drop s.app.mNet.outbox.length
      { s with
        app := app
        now := app.mElapsedSeconds
        flight := s.flight ++ sent.map fun d => ⟨app.mElapsedSeconds, d.2⟩
        spokenAt := if sent = [] then s.spokenAt else app.mElapsedSeconds
        skipped := sent = [] && (s.skipped || s.app.mState ≠ .inGame && Due s.app f) }
  | .arrive i now =>
      match s.flight[i]? with
      | none => s
      | some d =>
          { s with
            server := s.server.step setup (.datagram d.data peer.address now)
            now := now.steadySeconds
            flight := s.flight.eraseIdx i }
  | .work e => { s with server := s.server.step setup e, now := (moment e).getD s.now }

/-- The time at which an act happens. -/
def time (s : Link F) : Act F → Option ℚ
  | .frame f => some (s.app.mElapsedSeconds + f.deltaSeconds)
  | .arrive _ now => some now.steadySeconds
  | .work e => moment e

/-- Time goes on, a frame is shorter than a second, and so is the way of a datagram. -/
def Timely (s : Link F) (a : Act F) : Prop :=
  ∀ t ∈ time s a, s.now ≤ t ∧ t < s.app.mElapsedSeconds + 1 ∧ ∀ d ∈ s.flight, t < d.sentAt + 1

/-- The simulated loss drops nothing. -/
def Lossless (s : Link F) : Act F → Prop
  | .frame f => 0 < s.app.mNet.mFakeLoss → ∀ drop ∈ f.dropped, drop = false
  | _ => True

/-- The client is in the world, and its address is bound to its player. -/
def Bound (s : Link F) : Prop :=
  s.app.mNet.mState = .inWorld ∧
    ∃ player ∈ s.server.playersByConnection[peer.connection]?,
      player.token = peer.hello.token ∧ player.udpBound = true ∧ player.udpAddress = peer.address

def isSweep : Act F → Bool
  | .work (.sweep _) => true
  | _ => false

/-- No further UDP socket is opened, whose address would be another. -/
def KeepsSocket : Act F → Prop
  | .frame f => f.os.udpOpens = []
  | _ => True

/-- Nothing but a sweep ends the session. -/
def Stays (s : Link F) (a : Act F) : Prop :=
  KeepsSocket a ∧ (isSweep a = false → Bound peer (step peer host setup s a))

/-- A client that stays in the world, over a lossless network. -/
def Allowed (s : Link F) (a : Act F) : Prop :=
  Timely s a ∧ Lossless s a ∧ Stays peer host setup s a

/-- How long the client may be silent, so that what it says then comes in time. -/
def gap : ℚ := setup.udpTimeoutSeconds.toNat - 1

/-- After a skipped tick, or under a simulated latency, the client has not been silent for long,
and its inputs are taken for those of its player. -/
def Paced (s : Link F) : Act F → Prop
  | .frame f => s.skipped = true ∨ 0 < s.app.mNet.mFakeLatency →
      s.app.mElapsedSeconds + f.deltaSeconds ≤ s.spokenAt + gap setup
  | .arrive i _ => ∀ d ∈ s.flight[i]?, (decodeClientInput d.data).isSome = true →
      (s.server.findPlayerByUdp peer.address).map (·.1) = some peer.connection
  | .work _ => True

/-- What holds in every state of a run that is allowed and paced. -/
structure Kept (s : Link F) : Prop where
  bound : Bound peer s
  leads : Leads peer.hello.playerId.toNat peer.connection s.server
  hello : decodeClientHello ((NetClient.helloPacket s.app.mNet.mPlayerId s.app.mNet.mToken).take
    WorldServer.kDatagramSize) = some peer.hello
  sound : Sound s.app
  queued : Queued s.app.mNet
  settled : Settled s.app
  clock : s.app.mElapsedSeconds ≤ s.now
  spoken : s.spokenAt ≤ s.app.mElapsedSeconds
  recent : s.app.mElapsedSeconds ≤ s.spokenAt + gap setup
  steady : s.skipped = false → s.app.mNet.mFakeLatency ≤ 0 →
    s.app.mElapsedSeconds ≤ s.spokenAt + s.app.mTickAccumulator
  covered : ∀ heard, lastHeard s.server peer.connection = some heard → ∃ own : List Flying,
    own ⊆ s.flight ∧ (∀ d ∈ own, IsOwn s.app.mNet.mPlayerId s.app.mNet.mToken d.data) ∧
      Lib.Keepalive.Covered (gap setup) s.spokenAt heard (own.map (·.sentAt))

instance (s : Link F) (a : Act F) : Decidable (Timely s a) :=
  inferInstanceAs (Decidable (∀ t ∈ time s a, _))

instance (s : Link F) : ∀ a : Act F, Decidable (Lossless s a)
  | .frame _ => inferInstanceAs (Decidable (_ → _))
  | .arrive _ _ => inferInstanceAs (Decidable True)
  | .work _ => inferInstanceAs (Decidable True)

instance (s : Link F) : Decidable (Bound peer s) := inferInstanceAs (Decidable (_ ∧ _))

instance : ∀ a : Act F, Decidable (KeepsSocket a)
  | .frame f => inferInstanceAs (Decidable (f.os.udpOpens = []))
  | .arrive _ _ => inferInstanceAs (Decidable True)
  | .work _ => inferInstanceAs (Decidable True)

instance (s : Link F) (a : Act F) : Decidable (Allowed peer host setup s a) :=
  inferInstanceAs (Decidable (_ ∧ _ ∧ _ ∧ (_ → _)))

instance (s : Link F) : ∀ a : Act F, Decidable (Paced peer setup s a)
  | .frame _ => inferInstanceAs (Decidable (_ → _))
  | .arrive i _ => inferInstanceAs (Decidable (∀ d ∈ s.flight[i]?, _))
  | .work _ => inferInstanceAs (Decidable True)

variable {peer host setup} {s : Link F}

omit [Scalar F] in
theorem Bound.lastHeard (h : Bound peer s) : ∃ heard,
    LastHeard.lastHeard s.server peer.connection = some heard := by
  obtain ⟨-, player, hplayer, -⟩ := h
  refine ⟨player.lastUdpPacket, ?_⟩
  rw [LastHeard.lastHeard, hplayer]
  rfl

omit [Scalar F] in
theorem Bound.mem (h : Bound peer s) : peer.connection ∈ s.server.playersByConnection := by
  obtain ⟨-, player, hplayer, -⟩ := h
  rw [ExtTreeMap.mem_iff_isSome_getElem?, hplayer]
  rfl

/-- Once the player has been heard, it is covered by nothing else. -/
theorem covered_now {own : List Flying} {spokenAt heard : ℚ} (h : spokenAt ≤ heard) :
    Lib.Keepalive.Covered (gap setup) spokenAt heard (own.map (·.sentAt)) :=
  Lib.Keepalive.covered_of_heard h

theorem gap_ge (htimeout : 3 ≤ setup.udpTimeoutSeconds.toNat) : 2 ≤ gap setup := by
  have hcast : (3 : ℚ) ≤ setup.udpTimeoutSeconds.toNat := by exact_mod_cast htimeout
  rw [gap]
  linarith

theorem gap_nonneg (htimeout : 3 ≤ setup.udpTimeoutSeconds.toNat) : 0 ≤ gap setup := by
  have hgap := gap_ge htimeout
  linarith

section Frame

variable {f : Frame F}

omit [Scalar F] in
/-- The next frame comes within the gap: unless a tick has been skipped, one was due since. -/
theorem Kept.in_time (h : Kept peer setup s) (htimeout : 3 ≤ setup.udpTimeoutSeconds.toNat)
    (htimely : Timely s (.frame f)) (hpaced : Paced peer setup s (.frame f)) :
    s.app.mElapsedSeconds + f.deltaSeconds ≤ s.spokenAt + gap setup := by
  obtain ⟨-, hshort, -⟩ := htimely _ rfl
  by_cases hslow : s.skipped = true ∨ 0 < s.app.mNet.mFakeLatency
  · exact hpaced hslow
  · rw [not_or, Bool.not_eq_true, not_lt] at hslow
    have hsteady := h.steady hslow.1 hslow.2
    have htick := h.settled.lt_tick
    have hseconds : Application.kTickSeconds ≤ 1 := by
      norm_num [Application.kTickSeconds, kServerTickHz]
    have hgap := gap_ge htimeout
    linarith

/-- What a frame hands to the socket is what its outbox has grown by. -/
theorem sent_eq {c c' : NetClient} {packets : List (Address × Bytes)}
    (h : c'.outbox = c.outbox ++ packets) : c'.outbox.drop c.outbox.length = packets := by
  rw [h]
  exact List.drop_left

/-- A client in the game that says nothing in a frame had no tick due, and was as steady before. -/
theorem Kept.steady_frame (h : Kept peer setup s)
    (hvoiced : Voiced s.app (s.app.frame host f) f)
    (hlossless : Lossless s (.frame f)) (hlatency : s.app.mNet.mFakeLatency ≤ 0)
    (hsilent : (s.app.frame host f).mNet.outbox = s.app.mNet.outbox)
    (hskipped : (s.skipped || s.app.mState ≠ .inGame && Due s.app f) = false) :
    (s.app.frame host f).mElapsedSeconds ≤ s.spokenAt + (s.app.frame host f).mTickAccumulator := by
  obtain ⟨hbefore, hnone⟩ := Bool.or_eq_false_iff.mp hskipped
  -- a tick in the game would have been heard
  have hdue : ¬ Due s.app f := by
    intro hdue
    have hgame : s.app.mState = .inGame := by
      by_contra hmenu
      simp [hmenu, hdue] at hnone
    have hheard := hvoiced.heard hdue hgame hlatency hlossless
    rw [hsilent] at hheard
    exact Nat.lt_irrefl _ hheard
  have hsteady := h.steady hbefore hlatency
  rw [hvoiced.accumulates hdue, hvoiced.elapsed]
  linarith

/-- The datagrams of a frame within the gap cover the player in place of the last one. -/
theorem covered_sent {own : List Flying} {packets : List (Address × Bytes)}
    {spokenAt heard now : ℚ} (hpackets : packets ≠ []) (hintime : now ≤ spokenAt + gap setup)
    (hcovered : Lib.Keepalive.Covered (gap setup) spokenAt heard (own.map (·.sentAt))) :
    Lib.Keepalive.Covered (gap setup) now heard
      ((own ++ packets.map fun d => (⟨now, d.2⟩ : Flying)).map (·.sentAt)) := by
  obtain ⟨packet, hpacket⟩ := List.exists_mem_of_ne_nil packets hpackets
  rw [List.map_append]
  refine hcovered.beat hintime (List.subset_append_left _ _) ?_
  refine List.mem_append_right _ ?_
  exact List.mem_map.mpr ⟨_, List.mem_map_of_mem hpacket, rfl⟩

/-- Datagrams of the client on their way, and those of a frame after them. -/
theorem own_append {own flight : List Flying} {packets : List (Address × Bytes)} {now : ℚ}
    {playerId : UInt64} {token : Bytes} (hsub : own ⊆ flight)
    (hold : ∀ d ∈ own, IsOwn playerId token d.data)
    (hnew : ∀ d ∈ packets, IsOwn playerId token d.2) :
    (own ++ packets.map fun d => (⟨now, d.2⟩ : Flying)) ⊆
        flight ++ packets.map (fun d => ⟨now, d.2⟩) ∧
      ∀ d ∈ own ++ packets.map fun d => (⟨now, d.2⟩ : Flying), IsOwn playerId token d.data := by
  constructor
  · exact List.append_subset.mpr
      ⟨fun d hd => List.mem_append_left _ (hsub hd), List.subset_append_right _ _⟩
  · intro d hd
    cases List.mem_append.mp hd with
    | inl hd => exact hold d hd
    | inr hd =>
        obtain ⟨packet, hpacket, rfl⟩ := List.mem_map.mp hd
        exact hnew packet hpacket

theorem Kept.frame (h : Kept peer setup s) (htimeout : 3 ≤ setup.udpTimeoutSeconds.toNat)
    (hallowed : Allowed peer host setup s (.frame f)) (hpaced : Paced peer setup s (.frame f)) :
    Kept peer setup (step peer host setup s (.frame f)) := by
  obtain ⟨htimely, hlossless, hopens, hstays⟩ := hallowed
  have hbound := hstays rfl
  have hintime := h.in_time htimeout htimely hpaced
  have hdelta : 0 ≤ f.deltaSeconds := by
    have hnow := (htimely _ rfl).1
    have hclock := h.clock
    linarith
  have hvoiced : Voiced s.app (s.app.frame host f) f :=
    frame_voice host h.sound.tidy h.queued h.settled h.bound.1 hopens hdelta hbound.1
  obtain ⟨packets, houtbox, hown⟩ := hvoiced.continues.sent h.queued
  have hsent := sent_eq houtbox
  have helapsed := hvoiced.elapsed
  have hgap := gap_nonneg htimeout
  constructor
  · exact hbound
  · exact h.leads
  · rw [step, hvoiced.continues.playerId, hvoiced.continues.token]
    exact h.hello
  · exact sound_frame host h.sound f
  · exact hvoiced.continues.queued h.queued
  · exact hvoiced.settled
  · exact le_refl _
  · simp only [step, hsent]
    split
    · have hspoken := h.spoken
      linarith
    · exact le_refl _
  · simp only [step, hsent]
    split
    · rw [helapsed]
      exact hintime
    · linarith
  · simp only [step, hsent]
    intro hskipped hlatency
    rw [hvoiced.continues.latency] at hlatency
    split
    · rename_i hsilent
      simp only [hsilent, decide_true, Bool.true_and] at hskipped
      rw [hsilent, List.append_nil] at houtbox
      exact h.steady_frame hvoiced hlossless hlatency houtbox hskipped
    · have hnonneg := hvoiced.settled.nonneg
      linarith
  · intro heard hheard
    obtain ⟨own, hsub, hpackets, hcovered⟩ := h.covered heard hheard
    simp only [step, hsent, hvoiced.continues.playerId, hvoiced.continues.token]
    split
    · rename_i hsilent
      refine ⟨own, ?_, hpackets, hcovered⟩
      intro d hd
      exact List.mem_append_left _ (hsub hd)
    · rename_i hspoke
      obtain ⟨hflying, howned⟩ := own_append hsub hpackets hown
      exact ⟨_, hflying, howned, covered_sent hspoke (helapsed ▸ hintime) hcovered⟩

end Frame

section Server

omit [Scalar F] in
/-- Work of the server, of which the client sees nothing: the player is heard now, or was heard
when it was. -/
theorem Kept.serve (h : Kept peer setup s) {server : WorldServer ℚ} {now : ℚ} {flight : List Flying}
    (hbound : Bound peer { s with server := server, now := now, flight := flight })
    (hleads : Leads peer.hello.playerId.toNat peer.connection server) (hnow : s.now ≤ now)
    (hheard : ∀ t t', lastHeard s.server peer.connection = some t →
      lastHeard server peer.connection = some t' →
        now ≤ t' ∨ t' = t ∧ ∀ d ∈ s.flight,
          IsOwn s.app.mNet.mPlayerId s.app.mNet.mToken d.data → d ∈ flight) :
    Kept peer setup { s with server := server, now := now, flight := flight } := by
  refine ⟨hbound, hleads, h.hello, h.sound, h.queued, h.settled, h.clock.trans hnow, h.spoken,
    h.recent, h.steady, fun t' ht' => ?_⟩
  obtain ⟨t, ht⟩ := h.bound.lastHeard
  cases hheard t t' ht ht' with
  | inl hlater =>
      have hspoken : s.spokenAt ≤ t' := (h.spoken.trans h.clock).trans (hnow.trans hlater)
      exact ⟨[], List.nil_subset _, by simp, covered_now hspoken⟩
  | inr hsame =>
      obtain ⟨rfl, hflight⟩ := hsame
      obtain ⟨own, hsub, hpackets, hcovered⟩ := h.covered t' ht
      exact ⟨own, fun d hd => hflight d (hsub hd) (hpackets d hd), hpackets, hcovered⟩

omit [Scalar F] in
/-- A packet of the client is heard from its player. -/
theorem Kept.heard (h : Kept peer setup s) {data : Bytes} (now : Clocks ℚ)
    (hown : IsOwn s.app.mNet.mPlayerId s.app.mNet.mToken data)
    (htaken : (decodeClientInput data).isSome = true →
      (s.server.findPlayerByUdp peer.address).map (·.1) = some peer.connection) :
    lastHeard (s.server.step setup (.datagram data peer.address now)) peer.connection =
      some now.steadySeconds := by
  cases hown with
  | inl hhello =>
      obtain ⟨-, player, hplayer, htoken, -⟩ := h.bound
      have haccepted : accepted s.server (.datagram data peer.address now) =
          some ⟨peer.connection, player, peer.hello, peer.address⟩ := by
        rw [accepted, hhello, h.hello, Option.bind_some, h.leads.leads h.bound.mem, Option.bind_some,
          hplayer, Option.bind_some, if_pos ((constantTimeEquals_iff _ _).mpr htoken)]
      rw [step_hello setup _ haccepted]
      exact (lastHeard_insert s.server _ _ _).trans (if_pos rfl)
  | inr hinput =>
      obtain ⟨playerId, input, rfl⟩ := hinput
      have hdecodes := decodeClientInput_inputPacket playerId input
      obtain ⟨⟨c, player⟩, hfound, hc⟩ := Option.map_eq_some_iff.mp (htaken (by rw [hdecodes]; rfl))
      obtain rfl : c = peer.connection := hc
      exact lastHeard_input setup playerId input now hfound

theorem Kept.arrive (h : Kept peer setup s) {i : Nat} {now : Clocks ℚ}
    (hallowed : Allowed peer host setup s (.arrive i now))
    (hpaced : Paced peer setup s (.arrive i now)) :
    Kept peer setup (step peer host setup s (.arrive i now)) := by
  obtain ⟨htimely, -, -, hstays⟩ := hallowed
  have hbound := hstays rfl
  obtain ⟨hnow, -⟩ := htimely _ rfl
  simp only [step] at hbound ⊢
  cases hd : s.flight[i]? with
  | none => exact h
  | some d =>
      simp only [hd] at hbound ⊢
      refine h.serve hbound (step_leads setup h.leads h.bound.mem _) hnow fun t t' ht ht' => ?_
      by_cases hown : IsOwn s.app.mNet.mPlayerId s.app.mNet.mToken d.data
      · rw [h.heard now hown (hpaced d hd)] at ht'
        exact Or.inl (Option.some.inj ht').le
      · rcases step_lastHeard setup ht ht' with hsame | ⟨data, source, now', heq, hlater⟩
        · refine Or.inr ⟨hsame, fun d' hd' hown' => ?_⟩
          obtain ⟨j, hj⟩ := List.mem_iff_getElem?.mp hd'
          refine List.mem_eraseIdx_iff_getElem?.mpr ⟨j, ?_, hj⟩
          rintro rfl
          rw [hd] at hj
          obtain rfl := Option.some.inj hj
          exact hown hown'
        · cases heq
          exact Or.inl hlater.ge

omit [Scalar F] in
/-- The sweep comes before the silence has lasted too long. -/
theorem Kept.sweep_players (h : Kept peer setup s) {now : ℚ}
    (htimely : Timely s (.work (.sweep now))) :
    (s.server.sweep setup now).playersByConnection[peer.connection]? =
      s.server.playersByConnection[peer.connection]? := by
  obtain ⟨-, player, hplayer, -⟩ := h.bound
  obtain ⟨-, hframe, hflight⟩ := htimely now rfl
  have hheard : lastHeard s.server peer.connection = some player.lastUdpPacket := by
    rw [lastHeard, hplayer]
    rfl
  obtain ⟨own, hsub, -, hcovered⟩ := h.covered _ hheard
  have hrecent : now < s.spokenAt + gap setup + 1 := by
    have hspoke := h.recent
    linarith
  have hunderway : ∀ sent ∈ own.map (·.sentAt), now < sent + 1 := by
    intro sent hsent
    obtain ⟨d, hd, rfl⟩ := List.mem_map.mp hsent
    exact hflight d (hsub hd)
  have hlate : ¬ player.lastUdpPacket < now - (setup.udpTimeoutSeconds.toNat : ℚ) := by
    have hsilence := hcovered.heard_recently hrecent hunderway
    rw [gap] at hsilence
    rw [not_lt]
    linarith
  rw [LastHeard.sweep_players, hplayer, Option.filter_some]
  simp [hlate]

theorem Kept.work (h : Kept peer setup s) {e : WorldServer.Event ℚ}
    (hallowed : Allowed peer host setup s (.work e)) :
    Kept peer setup (step peer host setup s (.work e)) := by
  obtain ⟨htimely, -, -, hstays⟩ := hallowed
  have hnow : s.now ≤ (moment e).getD s.now := by
    cases hmoment : moment e with
    | none => exact le_refl _
    | some t => exact (htimely t hmoment).1
  have hleads := step_leads setup h.leads h.bound.mem e
  by_cases hsweep : ∃ t, e = .sweep t
  · obtain ⟨t, rfl⟩ := hsweep
    have hplayers := h.sweep_players htimely
    refine h.serve ⟨h.bound.1, ?_⟩ hleads hnow fun t t' ht ht' => Or.inr ⟨?_, fun d hd _ => hd⟩
    · simp only [WorldServer.step, hplayers]
      exact h.bound.2
    · simp only [lastHeard, WorldServer.step, hplayers] at ht ht'
      exact Option.some.inj (ht'.symm.trans ht)
  · have hother : isSweep (.work e : Act F) = false := by
      cases e with
      | sweep t => exact absurd ⟨t, rfl⟩ hsweep
      | _ => rfl
    refine h.serve (hstays hother) hleads hnow fun t t' ht ht' => ?_
    rcases step_lastHeard setup ht ht' with hsame | ⟨data, source, now, rfl, hlater⟩
    · exact Or.inr ⟨hsame, fun d hd _ => hd⟩
    · exact Or.inl hlater.ge

end Server

/-- One act. -/
theorem Kept.step (h : Kept peer setup s) (htimeout : 3 ≤ setup.udpTimeoutSeconds.toNat) {a : Act F}
    (hallowed : Allowed peer host setup s a) (hpaced : Paced peer setup s a) :
    Kept peer setup (step peer host setup s a) := by
  cases a with
  | frame f => exact h.frame htimeout hallowed hpaced
  | arrive i now => exact h.arrive hallowed hpaced
  | work e => exact h.work hallowed

omit [Scalar F] in
/-- The moment at which the server has accepted the hello. -/
theorem kept_bound {app : Application F} (hready : Ready app)
    (hworld : app.mNet.mState = .inWorld) {w : WorldServer ℚ} (hfiled : Filed w) {now : Clocks ℚ}
    (haccepted : (accepted w (.datagram
      (NetClient.helloPacket app.mNet.mPlayerId app.mNet.mToken) peer.address now)).map Peer.of =
        some peer)
    (hclock : app.mElapsedSeconds ≤ now.steadySeconds)
    (htimeout : 3 ≤ setup.udpTimeoutSeconds.toNat) (flight : List Flying) :
    Kept peer setup (Link.bound app (w.step setup (.datagram
      (NetClient.helloPacket app.mNet.mPlayerId app.mNet.mToken) peer.address now))
        now.steadySeconds flight) := by
  obtain ⟨b, haccepted, rfl⟩ := Option.map_eq_some_iff.mp haccepted
  obtain ⟨hdecodes, hconnection, hplayer, htoken, hsource⟩ := accepted_eq_some haccepted
  have hbound := step_hello setup _ haccepted
  simp only [Peer.of] at hbound ⊢
  have hentry : (w.step setup (.datagram (NetClient.helloPacket app.mNet.mPlayerId app.mNet.mToken)
      b.source now)).playersByConnection[b.connection]? = some (bindTo b.player b.source now) := by
    rw [hbound]
    exact ExtTreeMap.getElem?_insert_self
  have hpresent : b.connection ∈ w.playersByConnection := by
    rw [ExtTreeMap.mem_iff_isSome_getElem?, hplayer]
    rfl
  have hleads : Leads b.hello.playerId.toNat b.connection w := ⟨hfiled, fun _ => hconnection⟩
  have hstill : Leads b.hello.playerId.toNat b.connection (w.step setup (.datagram
      (NetClient.helloPacket app.mNet.mPlayerId app.mNet.mToken) b.source now)) :=
    step_leads setup hleads hpresent _
  have hgap := gap_nonneg htimeout
  have hnonneg := hready.settled.nonneg
  refine ⟨⟨hworld, ?_⟩, hstill, hdecodes, hready.sound, hready.queued, hready.settled, hclock,
    le_refl _, ?_, fun _ _ => ?_, fun heard hheard => ?_⟩
  · exact ⟨_, hentry, htoken, rfl, rfl⟩
  · simp only [Link.bound]
    linarith
  · simp only [Link.bound]
    linarith
  · simp only [Link.bound, lastHeard, hentry] at hheard
    obtain rfl := Option.some.inj hheard
    exact ⟨[], List.nil_subset _, by simp, covered_now hclock⟩

/-- From the hello that binds its address, a client that stays in the world is never dropped for
its silence, in every run over a lossless network in which it is not silent for too long after a
skipped tick and nobody else is taken for the sender of its inputs. -/
theorem kept_alive (host : Host F) (setup : Setup ℚ) (htimeout : 3 ≤ setup.udpTimeoutSeconds.toNat)
    (mFakeLatency mFakeLoss : ℚ) (frames : List (Frame F))
    (hdeltas : ∀ f ∈ frames, 0 ≤ f.deltaSeconds) (start : Sim.ClockReading ℚ)
    (events : List (WorldServer.Event ℚ)) (peer : Peer) (now : Clocks ℚ) (flight : List Flying)
    (acts : List (Act F)) :
    let app := Application.run host mFakeLatency mFakeLoss frames
    let w := WorldServer.run setup start events
    let hello := WorldServer.Event.datagram
      (NetClient.helloPacket app.mNet.mPlayerId app.mNet.mToken) peer.address now
    let s := Link.bound app (w.step setup hello) now.steadySeconds flight
    (accepted w hello).map Peer.of = some peer → app.mNet.mState = .inWorld →
      app.mElapsedSeconds ≤ now.steadySeconds →
      Lib.Runs.Along (step peer host setup)
          (fun s a => Allowed peer host setup s a ∧ Paced peer setup s a) s acts →
        ∀ pre, pre <+: acts → Bound peer (Lib.Runs.run (step peer host setup) s pre) := by
  intro app w hello s haccepted hworld hclock hrun pre hpre
  have hready : Ready app := ready_run host mFakeLatency mFakeLoss hdeltas
  have hstart : Kept peer setup s :=
    kept_bound hready hworld (filed_run setup start events) haccepted hclock htimeout flight
  have hkeep : ∀ (s : Link F) (a : Act F), Kept peer setup s →
      Allowed peer host setup s a ∧ Paced peer setup s a →
        Kept peer setup (UdpSilence.step peer host setup s a) :=
    fun s a h ha => h.step htimeout ha.1 ha.2
  obtain ⟨rest, rfl⟩ := hpre
  have hkept := Lib.Runs.run_invariant hkeep hstart (Lib.Runs.along_append.mp hrun).1
  exact hkept.bound

end System

section Runs

open Client.Numbering (levelHost promptSession still)

/-- A server that gives players up after three seconds. -/
def impatient : Setup ℚ := { Setup.level with udpTimeoutSeconds := 3 }

/-- The player of the session joins. -/
def joining : List (WorldServer.Event ℚ) :=
  [.accept, .message 1 (WorldServer.joinMessage [3]),
    .reply 1 (.sessionLookup true ⟨1, [97], 0⟩) .noon]

def at_ (seconds : ℚ) : Clocks ℚ := { Clocks.noon with steadySeconds := seconds }

def player : Peer := ⟨⟨1, 7⟩, 1, ⟨1, [3]⟩⟩

/-- The session is in the game, and its hello arrives. -/
def playing : Link ℚ :=
  let app := Application.run levelHost 0 0 promptSession
  Link.bound app
    ((WorldServer.run impatient Clocks.noon.clock joining).step impatient (.datagram
      (NetClient.helloPacket app.mNet.mPlayerId app.mNet.mToken) player.address (at_ (1 / 30))))
    (1 / 30) []

/-- The player looks at the menu. -/
def openMenu : Act ℚ :=
  .frame { still 0 with ui := { Client.UiInput.none with escape := true } }

/-- An input is sent and arrives, and a visit to the menu is short. -/
def lookIn : List (Act ℚ) :=
  [.frame (still (1 / 60)), .arrive 0 (at_ (1 / 20)), openMenu, .frame (still (9 / 10)),
    .work (.sweep 1)]

/-- Four frames in the menu. -/
def linger : List (Act ℚ) :=
  [openMenu, .frame (still (9 / 10)), .frame (still (9 / 10)), .frame (still (9 / 10)),
    .frame (still (9 / 10)), .work (.sweep 4)]

theorem kept_alive_lookIn :
    Bound player (Lib.Runs.run (step player levelHost impatient) playing lookIn) :=
  kept_alive levelHost impatient (by decide) 0 0 promptSession (by decide +kernel)
    Clocks.noon.clock joining player (at_ (1 / 30)) [] lookIn (by decide +kernel)
    (by decide +kernel) (by decide +kernel) (by decide +kernel) lookIn List.prefix_rfl

/-- The client is in the world all the time, and the sweep drops its player. -/
theorem dropped_in_menu :
    Lib.Runs.Along (step player levelHost impatient) (Allowed player levelHost impatient) playing
        linger ∧
      Bound player (Lib.Runs.run (step player levelHost impatient) playing linger.dropLast) ∧
      let s := Lib.Runs.run (step player levelHost impatient) playing linger
      s.app.mState = .menu ∧ s.app.mNet.mState = .inWorld ∧
        player.connection ∉ s.server.playersByConnection := by
  decide +kernel

end Runs

end UntitledGame.Server.UdpSilence
