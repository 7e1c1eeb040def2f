import UntitledGame.Client.Application
import UntitledGame.Net.Reader
import UntitledGame.Ui.Widgets

/-!
# What the client makes of the password

`veil` replaces a password by as many stars, and takes away what is queued for the auth
server. What the client does, seen through the veil, depends on the veiled client only:
the functions of `NetClient` and those of `Application` up to the screens.
-/

namespace UntitledGame.Client

open Net
open Lib.Runs (Blind)
open Ui.Widgets (masked)

/-- Stars stay stars. -/
theorem masked_masked (value : Bytes) : masked (masked value) = masked value := by
  simp [masked]

theorem masked_eq_nil_iff (value : Bytes) : masked value = [] ↔ value = [] := by
  simp [masked]

namespace NetClient

/-- A stream without what is to be written. -/
def veilStream (s : MessageStream) : MessageStream := ⟨s.mReadBuffer, [], 0⟩

/-- The client with stars for the password, and nothing queued for the auth server. -/
def veil (c : NetClient) : NetClient :=
  { c with mPassword := masked c.mPassword, mAuth := c.mAuth.map veilStream }

theorem veil_veil (c : NetClient) : c.veil.veil = c.veil := by
  simp only [veil, masked_masked, Option.map_map]
  rfl

section Udp

/-- Giving up forgets no password, so it passes through the veil. -/
@[simp] theorem veil_fail (c : NetClient) (message : String) :
    c.veil.fail message = (c.fail message).veil := rfl

@[simp] theorem veil_disconnect (c : NetClient) : c.veil.disconnect = c.disconnect.veil := rfl

/-- What goes out over UDP has nothing of the password. -/
@[simp] theorem veil_sendTo (c : NetClient) (packet : Bytes) :
    c.veil.sendTo packet = (c.sendTo packet).veil := by
  simp only [sendTo, apply_ite veil]
  rfl

@[simp] theorem veil_sendUdpHello (c : NetClient) :
    c.veil.sendUdpHello = c.sendUdpHello.veil := veil_sendTo c _

theorem veil_sendInput (c : NetClient) (input : InputBits) (dropped : Bool) :
    c.veil.sendInput input dropped = (c.sendInput input dropped).veil := by
  simp only [sendInput, apply_ite veil, ← veil_sendTo]
  rfl

/-- Nor has what comes in. -/
theorem veil_applySnapshotPacket (c : NetClient) (data : Bytes) (sequence : UInt32) (now : ℚ) :
    c.veil.applySnapshotPacket data sequence now =
      (c.applySnapshotPacket data sequence now).veil := by
  simp only [applySnapshotPacket]
  split
  · rfl
  · rfl

theorem veil_handleDatagram (c : NetClient) (now : ℚ) (buffer : Bytes) :
    c.veil.handleDatagram now buffer = (c.handleDatagram now buffer).veil := by
  simp only [handleDatagram]
  split
  · rfl
  · simp only [apply_ite veil, ← veil_applySnapshotPacket]
    rfl

theorem veil_receiveDatagrams (c : NetClient) (now : ℚ) (datagrams : List (Address × Bytes)) :
    c.veil.receiveDatagrams now datagrams = (c.receiveDatagrams now datagrams).veil := by
  induction datagrams generalizing c with
  | nil => rfl
  | cons d datagrams ih =>
      simp only [receiveDatagrams, veil_handleDatagram, ih]
      split
      · rfl
      · rfl

/-- The packets held back go out one after the other. -/
theorem veil_flushOutgoing (c : NetClient) (now : ℚ) :
    c.veil.flushOutgoing now = (c.flushOutgoing now).veil := by
  have hsent : ∀ packets : List DelayedPacket, ∀ c : NetClient,
      packets.foldl (fun c p => c.sendTo p.data) c.veil =
        (packets.foldl (fun c p => c.sendTo p.data) c).veil := by
    intro packets
    induction packets with
    | nil => exact fun _ => rfl
    | cons p packets ih =>
        intro c
        rw [List.foldl_cons, List.foldl_cons, veil_sendTo, ih]
  simp only [flushOutgoing, show c.veil.mDelayedOutgoing = c.mDelayedOutgoing from rfl, hsent]
  rfl

theorem veil_flushIncoming (c : NetClient) (now : ℚ) :
    c.veil.flushIncoming now = (c.flushIncoming now).veil := by
  have happlied : ∀ packets : List DelayedPacket, ∀ c : NetClient,
      packets.foldl (fun c p => c.applySnapshotPacket p.data c.mLastSnapshotSequence now) c.veil =
        (packets.foldl (fun c p => c.applySnapshotPacket p.data c.mLastSnapshotSequence now)
          c).veil := by
    intro packets
    induction packets with
    | nil => exact fun _ => rfl
    | cons p packets ih =>
        intro c
        rw [List.foldl_cons, List.foldl_cons, veil_applySnapshotPacket, ih]
        rfl
  simp only [flushIncoming, show c.veil.mDelayedIncoming = c.mDelayedIncoming from rfl, happlied]
  rfl

/-- The whole turn of the UDP socket. -/
theorem veil_pumpUdp (c : NetClient) (now : ℚ) (datagrams : List (Address × Bytes)) :
    c.veil.pumpUdp now datagrams = (c.pumpUdp now datagrams).veil := by
  have hgreeted : ∀ {c c' : NetClient}, c' = c.veil →
      (c'.receiveDatagrams now datagrams).flushDelayed now =
        ((c.receiveDatagrams now datagrams).flushDelayed now).veil := by
    rintro c _ rfl
    rw [veil_receiveDatagrams, flushDelayed, veil_flushOutgoing, veil_flushIncoming, flushDelayed]
  refine hgreeted ?_
  simp only [apply_ite veil, veil_sendUdpHello]
  rfl

end Udp

section World

/-- Being admitted to the world. -/
theorem veil_handleJoinResponse (c : NetClient) (now : ℚ) (udpOpen : Bool × Option Address)
    (payload : Bytes) : c.veil.handleJoinResponse now udpOpen payload =
      (c.handleJoinResponse now udpOpen payload).veil := by
  simp only [handleJoinResponse]
  split
  · rfl
  · split
    · rfl
    · split
      · rfl
      · split
        · rfl
        · rename_i target _
          let c' : NetClient :=
            { c with
              mPlayerId := (readJoinResponse (ByteReader.start payload)).1.1.playerId
              mUsername := (readJoinResponse (ByteReader.start payload)).1.1.username
              mOwnEntityId := (readJoinResponse (ByteReader.start payload)).1.1.entityId
              mUdp := true
              mUdpTarget := target
              mState := .inWorld }
          change { c'.veil.sendUdpHello with mLastHelloAt := now, mLastSnapshotAt := now } =
            ({ c'.sendUdpHello with mLastHelloAt := now, mLastSnapshotAt := now } : NetClient).veil
          rw [veil_sendUdpHello]
          rfl

/-- The messages of the world server, in order. -/
theorem veil_handleWorld (c : NetClient) (now : ℚ) (udpOpens : List (Bool × Option Address))
    (messages : List Message) :
    c.veil.handleWorld now udpOpens messages = (c.handleWorld now udpOpens messages).veil := by
  induction messages generalizing c udpOpens with
  | nil => rfl
  | cons m messages ih =>
      simp only [handleWorld, veil_handleJoinResponse]
      split
      · rw [ih, apply_ite veil]
        rfl
      · rfl
      · exact ih c udpOpens

theorem veil_pumpWorld (c : NetClient) (now : ℚ) (os : Os) :
    c.veil.pumpWorld now os = (c.pumpWorld now os).veil := by
  simp only [pumpWorld, show c.veil.mWorld = c.mWorld from rfl]
  split
  · rfl
  · rename_i stream _
    have hworld : ∀ world : Option MessageStream,
        ({ c.veil with mWorld := world } : NetClient) = veil { c with mWorld := world } :=
      fun _ => rfl
    simp only [hworld, veil_handleWorld, veil_pumpUdp, apply_ite veil]
    rfl

theorem veil_pollConnectingWorld (c : NetClient) (os : Os) :
    c.veil.pollConnectingWorld os = (c.pollConnectingWorld os).veil := by
  simp only [pollConnectingWorld, apply_ite veil]
  rfl

end World

section Auth

/-- What is read from a stream does not depend on what is to be written. -/
theorem pump_veilStream (outcomes : List Receive) (s : MessageStream) (inFlight : Bytes) :
    (veilStream s).pump inFlight outcomes =
      (veilStream (s.pump inFlight outcomes).1, (s.pump inFlight outcomes).2) := by
  induction outcomes generalizing s inFlight with
  | nil => rfl
  | cons outcome outcomes ih =>
      cases outcome with
      | closed => rfl
      | ready n =>
          simp only [MessageStream.pump]
          split
          · rfl
          · let s' : MessageStream := { s with
              mReadBuffer := s.mReadBuffer ++ inFlight.take (min n MessageStream.kChunkSize) }
            have hstep := ih s' (inFlight.drop (min n MessageStream.kChunkSize))
            simp only [show (veilStream s).mReadBuffer = s.mReadBuffer from rfl]
            split
            · rfl
            · exact hstep

theorem next_veilStream (s : MessageStream) :
    (veilStream s).next = s.next.map fun r => (r.1, veilStream r.2) := by
  simp only [MessageStream.next, show (veilStream s).mReadBuffer = s.mReadBuffer from rfl]
  split
  · rfl
  · split
    · rfl
    · split <;> rfl

/-- The messages that are complete. -/
theorem drain_veilStream (s : MessageStream) :
    (veilStream s).drain = (s.drain.1, veilStream s.drain.2) := by
  have hupTo : ∀ (fuel : Nat) (s : MessageStream),
      MessageStream.drainUpTo fuel (veilStream s) =
        ((MessageStream.drainUpTo fuel s).1, veilStream (MessageStream.drainUpTo fuel s).2) := by
    intro fuel
    induction fuel with
    | zero => exact fun _ => rfl
    | succ fuel ih =>
        intro s
        simp only [MessageStream.drainUpTo, next_veilStream]
        cases hnext : s.next with
        | none => rfl
        | some r => simp only [Option.map_some, ih]
  exact hupTo _ s

/-- The answer to a login is handled without the password. -/
theorem veil_handleLoginResponse (c : NetClient) (os : Os) (payload : Bytes) :
    c.veil.handleLoginResponse os payload = (c.handleLoginResponse os payload).veil := by
  simp only [handleLoginResponse]
  split
  · rfl
  · split
    · rfl
    · split
      · rfl
      · split
        · rfl
        · rfl

theorem veil_handleAuth (c : NetClient) (os : Os) (messages : List Message) :
    c.veil.handleAuth os messages = (c.handleAuth os messages).veil := by
  induction messages with
  | nil => rfl
  | cons m messages ih =>
      simp only [handleAuth, apply_ite veil, ih, veil_handleLoginResponse]

theorem veil_pumpAuth (c : NetClient) (os : Os) : c.veil.pumpAuth os = (c.pumpAuth os).veil := by
  cases hauth : c.mAuth with
  | none => simp only [pumpAuth, hauth, veil, Option.map_none]; rfl
  | some stream =>
      have hveiled : c.veil.mAuth = some (veilStream stream) := by simp [veil, hauth]
      simp only [pumpAuth, hauth, hveiled, pump_veilStream, drain_veilStream, apply_ite veil,
        ← veil_handleAuth]
      rfl

/-- The one place where the password is read: it is queued, and the queue is veiled. -/
theorem blind_pollConnectingAuth (os : Os) :
    Blind veil veil fun c => c.pollConnectingAuth os := by
  intro c
  simp only [pollConnectingAuth]
  split
  · exact veil_veil c
  · split
    · exact veil_veil (c.fail _)
    · simp only [veil, Option.map_some, veilStream, Reader.send_mReadBuffer]

/-- The end of `login`. -/
def resolveAuth (host : String) (os : Os) (c : NetClient) : NetClient :=
  match os.resolve with
  | none => c.fail ("cannot resolve " ++ host)
  | some _ =>
      if !os.connect then c.fail "cannot reach auth server"
      else { c with mPendingAuthSocket := true, mState := .connectingAuth }

theorem veil_resolveAuth (host : String) (os : Os) (c : NetClient) :
    resolveAuth host os c.veil = (resolveAuth host os c).veil := by
  simp only [resolveAuth]
  split
  · rfl
  · rw [apply_ite veil]
    rfl

/-- A login clears what was there; of the password, its length shows. -/
theorem veil_login {c c' : NetClient} (h : c.veil = c'.veil) (host : String) (username : Bytes)
    {password password' : Bytes} (hpassword : masked password = masked password') (os : Os) :
    (c.login host username password os).veil = (c'.login host username password' os).veil := by
  have hcleared : c.disconnect.veil = c'.disconnect.veil := by
    rw [← veil_disconnect, ← veil_disconnect, h]
  have hfill : ∀ (d : NetClient) (p : Bytes),
      (d.login host username p os).veil = resolveAuth host os
        { d.disconnect.veil with
          mError := "", mUsername := username, mPassword := masked p, mEntities := ∅
          mSnapshotsReceived := 0 } := by
    intro d p
    exact (veil_resolveAuth host os { d.disconnect with
      mError := "", mUsername := username, mPassword := p, mEntities := ∅
      mSnapshotsReceived := 0 }).symm
  rw [hfill, hfill, hcleared, hpassword]

/-- A poll behind its time stamp. -/
def dispatch (now : ℚ) (os : Os) (c : NetClient) : NetClient :=
  match c.mState with
  | .connectingAuth => c.pollConnectingAuth os
  | .awaitingLogin => c.pumpAuth os
  | .connectingWorld => c.pollConnectingWorld os
  | .awaitingJoin => c.pumpWorld now os
  | .inWorld => c.pumpWorld now os
  | .idle => c
  | .failed => c

/-- Whatever the state, the work of a poll does not show the password. -/
theorem blind_dispatch (now : ℚ) (os : Os) : Blind veil veil (dispatch now os) := by
  intro c
  simp only [dispatch, show c.veil.mState = c.mState from rfl]
  split
  · exact blind_pollConnectingAuth os c
  · rw [veil_pumpAuth, veil_veil]
  · rw [veil_pollConnectingWorld, veil_veil]
  · rw [veil_pumpWorld, veil_veil]
  · rw [veil_pumpWorld, veil_veil]
  · exact veil_veil c
  · exact veil_veil c

theorem blind_poll (now : ℚ) (os : Os) : Blind veil veil fun c => c.poll now os := by
  have hstamped : Blind veil veil fun c : NetClient => { c with mLastPollTime := now } :=
    Blind.of_commutes veil_veil fun _ => rfl
  exact (blind_dispatch now os).comp hstamped

end Auth

end NetClient

/-- The form with stars for the password. -/
def LoginScreen.veil (s : LoginScreen) : LoginScreen := { s with mPassword := masked s.mPassword }

namespace Application

open Std (ExtTreeSet)

variable {F : Type*} [Scalar F]

/-- The application with its form and its client veiled. -/
def veil (a : Application F) : Application F :=
  { a with mLoginScreen := a.mLoginScreen.veil, mNet := a.mNet.veil }

omit [Scalar F] in
theorem veil_veil (a : Application F) : a.veil.veil = a.veil := by
  simp only [veil, LoginScreen.veil, masked_masked, NetClient.veil_veil]

variable (host : Host F)

theorem veil_tick (intent : Prediction.Intent F) (dropped : Bool) (a : Application F) :
    a.veil.tick host intent dropped = (a.tick host intent dropped).veil := by
  simp only [tick, show a.veil.mState = a.mState from rfl,
    show a.veil.mNet = a.mNet.veil from rfl, NetClient.veil_sendInput]
  split
  · rfl
  · rfl

/-- Any number of ticks. -/
theorem veil_tickLoop (intent : Prediction.Intent F) (fuel : Nat) (dropped : List Bool)
    (a : Application F) :
    a.veil.tickLoop host intent fuel dropped = (a.tickLoop host intent fuel dropped).veil := by
  induction fuel generalizing a dropped with
  | zero => rfl
  | succ fuel ih =>
      simp only [tickLoop, veil_tick, ih, apply_ite veil]
      rfl

theorem veil_predictOwn (a : Application F) (e : EntityState F) :
    a.veil.predictOwn host e = (a.predictOwn host e).veil := by
  simp only [predictOwn, apply_ite veil]
  rfl

/-- An entity of the snapshot, whoever it is. -/
theorem veil_replicateEntity (a : Application F) (present : ExtTreeSet UInt32)
    (entry : UInt32 × NetClient.Replicated) :
    replicateEntity host (a.veil, present) entry =
      ((replicateEntity host (a, present) entry).1.veil,
        (replicateEntity host (a, present) entry).2) := by
  simp only [replicateEntity, veil_predictOwn]
  split
  · rw [← apply_ite veil]
    rfl
  · rfl

/-- The scene follows the snapshots alone. -/
theorem veil_applyReplication (a : Application F) :
    a.veil.applyReplication host = (a.applyReplication host).veil := by
  have hentities : ∀ (entries : List (UInt32 × NetClient.Replicated)) (a : Application F)
      (present : ExtTreeSet UInt32), entries.foldl (replicateEntity host) (a.veil, present) =
        ((entries.foldl (replicateEntity host) (a, present)).1.veil,
          (entries.foldl (replicateEntity host) (a, present)).2) := by
    intro entries
    induction entries with
    | nil => exact fun _ _ => rfl
    | cons entry entries ih =>
        intro a present
        rw [List.foldl_cons, List.foldl_cons, veil_replicateEntity, ih]
  simp only [applyReplication, show a.veil.mNet.mEntities = a.mNet.mEntities from rfl, hentities,
    apply_ite veil]
  rfl

end Application

end UntitledGame.Client
