import UntitledGame.Client.Mirror
import UntitledGame.Client.Numbering

/-!
# The session of the client

Two state machines own what a session needs. `NetClient` has five sockets, and
which of them are open is a function of its state. `Application` has the scene
and the prediction, and it follows the network: in the game and in the menu the
world is loaded and the network is in it.

`Sound` is the invariant. A poll may move the network out of the world, which
leaves `Polled`, and `transition` brings the application after it.
-/

namespace UntitledGame.Client.Session

open Net NetClient Client.Numbering

/-- The sockets of a client that are open. -/
structure Sockets where
  auth : Bool
  world : Bool
  pendingAuth : Bool
  pendingWorld : Bool
  udp : Bool
  deriving DecidableEq, Repr

def sockets (c : NetClient) : Sockets :=
  ⟨c.mAuth.isSome, c.mWorld.isSome, c.mPendingAuthSocket, c.mPendingWorldSocket, c.mUdp⟩

def Sockets.none : Sockets := ⟨false, false, false, false, false⟩

/-- The sockets that a state of the client needs. -/
def needed : State → Sockets
  | .idle => Sockets.none
  | .connectingAuth => { Sockets.none with pendingAuth := true }
  | .awaitingLogin => { Sockets.none with auth := true }
  | .connectingWorld => { Sockets.none with pendingWorld := true }
  | .awaitingJoin => { Sockets.none with world := true }
  | .inWorld => { Sockets.none with world := true, udp := true }
  | .failed => Sockets.none

/-- The client has open exactly the sockets that its state needs. -/
def Tidy (c : NetClient) : Prop := sockets c = needed c.mState

/-- What `Tidy` is about. -/
def status (c : NetClient) : State × Sockets := (c.mState, sockets c)

theorem mState_of_status {c c' : NetClient} (h : status c' = status c) : c'.mState = c.mState :=
  congrArg Prod.fst h

/-- A step that opens and closes nothing and stays in its state. -/
theorem Tidy.of_status {c c' : NetClient} (h : Tidy c) (hstatus : status c' = status c) :
    Tidy c' := by
  simp only [status, Prod.mk.injEq] at hstatus
  rw [Tidy, hstatus.1, hstatus.2]
  exact h

section Network

theorem tidy_fail (c : NetClient) (message : String) : Tidy (c.fail message) := rfl

theorem tidy_disconnect (c : NetClient) : Tidy c.disconnect := rfl

theorem tidy_login (c : NetClient) (host : String) (username password : Bytes) (os : Os) :
    Tidy (c.login host username password os) := by
  simp only [login]
  split
  · exact tidy_fail _ _
  · split
    · exact tidy_fail _ _
    · rfl

/-- The connected socket becomes the stream. -/
theorem tidy_pollConnectingAuth {c : NetClient} (h : Tidy c) (hstate : c.mState = .connectingAuth)
    (os : Os) : Tidy (c.pollConnectingAuth os) := by
  have hopen : sockets c = needed .connectingAuth := hstate ▸ h
  simp only [sockets, needed, Sockets.none, Sockets.mk.injEq] at hopen
  simp only [pollConnectingAuth]
  split
  · exact h
  · split
    · exact tidy_fail _ _
    · simp [Tidy, sockets, needed, Sockets.none, hopen]

theorem tidy_pollConnectingWorld {c : NetClient} (h : Tidy c)
    (hstate : c.mState = .connectingWorld) (os : Os) : Tidy (c.pollConnectingWorld os) := by
  have hopen : sockets c = needed .connectingWorld := hstate ▸ h
  simp only [sockets, needed, Sockets.none, Sockets.mk.injEq] at hopen
  simp only [pollConnectingWorld]
  split
  · exact h
  · split
    · exact tidy_fail _ _
    · simp [Tidy, sockets, needed, Sockets.none, hopen]

/-- A login response drops the auth stream, and opens the next socket if there is one. -/
theorem tidy_handleLoginResponse {c : NetClient} (h : Tidy c) (hstate : c.mState = .awaitingLogin)
    (os : Os) (payload : Bytes) : Tidy (c.handleLoginResponse os payload) := by
  have hopen : sockets c = needed .awaitingLogin := hstate ▸ h
  simp only [sockets, needed, Sockets.none, Sockets.mk.injEq] at hopen
  simp only [handleLoginResponse]
  split
  · exact tidy_fail _ _
  · split
    · exact tidy_fail _ _
    · split
      · exact tidy_fail _ _
      · split
        · exact tidy_fail _ _
        · simp [Tidy, sockets, needed, Sockets.none, hopen]

theorem tidy_handleAuth {c : NetClient} (h : Tidy c) (hstate : c.mState = .awaitingLogin) (os : Os)
    (messages : List Message) : Tidy (c.handleAuth os messages) := by
  induction messages with
  | nil => exact h
  | cons m rest ih =>
      simp only [handleAuth]
      split
      · exact ih
      · exact tidy_handleLoginResponse h hstate os m.payload

theorem tidy_pumpAuth {c : NetClient} (h : Tidy c) (hstate : c.mState = .awaitingLogin) (os : Os) :
    Tidy (c.pumpAuth os) := by
  simp only [pumpAuth]
  split
  · exact tidy_fail _ _
  · rename_i stream hstream
    split
    · exact tidy_fail _ _
    · have hset : Tidy { c with mAuth := some (stream.pump os.arriving os.receives).1.drain.2 } :=
        h.of_status (by simp [status, sockets, hstream])
      exact tidy_handleAuth hset hstate os _

/-- A client with a world stream, in the world or waiting for the answer to its join request. -/
def Joined (c : NetClient) : Prop := c.mState = .awaitingJoin ∨ c.mState = .inWorld

theorem status_of_transmits {c c' : NetClient} (h : Transmits c c') : status c' = status c := by
  obtain ⟨_, _, rfl⟩ := h
  rfl

/-- A join response ends in the world or in a failure. -/
theorem handleJoinResponse_state (c : NetClient) (now : ℚ) (udpOpen : Bool × Option Address)
    (payload : Bytes) :
    let c' := c.handleJoinResponse now udpOpen payload
    c'.mState = .inWorld ∨ c'.mState = .failed := by
  simp only [handleJoinResponse]
  split
  · exact Or.inr rfl
  · split
    · exact Or.inr rfl
    · split
      · exact Or.inr rfl
      · split
        · exact Or.inr rfl
        · exact Or.inl (mState_of_status (status_of_transmits (transmits_sendUdpHello _)))

/-- A join response opens the UDP socket, or it closes everything. -/
theorem tidy_handleJoinResponse {c : NetClient} (h : Tidy c) (hjoined : Joined c) (now : ℚ)
    (udpOpen : Bool × Option Address) (payload : Bytes) :
    Tidy (c.handleJoinResponse now udpOpen payload) := by
  have hopen : c.mAuth.isSome = false ∧ c.mWorld.isSome = true ∧ c.mPendingAuthSocket = false ∧
      c.mPendingWorldSocket = false := by
    have hneeded : sockets c = needed c.mState := h
    rcases hjoined with hstate | hstate
    · simp only [hstate, sockets, needed, Sockets.none, Sockets.mk.injEq] at hneeded
      exact ⟨hneeded.1, hneeded.2.1, hneeded.2.2.1, hneeded.2.2.2.1⟩
    · simp only [hstate, sockets, needed, Sockets.none, Sockets.mk.injEq] at hneeded
      exact ⟨hneeded.1, hneeded.2.1, hneeded.2.2.1, hneeded.2.2.2.1⟩
  simp only [handleJoinResponse]
  split
  · exact tidy_fail _ _
  · split
    · exact tidy_fail _ _
    · split
      · exact tidy_fail _ _
      · split
        · exact tidy_fail _ _
        · simp [Tidy, sockets, needed, Sockets.none, hopen, sendUdpHello, sendTo]

/-- The message loop stays joined, or it ends in a failure. -/
theorem tidy_handleWorld {c : NetClient} (h : Tidy c) (hjoined : Joined c) (now : ℚ)
    (udpOpens : List (Bool × Option Address)) (messages : List Message) :
    Tidy (c.handleWorld now udpOpens messages) := by
  induction messages generalizing c udpOpens with
  | nil => exact h
  | cons m rest ih =>
      simp only [handleWorld]
      split
      · have htidy := tidy_handleJoinResponse h hjoined now (udpOpens.headD (false, none)) m.payload
        have hstate := handleJoinResponse_state c now (udpOpens.headD (false, none)) m.payload
        split
        · exact htidy
        · rename_i hfailed
          exact ih htidy (Or.inr (hstate.resolve_right hfailed)) _
      · exact tidy_fail _ _
      · exact ih h hjoined udpOpens

/-- A client in the world stays in it until it fails. -/
theorem handleWorld_state {c : NetClient} (h : c.mState = .inWorld) (now : ℚ)
    (udpOpens : List (Bool × Option Address)) (messages : List Message) :
    let c' := c.handleWorld now udpOpens messages
    c'.mState = .inWorld ∨ c'.mState = .failed := by
  induction messages generalizing c udpOpens with
  | nil => exact Or.inl h
  | cons m rest ih =>
      simp only [handleWorld]
      split
      · have hstate := handleJoinResponse_state c now (udpOpens.headD (false, none)) m.payload
        split
        · exact hstate
        · rename_i hfailed
          exact ih (hstate.resolve_right hfailed) _
      · exact Or.inr rfl
      · exact ih h udpOpens

/-- Datagrams open and close nothing. -/
theorem status_pumpUdp (c : NetClient) (now : ℚ) (datagrams : List (Address × Bytes)) :
    status (c.pumpUdp now datagrams) = status c := by
  obtain ⟨_, _, _, _, _, _, _, _, _, heq⟩ := exchanges_pumpUdp c now datagrams
  rw [heq]
  rfl

theorem tidy_pumpWorld {c : NetClient} (h : Tidy c) (hjoined : Joined c) (now : ℚ) (os : Os) :
    Tidy (c.pumpWorld now os) := by
  simp only [pumpWorld]
  split
  · exact tidy_fail _ _
  · rename_i stream hstream
    split
    · exact tidy_fail _ _
    · have hmessages : ∀ s : MessageStream, ∀ messages, Tidy
          (({ c with mWorld := some s } : NetClient).handleWorld now os.udpOpens messages) := by
        intro s messages
        have hset : Tidy { c with mWorld := some s } :=
          h.of_status (by simp [status, sockets, hstream])
        exact tidy_handleWorld hset hjoined now _ messages
      split
      · exact hmessages _ _
      · exact (hmessages _ _).of_status (status_pumpUdp _ now _)

/-- A poll leaves open what the state that it ends in needs. -/
theorem tidy_poll {c : NetClient} (h : Tidy c) (now : ℚ) (os : Os) : Tidy (c.poll now os) := by
  have hstamp : Tidy { c with mLastPollTime := now } := h.of_status rfl
  simp only [poll]
  split
  · rename_i hstate
    exact tidy_pollConnectingAuth hstamp hstate os
  · rename_i hstate
    exact tidy_pumpAuth hstamp hstate os
  · rename_i hstate
    exact tidy_pollConnectingWorld hstamp hstate os
  · rename_i hstate
    exact tidy_pumpWorld hstamp (Or.inl hstate) now os
  · rename_i hstate
    exact tidy_pumpWorld hstamp (Or.inr hstate) now os
  · exact hstamp
  · exact hstamp

theorem poll_state {c : NetClient} (h : c.mState = .inWorld) (now : ℚ) (os : Os) :
    (c.poll now os).mState = .inWorld ∨ (c.poll now os).mState = .failed := by
  simp only [poll, h, pumpWorld]
  split
  · exact Or.inr rfl
  · rename_i stream hstream
    split
    · exact Or.inr rfl
    · have hset : ({ c with
          mLastPollTime := now
          mWorld := some (stream.pump os.arriving os.receives).1.drain.2 } : NetClient).mState =
            .inWorld := h
      have hstate := handleWorld_state hset now os.udpOpens
        (stream.pump os.arriving os.receives).1.drain.1
      simp only [h] at hstate
      split
      · exact hstate
      · rw [mState_of_status (status_pumpUdp _ now os.datagrams)]
        exact hstate

end Network

section Modes

variable {F : Type*} [Scalar F]

/-- The scene and the prediction as the application's state has them: a loaded scene in the game
and in the menu, and elsewhere nothing that predicts. -/
structure Staged (a : Application F) : Prop where
  loaded_iff : a.mDemoScene.mLoaded = true ↔ a.mState = .inGame ∨ a.mState = .menu
  loaded_of_active : a.mPrediction.mActive = true → a.mDemoScene.mLoaded = true

omit [Scalar F] in
theorem Staged.offstage {a : Application F} (h : Staged a)
    (hstate : ¬(a.mState = .inGame ∨ a.mState = .menu)) :
    a.mDemoScene.mLoaded = false ∧ a.mPrediction.mActive = false := by
  have hunloaded : a.mDemoScene.mLoaded = false := by
    rw [Bool.eq_false_iff, ne_eq, h.loaded_iff]
    exact hstate
  refine ⟨hunloaded, Bool.eq_false_iff.mpr fun hactive => ?_⟩
  exact absurd (h.loaded_of_active hactive) (by simp [hunloaded])

/-- The invariant of the application: it is in the world with the network, and only with it. -/
structure Sound (a : Application F) : Prop extends Staged a where
  tidy : Tidy a.mNet
  inWorld : a.mDemoScene.mLoaded = true → a.mNet.mState = .inWorld

omit [Scalar F] in
/-- A step that keeps the mode and the sockets, and predicts only in a loaded scene. -/
theorem Sound.of_frame {a b : Application F} (h : Sound a)
    (hloaded : b.mDemoScene.mLoaded = a.mDemoScene.mLoaded) (hstate : b.mState = a.mState)
    (hnet : status b.mNet = status a.mNet)
    (hactive : b.mPrediction.mActive = true →
      a.mPrediction.mActive = true ∨ a.mDemoScene.mLoaded = true) : Sound b where
  loaded_iff := by
    rw [hloaded, hstate]
    exact h.loaded_iff
  loaded_of_active hb := by
    rw [hloaded]
    exact (hactive hb).elim h.loaded_of_active id
  tidy := h.tidy.of_status hnet
  inWorld hb := by
    rw [hloaded] at hb
    exact (mState_of_status hnet).trans (h.inWorld hb)

theorem sound_init (mFakeLatency mFakeLoss : ℚ) :
    Sound (Application.init mFakeLatency mFakeLoss : Application F) where
  loaded_iff := by simp [Application.init]
  loaded_of_active h := by simp [Application.init, Prediction.blank] at h
  tidy := rfl
  inWorld h := by simp [Application.init] at h

theorem step_active (phys : Sim.Physics F) (s : Prediction F) (intent : Prediction.Intent F) :
    (s.step phys intent).1.mActive = s.mActive := by
  simp only [Prediction.step]
  split
  · rfl
  · rfl

/-- A tick predicts and sends; it changes no mode. -/
theorem sound_tick (host : Host F) (intent : Prediction.Intent F) (dropped : Bool)
    {a : Application F} (h : Sound a) : Sound (a.tick host intent dropped) := by
  simp only [Application.tick]
  split
  · exact h.of_frame rfl rfl rfl Or.inl
  · refine h.of_frame rfl rfl (status_of_transmits (transmits_sendInput _ _ _))
      fun hactive => Or.inl ?_
    exact (step_active host.phys a.mPrediction intent).symm.trans hactive

theorem sound_tickLoop (host : Host F) (intent : Prediction.Intent F) (fuel : Nat)
    (dropped : List Bool) {a : Application F} (h : Sound a) :
    Sound (a.tickLoop host intent fuel dropped) := by
  apply Application.tickLoop_preserves host intent fuel dropped _ h
  exact fun b drop hb _ => sound_tick host intent drop hb

/-- A scene that is destroyed is not loaded. -/
theorem destroy_loaded (s : DemoScene) : s.destroy.mLoaded = false := by
  simp only [DemoScene.destroy]
  split
  · simp_all
  · rfl

/-- What a poll leaves of the invariant: it may have failed in the world, or have left it. -/
structure Polled (a : Application F) : Prop extends Staged a where
  tidy : Tidy a.mNet
  inWorld : a.mDemoScene.mLoaded = true → a.mNet.mState = .inWorld ∨ a.mNet.mState = .failed

omit [Scalar F] in
/-- Without a scene, an application that is not playing is sound whatever its network does. -/
theorem sound_of_unloaded {a : Application F} (htidy : Tidy a.mNet)
    (hloaded : a.mDemoScene.mLoaded = false) (hactive : a.mPrediction.mActive = false)
    (hstate : ¬(a.mState = .inGame ∨ a.mState = .menu)) : Sound a where
  loaded_iff := iff_of_false (by simp [hloaded]) hstate
  loaded_of_active h := absurd h (by simp [hactive])
  tidy := htidy
  inWorld h := absurd h (by simp [hloaded])

/-- The transition follows the network in and out of the world. -/
theorem sound_transition {a : Application F} (h : Polled a) : Sound a.transition := by
  simp only [Application.transition]
  split
  · rename_i hconnecting
    obtain ⟨hunloaded, hinactive⟩ := h.toStaged.offstage (by simp [hconnecting])
    split
    · rename_i hinWorld
      exact ⟨⟨by simp [Application.enterState, Application.loadWorld, DemoScene.build],
        fun _ => rfl⟩, h.tidy, fun _ => hinWorld⟩
    · split
      · exact sound_of_unloaded h.tidy hunloaded hinactive (by simp [Application.enterState])
      · exact sound_of_unloaded h.tidy hunloaded hinactive (by simp [hconnecting])
  · split
    · exact sound_of_unloaded h.tidy (destroy_loaded _) rfl (by simp [Application.enterState])
    · rename_i hkept
      refine ⟨h.toStaged, h.tidy, fun hloaded => ?_⟩
      refine (h.inWorld hloaded).resolve_right fun hfailed => ?_
      exact hkept ⟨h.loaded_iff.mp hloaded, hfailed⟩

/-- A frame up to the replication. -/
theorem sound_advance (host : Host F) {a : Application F} (h : Sound a) (f : Frame F) :
    Sound (a.advance host f) := by
  have hpolled : Polled { a with
      mElapsedSeconds := a.mElapsedSeconds + f.deltaSeconds
      mNet := a.mNet.poll (a.mElapsedSeconds + f.deltaSeconds) f.os } :=
    ⟨⟨h.loaded_iff, h.loaded_of_active⟩, tidy_poll h.tidy _ _,
      fun hloaded => poll_state (h.inWorld hloaded) _ _⟩
  have hfollow := sound_transition hpolled
  simp only [Application.advance]
  refine Sound.of_frame (sound_tickLoop host f.intent Application.kMaxTicks f.dropped ?_)
    rfl rfl rfl Or.inl
  exact hfollow.of_frame rfl rfl rfl Or.inl

/-- Predicting the own character may start the prediction, in a loaded scene. -/
theorem sound_predictOwn (host : Host F) {a : Application F} (h : Sound a)
    (hloaded : a.mDemoScene.mLoaded = true) (e : Net.EntityState F) : Sound (a.predictOwn host e) := by
  have hactive : ∀ prediction : Prediction F, prediction.mActive = true →
      a.mPrediction.mActive = true ∨ a.mDemoScene.mLoaded = true := fun _ _ => Or.inr hloaded
  simp only [Application.predictOwn]
  split
  · exact h.of_frame rfl rfl rfl (hactive _)
  · split
    · exact h.of_frame rfl rfl rfl (hactive _)
    · exact h

theorem setPlayerTransform_loaded (s : DemoScene) (id : UInt32) :
    (s.setPlayerTransform id).mLoaded = s.mLoaded := by
  simp only [DemoScene.setPlayerTransform]
  split
  · rfl
  · rfl

/-- One turn of the loop over the entities. -/
theorem sound_replicateEntity (host : Host F) {a : Application F} (h : Sound a)
    (hloaded : a.mDemoScene.mLoaded = true) (present : Std.ExtTreeSet UInt32)
    (entry : UInt32 × Replicated) :
    let b := (Application.replicateEntity host (a, present) entry).1
    Sound b ∧ b.mDemoScene.mLoaded = true := by
  have hdraw : ∀ b : Application F, Sound b → b.mDemoScene.mLoaded = true →
      Sound { b with mDemoScene := b.mDemoScene.setPlayerTransform entry.1 } ∧
        (b.mDemoScene.setPlayerTransform entry.1).mLoaded = true := by
    intro b hb hbloaded
    have hkept := setPlayerTransform_loaded b.mDemoScene entry.1
    exact ⟨hb.of_frame hkept rfl rfl Or.inl, hkept.trans hbloaded⟩
  simp only [Application.replicateEntity]
  split
  · split
    · have hscene := (Mirror.predictOwn_frame host a (entry.2.state.map host.ofBits)).2
      exact hdraw _ (sound_predictOwn host h hloaded _) (by rw [hscene]; exact hloaded)
    · exact hdraw a h hloaded
  · exact ⟨h, hloaded⟩

theorem sound_applyReplication (host : Host F) {a : Application F} (h : Sound a) :
    Sound (a.applyReplication host) := by
  simp only [Application.applyReplication]
  split
  · exact h
  · rename_i hloaded
    have hfold := List.foldlRecOn a.mNet.mEntities.toList (Application.replicateEntity host)
      (motive := fun s => Sound s.1 ∧ s.1.mDemoScene.mLoaded = true) (b := (a, ∅))
      ⟨h, by simpa using hloaded⟩
      fun s hs entry _ => sound_replicateEntity host hs.1 hs.2 s.2 entry
    exact hfold.1.of_frame rfl rfl rfl Or.inl

theorem sound_update (host : Host F) {a : Application F} (h : Sound a) (f : Frame F) :
    Sound (a.update host f) :=
  sound_applyReplication host (sound_advance host h f)

omit [Scalar F] in
/-- The login form starts a session only where none is played. -/
theorem sound_drawLogin (host : Host F) {a : Application F} (h : Sound a)
    (hstate : ¬(a.mState = .inGame ∨ a.mState = .menu)) (f : Frame F) :
    Sound (a.drawLogin host f) := by
  obtain ⟨hunloaded, hinactive⟩ := h.toStaged.offstage hstate
  simp only [Application.drawLogin]
  split
  · exact h.of_frame rfl rfl rfl Or.inl
  · split
    · simp only [Application.beginLogin]
      split
      · exact h.of_frame rfl rfl rfl Or.inl
      · exact sound_of_unloaded (tidy_login _ _ _ _ _) hunloaded hinactive (by simp)
    · exact h.of_frame rfl rfl rfl Or.inl

omit [Scalar F] in
/-- Between the game and its menu nothing but the state changes. -/
theorem sound_enterState {a : Application F} (h : Sound a)
    (hplaying : a.mState = .inGame ∨ a.mState = .menu) {state : AppState}
    (hstate : state = .inGame ∨ state = .menu) : Sound (a.enterState state) where
  loaded_iff := iff_of_true (h.loaded_iff.mpr hplaying) hstate
  loaded_of_active := h.loaded_of_active
  tidy := h.tidy
  inWorld := h.inWorld

theorem sound_drawUi (host : Host F) {a : Application F} (h : Sound a) (f : Frame F) :
    Sound (a.drawUi host f) := by
  simp only [Application.drawUi]
  split
  · rename_i hstate
    exact sound_drawLogin host h (by simp [hstate]) f
  · rename_i hstate
    exact sound_drawLogin host h (by simp [hstate]) f
  · rename_i hstate
    split
    · exact sound_enterState h (Or.inl hstate) (Or.inr rfl)
    · exact h
  · rename_i hstate
    split
    · exact sound_enterState h (Or.inr hstate) (Or.inl rfl)
    · split
      · exact sound_of_unloaded (tidy_disconnect _) (destroy_loaded _) rfl (by simp [Application.logout])
      · exact h

theorem sound_frame (host : Host F) {a : Application F} (h : Sound a) (f : Frame F) :
    Sound (a.frame host f) :=
  sound_drawUi host (sound_update host h f) f

/-- No socket of the client is open. -/
def Closed (c : NetClient) : Prop :=
  c.mAuth = none ∧ c.mWorld = none ∧ c.mPendingAuthSocket = false ∧
    c.mPendingWorldSocket = false ∧ c.mUdp = false

/-- At the end of every `update` of every run, the world is loaded exactly in the game and in the
menu, the network is then in the world, the sockets are open that its state asks for, and the
prediction is active only in a loaded world. -/
theorem session_sound (host : Host F) (mFakeLatency mFakeLoss : ℚ) (frames : List (Frame F))
    (f : Frame F) :
    let a := (Application.run host mFakeLatency mFakeLoss frames).update host f
    let playing := a.mState = .inGame ∨ a.mState = .menu
    (a.mDemoScene.mLoaded = true ↔ playing) ∧
      (playing → a.mNet.mState = .inWorld) ∧
      (a.mNet.mState = .inWorld → a.mNet.mWorld.isSome = true ∧ a.mNet.mUdp = true) ∧
      (a.mNet.mState = .awaitingLogin → a.mNet.mAuth.isSome = true) ∧
      (a.mNet.mState = .idle ∨ a.mNet.mState = .failed → Closed a.mNet) ∧
      (a.mPrediction.mActive = true → a.mDemoScene.mLoaded = true) := by
  intro a playing
  have hrun : Sound (Application.run host mFakeLatency mFakeLoss frames) :=
    Lib.Runs.run_preserves (fun a f (h : Sound a) => sound_frame host h f) (sound_init _ _) frames
  have hsound : Sound a := sound_update host hrun f
  have htidy : sockets a.mNet = needed a.mNet.mState := hsound.tidy
  refine ⟨hsound.loaded_iff, fun h => hsound.inWorld (hsound.loaded_iff.mpr h), ?_, ?_, ?_,
    hsound.loaded_of_active⟩
  · intro hstate
    rw [hstate] at htidy
    exact ⟨congrArg Sockets.world htidy, congrArg Sockets.udp htidy⟩
  · intro hstate
    rw [hstate] at htidy
    exact congrArg Sockets.auth htidy
  · intro hstate
    have hnone : sockets a.mNet = Sockets.none := by
      rcases hstate with hstate | hstate
      · rw [htidy, hstate]
        rfl
      · rw [htidy, hstate]
        rfl
    simp only [sockets, Sockets.none, Sockets.mk.injEq, Option.isSome_eq_false_iff,
      Option.isNone_iff_eq_none] at hnone
    exact hnone

end Modes

end UntitledGame.Client.Session
