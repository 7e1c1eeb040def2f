import UntitledGame.Client.NetClient
import UntitledGame.Client.Prediction
import Mathlib.Tactic.Linarith

/-!
# `game::Application`

The client's main loop: one `update` and one `drawUi` a frame. `update` polls the
network, follows it with its own state, runs the fixed ticks that produce input,
and applies what the server has replicated to the scene.

What is drawn is left out: transforms, sky, camera and widgets. A scene is the
set of players that have a renderable. What the user does and what the operating
system answers during a frame are the fields of `Frame`. Times are exact: the accumulator
and the seconds of a frame are rationals where the program has doubles.

## Implementation notes

`ticks` counts the turns of the tick loop, for statements about long runs.
-/

namespace UntitledGame.Client

open Sim (Vec3 Physics CharacterInput)
open Net (Bytes EntityState EntityType)
open Std (ExtTreeMap ExtTreeSet)

/-- What the client is currently showing. -/
inductive AppState where
  | login
  | connecting
  | inGame
  | menu
  deriving DecidableEq, Repr

/-- The part of `DemoScene` that players come and go in. -/
structure DemoScene where
  mLoaded : Bool
  mPlayers : ExtTreeSet UInt32

namespace DemoScene

def build (s : DemoScene) : DemoScene := { s with mLoaded := true }

/-- A renderable is created the first time an id is seen. -/
def setPlayerTransform (s : DemoScene) (entityId : UInt32) : DemoScene :=
  if !s.mLoaded then s else { s with mPlayers := s.mPlayers.insert entityId }

/-- A renderable is destroyed when its id is no longer reported. -/
def removeAbsentPlayers (s : DemoScene) (present : ExtTreeSet UInt32) : DemoScene :=
  { s with mPlayers := s.mPlayers.filter (present.contains ·) }

def destroy (s : DemoScene) : DemoScene :=
  if !s.mLoaded then s else { s.removeAbsentPlayers ∅ with mLoaded := false }

end DemoScene

structure LoginScreen where
  mUsername : Bytes
  mPassword : Bytes
  mStatus : String
  mStatusIsError : Bool
  mFocusInitialised : Bool
  deriving DecidableEq, Repr

def LoginScreen.setStatus (s : LoginScreen) (status : String) (error : Bool) : LoginScreen :=
  { s with mStatus := status, mStatusIsError := error }

def LoginScreen.clearPassword (s : LoginScreen) : LoginScreen := { s with mPassword := [] }

def LoginScreen.resetFocus (s : LoginScreen) : LoginScreen := { s with mFocusInitialised := false }

/-- What comes from outside the client: the environment, the C library, the float format. -/
structure Host (F : Type*) where
  authHost : String
  phys : Physics F
  exp2 : F → F
  ofBits : UInt32 → F
  toBits : F → UInt32
  ofDouble : ℚ → F

/-- What the user does on the screen that is shown: the contents of the two fields, and the
buttons and keys pressed. -/
structure UiInput where
  username : Bytes
  password : Bytes
  submit : Bool
  quit : Bool
  escape : Bool
  resume : Bool
  logout : Bool
  deriving DecidableEq, Repr

def UiInput.none : UiInput := ⟨[], [], false, false, false, false, false⟩

/-- One turn of the main loop. `dropped` has the draws of the simulated loss, one for each
input sent; `os` answers `poll` and `loginOs` answers `login`. -/
structure Frame (F : Type*) where
  deltaSeconds : ℚ
  os : NetClient.Os
  intent : Prediction.Intent F
  dropped : List Bool
  ui : UiInput
  loginOs : NetClient.Os
  deriving DecidableEq, Repr

structure Application (F : Type*) where
  mDemoScene : DemoScene
  mLoginScreen : LoginScreen
  mNet : NetClient
  mPrediction : Prediction F
  mTickAccumulator : ℚ
  mLastReconciledSnapshot : UInt32
  mState : AppState
  mUsername : Bytes
  mElapsedSeconds : ℚ
  mConnectingSince : ℚ
  ticks : Nat

namespace Application

variable {F : Type*} [Scalar F]

/-- The application after `init`. -/
def init (mFakeLatency mFakeLoss : ℚ) : Application F where
  mDemoScene := ⟨false, ∅⟩
  mLoginScreen := ⟨[], [], "", false, false⟩
  mNet := NetClient.init mFakeLatency mFakeLoss
  mPrediction := Prediction.blank
  mTickAccumulator := 0
  mLastReconciledSnapshot := 0
  mState := .login
  mUsername := []
  mElapsedSeconds := 0
  mConnectingSince := 0
  ticks := 0

def enterState (a : Application F) (state : AppState) : Application F := { a with mState := state }

def beginLogin (host : Host F) (a : Application F) (os : NetClient.Os) : Application F :=
  if a.mLoginScreen.mUsername = [] ∨ a.mLoginScreen.mPassword = [] then
    { a with mLoginScreen := a.mLoginScreen.setStatus "username and password are required" true }
  else
    { a with
      mLoginScreen := a.mLoginScreen.setStatus "connecting..." false
      mConnectingSince := a.mElapsedSeconds
      mNet := a.mNet.login host.authHost a.mLoginScreen.mUsername a.mLoginScreen.mPassword os
      mState := .connecting }

def loadWorld (a : Application F) : Application F := { a with mDemoScene := a.mDemoScene.build }

def unloadWorld (a : Application F) : Application F :=
  { a with mPrediction := a.mPrediction.shutdown, mDemoScene := a.mDemoScene.destroy }

def logout (a : Application F) : Application F :=
  let a := unloadWorld { a with mNet := a.mNet.logout }
  { a with
    mUsername := []
    mLoginScreen := (a.mLoginScreen.clearPassword.resetFocus).setStatus "logged out" false
    mState := .login }

/-- The client's own character: it starts predicting from the first state it sees, and
reconciles against each later one. -/
def predictOwn (host : Host F) (a : Application F) (e : EntityState F) : Application F :=
  if !a.mPrediction.mActive then { a with mPrediction := a.mPrediction.init e.position }
  else if a.mNet.mSnapshotsReceived ≠ a.mLastReconciledSnapshot then
    { a with
      mLastReconciledSnapshot := a.mNet.mSnapshotsReceived
      mPrediction := a.mPrediction.reconcile host.phys e }
  else a

/-- The body of the loop over the replicated entities. -/
def replicateEntity (host : Host F) (s : Application F × ExtTreeSet UInt32)
    (entry : UInt32 × NetClient.Replicated) : Application F × ExtTreeSet UInt32 :=
  let (a, present) := s
  let (id, replicated) := entry
  if replicated.state.type = EntityType.player.toU8 then
    let a :=
      if id = a.mNet.mOwnEntityId then predictOwn host a (replicated.state.map host.ofBits) else a
    ({ a with mDemoScene := a.mDemoScene.setPlayerTransform id }, present.insert id)
  else (a, present)

def applyReplication (host : Host F) (a : Application F) : Application F :=
  if !a.mDemoScene.mLoaded then a
  else
    let (a, present) := a.mNet.mEntities.toList.foldl (replicateEntity host) (a, ∅)
    { a with mDemoScene := a.mDemoScene.removeAbsentPlayers present }

/-- The application follows the state of the network. -/
def transition (a : Application F) : Application F :=
  if a.mState = .connecting then
    if a.mNet.mState = .inWorld then
      enterState (loadWorld { a with
        mUsername := a.mNet.mUsername, mLoginScreen := a.mLoginScreen.setStatus "" false }) .inGame
    else if a.mNet.mState = .failed then
      enterState { a with
        mLoginScreen := (a.mLoginScreen.setStatus a.mNet.mError true).clearPassword } .login
    else a
  else if (a.mState = .inGame ∨ a.mState = .menu) ∧ a.mNet.mState = .failed then
    let reason := a.mNet.mError
    let a := unloadWorld a
    enterState { a with
      mUsername := [], mLoginScreen := a.mLoginScreen.clearPassword.setStatus reason true } .login
  else a

def kTickSeconds : ℚ := 1 / Net.kServerTickHz

def inputBits (host : Host F) (input : CharacterInput F) : NetClient.InputBits :=
  ⟨input.sequence, host.toBits input.moveForward, host.toBits input.moveRight,
    host.toBits input.yaw, input.jump, input.sprint⟩

/-- One turn of the tick loop. -/
def tick (host : Host F) (intent : Prediction.Intent F) (dropped : Bool) (a : Application F) :
    Application F :=
  let a := { a with mTickAccumulator := a.mTickAccumulator - kTickSeconds, ticks := a.ticks + 1 }
  if a.mState ≠ .inGame then a
  else
    let (prediction, input) := a.mPrediction.step host.phys intent
    { a with
      mPrediction := prediction
      mNet := a.mNet.sendInput (inputBits host input) dropped }

/-- `while (mTickAccumulator >= kTickSeconds)`, for at most `fuel` turns. -/
def tickLoop (host : Host F) (intent : Prediction.Intent F) :
    Nat → List Bool → Application F → Application F
  | 0, _, a => a
  | fuel + 1, dropped, a =>
      if a.mTickAccumulator < kTickSeconds then a
      else tickLoop host intent fuel dropped.tail (tick host intent (dropped.headD false) a)

/-- The turns that the cap on the accumulator leaves. -/
def kMaxTicks : Nat := 16

/-- `update` up to the replication: poll, follow, tick, smooth. -/
def advance (host : Host F) (a : Application F) (f : Frame F) : Application F :=
  let a := { a with mElapsedSeconds := a.mElapsedSeconds + f.deltaSeconds }
  let a := transition { a with mNet := a.mNet.poll a.mElapsedSeconds f.os }
  let accumulated := a.mTickAccumulator + f.deltaSeconds
  let a := { a with mTickAccumulator := if 1 / 4 < accumulated then 1 / 4 else accumulated }
  let a := tickLoop host f.intent kMaxTicks f.dropped a
  { a with mPrediction := a.mPrediction.updateSmoothing host.exp2 (host.ofDouble f.deltaSeconds) }

def update (host : Host F) (a : Application F) (f : Frame F) : Application F :=
  applyReplication host (advance host a f)

/-- The form takes what was typed; it submits unless a request is in flight. -/
def drawLogin (host : Host F) (a : Application F) (f : Frame F) : Application F :=
  let busy := a.mState = .connecting
  let a := { a with mLoginScreen :=
    { a.mLoginScreen with
      mUsername := f.ui.username, mPassword := f.ui.password, mFocusInitialised := true } }
  if f.ui.quit then a
  else if ¬ busy ∧ f.ui.submit then beginLogin host a f.loginOs
  else a

def drawUi (host : Host F) (a : Application F) (f : Frame F) : Application F :=
  match a.mState with
  | .login => drawLogin host a f
  | .connecting => drawLogin host a f
  | .inGame => if f.ui.escape then enterState a .menu else a
  | .menu =>
      if f.ui.resume || f.ui.escape then enterState a .inGame
      else if f.ui.logout then logout a
      else a

def frame (host : Host F) (a : Application F) (f : Frame F) : Application F :=
  drawUi host (update host a f) f

def run (host : Host F) (mFakeLatency mFakeLoss : ℚ) (frames : List (Frame F)) : Application F :=
  Lib.Runs.run (frame host) (init mFakeLatency mFakeLoss) frames

theorem tick_accumulator (host : Host F) (intent : Prediction.Intent F) (dropped : Bool)
    (a : Application F) :
    (a.tick host intent dropped).mTickAccumulator = a.mTickAccumulator - kTickSeconds := by
  simp only [tick]
  split
  · rfl
  · rfl

/-- What every tick that is due keeps, the loop keeps. -/
theorem tickLoop_preserves {P : Application F → Prop} (host : Host F)
    (intent : Prediction.Intent F) (fuel : Nat) (dropped : List Bool) (a : Application F) (h : P a)
    (htick : ∀ (b : Application F) (drop : Bool), P b → kTickSeconds ≤ b.mTickAccumulator →
      P (b.tick host intent drop)) :
    P (a.tickLoop host intent fuel dropped) := by
  induction fuel generalizing a dropped with
  | zero => exact h
  | succ fuel ih =>
      simp only [tickLoop]
      split
      · exact h
      · rename_i hdue
        exact ih _ _ (htick a _ h (not_lt.mp hdue))

/-- The loop ends by its own condition when the fuel covers the accumulator. -/
theorem tickLoop_accumulator (host : Host F) (intent : Prediction.Intent F) (fuel : Nat)
    (dropped : List Bool) (a : Application F)
    (h : a.mTickAccumulator < (fuel + 1) * kTickSeconds) :
    (a.tickLoop host intent fuel dropped).mTickAccumulator < kTickSeconds := by
  induction fuel generalizing a dropped with
  | zero => simpa [tickLoop] using h
  | succ fuel ih =>
      simp only [tickLoop]
      split
      · assumption
      · apply ih
        rw [tick_accumulator]
        push_cast at h
        linarith

/-- The cap on the accumulator leaves no more turns than the fuel has. -/
theorem tickLoop_ends (host : Host F) (intent : Prediction.Intent F) (dropped : List Bool)
    (a : Application F) (h : a.mTickAccumulator ≤ 1 / 4) :
    (a.tickLoop host intent kMaxTicks dropped).mTickAccumulator < kTickSeconds := by
  apply tickLoop_accumulator
  apply lt_of_le_of_lt h
  norm_num [kMaxTicks, kTickSeconds, Net.kServerTickHz]

end Application

end UntitledGame.Client
