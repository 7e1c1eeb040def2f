import UntitledGame.Client.CameraController
import UntitledGame.Client.Screens

/-!
# The application with its window

`Application` takes what the user does on a screen as given. Here it comes from the
callbacks of the window: keys, characters and mouse buttons collect in an `InputState`,
the frame draws the screen with the widgets, and the camera turns the cursor into an
intent. What is drawn goes to the `UiRenderer`. Building the engine is left out, and so
is what is drawn of the world.
-/

namespace UntitledGame.Client

open Ui (Canvas Font InputState UiRenderer Widgets)

/-- The keys that `keyCallback` looks at. -/
inductive Key where
  | backspace
  | tab
  | enter
  | keypadEnter
  | escape
  | other
  deriving DecidableEq, Repr

inductive KeyAction where
  | press
  | release
  | hold
  deriving DecidableEq, Repr

/-- What comes from outside, with the factor from degrees to radians. -/
structure Platform (F : Type*) extends Host F where
  degToRad : F

/-- What a frame finds: the time, the sockets, the keys that are held, and where the cursor is, for
the camera and for the widgets. -/
structure Turn (F : Type*) where
  deltaSeconds : ℚ
  os : NetClient.Os
  loginOs : NetClient.Os
  dropped : List Bool
  keys : Keys
  sampleX : ℚ
  sampleY : ℚ
  cursorX : F
  cursorY : F
  now : ℚ
  deriving DecidableEq, Repr

inductive WindowEvent (F : Type*) where
  | character (codepoint : UInt32)
  | key (key : Key) (action : KeyAction)
  | mouseButton (left : Bool) (action : KeyAction)
  | resize (width height : Int)
  | close
  | frame (turn : Turn F)
  deriving DecidableEq, Repr

structure Shell (F : Type*) where
  app : Application F
  mCameraController : CameraController F
  mWidgets : Widgets F
  mInput : InputState F
  mUi : UiRenderer F
  mWidth : Int
  mHeight : Int
  captured : Bool
  shouldClose : Bool

namespace Shell

variable {F : Type*} [Scalar F]

/-- No input yet. -/
def noInput : InputState F := ⟨0.0, 0.0, false, false, false, [], false, false, false, false⟩

def charCallback (s : Shell F) (codepoint : UInt32) : Shell F :=
  { s with mInput := { s.mInput with characters := s.mInput.characters ++ [codepoint] } }

def keyCallback (s : Shell F) (key : Key) (action : KeyAction) : Shell F :=
  let pressed := action = .press ∨ action = .hold
  match key with
  | .backspace => { s with mInput := { s.mInput with backspace := pressed } }
  | .tab => { s with mInput := { s.mInput with tab := pressed } }
  | .enter => { s with mInput := { s.mInput with enter := pressed } }
  | .keypadEnter => { s with mInput := { s.mInput with enter := pressed } }
  | .escape => if action = .press then { s with mInput := { s.mInput with escape := true } } else s
  | .other => s

def mouseButtonCallback (s : Shell F) (left : Bool) (action : KeyAction) : Shell F :=
  if !left then s
  else
    match action with
    | .press => { s with mInput := { s.mInput with mouseDown := true, mousePressed := true } }
    | .release => { s with mInput := { s.mInput with mouseDown := false, mouseReleased := true } }
    | .hold => s

/-- A window without a size is left as it was. -/
def resize (s : Shell F) (width height : Int) : Shell F :=
  if width ≤ 0 ∨ height ≤ 0 then s else { s with mWidth := width, mHeight := height }

/-- The cursor is captured in the game only. -/
def enterState (s : Shell F) (state : AppState) : Shell F :=
  { s with
    app := s.app.enterState state
    mCameraController := s.mCameraController.setEnabled (state = .inGame)
    captured := state = .inGame }

def loadWorld (s : Shell F) : Shell F :=
  { s with app := s.app.loadWorld, mCameraController := s.mCameraController.reset 0.0 (-10.0) }

def unloadWorld (s : Shell F) : Shell F := { s with app := s.app.unloadWorld }

variable (host : Platform F)

def beginLogin (s : Shell F) (os : NetClient.Os) : Shell F :=
  if s.app.mLoginScreen.mUsername = [] ∨ s.app.mLoginScreen.mPassword = [] then
    { s with app := { s.app with
      mLoginScreen := s.app.mLoginScreen.setStatus "username and password are required" true } }
  else
    enterState { s with app := { s.app with
      mLoginScreen := s.app.mLoginScreen.setStatus "connecting..." false
      mConnectingSince := s.app.mElapsedSeconds
      mNet := s.app.mNet.login host.authHost s.app.mLoginScreen.mUsername
        s.app.mLoginScreen.mPassword os } } .connecting

def logout (s : Shell F) : Shell F :=
  let s := unloadWorld { s with app := { s.app with mNet := s.app.mNet.logout } }
  enterState { s with app := { s.app with
    mUsername := []
    mLoginScreen := (s.app.mLoginScreen.clearPassword.resetFocus).setStatus "logged out" false } }
    .login

/-- The application follows the state of the network. -/
def transition (s : Shell F) : Shell F :=
  if s.app.mState = .connecting then
    if s.app.mNet.mState = .inWorld then
      enterState (loadWorld { s with app := { s.app with
        mUsername := s.app.mNet.mUsername
        mLoginScreen := s.app.mLoginScreen.setStatus "" false } }) .inGame
    else if s.app.mNet.mState = .failed then
      enterState { s with app := { s.app with
        mLoginScreen := (s.app.mLoginScreen.setStatus s.app.mNet.mError true).clearPassword } }
        .login
    else s
  else if (s.app.mState = .inGame ∨ s.app.mState = .menu) ∧ s.app.mNet.mState = .failed then
    let reason := s.app.mNet.mError
    let s := unloadWorld s
    enterState { s with app := { s.app with
      mUsername := []
      mLoginScreen := s.app.mLoginScreen.clearPassword.setStatus reason true } } .login
  else s

/-- The first statements of `update`: poll and follow. -/
def follow (s : Shell F) (f : Turn F) : Shell F :=
  let elapsed := s.app.mElapsedSeconds + f.deltaSeconds
  transition { s with app := { s.app with
    mElapsedSeconds := elapsed, mNet := s.app.mNet.poll elapsed f.os } }

/-- The rest of `update` behind the sample of the camera: tick, smooth, replicate. -/
def simulate (s : Shell F) (intent : Prediction.Intent F) (f : Turn F) : Shell F :=
  let accumulated := s.app.mTickAccumulator + f.deltaSeconds
  let app := { s.app with mTickAccumulator := if 1 / 4 < accumulated then 1 / 4 else accumulated }
  let app := app.tickLoop host.toHost intent Application.kMaxTicks f.dropped
  let app := { app with
    mPrediction := app.mPrediction.updateSmoothing host.exp2 (host.ofDouble f.deltaSeconds) }
  { s with app := app.applyReplication host.toHost }

def update (s : Shell F) (f : Turn F) : Shell F :=
  let s := s.follow f
  let sampled :=
    s.mCameraController.sample host.degToRad host.ofDouble f.sampleX f.sampleY f.keys
  simulate host { s with mCameraController := sampled.1 } sampled.2 f

/-- The input of the frame, with the cursor. -/
def pointed (s : Shell F) (f : Turn F) : InputState F :=
  { s.mInput with mouseX := f.cursorX, mouseY := f.cursorY }

/-- What the widgets see of the renderer. -/
def canvas (s : Shell F) : Canvas F := ⟨s.mUi.mFont, s.mWidth, s.mHeight, []⟩

/-- The widgets at the start of the screen. -/
def begun (s : Shell F) (f : Turn F) : Widgets F :=
  s.mWidgets.begin s.canvas (s.pointed f) f.now

/-- What follows the screen: the widgets end, the batch is uploaded, the edges are cleared. -/
def finish (s : Shell F) (f : Turn F) (ui : Widgets F) : Shell F :=
  { s with
    mWidgets := ui.end_
    mUi := s.mUi.frame ui.end_.mRenderer.draws
    mInput := (s.pointed f).endFrame }

/-- What the form asks for is done. -/
def loginAction (s : Shell F) (os : NetClient.Os) : LoginScreen.Action → Shell F
  | .submit => s.beginLogin host os
  | .quit => { s with shouldClose := true }
  | .none => s

/-- The login form, while there is no session. -/
def drawLogin (s : Shell F) (f : Turn F) : Shell F × Widgets F :=
  let drawn := s.app.mLoginScreen.draw (s.begun f) s.canvas s.app.mState
  let s := { s with app := { s.app with mLoginScreen := drawn.1 } }
  (s.loginAction host f.loginOs drawn.2.2, drawn.2.1)

/-- What the menu asks for is done, resuming apart. -/
def menuAction (s : Shell F) : MenuScreen.Action → Shell F
  | .logout => s.logout
  | .quit => { s with shouldClose := true }
  | .resume => s
  | .none => s

def drawMenu (s : Shell F) (f : Turn F) : Shell F × Widgets F :=
  let drawn := MenuScreen.draw (s.begun f) s.canvas s.app.mUsername
  if drawn.2 = .resume ∨ s.mInput.escape then (s.enterState .inGame, drawn.1)
  else (s.menuAction drawn.2, drawn.1)

def drawScreen (s : Shell F) (f : Turn F) : Shell F × Widgets F :=
  match s.app.mState with
  | .login => s.drawLogin host f
  | .connecting => s.drawLogin host f
  | .inGame => (if s.mInput.escape then s.enterState .menu else s, s.begun f)
  | .menu => s.drawMenu f

def drawUi (s : Shell F) (f : Turn F) : Shell F :=
  let drawn := s.drawScreen host f
  drawn.1.finish f drawn.2

/-- The loop of `run` ends when the window should close. -/
def step (s : Shell F) : WindowEvent F → Shell F
  | .character codepoint => s.charCallback codepoint
  | .key key action => s.keyCallback key action
  | .mouseButton left action => s.mouseButtonCallback left action
  | .resize width height => s.resize width height
  | .close => { s with shouldClose := true }
  | .frame f => if s.shouldClose then s else (s.update host f).drawUi host f

/-- After `Application::init`, with a font, in a window of some size. -/
def init (mFakeLatency mFakeLoss : ℚ) (mFont : Font F) (width height : Int) : Shell F :=
  let s : Shell F := {
    app := .init mFakeLatency mFakeLoss
    mCameraController := .blank
    mWidgets := .init ⟨mFont, 0, 0, []⟩ noInput
    mInput := noInput
    mUi := .init mFont
    mWidth := 0
    mHeight := 0
    captured := false
    shouldClose := false }
  (s.resize width height).enterState .login

def run (mFakeLatency mFakeLoss : ℚ) (mFont : Font F) (width height : Int)
    (events : List (WindowEvent F)) : Shell F :=
  Lib.Runs.run (step host) (init mFakeLatency mFakeLoss mFont width height) events

end Shell

end UntitledGame.Client
