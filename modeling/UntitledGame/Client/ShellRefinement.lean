import UntitledGame.Client.Shell
import UntitledGame.Client.Session

/-!
# The window refines the application

`asked` reads off a window what the user asks for in a frame. With it a frame of the
window is one of `Application`, and callbacks are none at all, so what holds of every
run of the application holds inside every window.
-/

namespace UntitledGame.Client.Shell

open Ui (Canvas Font InputState UiRenderer Widgets)

variable {F : Type*} [Scalar F]

/-- The login form at the end of the screen, and what it asks for. -/
def form (s : Shell F) (f : Turn F) : LoginScreen × LoginScreen.Action :=
  let drawn := s.app.mLoginScreen.draw (s.begun f) s.canvas s.app.mState
  (drawn.1, drawn.2.2)

/-- What the menu asks for. -/
def choice (s : Shell F) (f : Turn F) : MenuScreen.Action :=
  (MenuScreen.draw (s.begun f) s.canvas s.app.mUsername).2

/-- What the user asks for on the screen that is shown. -/
def asked (s : Shell F) (f : Turn F) : UiInput where
  username := (s.form f).1.mUsername
  password := (s.form f).1.mPassword
  submit := (s.form f).2 = .submit
  quit := (s.form f).2 = .quit
  escape := s.mInput.escape
  resume := s.choice f = .resume
  logout := s.choice f = .logout

/-- The intent that the ticks of a frame use. -/
def intent (host : Platform F) (s : Shell F) (f : Turn F) : Prediction.Intent F :=
  ((s.follow f).mCameraController.sample host.degToRad host.ofDouble f.sampleX f.sampleY f.keys).2

/-- The frame of the application inside. -/
def inner (host : Platform F) (s : Shell F) (f : Turn F) : Frame F where
  deltaSeconds := f.deltaSeconds
  os := f.os
  intent := s.intent host f
  dropped := f.dropped
  ui := (s.update host f).asked f
  loginOs := f.loginOs

section Update

omit [Scalar F] in
@[simp] theorem enterState_app (s : Shell F) (state : AppState) :
    (s.enterState state).app = s.app.enterState state := rfl

@[simp] theorem loadWorld_app (s : Shell F) : s.loadWorld.app = s.app.loadWorld := rfl

@[simp] theorem unloadWorld_app (s : Shell F) : s.unloadWorld.app = s.app.unloadWorld := rfl

@[simp] theorem finish_app (s : Shell F) (f : Turn F) (ui : Widgets F) :
    (s.finish f ui).app = s.app := rfl

theorem transition_app (s : Shell F) : s.transition.app = s.app.transition := by
  simp only [transition, Application.transition]
  split
  · split
    · rfl
    · split
      · rfl
      · rfl
  · split
    · rfl
    · rfl

theorem update_app (host : Platform F) (s : Shell F) (f : Turn F) :
    (s.update host f).app = s.app.update host.toHost (s.inner host f) := by
  have hfollow : (s.follow f).app = Application.transition { s.app with
      mElapsedSeconds := s.app.mElapsedSeconds + f.deltaSeconds
      mNet := s.app.mNet.poll (s.app.mElapsedSeconds + f.deltaSeconds) f.os } :=
    transition_app _
  simp only [update, simulate, Application.update, Application.advance, hfollow]
  rfl

end Update

section Screens

variable (host : Platform F)

omit [Scalar F] in
theorem beginLogin_app (s : Shell F) (os : NetClient.Os) :
    (s.beginLogin host os).app = s.app.beginLogin host.toHost os := by
  simp only [beginLogin, Application.beginLogin]
  split
  · rfl
  · rfl

theorem logout_app (s : Shell F) : s.logout.app = s.app.logout := rfl

/-- Drawing the form takes the fields and the focus from it. -/
theorem form_fst (s : Shell F) (f : Turn F) :
    (s.form f).1 = { s.app.mLoginScreen with
      mUsername := (s.form f).1.mUsername
      mPassword := (s.form f).1.mPassword
      mFocusInitialised := true } := by
  simp only [form, LoginScreen.draw, LoginScreen.initFocus]
  cases hfocus : s.app.mLoginScreen.mFocusInitialised with
  | false => rfl
  | true => simp [hfocus]

/-- While a request is in flight the form submits nothing. -/
theorem form_snd_ne (s : Shell F) (f : Turn F) (hbusy : s.app.mState = .connecting) :
    (s.form f).2 ≠ .submit := by
  have hchosen : ∀ (quit : Bool) (ready : Prop) [Decidable ready],
      (if quit then LoginScreen.Action.quit else if ready then .submit else .none) = .submit →
        ready := by
    intro quit ready _ hsubmit
    cases quit with
    | true => cases hsubmit
    | false =>
        by_contra hready
        rw [if_neg Bool.false_ne_true, if_neg hready] at hsubmit
        cases hsubmit
  intro hsubmit
  exact (hchosen _ _ hsubmit).1 hbusy

theorem drawLogin_app (s : Shell F) (f : Turn F) (a : Frame F) (hui : a.ui = s.asked f)
    (hos : a.loginOs = f.loginOs) :
    (s.drawLogin host f).1.app = s.app.drawLogin host.toHost a := by
  have hform := s.form_fst f
  have hbusy := s.form_snd_ne f
  simp only [Application.drawLogin, hui, hos, asked]
  rw [← hform]
  have hdrawn : (s.drawLogin host f).1 = loginAction host
      { s with app := { s.app with mLoginScreen := (s.form f).1 } } f.loginOs (s.form f).2 := rfl
  rw [hdrawn]
  cases haction : (s.form f).2 with
  | submit =>
      have hidle : s.app.mState ≠ .connecting := fun h => hbusy h haction
      rw [loginAction, beginLogin_app]
      simp [hidle]
  | quit => simp [loginAction]
  | none => simp [loginAction]

theorem drawMenu_app (s : Shell F) (f : Turn F) :
    (s.drawMenu f).1.app =
      if (s.asked f).resume || (s.asked f).escape then s.app.enterState .inGame
      else if (s.asked f).logout then s.app.logout else s.app := by
  have hdrawn : (s.drawMenu f).1 = if s.choice f = .resume ∨ s.mInput.escape = true then
      s.enterState .inGame else s.menuAction (s.choice f) := by
    rw [drawMenu, apply_ite Prod.fst]
    rfl
  rw [hdrawn]
  simp only [asked]
  by_cases hescape : s.mInput.escape = true
  · simp [hescape]
  · obtain ⟨action, hchoice⟩ : ∃ action, s.choice f = action := ⟨_, rfl⟩
    cases action with
    | resume => simp [hchoice]
    | logout => simp [hchoice, hescape, menuAction, logout_app]
    | quit => simp [hchoice, hescape, menuAction]
    | none => simp [hchoice, hescape, menuAction]

theorem drawUi_app (s : Shell F) (f : Turn F) (a : Frame F) (hui : a.ui = s.asked f)
    (hos : a.loginOs = f.loginOs) : (s.drawUi host f).app = s.app.drawUi host.toHost a := by
  rw [drawUi, finish_app, drawScreen, Application.drawUi]
  cases hstate : s.app.mState with
  | login => exact drawLogin_app host s f a hui hos
  | connecting => exact drawLogin_app host s f a hui hos
  | inGame =>
      simp only [hui, asked]
      split
      · rfl
      · rfl
  | menu =>
      rw [hui]
      exact drawMenu_app s f

end Screens

section Runs

variable (host : Platform F)

/-- The frames that the application sees of an event. -/
def seen (s : Shell F) : WindowEvent F → List (Frame F)
  | .frame f => if s.shouldClose then [] else [s.inner host f]
  | _ => []

/-- One event of the window is so many frames of the application. -/
theorem step_app (s : Shell F) (e : WindowEvent F) :
    (s.step host e).app =
      Lib.Runs.run (Application.frame host.toHost) s.app (s.seen host e) := by
  cases e with
  | character codepoint => rfl
  | key key action =>
      simp only [step, keyCallback, seen]
      cases key with
      | escape => dsimp only; split <;> rfl
      | _ => rfl
  | mouseButton left action =>
      simp only [step, mouseButtonCallback, seen]
      split
      · rfl
      · cases action <;> rfl
  | resize width height =>
      simp only [step, resize, seen]
      split <;> rfl
  | close => rfl
  | frame f =>
      simp only [step, seen]
      split
      · rfl
      · rw [Lib.Runs.run_cons, Lib.Runs.run_nil, Application.frame, ← update_app,
          ← drawUi_app host _ f (s.inner host f) rfl rfl]

/-- The frames that the application sees of a run. -/
def innerFrames (s : Shell F) : List (WindowEvent F) → List (Frame F)
  | [] => []
  | e :: events => s.seen host e ++ innerFrames (s.step host e) events

/-- In every run of the window, whatever its callbacks get and in whatever order, the application
inside has made a run of its own, on the frames that were drawn. -/
theorem shell_refines (mFakeLatency mFakeLoss : ℚ) (mFont : Font F) (width height : Int)
    (events : List (WindowEvent F)) :
    (run host mFakeLatency mFakeLoss mFont width height events).app =
      Application.run host.toHost mFakeLatency mFakeLoss
        ((init mFakeLatency mFakeLoss mFont width height).innerFrames host events) := by
  have hrun : ∀ s : Shell F, (Lib.Runs.run (step host) s events).app =
      Lib.Runs.run (Application.frame host.toHost) s.app (s.innerFrames host events) := by
    induction events with
    | nil => exact fun s => rfl
    | cons e events ih =>
        intro s
        rw [Lib.Runs.run_cons, ih, innerFrames, Lib.Runs.run_append, step_app]
  have hinit : (init mFakeLatency mFakeLoss mFont width height).app =
      (Application.init mFakeLatency mFakeLoss : Application F) := by
    simp only [init, resize]
    split <;> rfl
  rw [run, hrun, hinit]
  rfl

end Runs

end UntitledGame.Client.Shell
