import UntitledGame.Client.Application
import UntitledGame.Ui.Presses

/-!
# `screens.cpp`

The login form and the escape menu: where their widgets are, and what a frame of them
asks for. The metrics come from the renderer, which the draw calls do not change.
-/

namespace UntitledGame.Client

open Ui (Canvas Widgets)
open Net (Bytes)

/-- The widgets of the login form and of the menu. -/
def kIdUsername : Nat := 1
def kIdPassword : Nat := 2
def kIdSubmit : Nat := 3
def kIdQuit : Nat := 4
def kIdResume : Nat := 5
def kIdLogout : Nat := 6
def kIdMenuQuit : Nat := 7

/-- The pixel sizes of the texts. -/
def kTitleSize : Int := Ui.kFontSizeTitle
def kLabelSize : Int := Ui.kFontSizeSmall
def kStatusSize : Int := Ui.kFontSizeSmall
def kSubtitleSize : Int := Ui.kFontSizeSmall
def kHeadingSize : Int := Ui.kFontSizeHeading

/-- The longest value of a field. -/
def kMaxLength : Nat := 32

/-- The bytes of a text. -/
def bytes (s : String) : Bytes := s.toUTF8.toList

variable {F : Type*} [Scalar F]

/-- The metrics of the forms, in pixels. -/
def kFieldHeight : F := 40.0
def kButtonHeight : F := 44.0
def kRowGap : F := 16.0

namespace LoginScreen

/-- What a frame of the login form asks for. -/
inductive Action where
  | none
  | submit
  | quit
  deriving DecidableEq, Repr

/-- Focuses the first field on arrival. -/
def initFocus (s : LoginScreen) (ui : Widgets F) : LoginScreen × Widgets F :=
  if !s.mFocusInitialised then ({ s with mFocusInitialised := true }, ui.setFocus kIdUsername)
  else (s, ui)

/-- A frame of the login form, from the top down; quitting goes before logging in. -/
def draw (s : LoginScreen) (ui : Widgets F) (renderer : Canvas F) (state : AppState) :
    LoginScreen × Widgets F × Action :=
  let focused := s.initFocus ui
  let ui := focused.2
  let screenWidth : F := renderer.mWidth
  let screenHeight : F := renderer.mHeight
  let ui := ui.rect 0.0 0.0 screenWidth screenHeight ui.theme.background
  let panelWidth : F := 460.0
  let panelHeight : F := 320.0
  let panelX := (screenWidth - panelWidth) * 0.5
  let panelY := (screenHeight - panelHeight) * 0.5
  let ui := ui.panel panelX panelY panelWidth panelHeight
  let contentX := panelX + 32.0
  let contentWidth := panelWidth - 64.0
  let y := panelY + 28.0
  let ui := ui.labelCentred (panelX + panelWidth * 0.5) y (bytes "UNTITLED") kTitleSize
  let y := y + (renderer.textHeight kTitleSize + 24.0)
  let busy := state = .connecting
  let ui := ui.labelDim contentX y (bytes "USERNAME") kLabelSize
  let y := y + (renderer.textHeight kLabelSize + 4.0)
  let username := ui.textField kIdUsername contentX y contentWidth kFieldHeight s.mUsername
    (bytes "enter username") false kMaxLength
  let ui := username.1
  let y := y + (kFieldHeight + kRowGap)
  let ui := ui.labelDim contentX y (bytes "PASSWORD") kLabelSize
  let y := y + (renderer.textHeight kLabelSize + 4.0)
  let password := ui.textField kIdPassword contentX y contentWidth kFieldHeight s.mPassword
    (bytes "enter password") true kMaxLength
  let ui := password.1
  let y := y + (kFieldHeight + kRowGap + 4.0)
  let buttonWidth := (contentWidth - 12.0) * 0.5
  let submit := ui.button kIdSubmit contentX y buttonWidth kButtonHeight
    (if busy then bytes "..." else bytes "LOGIN")
  let quit := submit.1.button kIdQuit (contentX + buttonWidth + 12.0) y buttonWidth kButtonHeight
    (bytes "QUIT")
  let ui := quit.1
  let y := y + (kButtonHeight + 14.0)
  let status := bytes s.mStatus
  let ui :=
    if status.isEmpty then ui
    else
      let colour := if s.mStatusIsError then ⟨230, 110, 100, 255⟩ else ui.theme.textDim
      let textX := panelX + (panelWidth - renderer.textWidth status kStatusSize) * 0.5
      ui.text textX y status colour kStatusSize
  let action :=
    if quit.2 then Action.quit
    else if ¬ busy ∧ (submit.2 || username.2.2 || password.2.2) then .submit
    else .none
  ({ focused.1 with mUsername := username.2.1, mPassword := password.2.1 }, ui, action)

end LoginScreen

namespace MenuScreen

/-- What a frame of the menu asks for. -/
inductive Action where
  | none
  | resume
  | logout
  | quit
  deriving DecidableEq, Repr

/-- A frame of the menu; the first button that is clicked counts. -/
def draw (ui : Widgets F) (renderer : Canvas F) (username : Bytes) : Widgets F × Action :=
  let screenWidth : F := renderer.mWidth
  let screenHeight : F := renderer.mHeight
  let ui := ui.rect 0.0 0.0 screenWidth screenHeight ⟨8, 10, 14, 150⟩
  let panelWidth : F := 340.0
  let panelHeight : F := 260.0
  let panelX := (screenWidth - panelWidth) * 0.5
  let panelY := (screenHeight - panelHeight) * 0.5
  let ui := ui.panel panelX panelY panelWidth panelHeight
  let y := panelY + 26.0
  let ui := ui.labelCentred (panelX + panelWidth * 0.5) y (bytes "PAUSED") kHeadingSize
  let y := y + (renderer.textHeight kHeadingSize + 6.0)
  let subtitle := bytes "logged in as " ++ username
  let textX := panelX + (panelWidth - renderer.textWidth subtitle kSubtitleSize) * 0.5
  let ui := ui.text textX y subtitle ui.theme.textDim kSubtitleSize
  let y := y + (renderer.textHeight kSubtitleSize + 22.0)
  let contentX := panelX + 30.0
  let contentWidth := panelWidth - 60.0
  let resume := ui.button kIdResume contentX y contentWidth kButtonHeight (bytes "RESUME")
  let y := y + (kButtonHeight + 12.0)
  let logout := resume.1.dangerButton kIdLogout contentX y contentWidth kButtonHeight
    (bytes "LOGOUT")
  let y := y + (kButtonHeight + 12.0)
  let quit := logout.1.button kIdMenuQuit contentX y contentWidth kButtonHeight (bytes "QUIT")
  (quit.1,
    if resume.2 then .resume else if logout.2 then .logout else if quit.2 then .quit else .none)

end MenuScreen

end UntitledGame.Client
