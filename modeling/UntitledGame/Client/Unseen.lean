import UntitledGame.Client.ShellRefinement
import UntitledGame.Client.Veil

/-!
# The password is not seen

Two windows side by side get the same events, but for what is typed into the password
field. `password_unseen` says that nothing that is drawn tells them apart, nor anything
that is sent once the client is logged in: only the number of characters shows.
-/

namespace UntitledGame.Client

open Net (Bytes)
open Lib.Runs (Blind)
open Ui (Canvas Color Font InputState UiRenderer Widgets)

variable {F : Type*} [Scalar F]

/-- A character that a field takes. -/
def Printable (codepoint : UInt32) : Prop := 0x20 ≤ codepoint ∧ codepoint ≤ 0x7E

instance (codepoint : UInt32) : Decidable (Printable codepoint) :=
  inferInstanceAs (Decidable (_ ∧ _))

def veilCharacter (codepoint : UInt32) : UInt32 := if Printable codepoint then 0x2A else codepoint

def veilInput (input : InputState F) : InputState F :=
  { input with characters := input.characters.map veilCharacter }

/-- Widgets without what was typed in their frame. -/
def veilWidgets (ui : Widgets F) : Widgets F := { ui with mInput := veilInput ui.mInput }

section Typing

open Ui.Widgets (masked typeCharacter edited)

theorem masked_typeCharacter (maxLength : Nat) (value : Bytes) (codepoint : UInt32) :
    masked (typeCharacter maxLength value codepoint) =
      typeCharacter maxLength (masked value) (veilCharacter codepoint) := by
  by_cases hprintable : Printable codepoint
  · rw [veilCharacter, if_pos hprintable]
    simp only [typeCharacter, masked, List.length_replicate, hprintable.1, hprintable.2]
    by_cases hroom : value.length < maxLength
    · simp [hroom, List.replicate_succ']
    · simp [hroom]
  · have hkept : ∀ v : Bytes, typeCharacter maxLength v codepoint = v := by
      intro v
      rw [typeCharacter, if_neg]
      simp only [Bool.and_eq_true, decide_eq_true_eq, not_and]
      exact fun h => absurd h hprintable
    rw [veilCharacter, if_neg hprintable, hkept, hkept]

theorem masked_dropLast (value : Bytes) : masked value.dropLast = (masked value).dropLast := by
  simp [masked]

omit [Scalar F] in
/-- Of what is typed, the stars show the number. -/
theorem masked_edited (input : InputState F) (maxLength : Nat) (value : Bytes) :
    masked (edited input maxLength value) = edited (veilInput input) maxLength (masked value) := by
  have htyped : ∀ (characters : List UInt32) (v : Bytes),
      masked (characters.foldl (typeCharacter maxLength) v) =
        (characters.map veilCharacter).foldl (typeCharacter maxLength) (masked v) := by
    intro characters
    induction characters with
    | nil => exact fun _ => rfl
    | cons c characters ih =>
        intro v
        rw [List.foldl_cons, ih, masked_typeCharacter, List.map_cons, List.foldl_cons]
  have hempty : ∀ v : Bytes, (masked v).isEmpty = v.isEmpty := by
    intro v
    cases v <;> rfl
  simp only [edited, veilInput, ← htyped, hempty]
  split
  · exact masked_dropLast _
  · rfl

end Typing

section Fields

open Ui.Widgets

theorem veil_press (ui : Widgets F) (id : Nat) (x y width height : F) :
    (veilWidgets ui).press id x y width height = veilWidgets (ui.press id x y width height) := by
  simp only [press, apply_ite veilWidgets]
  rfl

theorem veil_buttonInternal (ui : Widgets F) (id : Nat) (x y width height : F) (text : Bytes)
    (base hover pressed : Color) :
    (veilWidgets ui).buttonInternal id x y width height text base hover pressed =
      (veilWidgets (ui.buttonInternal id x y width height text base hover pressed).1,
        (ui.buttonInternal id x y width height text base hover pressed).2) := by
  simp only [buttonInternal, veil_press]
  rfl

theorem veil_button (ui : Widgets F) (id : Nat) (x y width height : F) (text : Bytes) :
    (veilWidgets ui).button id x y width height text =
      (veilWidgets (ui.button id x y width height text).1,
        (ui.button id x y width height text).2) :=
  veil_buttonInternal ui id x y width height text _ _ _

theorem veil_dangerButton (ui : Widgets F) (id : Nat) (x y width height : F) (text : Bytes) :
    (veilWidgets ui).dangerButton id x y width height text =
      (veilWidgets (ui.dangerButton id x y width height text).1,
        (ui.dangerButton id x y width height text).2) :=
  veil_buttonInternal ui id x y width height text _ _ _

/-- A field that has registered itself and seen the mouse. -/
def entered (ui : Widgets F) (id : Nat) (x y width height : F) : Widgets F :=
  press { ui with mTextFields := ui.mTextFields ++ [id] } id x y width height

theorem veil_entered (ui : Widgets F) (id : Nat) (x y width height : F) :
    entered (veilWidgets ui) id x y width height =
      veilWidgets (entered ui id x y width height) :=
  veil_press { ui with mTextFields := ui.mTextFields ++ [id] } id x y width height

/-- What a field draws. -/
def fieldCanvas (ui : Widgets F) (id : Nat) (x y width height : F)
    (value shown placeholder : Bytes) : Canvas F :=
  let isFocused := ui.mFocused = id
  let renderer := ui.mRenderer.rect x y width height ui.theme.field
  let renderer := renderer.rectOutline x y width height kBorder
    (if isFocused then ui.theme.borderFocused else ui.theme.border)
  let textX := x + kPadding
  let textY := centreTextY renderer y height kTextSize
  let renderer :=
    if value.isEmpty && !decide isFocused then
      renderer.text textX textY placeholder ui.theme.textDim kTextSize
    else renderer.text textX textY shown ui.theme.text kTextSize
  if isFocused then ui.caret textX textY shown renderer else renderer

/-- The value of a field behind its frame. -/
def fieldValue (ui : Widgets F) (id maxLength : Nat) (value : Bytes) : Bytes :=
  if ui.mFocused = id then edited ui.mInput maxLength value else value

theorem textField_eq (ui : Widgets F) (id : Nat) (x y width height : F) (value placeholder : Bytes)
    (password : Bool) (maxLength : Nat) :
    ui.textField id x y width height value placeholder password maxLength =
      let ui' := entered ui id x y width height
      let value' := fieldValue ui' id maxLength value
      ({ ui' with
          mRenderer := fieldCanvas ui' id x y width height value'
            (if password then masked value' else value') placeholder },
        value', ui'.mFocused = id && ui'.mInput.enter) := rfl

theorem veil_fieldCanvas (ui : Widgets F) (id : Nat) (x y width height : F)
    (value shown placeholder : Bytes) :
    fieldCanvas (veilWidgets ui) id x y width height value shown placeholder =
      fieldCanvas ui id x y width height value shown placeholder := rfl

theorem masked_isEmpty (value : Bytes) : (masked value).isEmpty = value.isEmpty := by
  cases value <;> rfl

/-- The password field passes the veil through. -/
theorem veil_passwordField (ui : Widgets F) (id : Nat) (x y width height : F)
    (value placeholder : Bytes) (maxLength : Nat) :
    let field := ui.textField id x y width height value placeholder true maxLength
    (veilWidgets ui).textField id x y width height (masked value) placeholder true maxLength =
      (veilWidgets field.1, masked field.2.1, field.2.2) := by
  intro field
  let ui' := entered ui id x y width height
  have hvalue : fieldValue (veilWidgets ui') id maxLength (masked value) =
      masked (fieldValue ui' id maxLength value) := by
    rw [fieldValue, fieldValue, apply_ite masked, masked_edited]
    rfl
  rw [textField_eq, veil_entered]
  dsimp only
  rw [hvalue, veil_fieldCanvas, if_pos rfl, masked_masked]
  simp only [fieldCanvas, masked_isEmpty]
  rfl

/-- A field that is not focused shows what it showed. -/
theorem veil_textField {ui : Widgets F} {id : Nat} {x y width height : F}
    (hfocus : (entered ui id x y width height).mFocused ≠ id) (value placeholder : Bytes)
    (maxLength : Nat) :
    let field := ui.textField id x y width height value placeholder false maxLength
    (veilWidgets ui).textField id x y width height value placeholder false maxLength =
      (veilWidgets field.1, field.2) := by
  intro field
  have hvalue : ∀ input : InputState F,
      fieldValue { entered ui id x y width height with mInput := input } id maxLength value =
        value := fun _ => if_neg hfocus
  have hkept : fieldValue (entered ui id x y width height) id maxLength value = value :=
    hvalue _
  have hveiled : fieldValue (veilWidgets (entered ui id x y width height)) id maxLength value =
      value := hvalue _
  rw [textField_eq, veil_entered]
  dsimp only
  rw [hveiled, veil_fieldCanvas]
  simp only [field, textField_eq, hkept]
  rfl

omit [Scalar F] in
theorem eq_of_veilWidgets {ui ui' : Widgets F} (h : veilWidgets ui = veilWidgets ui')
    (hcharacters : ui.mInput.characters = ui'.mInput.characters) : ui = ui' := by
  have hinput : ui.mInput = ui'.mInput := by
    have hveiled := congrArg Widgets.mInput h
    cases hone : ui.mInput
    cases htwo : ui'.mInput
    simp_all [veilWidgets, veilInput]
  cases ui
  cases ui'
  simp_all [veilWidgets]

end Fields

namespace LoginScreen

section Layout

variable (renderer : Canvas F)

def panelX : F := ((renderer.mWidth : F) - 460.0) * 0.5

def panelY : F := ((renderer.mHeight : F) - 320.0) * 0.5

def contentX : F := panelX renderer + 32.0

def contentWidth : F := 460.0 - 64.0

def usernameLabelY : F := panelY renderer + 28.0 + (renderer.textHeight kTitleSize + 24.0)

def usernameY : F := usernameLabelY renderer + (renderer.textHeight kLabelSize + 4.0)

def passwordLabelY : F := usernameY renderer + (kFieldHeight + kRowGap)

def passwordY : F := passwordLabelY renderer + (renderer.textHeight kLabelSize + 4.0)

def buttonsY : F := passwordY renderer + (kFieldHeight + kRowGap + 4.0)

def buttonWidth : F := (contentWidth - 12.0) * 0.5

end Layout

variable (renderer : Canvas F)

/-- What is above the first field. -/
def heading (ui : Widgets F) : Widgets F :=
  let ui := ui.rect 0.0 0.0 renderer.mWidth renderer.mHeight ui.theme.background
  let ui := ui.panel (panelX renderer) (panelY renderer) 460.0 320.0
  let ui := ui.labelCentred (panelX renderer + 460.0 * 0.5) (panelY renderer + 28.0)
    (bytes "UNTITLED") kTitleSize
  ui.labelDim (contentX renderer) (usernameLabelY renderer) (bytes "USERNAME") kLabelSize

def usernameField (username : Bytes) (ui : Widgets F) : Widgets F × Bytes × Bool :=
  ui.textField kIdUsername (contentX renderer) (usernameY renderer) contentWidth kFieldHeight
    username (bytes "enter username") false kMaxLength

def passwordField (password : Bytes) (ui : Widgets F) : Widgets F × Bytes × Bool :=
  let ui := ui.labelDim (contentX renderer) (passwordLabelY renderer) (bytes "PASSWORD") kLabelSize
  ui.textField kIdPassword (contentX renderer) (passwordY renderer) contentWidth kFieldHeight
    password (bytes "enter password") true kMaxLength

/-- The buttons, and whether they report a click. -/
def buttons (state : AppState) (ui : Widgets F) : Widgets F × Bool × Bool :=
  let submit := ui.button kIdSubmit (contentX renderer) (buttonsY renderer) buttonWidth
    kButtonHeight (if state = .connecting then bytes "..." else bytes "LOGIN")
  let quit := submit.1.button kIdQuit (contentX renderer + buttonWidth + 12.0) (buttonsY renderer)
    buttonWidth kButtonHeight (bytes "QUIT")
  (quit.1, submit.2, quit.2)

def statusLine (mStatus : String) (mStatusIsError : Bool) (ui : Widgets F) : Widgets F :=
  let status := bytes mStatus
  if status.isEmpty then ui
  else
    let colour := if mStatusIsError then ⟨230, 110, 100, 255⟩ else ui.theme.textDim
    let textX := panelX renderer + (460.0 - renderer.textWidth status kStatusSize) * 0.5
    ui.text textX (buttonsY renderer + (kButtonHeight + 14.0)) status colour kStatusSize

def chosen (state : AppState) (quit submit username password : Bool) : Action :=
  if quit then .quit
  else if ¬ state = .connecting ∧ (submit || username || password) then .submit
  else .none

/-- What follows the username field. -/
def rest (s : LoginScreen) (state : AppState) (username : Widgets F × Bytes × Bool) :
    LoginScreen × Widgets F × Action :=
  let password := passwordField renderer s.mPassword username.1
  let clicked := buttons renderer state password.1
  ({ s with
      mUsername := username.2.1, mPassword := password.2.1, mFocusInitialised := true },
    statusLine renderer s.mStatus s.mStatusIsError clicked.1,
    chosen state clicked.2.2 clicked.2.1 username.2.2 password.2.2)

theorem draw_eq (s : LoginScreen) (ui : Widgets F) (state : AppState) :
    s.draw ui renderer state = rest renderer s state
      (usernameField renderer s.mUsername (heading renderer (s.initFocus ui).2)) := by
  have hfocused : (s.initFocus ui).1 = { s with mFocusInitialised := true } := by
    rw [initFocus]
    split
    · rfl
    · rename_i hinit
      cases s
      simp_all
  have hdraw : s.draw ui renderer state =
      let username := usernameField renderer s.mUsername (heading renderer (s.initFocus ui).2)
      let drawn := rest renderer s state username
      ({ (s.initFocus ui).1 with mUsername := drawn.1.mUsername, mPassword := drawn.1.mPassword },
        drawn.2) := rfl
  rw [hdraw, hfocused]
  rfl

theorem veil_buttons (state : AppState) (ui : Widgets F) :
    buttons renderer state (veilWidgets ui) =
      (veilWidgets (buttons renderer state ui).1, (buttons renderer state ui).2) := by
  simp only [buttons, veil_button]

theorem veil_statusLine (mStatus : String) (mStatusIsError : Bool) (ui : Widgets F) :
    statusLine renderer mStatus mStatusIsError (veilWidgets ui) =
      veilWidgets (statusLine renderer mStatus mStatusIsError ui) := by
  simp only [statusLine, apply_ite veilWidgets]
  rfl

/-- What the form draws and asks for, seen through the veil. -/
def veiled (drawn : LoginScreen × Widgets F × Action) : LoginScreen × Widgets F × Action :=
  (drawn.1.veil, veilWidgets drawn.2.1, drawn.2.2)

theorem veil_rest (s : LoginScreen) (state : AppState) (username : Widgets F × Bytes × Bool) :
    rest renderer s.veil state (veilWidgets username.1, username.2) =
      veiled (rest renderer s state username) := by
  have hpassword : passwordField renderer (Ui.Widgets.masked s.mPassword)
      (veilWidgets username.1) =
        (veilWidgets (passwordField renderer s.mPassword username.1).1,
          Ui.Widgets.masked (passwordField renderer s.mPassword username.1).2.1,
          (passwordField renderer s.mPassword username.1).2.2) :=
    veil_passwordField (username.1.labelDim (contentX renderer) (passwordLabelY renderer)
      (bytes "PASSWORD") kLabelSize) _ _ _ _ _ _ _ _
  simp only [rest, veiled, veil, hpassword, veil_buttons, veil_statusLine]

/-- Two forms that look the same draw and ask for the same, if the username field does. -/
theorem veil_draw_of_username {s s' : LoginScreen} (hs : s.veil = s'.veil) {ui ui' : Widgets F}
    (husername :
      let username := usernameField renderer s.mUsername (heading renderer (s.initFocus ui).2)
      let username' := usernameField renderer s'.mUsername (heading renderer (s'.initFocus ui').2)
      (veilWidgets username.1, username.2) = (veilWidgets username'.1, username'.2))
    (state : AppState) :
    veiled (s.draw ui renderer state) = veiled (s'.draw ui' renderer state) := by
  rw [draw_eq, draw_eq, ← veil_rest, ← veil_rest, hs, husername]

theorem veil_heading (ui : Widgets F) :
    heading renderer (veilWidgets ui) = veilWidgets (heading renderer ui) := rfl

/-- The characters of the frame go into no field but that of the password. -/
def Discreet (s : LoginScreen) (ui : Widgets F) : Prop :=
  s.mFocusInitialised = true ∧ ui.mFocused = kIdPassword ∧ ui.mInput.mousePressed = false

omit [Scalar F] in
theorem initFocus_of_initialised {s : LoginScreen} (h : s.mFocusInitialised = true)
    (ui : Widgets F) : (s.initFocus ui).2 = ui := by
  simp [initFocus, h]

/-- The username field is left alone. -/
theorem veil_usernameField {ui : Widgets F} (hfocus : ui.mFocused = kIdPassword)
    (hmouse : ui.mInput.mousePressed = false) (username : Bytes) :
    let field := usernameField renderer username (heading renderer ui)
    usernameField renderer username (heading renderer (veilWidgets ui)) =
      (veilWidgets field.1, field.2) := by
  rw [veil_heading]
  apply veil_textField
  have hheading : (heading renderer ui).mFocused = kIdPassword := hfocus
  have hpressed : (heading renderer ui).mInput.mousePressed = false := hmouse
  simp [entered, Widgets.press, hpressed, hheading, kIdPassword, kIdUsername]

/-- What is typed into the password field does not show on the form. -/
theorem veil_draw {s s' : LoginScreen} (hs : s.veil = s'.veil) {ui ui' : Widgets F}
    (hui : veilWidgets ui = veilWidgets ui')
    (htyped : ui.mInput.characters = ui'.mInput.characters ∨ Discreet s ui) (state : AppState) :
    veiled (s.draw ui renderer state) = veiled (s'.draw ui' renderer state) := by
  have hname : s.mUsername = s'.mUsername := (congrArg LoginScreen.mUsername hs :)
  have hinit : s.mFocusInitialised = s'.mFocusInitialised :=
    (congrArg LoginScreen.mFocusInitialised hs :)
  apply veil_draw_of_username renderer hs
  intro username username'
  cases htyped with
  | inl hcharacters =>
      have hfocused : (s.initFocus ui).2 = (s'.initFocus ui').2 := by
        rw [eq_of_veilWidgets hui hcharacters]
        simp only [initFocus, apply_ite Prod.snd, hinit]
      simp only [username, username', hname, hfocused]
  | inr hdiscreet =>
      obtain ⟨hfirst, hfocus, hmouse⟩ := hdiscreet
      have hfocus' : ui'.mFocused = kIdPassword := by
        rw [← hfocus]
        exact (congrArg Widgets.mFocused hui :).symm
      have hmouse' : ui'.mInput.mousePressed = false := by
        rw [← hmouse]
        exact (congrArg (fun w : Widgets F => w.mInput.mousePressed) hui :).symm
      simp only [username, username', initFocus_of_initialised hfirst ui,
        initFocus_of_initialised (hinit ▸ hfirst) ui']
      rw [← veil_usernameField renderer hfocus hmouse,
        ← veil_usernameField renderer hfocus' hmouse', hui, hname]

end LoginScreen

section Menu

omit [Scalar F] in
theorem veil_end (ui : Widgets F) : (veilWidgets ui).end_ = veilWidgets ui.end_ := by
  have hend : ∀ w : Widgets F, w.end_ =
      let focused := if w.mInput.mousePressed && w.mActive = 0 then 0 else w.mFocused
      { w with
        mFocused := if w.mTabPending && !w.mTextFields.isEmpty then
          Widgets.nextField w.mTextFields focused else focused
        mActive := if w.mInput.mouseReleased then 0 else w.mActive
        mTabPending := false } := by
    intro w
    simp only [Widgets.end_]
    split <;> split <;> split <;> rfl
  rw [hend, hend]
  rfl

/-- What the menu draws above its buttons. -/
theorem veil_menu (ui : Widgets F) (renderer : Canvas F) (username : Bytes) :
    MenuScreen.draw (veilWidgets ui) renderer username =
      (veilWidgets (MenuScreen.draw ui renderer username).1,
        (MenuScreen.draw ui renderer username).2) := by
  have hrect : ∀ (w : Widgets F) (x y width height : F) (color : Color),
      (veilWidgets w).rect x y width height color =
        veilWidgets (w.rect x y width height color) := fun _ _ _ _ _ _ => rfl
  have hpanel : ∀ (w : Widgets F) (x y width height : F),
      (veilWidgets w).panel x y width height = veilWidgets (w.panel x y width height) :=
    fun _ _ _ _ _ => rfl
  have hlabel : ∀ (w : Widgets F) (x y : F) (text : Bytes) (pixelSize : Int),
      (veilWidgets w).labelCentred x y text pixelSize =
        veilWidgets (w.labelCentred x y text pixelSize) := fun _ _ _ _ _ => rfl
  have htext : ∀ (w : Widgets F) (x y : F) (text : Bytes) (color : Color) (pixelSize : Int),
      (veilWidgets w).text x y text color pixelSize =
        veilWidgets (w.text x y text color pixelSize) := fun _ _ _ _ _ _ => rfl
  have htheme : ∀ w : Widgets F, (veilWidgets w).theme = w.theme := fun _ => rfl
  simp only [MenuScreen.draw, hrect, hpanel, hlabel, htext, htheme, veil_button, veil_dangerButton]

end Menu

namespace Shell

/-- A window without the password, and without what was typed. -/
def veil (s : Shell F) : Shell F :=
  { s with app := s.app.veil, mWidgets := veilWidgets s.mWidgets, mInput := veilInput s.mInput }

theorem veilCharacter_veilCharacter (codepoint : UInt32) :
    veilCharacter (veilCharacter codepoint) = veilCharacter codepoint := by
  by_cases h : Printable codepoint
  · rw [veilCharacter, veilCharacter, if_pos h]
    decide
  · simp only [veilCharacter, if_neg h]

omit [Scalar F] in
theorem veilInput_veilInput (input : InputState F) :
    veilInput (veilInput input) = veilInput input := by
  have hcharacters : veilCharacter ∘ veilCharacter = veilCharacter :=
    funext veilCharacter_veilCharacter
  simp only [veilInput, List.map_map, hcharacters]

omit [Scalar F] in
theorem veil_veil (s : Shell F) : s.veil.veil = s.veil := by
  simp only [veil, Application.veil_veil, veilWidgets, veilInput_veilInput]

section Update

variable (host : Platform F)

theorem veil_transition (s : Shell F) : s.veil.transition = s.transition.veil := by
  simp only [transition, apply_ite veil]
  rfl

theorem blind_follow (f : Turn F) : Blind veil veil fun s : Shell F => s.follow f := by
  have hpolled : Blind veil veil fun s : Shell F =>
      { s with app := { s.app with
        mElapsedSeconds := s.app.mElapsedSeconds + f.deltaSeconds
        mNet := s.app.mNet.poll (s.app.mElapsedSeconds + f.deltaSeconds) f.os } } := by
    intro s
    let now := s.app.mElapsedSeconds + f.deltaSeconds
    have hpoll : (s.app.mNet.veil.poll now f.os).veil = (s.app.mNet.poll now f.os).veil :=
      NetClient.blind_poll now f.os s.app.mNet
    simp only [veil, Application.veil, LoginScreen.veil, masked_masked, veilWidgets,
      veilInput_veilInput, now] at hpoll ⊢
    rw [hpoll]
  have htransition : Blind veil veil fun s : Shell F => s.transition :=
    Blind.of_commutes veil_veil veil_transition
  exact htransition.comp hpolled

theorem veil_simulate (s : Shell F) (intent : Prediction.Intent F) (f : Turn F) :
    simulate host s.veil intent f = (simulate host s intent f).veil := by
  let accumulated := s.app.mTickAccumulator + f.deltaSeconds
  let app : Application F :=
    { s.app with mTickAccumulator := if 1 / 4 < accumulated then 1 / 4 else accumulated }
  have hticked := Application.veil_tickLoop host.toHost intent Application.kMaxTicks f.dropped app
  let ticked := app.tickLoop host.toHost intent Application.kMaxTicks f.dropped
  let smoothed : Application F := { ticked with
    mPrediction := ticked.mPrediction.updateSmoothing host.exp2 (host.ofDouble f.deltaSeconds) }
  have hreplicated := Application.veil_applyReplication host.toHost smoothed
  have hsmoothed : ∀ a : Application F, a = ticked.veil →
      ({ a with mPrediction :=
        a.mPrediction.updateSmoothing host.exp2 (host.ofDouble f.deltaSeconds) } :
          Application F) = smoothed.veil := by
    rintro _ rfl
    rfl
  have happ : (simulate host s.veil intent f).app = (simulate host s intent f).app.veil := by
    refine Eq.trans ?_ hreplicated
    exact congrArg (Application.applyReplication host.toHost) (hsmoothed _ hticked)
  have hrest : simulate host s.veil intent f =
      { s.veil with app := (simulate host s.veil intent f).app } := rfl
  rw [hrest, happ]
  rfl

theorem blind_update (f : Turn F) : Blind veil veil fun s : Shell F => s.update host f := by
  have hrest : Blind veil veil fun s : Shell F =>
      let sampled :=
        s.mCameraController.sample host.degToRad host.ofDouble f.sampleX f.sampleY f.keys
      simulate host { s with mCameraController := sampled.1 } sampled.2 f :=
    Blind.of_commutes veil_veil fun s => veil_simulate host { s with mCameraController :=
      (s.mCameraController.sample host.degToRad host.ofDouble f.sampleX f.sampleY f.keys).1 } _ f
  exact hrest.comp (blind_follow f)

end Update

section Screens

variable (host : Platform F)

omit [Scalar F] in
theorem blind_beginLogin (os : NetClient.Os) :
    Blind veil veil fun s : Shell F => s.beginLogin host os := by
  intro s
  have hempty : (s.veil.app.mLoginScreen.mUsername = [] ∨ s.veil.app.mLoginScreen.mPassword = []) ↔
      (s.app.mLoginScreen.mUsername = [] ∨ s.app.mLoginScreen.mPassword = []) :=
    or_congr_right (masked_eq_nil_iff _)
  have hlogin : (s.app.mNet.veil.login host.authHost s.app.mLoginScreen.mUsername
      (Ui.Widgets.masked s.app.mLoginScreen.mPassword) os).veil =
        (s.app.mNet.login host.authHost s.app.mLoginScreen.mUsername
          s.app.mLoginScreen.mPassword os).veil :=
    NetClient.veil_login (NetClient.veil_veil _) _ _ (masked_masked _) os
  by_cases h : s.app.mLoginScreen.mUsername = [] ∨ s.app.mLoginScreen.mPassword = []
  · have hveiled := veil_veil { s with app := { s.app with
      mLoginScreen := s.app.mLoginScreen.setStatus "username and password are required" true } }
    simp only [beginLogin, if_pos h, if_pos (hempty.mpr h)]
    exact hveiled
  · simp only [beginLogin, if_neg h, if_neg (mt hempty.mp h)]
    simp only [veil, enterState, Application.enterState, Application.veil, LoginScreen.veil,
      LoginScreen.setStatus, masked_masked, veilWidgets, veilInput_veilInput] at hlogin ⊢
    rw [hlogin]

/-- Two windows after their screens have been drawn, with their widgets. -/
def veilDrawn (drawn : Shell F × Widgets F) : Shell F × Widgets F :=
  (drawn.1.veil, veilWidgets drawn.2)

omit [Scalar F] in
theorem veil_begun (s : Shell F) (f : Turn F) : s.veil.begun f = veilWidgets (s.begun f) := rfl

/-- The characters of the frame go into the password field, or nowhere. -/
def Secret (s : Shell F) (f : Turn F) : Prop :=
  s.app.mState = .inGame ∨ s.app.mState = .menu ∨ s.app.mLoginScreen.Discreet (s.begun f)

omit [Scalar F] in
theorem veil_loginAction {s s' : Shell F} (h : s.veil = s'.veil) (os : NetClient.Os)
    (action : LoginScreen.Action) :
    (s.loginAction host os action).veil = (s'.loginAction host os action).veil := by
  cases action with
  | none => exact h
  | submit => exact (blind_beginLogin host os).congr h
  | quit =>
      have hquit : Blind veil veil fun s : Shell F => { s with shouldClose := true } :=
        Blind.of_commutes veil_veil fun _ => rfl
      exact hquit.congr h

/-- The window with the form as it has been drawn. -/
def withForm (s : Shell F) (screen : LoginScreen) : Shell F :=
  { s with app := { s.app with mLoginScreen := screen } }

omit [Scalar F] in
theorem veil_withForm {s s' : Shell F} (h : s.veil = s'.veil) {screen screen' : LoginScreen}
    (hscreen : screen.veil = screen'.veil) :
    (s.withForm screen).veil = (s'.withForm screen').veil := by
  have hfilled : ∀ (t : Shell F) (form : LoginScreen),
      (t.withForm form).veil = t.veil.withForm form.veil := fun _ _ => rfl
  rw [hfilled, hfilled, h, hscreen]

theorem veil_drawLogin {s s' : Shell F} (h : s.veil = s'.veil) (f : Turn F)
    (htyped : s.mInput.characters = s'.mInput.characters ∨
      s.app.mLoginScreen.Discreet (s.begun f)) :
    veilDrawn (s.drawLogin host f) = veilDrawn (s'.drawLogin host f) := by
  have hscreen : s.app.mLoginScreen.veil = s'.app.mLoginScreen.veil :=
    (congrArg (fun t : Shell F => t.app.mLoginScreen) h :)
  have hbegun : veilWidgets (s.begun f) = veilWidgets (s'.begun f) := by
    rw [← veil_begun, h, veil_begun]
  have hcanvas : s.canvas = s'.canvas := (congrArg canvas h :)
  have hstate : s.app.mState = s'.app.mState := (congrArg (fun t : Shell F => t.app.mState) h :)
  have hdrawn := LoginScreen.veil_draw s.canvas hscreen hbegun htyped s.app.mState
  let drawn := s.app.mLoginScreen.draw (s.begun f) s.canvas s.app.mState
  let drawn' := s'.app.mLoginScreen.draw (s'.begun f) s'.canvas s'.app.mState
  have hsame : LoginScreen.veiled drawn = LoginScreen.veiled drawn' := by
    simp only [drawn, drawn', ← hcanvas, ← hstate, hdrawn]
  have hscreen' : drawn.1.veil = drawn'.1.veil := (congrArg Prod.fst hsame :)
  have hform := veil_withForm h hscreen'
  have haction : drawn.2.2 = drawn'.2.2 := (congrArg (·.2.2) hsame :)
  have hwidgets : veilWidgets drawn.2.1 = veilWidgets drawn'.2.1 := (congrArg (·.2.1) hsame :)
  have hdone := veil_loginAction host hform f.loginOs drawn.2.2
  refine Prod.ext ?_ hwidgets
  refine hdone.trans ?_
  rw [haction]
  rfl

theorem veil_menuAction (s : Shell F) (action : MenuScreen.Action) :
    s.veil.menuAction action = (s.menuAction action).veil := by
  cases action <;> rfl

theorem veil_drawMenu (s : Shell F) (f : Turn F) :
    s.veil.drawMenu f = veilDrawn (s.drawMenu f) := by
  have hmenu := veil_menu (s.begun f) s.canvas s.app.mUsername
  simp only [drawMenu, veil_begun, show s.veil.canvas = s.canvas from rfl,
    show s.veil.app.mUsername = s.app.mUsername from rfl, hmenu, veil_menuAction,
    apply_ite veilDrawn]
  rfl

omit [Scalar F] in
theorem veilDrawn_veilDrawn (drawn : Shell F × Widgets F) :
    veilDrawn (veilDrawn drawn) = veilDrawn drawn := by
  simp only [veilDrawn, veil_veil, veilWidgets, veilInput_veilInput]

/-- Two windows that look the same draw the same. -/
theorem veil_drawScreen {s s' : Shell F} (h : s.veil = s'.veil) (f : Turn F)
    (htyped : s.mInput.characters = s'.mInput.characters ∨ s.Secret f) :
    veilDrawn (s.drawScreen host f) = veilDrawn (s'.drawScreen host f) := by
  have hstate : s.app.mState = s'.app.mState := (congrArg (fun t : Shell F => t.app.mState) h :)
  have hform : s.app.mState ≠ .inGame → s.app.mState ≠ .menu →
      s.mInput.characters = s'.mInput.characters ∨ s.app.mLoginScreen.Discreet (s.begun f) := by
    intro hgame hmenu
    exact htyped.imp_right fun hsecret => (hsecret.resolve_left hgame).resolve_left hmenu
  have hgame : Blind veil veilDrawn fun s : Shell F =>
      (if s.mInput.escape then s.enterState .menu else s, s.begun f) := by
    refine Blind.of_commutes veilDrawn_veilDrawn fun t => ?_
    simp only [veilDrawn, apply_ite veil]
    rfl
  have hmenu : Blind veil veilDrawn fun s : Shell F => s.drawMenu f :=
    Blind.of_commutes veilDrawn_veilDrawn fun t => veil_drawMenu t f
  simp only [drawScreen, ← hstate]
  split
  · rename_i hlogin
    exact veil_drawLogin host h f (hform (by rw [hlogin]; decide) (by rw [hlogin]; decide))
  · rename_i hconnecting
    exact veil_drawLogin host h f
      (hform (by rw [hconnecting]; decide) (by rw [hconnecting]; decide))
  · exact hgame.congr h
  · exact hmenu.congr h

theorem veil_finish (s : Shell F) (f : Turn F) (ui : Widgets F) :
    s.veil.finish f (veilWidgets ui) = (s.finish f ui).veil := by
  simp only [finish, veil_end]
  rfl

theorem veil_drawUi {s s' : Shell F} (h : s.veil = s'.veil) (f : Turn F)
    (htyped : s.mInput.characters = s'.mInput.characters ∨ s.Secret f) :
    (s.drawUi host f).veil = (s'.drawUi host f).veil := by
  have hdrawn := veil_drawScreen host h f htyped
  have hfinished : ∀ t : Shell F, (t.drawUi host f).veil =
      (veilDrawn (t.drawScreen host f)).1.finish f (veilDrawn (t.drawScreen host f)).2 :=
    fun t => (veil_finish _ f _).symm
  rw [hfinished, hfinished, hdrawn]

end Screens

section Runs

variable (host : Platform F)

/-- The windows get the same events, but for characters that a field would take and that are typed
while the password field has the focus. -/
def Alike (p : Shell F × Shell F) (e : WindowEvent F × WindowEvent F) : Prop :=
  match e with
  | (.character one, .character two) => one = two ∨ Printable one ∧ Printable two
  | (.frame f, .frame f') => f = f' ∧
      (p.1.mInput.characters = p.2.mInput.characters ∨ (p.1.update host f).Secret f)
  | (e, e') => e = e'

section Callbacks

omit [Scalar F]

theorem veil_charCallback {s s' : Shell F} (h : s.veil = s'.veil) {one two : UInt32}
    (hveil : veilCharacter one = veilCharacter two) :
    (s.charCallback one).veil = (s'.charCallback two).veil := by
  have htyped : ∀ (t : Shell F) (c : UInt32), (t.charCallback c).veil =
      { t.veil with mInput := { t.veil.mInput with
        characters := t.veil.mInput.characters ++ [veilCharacter c] } } := by
    intro t c
    simp only [charCallback, veil, veilInput, List.map_append, List.map_cons, List.map_nil]
  rw [htyped, htyped, h, hveil]

theorem veil_keyCallback (s : Shell F) (key : Key) (action : KeyAction) :
    s.veil.keyCallback key action = (s.keyCallback key action).veil := by
  cases key with
  | escape =>
      simp only [keyCallback, apply_ite veil]
      rfl
  | _ => rfl

theorem veil_mouseButtonCallback (s : Shell F) (left : Bool) (action : KeyAction) :
    s.veil.mouseButtonCallback left action = (s.mouseButtonCallback left action).veil := by
  cases left with
  | false => rfl
  | true => cases action <;> rfl

theorem veil_resize (s : Shell F) (width height : Int) :
    s.veil.resize width height = (s.resize width height).veil := by
  simp only [resize, apply_ite veil]
  rfl

end Callbacks

theorem transition_mInput (s : Shell F) : s.transition.mInput = s.mInput := by
  simp only [transition]
  split
  · split
    · rfl
    · split
      · rfl
      · rfl
  · split
    · rfl
    · rfl

theorem update_mInput (s : Shell F) (f : Turn F) : (s.update host f).mInput = s.mInput :=
  transition_mInput _

theorem veil_frame {s s' : Shell F} (h : s.veil = s'.veil) (f : Turn F)
    (htyped : s.mInput.characters = s'.mInput.characters ∨ (s.update host f).Secret f) :
    (s.step host (.frame f)).veil = (s'.step host (.frame f)).veil := by
  have hclose : s.shouldClose = s'.shouldClose := (congrArg shouldClose h :)
  have hupdate := (blind_update host f).congr h
  simp only [step, ← hclose]
  split
  · exact h
  · apply veil_drawUi host hupdate f
    rw [update_mInput, update_mInput]
    exact htyped

theorem veil_step {p : Shell F × Shell F} {e : WindowEvent F × WindowEvent F}
    (h : p.1.veil = p.2.veil) (halike : Alike host p e) :
    (p.1.step host e.1).veil = (p.2.step host e.2).veil := by
  have hcongr : ∀ {g : Shell F → Shell F}, (∀ s, g s.veil = (g s).veil) →
      (g p.1).veil = (g p.2).veil := fun hg => (Blind.of_commutes veil_veil hg).congr h
  obtain ⟨one, two⟩ := e
  cases one with
  | character codepoint =>
      cases two with
      | character codepoint' =>
          apply veil_charCallback h
          cases halike with
          | inl hsame => rw [hsame]
          | inr hprintable => rw [veilCharacter, veilCharacter, if_pos hprintable.1,
              if_pos hprintable.2]
      | _ => cases halike
  | frame f =>
      cases two with
      | frame f' =>
          obtain ⟨rfl, htyped⟩ := halike
          exact veil_frame host h f htyped
      | _ => cases halike
  | key key action =>
      obtain rfl : WindowEvent.key key action = two := halike
      exact hcongr (g := fun s => s.keyCallback key action) fun s => veil_keyCallback s key action
  | mouseButton left action =>
      obtain rfl : WindowEvent.mouseButton left action = two := halike
      exact hcongr (g := fun s => s.mouseButtonCallback left action) fun s =>
        veil_mouseButtonCallback s left action
  | resize width height =>
      obtain rfl : WindowEvent.resize width height = two := halike
      exact hcongr (g := fun s => s.resize width height) fun s => veil_resize s width height
  | close =>
      obtain rfl : WindowEvent.close = two := halike
      exact hcongr (g := fun s => { s with shouldClose := true }) fun _ => rfl

/-- Two windows that get the same events, but for printable characters that are typed into the
password field, draw the same quads in every frame, and are the same but for the password. -/
theorem password_unseen (mFakeLatency mFakeLoss : ℚ) (mFont : Font F) (width height : Int)
    (events : List (WindowEvent F × WindowEvent F))
    (halike : Lib.Runs.Along (Lib.Runs.both (step host)) (Alike host)
      (init mFakeLatency mFakeLoss mFont width height,
        init mFakeLatency mFakeLoss mFont width height) events) :
    let s := run host mFakeLatency mFakeLoss mFont width height (events.map Prod.fst)
    let s' := run host mFakeLatency mFakeLoss mFont width height (events.map Prod.snd)
    s.mUi = s'.mUi ∧ s.veil = s'.veil := by
  intro s s'
  have hveil : s.veil = s'.veil :=
    Lib.Runs.agree_of_along (fun _ _ => veil_step host) rfl halike
  exact ⟨(congrArg mUi hveil :), hveil⟩

/-- A window over level ground. -/
def levelPlatform : Platform ℚ :=
  { authHost := "127.0.0.1", phys := .level, exp2 := fun _ => 1, ofBits := fun _ => 0,
    toBits := fun _ => 0, ofDouble := fun x => x, degToRad := 1 }

/-- A frame in which nothing happens outside. -/
def quietTurn : Turn ℚ :=
  ⟨1 / 60, NetClient.Os.quiet, NetClient.Os.quiet, [], ⟨false, false, false, false, false, false⟩,
    0, 0, 0, 0, 0⟩

/-- Tab goes to the password field, and two passwords are typed. -/
def twoPasswords : List (WindowEvent ℚ × WindowEvent ℚ) :=
  [(.frame quietTurn, .frame quietTurn), (.key .tab .press, .key .tab .press),
    (.frame quietTurn, .frame quietTurn), (.character 97, .character 98),
    (.frame quietTurn, .frame quietTurn)]

theorem password_unseen_typed :
    let s := run levelPlatform 0 0 .blank 640 480 (twoPasswords.map Prod.fst)
    let s' := run levelPlatform 0 0 .blank 640 480 (twoPasswords.map Prod.snd)
    s.app.mLoginScreen.mPassword ≠ s'.app.mLoginScreen.mPassword ∧ s.mUi = s'.mUi ∧
      s.veil = s'.veil := by
  refine ⟨by decide +kernel, password_unseen levelPlatform 0 0 .blank 640 480 twoPasswords ?_⟩
  refine ⟨⟨rfl, Or.inl rfl⟩, rfl, ⟨rfl, Or.inl rfl⟩, Or.inr ⟨by decide, by decide⟩,
    ⟨rfl, Or.inr (Or.inr (Or.inr ⟨?_, ?_, ?_⟩))⟩, trivial⟩
  · decide +kernel
  · decide +kernel
  · decide +kernel

end Runs

end Shell

end UntitledGame.Client
