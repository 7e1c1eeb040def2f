import UntitledGame.Ui.UiRenderer
import Mathlib.Data.Rat.Init

/-!
# `ui::Ui`

Widgets are function calls. All that stays from frame to frame is which widget is
focused and which one is held down. Within a frame the text fields register
themselves, which is the order of the Tab key.

A widget asks its renderer for the metrics of texts and makes draw calls; a `Canvas` is
what it sees of it, with the calls since `begin`. The time of the caret is exact.
-/

namespace UntitledGame.Ui

/-- Input collected over the last frame. -/
structure InputState (F : Type*) where
  mouseX : F
  mouseY : F
  mouseDown : Bool
  mousePressed : Bool
  mouseReleased : Bool
  characters : List UInt32
  backspace : Bool
  tab : Bool
  enter : Bool
  escape : Bool
  deriving DecidableEq, Repr

/-- Clears the one-frame edges. -/
def InputState.endFrame {F : Type*} (input : InputState F) : InputState F :=
  { input with
    mousePressed := false
    mouseReleased := false
    characters := []
    backspace := false
    tab := false
    enter := false
    escape := false }

structure Theme where
  background : Color := ⟨14, 16, 22, 235⟩
  panel : Color := ⟨26, 30, 40, 245⟩
  border : Color := ⟨70, 80, 100, 255⟩
  borderFocused : Color := ⟨120, 170, 240, 255⟩
  field : Color := ⟨18, 20, 27, 255⟩
  text : Color := ⟨226, 232, 240, 255⟩
  textDim : Color := ⟨130, 142, 160, 255⟩
  accent : Color := ⟨58, 110, 200, 255⟩
  accentHover : Color := ⟨78, 138, 235, 255⟩
  accentPressed : Color := ⟨42, 86, 165, 255⟩
  danger : Color := ⟨190, 70, 62, 255⟩
  dangerHover : Color := ⟨215, 88, 80, 255⟩
  deriving DecidableEq, Repr

def kFontSizeSmall : Int := 13
def kFontSizeBody : Int := 17
def kFontSizeHeading : Int := 26
def kFontSizeTitle : Int := 34

/-- A renderer as the widgets see it: its font, its viewport, and the draw calls so far. -/
structure Canvas (F : Type*) where
  mFont : Font F
  mWidth : Int
  mHeight : Int
  draws : List (Draw F)

/-- `ui::Ui`. -/
structure Widgets (F : Type*) where
  theme : Theme
  mRenderer : Canvas F
  mInput : InputState F
  mFocused : Nat
  mActive : Nat
  mTextFields : List Nat
  mTabPending : Bool
  mCaretTimer : ℚ

namespace Canvas

variable {F : Type*} [Scalar F]

def rect (r : Canvas F) (x y width height : F) (color : Color) : Canvas F :=
  { r with draws := r.draws ++ [.rect x y width height color] }

def rectOutline (r : Canvas F) (x y width height thickness : F) (color : Color) : Canvas F :=
  { r with draws := r.draws ++ [.rectOutline x y width height thickness color] }

def text (r : Canvas F) (x y : F) (value : List UInt8) (color : Color) (pixelSize : Int) :
    Canvas F :=
  { r with draws := r.draws ++ [.text x y value color pixelSize] }

def textWidth (r : Canvas F) (value : List UInt8) (pixelSize : Int) : F :=
  r.mFont.textWidth pixelSize value

def textHeight (r : Canvas F) (pixelSize : Int) : F := r.mFont.lineHeight pixelSize

end Canvas

namespace Widgets

variable {F : Type*} [Scalar F]

def kTextSize : Int := kFontSizeBody
def kBorder : F := 2.0
def kPadding : F := 10.0
def kCaretBlinkSeconds : ℚ := 53 / 100

/-- Before the first frame. -/
def init (mRenderer : Canvas F) (mInput : InputState F) : Widgets F :=
  ⟨{}, mRenderer, mInput, 0, 0, [], false, 0⟩

/-- The top of a line of text that is centred in a box. -/
def centreTextY (renderer : Canvas F) (y height : F) (pixelSize : Int) : F :=
  y + (height - renderer.textHeight pixelSize) * 0.5

def begin (ui : Widgets F) (renderer : Canvas F) (input : InputState F) (now : ℚ) : Widgets F :=
  { ui with
    mRenderer := renderer
    mInput := input
    mCaretTimer := now
    mTabPending := input.tab
    mTextFields := [] }

/-- The field behind the focused one, or the first one. -/
def nextField (fields : List Nat) (focused : Nat) : Nat :=
  match fields.dropWhile (· ≠ focused) with
  | _ :: next :: _ => next
  | _ => fields.headD 0

def end_ (ui : Widgets F) : Widgets F :=
  let ui := if ui.mInput.mousePressed && ui.mActive = 0 then { ui with mFocused := 0 } else ui
  let ui := if ui.mInput.mouseReleased then { ui with mActive := 0 } else ui
  let ui :=
    if ui.mTabPending && !ui.mTextFields.isEmpty then
      { ui with mFocused := nextField ui.mTextFields ui.mFocused }
    else ui
  { ui with mTabPending := false }

def hovered (ui : Widgets F) (x y width height : F) : Bool :=
  x ≤ ui.mInput.mouseX && ui.mInput.mouseX < x + width && y ≤ ui.mInput.mouseY &&
    ui.mInput.mouseY < y + height

def panel (ui : Widgets F) (x y width height : F) : Widgets F :=
  let renderer := ui.mRenderer.rect x y width height ui.theme.panel
  { ui with mRenderer := renderer.rectOutline x y width height kBorder ui.theme.border }

def label (ui : Widgets F) (x y : F) (text : List UInt8) (pixelSize : Int) : Widgets F :=
  { ui with mRenderer := ui.mRenderer.text x y text ui.theme.text pixelSize }

def labelDim (ui : Widgets F) (x y : F) (text : List UInt8) (pixelSize : Int) : Widgets F :=
  { ui with mRenderer := ui.mRenderer.text x y text ui.theme.textDim pixelSize }

def labelCentred (ui : Widgets F) (centreX y : F) (text : List UInt8) (pixelSize : Int) :
    Widgets F :=
  let x := centreX - ui.mRenderer.textWidth text pixelSize * 0.5
  { ui with mRenderer := ui.mRenderer.text x y text ui.theme.text pixelSize }

/-- A press over a widget focuses it and holds it down. -/
def press (ui : Widgets F) (id : Nat) (x y width height : F) : Widgets F :=
  if ui.hovered x y width height && ui.mInput.mousePressed then
    { ui with mActive := id, mFocused := id }
  else ui

/-- Whether the widget is let go over itself. -/
def letGo (ui : Widgets F) (id : Nat) (x y width height : F) : Bool :=
  ui.mActive = id && ui.mInput.mouseReleased && ui.hovered x y width height

def buttonInternal (ui : Widgets F) (id : Nat) (x y width height : F) (text : List UInt8)
    (base hover pressed : Color) : Widgets F × Bool :=
  let isHovered := ui.hovered x y width height
  let ui := ui.press id x y width height
  let clicked := ui.letGo id x y width height
  let fill :=
    if ui.mActive = id && isHovered then pressed else if isHovered then hover else base
  let renderer := ui.mRenderer.rect x y width height fill
  let renderer :=
    if ui.mFocused = id then
      renderer.rectOutline x y width height kBorder ui.theme.borderFocused
    else renderer
  let renderer := renderer.text (x + (width - renderer.textWidth text kTextSize) * 0.5)
    (centreTextY renderer y height kTextSize) text ui.theme.text kTextSize
  ({ ui with mRenderer := renderer }, clicked)

def button (ui : Widgets F) (id : Nat) (x y width height : F) (text : List UInt8) :
    Widgets F × Bool :=
  ui.buttonInternal id x y width height text ui.theme.accent ui.theme.accentHover
    ui.theme.accentPressed

def dangerButton (ui : Widgets F) (id : Nat) (x y width height : F) (text : List UInt8) :
    Widgets F × Bool :=
  ui.buttonInternal id x y width height text ui.theme.danger ui.theme.dangerHover ui.theme.danger

/-- What `std::string(n, '*')` shows of a password. -/
def masked (value : List UInt8) : List UInt8 := List.replicate value.length 0x2A

/-- A typed character, as far as the font can draw it and there is room. -/
def typeCharacter (maxLength : Nat) (value : List UInt8) (codepoint : UInt32) : List UInt8 :=
  if 0x20 ≤ codepoint && codepoint ≤ 0x7E && value.length < maxLength then
    value ++ [codepoint.toUInt8]
  else value

/-- A field after the characters and the backspace of a frame. -/
def edited (input : InputState F) (maxLength : Nat) (value : List UInt8) : List UInt8 :=
  let value := input.characters.foldl (typeCharacter maxLength) value
  if input.backspace && !value.isEmpty then value.dropLast else value

def caretVisible (ui : Widgets F) : Bool := (ui.mCaretTimer / kCaretBlinkSeconds).floor % 2 = 0

/-- The blinking caret, behind the text. -/
def caret (ui : Widgets F) (textX textY : F) (shown : List UInt8) (renderer : Canvas F) :
    Canvas F :=
  if ui.caretVisible then
    let caretX := textX + renderer.textWidth shown kTextSize
    let caretHeight := renderer.textHeight kTextSize * 0.8
    renderer.rect (caretX + 1.0) (textY + caretHeight * 0.15) 2.0 caretHeight ui.theme.text
  else renderer

/-- An editable line: the field, the new value, and whether Enter submits it. -/
def textField (ui : Widgets F) (id : Nat) (x y width height : F) (value placeholder : List UInt8)
    (password : Bool) (maxLength : Nat) : Widgets F × List UInt8 × Bool :=
  let ui := { ui with mTextFields := ui.mTextFields ++ [id] }
  let ui := ui.press id x y width height
  let isFocused := ui.mFocused = id
  let value := if isFocused then edited ui.mInput maxLength value else value
  let submitted := isFocused && ui.mInput.enter
  let renderer := ui.mRenderer.rect x y width height ui.theme.field
  let renderer := renderer.rectOutline x y width height kBorder
    (if isFocused then ui.theme.borderFocused else ui.theme.border)
  let textX := x + kPadding
  let textY := centreTextY renderer y height kTextSize
  let shown := if password then masked value else value
  let renderer :=
    if value.isEmpty && !decide isFocused then
      renderer.text textX textY placeholder ui.theme.textDim kTextSize
    else renderer.text textX textY shown ui.theme.text kTextSize
  let renderer := if isFocused then ui.caret textX textY shown renderer else renderer
  ({ ui with mRenderer := renderer }, value, submitted)

/-- What a screen draws itself. -/
def rect (ui : Widgets F) (x y width height : F) (color : Color) : Widgets F :=
  { ui with mRenderer := ui.mRenderer.rect x y width height color }

def text (ui : Widgets F) (x y : F) (value : List UInt8) (color : Color) (pixelSize : Int) :
    Widgets F :=
  { ui with mRenderer := ui.mRenderer.text x y value color pixelSize }

def setFocus (ui : Widgets F) (id : Nat) : Widgets F := { ui with mFocused := id }

end Widgets

end UntitledGame.Ui
