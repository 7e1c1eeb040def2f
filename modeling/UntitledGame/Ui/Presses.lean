import UntitledGame.Ui.Widgets
import Mathlib.Data.List.TakeWhile

/-!
# Clicks and the Tab key

Frames of any widgets, in any order. `click_iff` says when a button reports a click: it
is let go over the button, and it was pressed there, in that frame or in an earlier one
since when the mouse was not let go and nothing else was pressed. `tab_cycles` is the
order of the Tab key.
-/

namespace UntitledGame.Ui.Widgets

/-- A widget of a frame, or something that its screen draws itself. -/
inductive Call (F : Type*) where
  | rect (x y width height : F) (color : Color)
  | text (x y : F) (value : List UInt8) (color : Color) (pixelSize : Int)
  | panel (x y width height : F)
  | label (x y : F) (text : List UInt8) (pixelSize : Int)
  | labelDim (x y : F) (text : List UInt8) (pixelSize : Int)
  | labelCentred (centreX y : F) (text : List UInt8) (pixelSize : Int)
  | button (id : Nat) (x y width height : F) (text : List UInt8)
  | dangerButton (id : Nat) (x y width height : F) (text : List UInt8)
  | textField (id : Nat) (x y width height : F) (value placeholder : List UInt8) (password : Bool)
      (maxLength : Nat)
  deriving DecidableEq, Repr

/-- A frame: what came in, and the widgets that are drawn. -/
structure Frame (F : Type*) where
  renderer : Canvas F
  input : InputState F
  now : ℚ
  calls : List (Call F)

/-- Where a widget reacts to the mouse. -/
structure Area (F : Type*) where
  id : Nat
  x : F
  y : F
  width : F
  height : F
  deriving DecidableEq, Repr

variable {F : Type*} [Scalar F]

def perform (ui : Widgets F) : Call F → Widgets F
  | .rect x y width height color => ui.rect x y width height color
  | .text x y value color pixelSize => ui.text x y value color pixelSize
  | .panel x y width height => ui.panel x y width height
  | .label x y text pixelSize => ui.label x y text pixelSize
  | .labelDim x y text pixelSize => ui.labelDim x y text pixelSize
  | .labelCentred centreX y text pixelSize => ui.labelCentred centreX y text pixelSize
  | .button id x y width height text => (ui.button id x y width height text).1
  | .dangerButton id x y width height text => (ui.dangerButton id x y width height text).1
  | .textField id x y width height value placeholder password maxLength =>
      (ui.textField id x y width height value placeholder password maxLength).1

/-- Whether the widget reports a click. -/
def clicked (ui : Widgets F) : Call F → Bool
  | .button id x y width height text => (ui.button id x y width height text).2
  | .dangerButton id x y width height text => (ui.dangerButton id x y width height text).2
  | _ => false

def Call.area : Call F → Option (Area F)
  | .button id x y width height _ => some ⟨id, x, y, width, height⟩
  | .dangerButton id x y width height _ => some ⟨id, x, y, width, height⟩
  | .textField id x y width height _ _ _ _ => some ⟨id, x, y, width, height⟩
  | _ => none

def Call.isButton : Call F → Bool
  | .button _ _ _ _ _ _ => true
  | .dangerButton _ _ _ _ _ _ => true
  | _ => false

/-- The text field that a call registers. -/
def Call.field : Call F → Option Nat
  | .textField id _ _ _ _ _ _ _ _ => some id
  | _ => none

/-- The mouse is over an area. -/
def Over (input : InputState F) (a : Area F) : Prop :=
  a.x ≤ input.mouseX ∧ input.mouseX < a.x + a.width ∧ a.y ≤ input.mouseY ∧
    input.mouseY < a.y + a.height

instance (input : InputState F) (a : Area F) : Decidable (Over input a) :=
  inferInstanceAs (Decidable (_ ∧ _))

def frame (ui : Widgets F) (f : Frame F) : Widgets F :=
  (f.calls.foldl perform (ui.begin f.renderer f.input f.now)).end_

def run (ui : Widgets F) (frames : List (Frame F)) : Widgets F := Lib.Runs.run frame ui frames

section Calls

theorem hovered_iff (ui : Widgets F) (a : Area F) :
    ui.hovered a.x a.y a.width a.height = true ↔ Over ui.mInput a := by
  simp [hovered, Over, and_assoc]

/-- The widget that the mouse goes down on. -/
def pressedOn (input : InputState F) (c : Call F) : Option Nat :=
  if input.mousePressed then (c.area.filter fun a => Over input a).map (·.id) else none

/-- What a widget leaves behind, apart from what it draws: it registers itself if it is a text
field, and if the mouse goes down on it, it is held and focused. -/
structure Performed (ui ui' : Widgets F) (c : Call F) : Prop where
  mInput : ui'.mInput = ui.mInput
  mTabPending : ui'.mTabPending = ui.mTabPending
  mTextFields : ui'.mTextFields = ui.mTextFields ++ c.field.toList
  mActive : ui'.mActive = (pressedOn ui.mInput c).getD ui.mActive
  mFocused : ui'.mFocused = (pressedOn ui.mInput c).getD ui.mFocused

/-- The effect of `press` on the two widget ids. -/
theorem press_held (ui : Widgets F) {c : Call F} {a : Area F} (ha : c.area = some a) :
    let ui' := ui.press a.id a.x a.y a.width a.height
    ui'.mActive = (pressedOn ui.mInput c).getD ui.mActive ∧
      ui'.mFocused = (pressedOn ui.mInput c).getD ui.mFocused := by
  simp only [press, pressedOn, ha, Option.filter_some, Bool.and_eq_true, hovered_iff]
  by_cases hover : Over ui.mInput a
  · by_cases hpressed : ui.mInput.mousePressed = true
    · simp [hover, hpressed]
    · simp [hpressed]
  · simp [hover]

theorem press_mInput (ui : Widgets F) (id : Nat) (x y width height : F) :
    (ui.press id x y width height).mInput = ui.mInput := by
  rw [press]
  split <;> rfl

theorem press_mTextFields (ui : Widgets F) (id : Nat) (x y width height : F) :
    (ui.press id x y width height).mTextFields = ui.mTextFields := by
  rw [press]
  split <;> rfl

theorem press_mTabPending (ui : Widgets F) (id : Nat) (x y width height : F) :
    (ui.press id x y width height).mTabPending = ui.mTabPending := by
  rw [press]
  split <;> rfl

theorem performed (ui : Widgets F) (c : Call F) : Performed ui (ui.perform c) c := by
  have hsilent : ∀ {ui' : Widgets F}, c.area = none → c.field = none →
      ui'.mInput = ui.mInput → ui'.mTabPending = ui.mTabPending →
        ui'.mTextFields = ui.mTextFields → ui'.mActive = ui.mActive →
          ui'.mFocused = ui.mFocused → Performed ui ui' c := by
    intro ui' harea hfield hinput htab hfields hactive hfocused
    have hnone : pressedOn ui.mInput c = none := by simp [pressedOn, harea]
    exact ⟨hinput, htab, by rw [hfield]; simpa using hfields, by rw [hnone]; exact hactive,
      by rw [hnone]; exact hfocused⟩
  have hpressed : ∀ {ui' : Widgets F} {a : Area F}, c.area = some a →
      ui'.mInput = ui.mInput → ui'.mTabPending = ui.mTabPending →
        ui'.mTextFields = ui.mTextFields ++ c.field.toList →
          ui'.mActive = (ui.press a.id a.x a.y a.width a.height).mActive →
            ui'.mFocused = (ui.press a.id a.x a.y a.width a.height).mFocused →
              Performed ui ui' c := by
    intro ui' a harea hinput htab hfields hactive hfocused
    obtain ⟨hheld, hfocus⟩ := press_held ui harea
    exact ⟨hinput, htab, hfields, hactive.trans hheld, hfocused.trans hfocus⟩
  cases c with
  | rect x y width height color => exact hsilent rfl rfl rfl rfl rfl rfl rfl
  | text x y value color pixelSize => exact hsilent rfl rfl rfl rfl rfl rfl rfl
  | panel x y width height => exact hsilent rfl rfl rfl rfl rfl rfl rfl
  | label x y text pixelSize => exact hsilent rfl rfl rfl rfl rfl rfl rfl
  | labelDim x y text pixelSize => exact hsilent rfl rfl rfl rfl rfl rfl rfl
  | labelCentred centreX y text pixelSize => exact hsilent rfl rfl rfl rfl rfl rfl rfl
  | button id x y width height text =>
      exact hpressed (a := ⟨id, x, y, width, height⟩) rfl (press_mInput _ _ _ _ _ _)
        (press_mTabPending _ _ _ _ _ _)
        ((press_mTextFields _ _ _ _ _ _).trans (List.append_nil _).symm) rfl rfl
  | dangerButton id x y width height text =>
      exact hpressed (a := ⟨id, x, y, width, height⟩) rfl (press_mInput _ _ _ _ _ _)
        (press_mTabPending _ _ _ _ _ _)
        ((press_mTextFields _ _ _ _ _ _).trans (List.append_nil _).symm) rfl rfl
  | textField id x y width height value placeholder password maxLength =>
      let registered : Widgets F := { ui with mTextFields := ui.mTextFields ++ [id] }
      obtain ⟨hheld, hfocus⟩ := press_held registered (a := ⟨id, x, y, width, height⟩)
        (c := .textField id x y width height value placeholder password maxLength) rfl
      exact ⟨press_mInput registered _ _ _ _ _, press_mTabPending registered _ _ _ _ _,
        press_mTextFields registered _ _ _ _ _, hheld, hfocus⟩

/-- The widgets that the mouse goes down on in a frame; the last one stays held. -/
def presses (f : Frame F) : List Nat := f.calls.filterMap (pressedOn f.input)

/-- The effect of some widgets of a frame. -/
theorem foldl_performed (ui : Widgets F) (calls : List (Call F)) :
    let ui' := calls.foldl perform ui
    let pressed := (calls.filterMap (pressedOn ui.mInput)).getLast?
    ui'.mInput = ui.mInput ∧ ui'.mTabPending = ui.mTabPending ∧
      ui'.mTextFields = ui.mTextFields ++ calls.filterMap Call.field ∧
      ui'.mActive = pressed.getD ui.mActive ∧ ui'.mFocused = pressed.getD ui.mFocused := by
  induction calls generalizing ui with
  | nil => exact ⟨rfl, rfl, (List.append_nil _).symm, rfl, rfl⟩
  | cons c calls ih =>
      have hfirst := performed ui c
      obtain ⟨hinput, htab, hfields, hactive, hfocused⟩ := ih (ui.perform c)
      rw [hfirst.mInput] at hinput hactive hfocused
      rw [hfirst.mTabPending] at htab
      rw [hfirst.mTextFields] at hfields
      rw [hfirst.mActive] at hactive
      rw [hfirst.mFocused] at hfocused
      have hlast : ∀ held : Nat,
          ((calls.filterMap (pressedOn ui.mInput)).getLast?).getD
              ((pressedOn ui.mInput c).getD held) =
            (((c :: calls).filterMap (pressedOn ui.mInput)).getLast?).getD held := by
        intro held
        rw [List.filterMap_cons]
        cases pressedOn ui.mInput c with
        | none => rfl
        | some id =>
            simp only [List.getLast?_cons, Option.getD_some]
      refine ⟨hinput, htab, ?_, hactive.trans (hlast _), hfocused.trans (hlast _)⟩
      refine hfields.trans ?_
      rw [List.append_assoc, List.filterMap_cons]
      cases c.field <;> rfl

end Calls

section Frames

omit [Scalar F] in
theorem begin_mInput (ui : Widgets F) (renderer : Canvas F) (input : InputState F) (now : ℚ) :
    (ui.begin renderer input now).mInput = input := rfl

/-- The widget that is held behind the widgets of a frame. -/
def heldIn (ui : Widgets F) (f : Frame F) : Nat := (presses f).getLast?.getD ui.mActive

theorem frame_mActive (ui : Widgets F) (f : Frame F) :
    (ui.frame f).mActive = if f.input.mouseReleased then 0 else heldIn ui f := by
  obtain ⟨hinput, -, -, hactive, -⟩ :=
    foldl_performed (ui.begin f.renderer f.input f.now) f.calls
  have hend : ∀ ui' : Widgets F, ui'.end_.mActive =
      if ui'.mInput.mouseReleased then 0 else ui'.mActive := by
    intro ui'
    simp only [end_]
    split <;> split <;> split <;> rfl
  rw [frame, hend, hinput, hactive]
  rfl

/-- The focus behind the widgets of a frame, before the Tab key. -/
def focusIn (ui : Widgets F) (f : Frame F) : Nat :=
  if f.input.mousePressed && heldIn ui f = 0 then 0 else (presses f).getLast?.getD ui.mFocused

/-- The text fields of a frame. -/
def fields (f : Frame F) : List Nat := f.calls.filterMap Call.field

theorem frame_mFocused (ui : Widgets F) (f : Frame F) :
    (ui.frame f).mFocused =
      if f.input.tab && !(fields f).isEmpty then nextField (fields f) (focusIn ui f)
      else focusIn ui f := by
  obtain ⟨hinput, htab, hfields, hactive, hfocused⟩ :=
    foldl_performed (ui.begin f.renderer f.input f.now) f.calls
  have hend : ∀ ui' : Widgets F, ui'.end_.mFocused =
      let focused := if ui'.mInput.mousePressed && ui'.mActive = 0 then 0 else ui'.mFocused
      if ui'.mTabPending && !ui'.mTextFields.isEmpty then nextField ui'.mTextFields focused
      else focused := by
    intro ui'
    simp only [end_]
    split <;> split <;> split <;> simp_all
  rw [frame, hend, hinput, htab, hfields, hactive, hfocused]
  rfl

/-- The widget was pressed, and since then the mouse was not let go and nothing was pressed. -/
def Held (frames : List (Frame F)) (id : Nat) : Prop :=
  ∃ first g rest, frames = first ++ g :: rest ∧ (presses g).getLast? = some id ∧
    g.input.mouseReleased = false ∧ ∀ h ∈ rest, h.input.mouseReleased = false ∧ presses h = []

theorem held_concat (frames : List (Frame F)) (f : Frame F) (id : Nat) :
    Held (frames ++ [f]) id ↔ f.input.mouseReleased = false ∧
      ((presses f).getLast? = some id ∨ presses f = [] ∧ Held frames id) := by
  constructor
  · rintro ⟨first, g, rest, hframes, hpressed, hdown, hquiet⟩
    cases rest using List.reverseRecOn with
    | nil =>
        obtain ⟨rfl, hlast⟩ := List.append_inj' hframes rfl
        obtain rfl := List.singleton_inj.mp hlast
        exact ⟨hdown, Or.inl hpressed⟩
    | append_singleton rest last =>
        rw [← List.cons_append, ← List.append_assoc] at hframes
        obtain ⟨rfl, hlast⟩ := List.append_inj' hframes rfl
        obtain rfl := List.singleton_inj.mp hlast
        obtain ⟨hlater, hnone⟩ := hquiet f (List.mem_append_right _ (List.mem_singleton_self f))
        exact ⟨hlater, Or.inr ⟨hnone, first, g, rest, rfl, hpressed, hdown,
          fun h hh => hquiet h (List.mem_append_left _ hh)⟩⟩
  · rintro ⟨hdown, hpressed | ⟨hnone, first, g, rest, rfl, hpressed, hdown', hquiet⟩⟩
    · exact ⟨frames, f, [], rfl, hpressed, hdown, nofun⟩
    · refine ⟨first, g, rest ++ [f], by simp, hpressed, hdown', ?_⟩
      intro h hh
      cases List.mem_append.mp hh with
      | inl hold => exact hquiet h hold
      | inr hnew =>
          obtain rfl := List.mem_singleton.mp hnew
          exact ⟨hdown, hnone⟩

/-- The held widget, from the frames. -/
theorem run_mActive {ui : Widgets F} (hui : ui.mActive = 0) (frames : List (Frame F)) {id : Nat}
    (hid : id ≠ 0) : (ui.run frames).mActive = id ↔ Held frames id := by
  induction frames using List.reverseRecOn with
  | nil =>
      refine iff_of_false ?_ ?_
      · exact fun h => hid (h.symm.trans hui)
      · rintro ⟨first, g, rest, hframes, -⟩
        simp at hframes
  | append_singleton frames f ih =>
      rw [held_concat, ← ih, run, Lib.Runs.run_concat, ← run, frame_mActive, heldIn]
      cases f.input.mouseReleased with
      | true => simpa using hid.symm
      | false =>
          cases hlast : (presses f).getLast? with
          | none =>
              rw [List.getLast?_eq_none_iff] at hlast
              simp [hlast]
          | some pressed =>
              have hsome : presses f ≠ [] := by
                intro hnone
                rw [hnone] at hlast
                cases hlast
              simp [hsome]

/-- In every run, a button reports a click exactly when the mouse is let go over it and it was
pressed before: in the same frame, or in an earlier one since when the mouse was not let go and
nothing else was pressed. -/
theorem click_iff (ui : Widgets F) (hui : ui.mActive = 0) (frames : List (Frame F)) (f : Frame F)
    (before : List (Call F)) (c : Call F) (after : List (Call F)) (a : Area F)
    (hcalls : f.calls = before ++ c :: after) (hbutton : c.isButton = true)
    (harea : c.area = some a) (hid : a.id ≠ 0) :
    let drawn := before.foldl perform ((ui.run frames).begin f.renderer f.input f.now)
    drawn.clicked c = true ↔ f.input.mouseReleased = true ∧ Over f.input a ∧
      (f.input.mousePressed = true ∨ Held frames a.id) := by
  intro drawn
  obtain ⟨hinput, -, -, hactive, -⟩ :=
    foldl_performed ((ui.run frames).begin f.renderer f.input f.now) before
  have hdrawnInput : drawn.mInput = f.input := hinput
  have hclicked : drawn.clicked c = true ↔ (drawn.perform c).mActive = a.id ∧
      f.input.mouseReleased = true ∧ Over f.input a := by
    have hletGo : ∀ ui' : Widgets F, ui'.mInput = f.input →
        (ui'.letGo a.id a.x a.y a.width a.height = true ↔ ui'.mActive = a.id ∧
          f.input.mouseReleased = true ∧ Over f.input a) := by
      intro ui' hui'
      simp only [letGo, Bool.and_eq_true, decide_eq_true_eq, hovered_iff, hui', and_assoc]
    cases c with
    | button id x y width height text =>
        obtain rfl := Option.some.inj harea
        exact hletGo _ ((press_mInput _ _ _ _ _ _).trans hdrawnInput)
    | dangerButton id x y width height text =>
        obtain rfl := Option.some.inj harea
        exact hletGo _ ((press_mInput _ _ _ _ _ _).trans hdrawnInput)
    | _ => cases hbutton
  have hheld : Over f.input a → ((drawn.perform c).mActive = a.id ↔
      f.input.mousePressed = true ∨ Held frames a.id) := by
    intro hover
    rw [(performed drawn c).mActive, hdrawnInput]
    cases hpressed : f.input.mousePressed with
    | true =>
        have hthis : pressedOn f.input c = some a.id := by
          rw [pressedOn, if_pos hpressed, harea, Option.filter_some, if_pos (by simpa using hover)]
          rfl
        simp [hthis]
    | false =>
        have hnone : ∀ c' : Call F, pressedOn f.input c' = none := fun c' =>
          if_neg (by simp [hpressed])
        have hbefore : before.filterMap (pressedOn f.input) = [] :=
          List.filterMap_eq_nil_iff.mpr fun c' _ => hnone c'
        have hsame : drawn.mActive = (ui.run frames).mActive := by
          rw [hactive, begin_mInput, hbefore]
          rfl
        rw [hnone, Option.getD_none, hsame, run_mActive hui frames hid]
        simp
  rw [hclicked]
  constructor
  · rintro ⟨hactive', hreleased, hover⟩
    exact ⟨hreleased, hover, (hheld hover).mp hactive'⟩
  · rintro ⟨hreleased, hover, hpressed⟩
    exact ⟨(hheld hover).mpr hpressed, hreleased, hover⟩

/-- The mouse somewhere, with its edges. -/
def pointing (mouseX mouseY : ℚ) (pressed released : Bool) : InputState ℚ :=
  ⟨mouseX, mouseY, pressed, pressed, released, [], false, false, false, false⟩

/-- A frame with one button. -/
def oneButton (input : InputState ℚ) : Frame ℚ :=
  ⟨⟨.blank, 640, 480, []⟩, input, 0, [.button 3 100 100 80 40 [76]]⟩

/-- Pressed on the button, moved off, and let go over it. -/
theorem click_iff_dragged :
    let ui := init ⟨.blank, 640, 480, []⟩ (pointing 0 0 false false)
    let frames := [oneButton (pointing 110 110 true false), oneButton (pointing 9 9 false false)]
    let f := oneButton (pointing 120 120 false true)
    let button : Call ℚ := .button 3 100 100 80 40 [76]
    ((ui.run frames).begin f.renderer f.input f.now).clicked button = true := by
  intro ui frames f button
  refine (click_iff ui rfl frames f [] button [] ⟨3, 100, 100, 80, 40⟩ rfl rfl rfl
    (by decide)).mpr ⟨rfl, by decide +kernel, Or.inr ?_⟩
  exact ⟨[], _, [_], rfl, by decide +kernel, rfl, by decide +kernel⟩

end Frames

section Tab

theorem getElem?_zero_headD {fs : List Nat} (hne : fs ≠ []) : fs[0]? = some (fs.headD 0) := by
  cases fs with
  | nil => exact absurd rfl hne
  | cons id fs => rfl

/-- The field behind a focused one. -/
theorem nextField_of_getElem? {fs : List Nat} (hnodup : fs.Nodup) {i focused : Nat}
    (hi : fs[i]? = some focused) : fs[(i + 1) % fs.length]? = some (nextField fs focused) := by
  obtain ⟨hlt, hget⟩ := List.getElem?_eq_some_iff.mp hi
  have hsplit : fs = fs.take i ++ focused :: fs.drop (i + 1) := by
    rw [← hget, ← List.drop_eq_getElem_cons hlt, List.take_append_drop]
  have hdrop : fs.dropWhile (· ≠ focused) = focused :: fs.drop (i + 1) := by
    have hapart : ∀ id ∈ fs.take i, id ≠ focused := by
      rw [hsplit] at hnodup
      intro id hid heq
      exact (List.nodup_append.mp hnodup).2.2 id hid focused List.mem_cons_self heq
    conv_lhs => rw [hsplit]
    rw [List.dropWhile_append_of_pos (by simpa using hapart), List.dropWhile_cons_of_neg (by simp)]
  rw [nextField, hdrop]
  cases hrest : fs.drop (i + 1) with
  | nil =>
      have hlength := List.drop_eq_nil_iff.mp hrest
      rw [show i + 1 = fs.length by omega, Nat.mod_self]
      exact getElem?_zero_headD (List.ne_nil_of_length_pos (by omega))
  | cons next rest =>
      have hnext : fs[i + 1]? = some next := by
        have hfirst : (fs.drop (i + 1))[0]? = some next := by rw [hrest]; rfl
        rwa [List.getElem?_drop, Nat.add_zero] at hfirst
      rw [Nat.mod_eq_of_lt (List.getElem?_eq_some_iff.mp hnext).1]
      exact hnext

/-- From outside, the first field. -/
theorem nextField_of_not_mem {fs : List Nat} {focused : Nat} (h : focused ∉ fs) :
    nextField fs focused = fs.headD 0 := by
  have hnone : fs.dropWhile (· ≠ focused) = [] := by
    rw [List.dropWhile_eq_nil_iff]
    intro id hid
    simpa using fun heq : id = focused => h (heq ▸ hid)
  rw [nextField, hnone]

/-- How often Tab is pressed. -/
def tabs (frames : List (Frame F)) : Nat := frames.countP (·.input.tab)

/-- Frames of one screen, without the mouse. -/
def Typing (fs : List Nat) (frames : List (Frame F)) : Prop :=
  ∀ f ∈ frames, f.input.mousePressed = false ∧ fields f = fs

instance (fs : List Nat) (frames : List (Frame F)) : Decidable (Typing fs frames) :=
  inferInstanceAs (Decidable (∀ f ∈ frames, _ ∧ _))

theorem frame_typing (ui : Widgets F) {f : Frame F} {fs : List Nat} (hne : fs ≠ [])
    (hmouse : f.input.mousePressed = false) (hfields : fields f = fs) :
    (ui.frame f).mFocused = if f.input.tab then nextField fs ui.mFocused else ui.mFocused := by
  have hnone : presses f = [] :=
    List.filterMap_eq_nil_iff.mpr fun c _ => if_neg (by simp [hmouse])
  have hfocus : focusIn ui f = ui.mFocused := by
    simp [focusIn, hmouse, hnone]
  have hsome : fs.isEmpty = false := by simpa using hne
  rw [frame_mFocused, hfocus, hfields, hsome]
  simp

/-- Tab goes round the text fields of a screen in the order in which they are drawn, and from
elsewhere it starts with the first one. -/
theorem tab_cycles (ui : Widgets F) (fs : List Nat) (hnodup : fs.Nodup) (hne : fs ≠ [])
    (frames : List (Frame F)) (htyping : Typing fs frames) :
    let focused := (ui.run frames).mFocused
    (∀ i, fs[i]? = some ui.mFocused → fs[(i + tabs frames) % fs.length]? = some focused) ∧
      (ui.mFocused ∉ fs → if tabs frames = 0 then focused = ui.mFocused
        else fs[(tabs frames - 1) % fs.length]? = some focused) := by
  induction frames using List.reverseRecOn with
  | nil =>
      refine ⟨fun i hi => ?_, fun _ => rfl⟩
      have hlt := (List.getElem?_eq_some_iff.mp hi).1
      rw [show tabs ([] : List (Frame F)) = 0 from rfl, Nat.add_zero, Nat.mod_eq_of_lt hlt]
      exact hi
  | append_singleton frames f ih =>
      have hf := htyping f (List.mem_append_right _ (List.mem_singleton_self f))
      obtain ⟨hinside, houtside⟩ := ih fun g hg => htyping g (List.mem_append_left _ hg)
      have hstep := frame_typing (ui.run frames) hne hf.1 hf.2
      have hcount : tabs (frames ++ [f]) = tabs frames + if f.input.tab then 1 else 0 := by
        simp only [tabs, List.countP_append, List.countP_singleton]
      have hrun : (ui.run (frames ++ [f])) = (ui.run frames).frame f := Lib.Runs.run_concat _ _ _ _
      rw [hcount, hrun, hstep]
      cases f.input.tab with
      | false =>
          simp only [Bool.false_eq_true, if_false, Nat.add_zero]
          exact ⟨hinside, houtside⟩
      | true =>
          simp only [if_true, Nat.succ_ne_zero, if_false, Nat.add_sub_cancel]
          refine ⟨fun i hi => ?_, fun hout => ?_⟩
          · have hnext := nextField_of_getElem? hnodup (hinside i hi)
            rwa [Nat.mod_add_mod, Nat.add_assoc] at hnext
          · have hbefore := houtside hout
            split at hbefore
            · rename_i hnone
              rw [hbefore, nextField_of_not_mem hout, hnone, Nat.zero_mod]
              exact getElem?_zero_headD hne
            · rename_i hsome
              have hnext := nextField_of_getElem? hnodup hbefore
              have hpos := Nat.pos_of_ne_zero hsome
              rwa [Nat.mod_add_mod, Nat.sub_add_cancel hpos] at hnext

/-- A frame with two text fields. -/
def twoFields (tab : Bool) : Frame ℚ :=
  ⟨⟨.blank, 640, 480, []⟩, ⟨0, 0, false, false, false, [], false, tab, false, false⟩, 0,
    [.textField 1 0 0 80 40 [] [] false 32, .textField 2 0 50 80 40 [] [] true 32]⟩

theorem tab_cycles_wrapping :
    let ui := init ⟨.blank, 640, 480, []⟩ (pointing 0 0 false false)
    [1, 2][0]? = some (ui.run [twoFields true, twoFields false, twoFields true,
      twoFields true]).mFocused := by
  intro ui
  have hcycle := (tab_cycles ui [1, 2] (by decide) (by decide)
    [twoFields true, twoFields false, twoFields true, twoFields true] (by decide)).2 (by decide)
  exact hcycle

end Tab

end UntitledGame.Ui.Widgets
