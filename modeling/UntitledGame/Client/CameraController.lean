import UntitledGame.Client.Prediction

/-!
# `game::CameraController`

Mouse look turns the camera while the cursor is captured, and its yaw is the direction
that the character is asked to face. The first sample after the cursor was captured, or
after a reset, only notes where the cursor is. Where the camera is placed is left out.
`clamp` is that of `filament::math`, by the formula that the library documents.
-/

namespace UntitledGame.Client

structure CameraController (F : Type*) where
  mYaw : F
  mPitch : F
  mEnabled : Bool
  mHasLastCursor : Bool
  mLastCursorX : ℚ
  mLastCursorY : ℚ
  deriving DecidableEq, Repr

/-- The keys that a sample asks for. -/
structure Keys where
  w : Bool
  s : Bool
  d : Bool
  a : Bool
  space : Bool
  leftShift : Bool
  deriving DecidableEq, Repr

namespace CameraController

variable {F : Type*} [Scalar F]

def kMouseSensitivity : F := 0.12
def kMaxPitch : F := 75.0
def kMinPitch : F := -35.0

/-- As it is constructed. -/
def blank : CameraController F := ⟨0.0, 0.0, false, false, 0, 0⟩

def reset (c : CameraController F) (yawDegrees pitchDegrees : F) : CameraController F :=
  { c with mYaw := yawDegrees, mPitch := pitchDegrees, mHasLastCursor := false }

def setEnabled (c : CameraController F) (enabled : Bool) : CameraController F :=
  { c with mEnabled := enabled, mHasLastCursor := false }

def clamp (value low high : F) : F :=
  if value < low then low else if high < value then high else value

/-- Degrees in radians; the factor is the math library's. -/
def yawRadians (c : CameraController F) (degToRad : F) : F := c.mYaw * degToRad

/-- The cursor turns the camera from where it was last seen. -/
def look (c : CameraController F) (ofDouble : ℚ → F) (x y : ℚ) : CameraController F :=
  let c :=
    if c.mHasLastCursor then
      { c with
        mYaw := c.mYaw + ofDouble (x - c.mLastCursorX) * kMouseSensitivity
        mPitch := clamp (c.mPitch - ofDouble (y - c.mLastCursorY) * kMouseSensitivity) kMinPitch
          kMaxPitch }
    else c
  { c with mLastCursorX := x, mLastCursorY := y, mHasLastCursor := true }

/-- What the player asks for. -/
def sample (c : CameraController F) (degToRad : F) (ofDouble : ℚ → F) (x y : ℚ) (keys : Keys) :
    CameraController F × Prediction.Intent F :=
  if !c.mEnabled then (c, ⟨0.0, 0.0, c.yawRadians degToRad, false, false⟩)
  else
    let c := c.look ofDouble x y
    let moveForward : F := if keys.w then 0.0 + 1.0 else 0.0
    let moveForward := if keys.s then moveForward - 1.0 else moveForward
    let moveRight : F := if keys.d then 0.0 + 1.0 else 0.0
    let moveRight := if keys.a then moveRight - 1.0 else moveRight
    (c, ⟨moveForward, moveRight, c.yawRadians degToRad, keys.space, keys.leftShift⟩)

end CameraController

end UntitledGame.Client
