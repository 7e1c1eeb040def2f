import UntitledGame.Ui.Font
import UntitledGame.Lib.Runs

/-!
# `ui::UiRenderer`

The interface of a frame is one batch of quads, which the draw calls between `begin`
and `end_` append to. What does not fit any more is dropped. `end_` uploads the batch
and sets the range of the index buffer that the engine draws; the range is rounded up
to buckets, so that it is set anew as rarely as possible.

`vertexBuffer`, `indexBuffer` and `drawRange` are what the engine has. An upload
overwrites a buffer from its start and leaves the rest.

`requests` says which quads a draw call stands for, apart from the capacity.
-/

namespace UntitledGame.Ui

structure Color where
  r : UInt8
  g : UInt8
  b : UInt8
  a : UInt8
  deriving DecidableEq, Repr

structure Vertex (F : Type*) where
  x : F
  y : F
  u : F
  v : F
  color : Color
  deriving DecidableEq, Repr

structure UiRenderer (F : Type*) where
  mFont : Font F
  mVertices : List (Vertex F)
  mIndices : List UInt16
  mLastDrawCount : Nat
  vertexBuffer : List (Vertex F)
  indexBuffer : List UInt16
  drawRange : Nat

/-- The arguments of `quad`. -/
structure Quad (F : Type*) where
  x : F
  y : F
  width : F
  height : F
  u0 : F
  v0 : F
  u1 : F
  v1 : F
  color : Color
  deriving DecidableEq, Repr

/-- A draw call. -/
inductive Draw (F : Type*) where
  | rect (x y width height : F) (color : Color)
  | rectOutline (x y width height thickness : F) (color : Color)
  | text (x y : F) (value : List UInt8) (color : Color) (pixelSize : Int)
  deriving DecidableEq, Repr

namespace UiRenderer

def kMaxQuads : Nat := 8192
def kMaxVertices : Nat := kMaxQuads * 4
def kMaxIndices : Nat := kMaxQuads * 6
def kIndexBucket : Nat := 384

/-- `SIZE_MAX`, which no draw count is. -/
def kSizeMax : Nat := 0xFFFFFFFFFFFFFFFF

variable {F : Type*} [Scalar F]

/-- The renderer after `init` with a font. -/
def init (mFont : Font F) : UiRenderer F := ⟨mFont, [], [], kSizeMax, [], [], 0⟩

def begin (r : UiRenderer F) : UiRenderer F := { r with mVertices := [], mIndices := [] }

/-- The corners of a quad, with V mirrored. -/
def corners (q : Quad F) : List (Vertex F) :=
  let v0 := 1.0 - q.v0
  let v1 := 1.0 - q.v1
  [⟨q.x, q.y, q.u0, v0, q.color⟩, ⟨q.x + q.width, q.y, q.u1, v0, q.color⟩,
    ⟨q.x + q.width, q.y + q.height, q.u1, v1, q.color⟩, ⟨q.x, q.y + q.height, q.u0, v1, q.color⟩]

/-- The two triangles of a quad, in 16 bits. -/
def triangles (base : UInt16) : List UInt16 := [0, 1, 2, 2, 3, 0].map fun offset => base + offset

def quad (r : UiRenderer F) (q : Quad F) : UiRenderer F :=
  if r.mVertices.length + 4 > kMaxVertices then r
  else
    let base := UInt16.ofNat r.mVertices.length
    { r with
      mVertices := r.mVertices ++ corners q
      mIndices := r.mIndices ++ triangles base }

def rect (r : UiRenderer F) (x y width height : F) (color : Color) : UiRenderer F :=
  let u := r.mFont.mWhiteU
  let v := r.mFont.mWhiteV
  r.quad ⟨x, y, width, height, u, v, u, v, color⟩

def rectOutline (r : UiRenderer F) (x y width height thickness : F) (color : Color) :
    UiRenderer F :=
  let r := r.rect x y width thickness color
  let r := r.rect x (y + height - thickness) width thickness color
  let r := r.rect x y thickness height color
  r.rect (x + width - thickness) y thickness height color

/-- The body of the loop of `text`, with the pen. -/
def drawChar (size : Int) (baseline : F) (color : Color) (s : UiRenderer F × F) (c : UInt8) :
    UiRenderer F × F :=
  match s.1.mFont.glyph size c with
  | none => s
  | some glyph =>
      let r :=
        if glyph.width > 0.0 && glyph.height > 0.0 then
          s.1.quad ⟨s.2 + glyph.offsetX, baseline + glyph.offsetY, glyph.width, glyph.height,
            glyph.u0, glyph.v0, glyph.u1, glyph.v1, color⟩
        else s.1
      (r, s.2 + glyph.advance)

def text (r : UiRenderer F) (x y : F) (value : List UInt8) (color : Color) (pixelSize : Int) :
    UiRenderer F :=
  let size := r.mFont.nearestSize pixelSize
  let baseline := y + r.mFont.ascent size
  (value.foldl (drawChar size baseline color) (r, x)).1

def draw (r : UiRenderer F) : Draw F → UiRenderer F
  | .rect x y width height color => r.rect x y width height color
  | .rectOutline x y width height thickness color =>
      r.rectOutline x y width height thickness color
  | .text x y value color pixelSize => r.text x y value color pixelSize

/-- `std::vector::resize` with zeros. -/
def resize (indices : List UInt16) (size : Nat) : List UInt16 :=
  indices.take size ++ List.replicate (size - indices.length) 0

/-- An upload into a buffer, from its start. -/
def upload {α : Type*} (data buffer : List α) : List α := data ++ buffer.drop data.length

/-- `setGeometryAt`, which is left out when the range is the one of the last frame. -/
def setRange (r : UiRenderer F) (drawCount : Nat) : UiRenderer F :=
  if drawCount ≠ r.mLastDrawCount then
    { r with drawRange := drawCount, mLastDrawCount := drawCount }
  else r

/-- The number of indices, rounded up to a bucket, within the index buffer. -/
def bucketed (indices : Nat) : Nat :=
  let drawCount := (indices + kIndexBucket - 1) / kIndexBucket * kIndexBucket
  if drawCount > kMaxIndices then kMaxIndices else drawCount

/-- `UiRenderer::end`. -/
def end_ (r : UiRenderer F) : UiRenderer F :=
  if r.mIndices.isEmpty then r.setRange 0
  else
    let drawCount := bucketed r.mIndices.length
    let mIndices := resize r.mIndices drawCount
    let r := { r with
      mIndices := mIndices
      vertexBuffer := upload r.mVertices r.vertexBuffer
      indexBuffer := upload mIndices r.indexBuffer }
    r.setRange drawCount

/-- A frame of the interface. -/
def frame (r : UiRenderer F) (draws : List (Draw F)) : UiRenderer F :=
  (draws.foldl draw r.begin).end_

def run (mFont : Font F) (frames : List (List (Draw F))) : UiRenderer F :=
  Lib.Runs.run frame (init mFont) frames

section Requests

/-- The quad of a rectangle. -/
def solid (font : Font F) (x y width height : F) (color : Color) : Quad F :=
  ⟨x, y, width, height, font.mWhiteU, font.mWhiteV, font.mWhiteU, font.mWhiteV, color⟩

/-- The quads of a text, from the pen on. -/
def typeset (font : Font F) (size : Int) (baseline : F) (color : Color) :
    F → List UInt8 → List (Quad F)
  | _, [] => []
  | penX, c :: value =>
      match font.glyph size c with
      | none => typeset font size baseline color penX value
      | some glyph =>
          (if glyph.width > 0.0 && glyph.height > 0.0 then
            [⟨penX + glyph.offsetX, baseline + glyph.offsetY, glyph.width, glyph.height,
              glyph.u0, glyph.v0, glyph.u1, glyph.v1, color⟩]
          else []) ++ typeset font size baseline color (penX + glyph.advance) value

/-- The quads that a draw call stands for. -/
def requests (font : Font F) : Draw F → List (Quad F)
  | .rect x y width height color => [solid font x y width height color]
  | .rectOutline x y width height thickness color =>
      [solid font x y width thickness color,
        solid font x (y + height - thickness) width thickness color,
        solid font x y thickness height color,
        solid font (x + width - thickness) y thickness height color]
  | .text x y value color pixelSize =>
      let size := font.nearestSize pixelSize
      typeset font size (y + font.ascent size) color x value

@[simp] theorem quad_mFont (r : UiRenderer F) (q : Quad F) : (r.quad q).mFont = r.mFont := by
  rw [quad]
  split
  · rfl
  · rfl

theorem foldl_quad_mFont (r : UiRenderer F) (quads : List (Quad F)) :
    (quads.foldl quad r).mFont = r.mFont := by
  induction quads generalizing r with
  | nil => rfl
  | cons q quads ih => rw [List.foldl_cons, ih, quad_mFont]

/-- A text draws the quads it stands for, whatever room there is. -/
theorem foldl_drawChar (size : Int) (baseline : F) (color : Color) (value : List UInt8)
    (r : UiRenderer F) (penX : F) :
    (value.foldl (drawChar size baseline color) (r, penX)).1 =
      (typeset r.mFont size baseline color penX value).foldl quad r := by
  induction value generalizing r penX with
  | nil => rfl
  | cons c value ih =>
      rw [List.foldl_cons, typeset, drawChar]
      dsimp only
      split
      · exact ih r penX
      · rw [ih, List.foldl_append]
        split
        · rw [quad_mFont]
          rfl
        · rfl

/-- A draw call draws the quads it stands for. -/
theorem draw_eq_foldl (r : UiRenderer F) (d : Draw F) :
    r.draw d = (requests r.mFont d).foldl quad r := by
  cases d with
  | rect x y width height color => rfl
  | rectOutline x y width height thickness color =>
      simp only [draw, rectOutline, rect, requests, solid, List.foldl_cons, List.foldl_nil,
        quad_mFont]
  | text x y value color pixelSize => exact foldl_drawChar _ _ color value r x

theorem foldl_draw (r : UiRenderer F) (draws : List (Draw F)) :
    draws.foldl draw r = (draws.flatMap (requests r.mFont)).foldl quad r := by
  induction draws generalizing r with
  | nil => rfl
  | cons d draws ih =>
      rw [List.foldl_cons, ih, List.flatMap_cons, List.foldl_append, draw_eq_foldl,
        foldl_quad_mFont]

end Requests

end UiRenderer

end UntitledGame.Ui
