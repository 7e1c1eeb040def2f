import UntitledGame.Lib.Scalars
import UntitledGame.Lib.Shelves
import Std.Data.ExtTreeMap
import Mathlib.Data.Int.Cast.Defs

/-!
# `ui::Font`

The printable characters of a TrueType font, rasterised at a list of pixel sizes into
one atlas. A pen goes along a row of the atlas and drops to a new row when it is full;
`build` gives up when the atlas is.

`mPixels` is the list of the stores into the pixels, each with its index, over an atlas
that starts out as zeros. `placed` records the rectangles of the atlas that `build`
took, the opaque texel first; nothing reads it.

## Implementation notes

`Ttf` is `stb_truetype` on the bytes of the font: what its functions return, with the
coverage of a bitmap by index. An `int` is an unbounded integer.
-/

namespace UntitledGame.Ui

open Std (ExtTreeMap)
open Lib.Shelves (Rect)

structure BitmapBox where
  x0 : Int
  y0 : Int
  x1 : Int
  y1 : Int
  deriving DecidableEq, Repr

/-- What `stbtt_GetFontVMetrics` returns. -/
structure VMetrics where
  ascent : Int
  descent : Int
  lineGap : Int
  deriving DecidableEq, Repr

structure Ttf (F : Type*) where
  initFont : Bool
  scaleForPixelHeight : F → F
  fontVMetrics : VMetrics
  codepointAdvance : UInt8 → Int
  codepointBitmapBox : UInt8 → F → BitmapBox
  codepointBitmap : UInt8 → F → Int → Int → Nat → UInt8

/-- Where a character is in the atlas, and how to place it. -/
structure Glyph (F : Type*) where
  u0 : F
  v0 : F
  u1 : F
  v1 : F
  offsetX : F
  offsetY : F
  advance : F
  width : F
  height : F
  deriving DecidableEq, Repr

structure SizedFont (F : Type*) where
  glyphs : ExtTreeMap UInt8 (Glyph F)
  ascent : F
  lineHeight : F

structure Font (F : Type*) where
  mSizes : ExtTreeMap Int (SizedFont F)
  mPixels : List (Int × UInt8)
  mAtlasWidth : Int
  mAtlasHeight : Int
  mWhiteU : F
  mWhiteV : F
  placed : List Rect

namespace Font

def kFirstGlyph : Nat := 0x20
def kLastGlyph : Nat := 0x7E
def kAtlasSize : Int := 1024
def kPadding : Int := 1

/-- The characters that are baked, in order. -/
def printable : List UInt8 :=
  (List.range' kFirstGlyph (kLastGlyph + 1 - kFirstGlyph)).map UInt8.ofNat

/-- The pen, and what `build` has written so far. -/
structure Baking (F : Type*) where
  penX : Int
  penY : Int
  rowHeight : Int
  mPixels : List (Int × UInt8)
  placed : List Rect
  sized : SizedFont F
  mSizes : ExtTreeMap Int (SizedFont F)

/-- The stores of one texel. -/
def texel (x y : Int) (alpha : UInt8) : List (Int × UInt8) :=
  let destination := (y * kAtlasSize + x) * 4
  [(destination + 0, 255), (destination + 1, 255), (destination + 2, 255),
    (destination + 3, alpha)]

/-- The loops that expand the coverage of a bitmap into the atlas. -/
def expand (penX penY width height : Int) (coverage : Nat → UInt8) : List (Int × UInt8) :=
  (List.range height.toNat).flatMap fun (y : Nat) =>
    (List.range width.toNat).flatMap fun (x : Nat) =>
      texel (penX + x) (penY + y) (coverage (y * width.toNat + x))

variable {F : Type*} [Scalar F]

section Build

variable (ttf : Ttf F)

/-- The pen in front of a bitmap of this width: the row is left when it is full. -/
def wrapped (s : Baking F) (width : Int) : Baking F :=
  if s.penX + width + kPadding > kAtlasSize then
    { s with penX := kPadding, penY := s.penY + (s.rowHeight + kPadding * 2), rowHeight := 0 }
  else s

/-- The body of the loop over the characters. -/
def bakeGlyph (scale : F) (s : Baking F) (c : UInt8) : Option (Baking F) :=
  let advance := ttf.codepointAdvance c
  let box := ttf.codepointBitmapBox c scale
  let width := box.x1 - box.x0
  let height := box.y1 - box.y0
  let glyph : Glyph F :=
    { u0 := 0.0, v0 := 0.0, u1 := 0.0, v1 := 0.0
      offsetX := box.x0, offsetY := box.y0, advance := advance * scale
      width := width, height := height }
  if width > 0 && height > 0 then
    let s := wrapped s width
    if s.penY + height + kPadding > kAtlasSize then none
    else
      let glyph : Glyph F :=
        { glyph with
          u0 := (s.penX : F) / (kAtlasSize : F)
          v0 := (s.penY : F) / (kAtlasSize : F)
          u1 := ((s.penX + width : Int) : F) / (kAtlasSize : F)
          v1 := ((s.penY + height : Int) : F) / (kAtlasSize : F) }
      let coverage := ttf.codepointBitmap c scale width height
      some
        { s with
          penX := s.penX + (width + kPadding * 2)
          rowHeight := max s.rowHeight height
          mPixels := s.mPixels ++ expand s.penX s.penY width height coverage
          placed := s.placed ++ [⟨s.penX, s.penY, width, height⟩]
          sized := { s.sized with glyphs := s.sized.glyphs.insert c glyph } }
  else some { s with sized := { s.sized with glyphs := s.sized.glyphs.insert c glyph } }

/-- The body of the loop over the pixel sizes. -/
def bakeSize (s : Baking F) (pixelSize : Int) : Option (Baking F) :=
  let scale := ttf.scaleForPixelHeight (pixelSize : F)
  let metrics := ttf.fontVMetrics
  let sized : SizedFont F :=
    { glyphs := ∅
      ascent := metrics.ascent * scale
      lineHeight := ((metrics.ascent - metrics.descent + metrics.lineGap : Int) : F) * scale }
  (printable.foldlM (bakeGlyph ttf scale) { s with sized := sized }).map fun s =>
    { s with mSizes := s.mSizes.insert pixelSize s.sized }

/-- The pen behind the opaque texel. -/
def started (mSizes : ExtTreeMap Int (SizedFont F)) : Baking F where
  penX := kPadding + (1 + kPadding * 2)
  penY := kPadding
  rowHeight := 1
  mPixels := texel kPadding kPadding 255
  placed := [⟨kPadding, kPadding, 1, 1⟩]
  sized := ⟨∅, 0.0, 0.0⟩
  mSizes := mSizes

/-- `Font::build`; there is no font when it returns false. -/
def build (font : Font F) (pixelSizes : List Int) : Option (Font F) :=
  if !ttf.initFont then none
  else
    (pixelSizes.foldlM (bakeSize ttf) (started font.mSizes)).map fun s =>
      { mSizes := s.mSizes
        mPixels := s.mPixels
        mAtlasWidth := kAtlasSize
        mAtlasHeight := kAtlasSize
        mWhiteU := ((kPadding : F) + 0.5) / (kAtlasSize : F)
        mWhiteV := ((kPadding : F) + 0.5) / (kAtlasSize : F)
        placed := s.placed }

end Build

/-- A `Font` as it is constructed. -/
def blank : Font F := ⟨∅, [], 0, 0, 0.0, 0.0, []⟩

section Lookup

variable (font : Font F)

/-- The baked size that is nearest to the requested one, the smaller one of two. -/
def nearestSize (requested : Int) : Int :=
  (font.mSizes.toList.foldl (fun best sized =>
    let distance : Int := (sized.1 - requested).natAbs
    if distance < best.2 then (sized.1, distance) else best) ((0, 0x40000000) : Int × Int)).1

/-- The glyph of a character, or that of '?'. -/
def glyph (pixelSize : Int) (c : UInt8) : Option (Glyph F) :=
  match font.mSizes[pixelSize]? with
  | none => none
  | some sized =>
      match sized.glyphs[c]? with
      | some glyph => some glyph
      | none => sized.glyphs[(0x3F : UInt8)]?

def textWidth (pixelSize : Int) (text : List UInt8) : F :=
  let size := font.nearestSize pixelSize
  text.foldl (fun width c =>
    match font.glyph size c with
    | some g => width + g.advance
    | none => width) 0.0

def ascent (pixelSize : Int) : F :=
  match font.mSizes[font.nearestSize pixelSize]? with
  | none => 0.0
  | some sized => sized.ascent

def lineHeight (pixelSize : Int) : F :=
  match font.mSizes[font.nearestSize pixelSize]? with
  | none => 0.0
  | some sized => sized.lineHeight

end Lookup

end Font

end UntitledGame.Ui
