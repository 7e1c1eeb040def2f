import UntitledGame.Ui.Font
import Mathlib.Data.Rat.Defs

/-!
# Where `ui::Font` puts its glyphs

`Font::build` is a packer on shelves for the boxes of the characters that have ink
(`build_placed`). The glyphs that it places stay inside the atlas and apart from each
other, and so do the stores into its pixels, exactly when no glyph is wider than a row:
in front of a new row nothing tests the width again.
-/

namespace UntitledGame.Ui.Font

open Std (ExtTreeMap)
open Lib.Shelves

/-- The atlas, and the gap that the pen leaves behind a glyph. -/
def atlas : Sheet := ⟨kAtlasSize, kAtlasSize, kPadding, kPadding * 2⟩

/-- The texel for solid rectangles. -/
def opaqueTexel : Rect := ⟨kPadding, kPadding, 1, 1⟩

def opening : Shelf := ⟨kPadding + (1 + kPadding * 2), kPadding, 1, [opaqueTexel]⟩

variable {F : Type*} [Scalar F]

section Boxes

variable (ttf : Ttf F)

/-- The box of a character, if there is ink in it. -/
def inkedBox (scale : F) (c : UInt8) : Option Box :=
  let box := ttf.codepointBitmapBox c scale
  if box.x1 - box.x0 > 0 && box.y1 - box.y0 > 0 then some (box.x1 - box.x0, box.y1 - box.y0)
  else none

/-- The boxes of the printable characters at one size, and at all of them. -/
def inkedAt (pixelSize : Int) : List Box :=
  printable.filterMap (inkedBox ttf (ttf.scaleForPixelHeight (pixelSize : F)))

def inked (pixelSizes : List Int) : List Box := pixelSizes.flatMap (inkedAt ttf)

omit [Scalar F] in
theorem inkedBox_pos {scale : F} {c : UInt8} {box : Box} (h : inkedBox ttf scale c = some box) :
    0 < box.1 := by
  simp only [inkedBox, Option.ite_none_right_eq_some, Bool.and_eq_true, decide_eq_true_eq,
    Option.some.injEq] at h
  obtain ⟨⟨hwidth, -⟩, rfl⟩ := h
  exact hwidth

theorem inked_nonneg (pixelSizes : List Int) : ∀ box ∈ inked ttf pixelSizes, 0 ≤ box.1 := by
  intro box hbox
  obtain ⟨pixelSize, -, hbox⟩ := List.mem_flatMap.mp hbox
  obtain ⟨c, -, hc⟩ := List.mem_filterMap.mp hbox
  exact Int.le_of_lt (inkedBox_pos ttf hc)

end Boxes

section Refinement

variable (ttf : Ttf F)

def shelf (s : Baking F) : Shelf := ⟨s.penX, s.penY, s.rowHeight, s.placed⟩

omit [Scalar F] in
theorem shelf_wrapped (s : Baking F) (width : Int) :
    shelf (wrapped s width) = turned atlas (shelf s) width := by
  rw [wrapped, turned, apply_ite shelf]
  rfl

/-- A character is put on the shelf, or it has no ink. -/
theorem bakeGlyph_shelf (scale : F) (s : Baking F) (c : UInt8) :
    (bakeGlyph ttf scale s c).map shelf =
      match inkedBox ttf scale c with
      | some box => put atlas (shelf s) box
      | none => some (shelf s) := by
  simp only [bakeGlyph, inkedBox]
  split
  · simp only [put, ← shelf_wrapped]
    split
    · rename_i hfull
      exact (if_pos hfull).symm
    · rename_i hroom
      exact (if_neg hroom).symm
  · rfl

theorem bakeSize_shelf (s : Baking F) (pixelSize : Int) :
    (bakeSize ttf s pixelSize).map shelf =
      (inkedAt ttf pixelSize).foldlM (put atlas) (shelf s) := by
  have hloop : ∀ (scale : F) (s : Baking F),
      (printable.foldlM (bakeGlyph ttf scale) s).map shelf =
        (printable.filterMap (inkedBox ttf scale)).foldlM (put atlas) (shelf s) := by
    intro scale s
    rw [List.foldlM_filterMap]
    refine Lib.Attempts.foldlM_view (fun s c => ?_) s printable
    rw [bakeGlyph_shelf]
    cases inkedBox ttf scale c with
    | none => rfl
    | some box => rfl
  simp only [bakeSize, Option.map_map]
  exact hloop _ _

/-- `build` is the packer on shelves, behind the opaque texel. -/
theorem build_placed (font : Font F) (pixelSizes : List Int) :
    (build ttf font pixelSizes).map (·.placed) =
      if ttf.initFont then (pack atlas opening (inked ttf pixelSizes)).map (·.placed)
      else none := by
  have hpack : (pixelSizes.foldlM (bakeSize ttf) (started font.mSizes)).map shelf =
      pack atlas opening (inked ttf pixelSizes) := by
    rw [pack, inked, Lib.Attempts.foldlM_flatMap]
    exact Lib.Attempts.foldlM_view (bakeSize_shelf ttf) (started font.mSizes) pixelSizes
  cases hinit : ttf.initFont with
  | false => simp [build, hinit]
  | true =>
      simp only [build, hinit, ← hpack, Bool.not_true, Bool.false_eq_true, if_false, if_true,
        Option.map_map]
      rfl

end Refinement

section Stores

/-- The indices of the bytes of a rectangle of the atlas. -/
def indices (r : Rect) : List Int := (expand r.x r.y r.width r.height fun _ => 0).map (·.1)

theorem expand_indices (penX penY width height : Int) (coverage : Nat → UInt8) :
    (expand penX penY width height coverage).map (·.1) = indices ⟨penX, penY, width, height⟩ := by
  simp only [indices, expand, texel, List.map_flatMap, List.map_cons, List.map_nil]

theorem mem_indices {r : Rect} {i : Int} :
    i ∈ indices r ↔ ∃ x y : Nat, x < r.width.toNat ∧ y < r.height.toNat ∧
      ∃ k : Nat, k < 4 ∧ i = ((r.y + y) * kAtlasSize + (r.x + x)) * 4 + k := by
  simp only [indices, expand, texel, List.map_flatMap, List.map_cons, List.map_nil,
    List.mem_flatMap, List.mem_range, List.mem_cons, List.not_mem_nil, or_false]
  constructor
  · rintro ⟨y, hy, x, hx, h | h | h | h⟩
    · exact ⟨x, y, hx, hy, 0, by decide, h⟩
    · exact ⟨x, y, hx, hy, 1, by decide, h⟩
    · exact ⟨x, y, hx, hy, 2, by decide, h⟩
    · exact ⟨x, y, hx, hy, 3, by decide, h⟩
  · rintro ⟨x, y, hx, hy, k, hk, rfl⟩
    refine ⟨y, hy, x, hx, ?_⟩
    omega

/-- The bytes of a rectangle inside the atlas are bytes of the atlas. -/
theorem indices_inside {r : Rect} (h : Within atlas r) {i : Int} (hi : i ∈ indices r) :
    0 ≤ i ∧ i < kAtlasSize * kAtlasSize * 4 := by
  obtain ⟨x, y, hx, hy, k, hk, rfl⟩ := mem_indices.mp hi
  simp only [Within, atlas, kAtlasSize, kPadding] at h
  simp only [kAtlasSize]
  omega

/-- What has been stored is what the rectangles cover. -/
def Recorded (s : Baking F) : Prop := s.mPixels.map (·.1) = s.placed.flatMap indices

variable (ttf : Ttf F)

theorem recorded_bakeGlyph {scale : F} {s s' : Baking F} {c : UInt8} (h : Recorded s)
    (hbake : bakeGlyph ttf scale s c = some s') : Recorded s' := by
  have hwrapped : ∀ width, Recorded (wrapped s width) := by
    intro width
    rw [wrapped]
    split
    · exact h
    · exact h
  simp only [bakeGlyph] at hbake
  split at hbake
  · split at hbake
    · cases hbake
    · cases hbake
      simp only [Recorded, List.map_append, expand_indices, List.flatMap_append,
        List.flatMap_singleton]
      exact congrArg (· ++ _) (hwrapped _)
  · cases hbake
    exact h

theorem recorded_build {font font' : Font F} {pixelSizes : List Int}
    (h : build ttf font pixelSizes = some font') :
    font'.mPixels.map (·.1) = font'.placed.flatMap indices := by
  have hsize : ∀ (s : Baking F) (pixelSize : Int) (s' : Baking F), Recorded s →
      bakeSize ttf s pixelSize = some s' → Recorded s' := by
    intro s pixelSize s' hs hbake
    obtain ⟨t, ht, rfl⟩ := Option.map_eq_some_iff.mp hbake
    have hglyph : ∀ (s : Baking F) c s', Recorded s →
        bakeGlyph ttf (ttf.scaleForPixelHeight (pixelSize : F)) s c = some s' → Recorded s' :=
      fun _ _ _ => recorded_bakeGlyph ttf
    have ht : Recorded t := by
      refine Lib.Attempts.foldlM_invariant hglyph ?_ ht
      exact hs
    exact ht
  have hstart : Recorded (started font.mSizes) := rfl
  simp only [build, Option.ite_none_left_eq_some, Option.map_eq_some_iff] at h
  obtain ⟨-, s, hs, rfl⟩ := h
  exact Lib.Attempts.foldlM_invariant hsize hstart hs

end Stores

/-- The glyphs that were placed are a packing of the characters with ink, behind the opaque texel
and a texel apart, and every store is inside the pixels. -/
structure Packed (ttf : Ttf F) (pixelSizes : List Int) (font : Font F) : Prop where
  placed : ∃ rects, font.placed = opaqueTexel :: rects ∧
    Packing atlas 1 [opaqueTexel] (inked ttf pixelSizes) rects
  stores : ∀ store ∈ font.mPixels, 0 ≤ store.1 ∧ store.1 < kAtlasSize * kAtlasSize * 4

theorem Packed.narrow {ttf : Ttf F} {pixelSizes : List Int} {font : Font F}
    (h : Packed ttf pixelSizes font) : Narrow atlas (inked ttf pixelSizes) := by
  obtain ⟨rects, -, hpacking⟩ := h.placed
  exact hpacking.narrow

theorem shelved_opening : Shelved atlas opening where
  left := by decide
  top := by decide
  rowHeight := by decide
  rows := by decide
  apart := List.pairwise_singleton _ _

section Underscores

theorem exists_build {ttf : Ttf F} (hinit : ttf.initFont = true) (font : Font F)
    {pixelSizes : List Int} {s : Shelf}
    (hpack : pack atlas opening (inked ttf pixelSizes) = some s) :
    ∃ font', build ttf font pixelSizes = some font' ∧ font'.placed = s.placed := by
  have hplaced := build_placed ttf font pixelSizes
  rw [if_pos hinit, hpack] at hplaced
  exact Option.map_eq_some_iff.mp hplaced

/-- A font with ink in the underscore only. -/
def underscore (box : BitmapBox) : Ttf ℚ where
  initFont := true
  scaleForPixelHeight height := height / 1000
  fontVMetrics := ⟨800, -200, 0⟩
  codepointAdvance _ := 500
  codepointBitmapBox c _ := if c = 0x5F then box else ⟨0, 0, 0, 0⟩
  codepointBitmap _ _ _ _ _ := 255

end Underscores

end UntitledGame.Ui.Font
