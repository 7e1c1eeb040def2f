import UntitledGame.Lib.Attempts

/-!
# Packing rectangles on shelves

A sheet is filled row by row: a box goes next to the last one, or into a new row below
the highest of this one when the row is full, and there is no packing when it does not
fit in below. `Packing` is what a packing is, whatever way it was found. The rows keep
the rectangles apart and above the lower border; only the first test keeps them from the
right one, and a box that is wider than a row passes it by.
-/

namespace UntitledGame.Lib.Shelves

structure Rect where
  x : Int
  y : Int
  width : Int
  height : Int
  deriving DecidableEq, Repr

/-- The width and the height of what is packed. -/
abbrev Box := Int × Int

def Rect.box (r : Rect) : Box := (r.width, r.height)

/-- A sheet, the border to keep free, and the gap that the packer leaves between two boxes. -/
structure Sheet where
  width : Int
  height : Int
  border : Int
  gap : Int

/-- The rectangles lie next to each other or above each other, this far apart. -/
def Apart (gap : Int) (a b : Rect) : Prop :=
  a.x + a.width + gap ≤ b.x ∨ b.x + b.width + gap ≤ a.x ∨
    a.y + a.height + gap ≤ b.y ∨ b.y + b.height + gap ≤ a.y

instance (gap : Int) (a b : Rect) : Decidable (Apart gap a b) :=
  inferInstanceAs (Decidable (_ ∨ _))

theorem Apart.mono {gap gap' : Int} {a b : Rect} (h : Apart gap a b) (hle : gap' ≤ gap) :
    Apart gap' a b := by
  simp only [Apart] at h ⊢
  omega

/-- The rectangle lies on the sheet, and its border stays free. -/
def Within (sheet : Sheet) (r : Rect) : Prop :=
  sheet.border ≤ r.x ∧ r.x + r.width + sheet.border ≤ sheet.width ∧
    sheet.border ≤ r.y ∧ r.y + r.height + sheet.border ≤ sheet.height

instance (sheet : Sheet) (r : Rect) : Decidable (Within sheet r) :=
  inferInstanceAs (Decidable (_ ∧ _))

/-- A packing of the boxes in their order, next to what is on the sheet already. -/
structure Packing (sheet : Sheet) (gap : Int) (fixed : List Rect) (boxes : List Box)
    (rects : List Rect) : Prop where
  boxes : rects.map Rect.box = boxes
  within : ∀ r ∈ rects, Within sheet r
  apart : (fixed ++ rects).Pairwise (Apart gap)

/-- The boxes that fit between the borders. -/
def Narrow (sheet : Sheet) (boxes : List Box) : Prop :=
  ∀ box ∈ boxes, box.1 ≤ sheet.width - 2 * sheet.border

theorem Packing.narrow {sheet : Sheet} {gap : Int} {fixed rects : List Rect} {boxes : List Box}
    (h : Packing sheet gap fixed boxes rects) : Narrow sheet boxes := by
  rw [← h.boxes]
  intro box hbox
  obtain ⟨r, hr, rfl⟩ := List.mem_map.mp hbox
  have hwithin := h.within r hr
  simp only [Within] at hwithin
  simp only [Rect.box]
  omega

/-- Where the next box goes, how high the row is, and what has been placed. -/
structure Shelf where
  x : Int
  y : Int
  rowHeight : Int
  placed : List Rect
  deriving DecidableEq, Repr

variable (sheet : Sheet)

/-- The shelf with room for the width: this row, or a new one if this one is full. -/
def turned (s : Shelf) (width : Int) : Shelf :=
  if sheet.width < s.x + width + sheet.border then
    { s with x := sheet.border, y := s.y + (s.rowHeight + sheet.gap), rowHeight := 0 }
  else s

def put (s : Shelf) (box : Box) : Option Shelf :=
  let s := turned sheet s box.1
  if sheet.height < s.y + box.2 + sheet.border then none
  else
    some
      { x := s.x + (box.1 + sheet.gap)
        y := s.y
        rowHeight := max s.rowHeight box.2
        placed := s.placed ++ [⟨s.x, s.y, box.1, box.2⟩] }

def pack (s : Shelf) (boxes : List Box) : Option Shelf := boxes.foldlM (put sheet) s

/-- Each rectangle is in a row above this one, or in this row to the left. -/
structure Shelved (s : Shelf) : Prop where
  left : sheet.border ≤ s.x
  top : sheet.border ≤ s.y
  rowHeight : 0 ≤ s.rowHeight
  rows : ∀ r ∈ s.placed, r.y + r.height + sheet.gap ≤ s.y ∨
    r.y + r.height ≤ s.y + s.rowHeight ∧ r.x + r.width + sheet.gap ≤ s.x
  apart : s.placed.Pairwise (Apart sheet.gap)

variable {sheet} {s s' : Shelf} {box : Box}

theorem turned_placed (width : Int) : (turned sheet s width).placed = s.placed := by
  rw [turned]
  split
  · rfl
  · rfl

theorem Shelved.turned (h : Shelved sheet s) (hgap : 0 ≤ sheet.gap) (width : Int) :
    Shelved sheet (turned sheet s width) := by
  have htop := h.top
  have hrow := h.rowHeight
  rw [Shelves.turned]
  split
  · refine ⟨Int.le_refl _, ?_, Int.le_refl _, fun r hr => ?_, h.apart⟩
    · dsimp only
      omega
    · have hr := h.rows r hr
      dsimp only
      omega
  · exact h

/-- A box that is no wider than a row ends before the border. -/
theorem turned_fits (hnarrow : box.1 ≤ sheet.width - 2 * sheet.border) :
    (turned sheet s box.1).x + box.1 + sheet.border ≤ sheet.width := by
  rw [turned]
  split
  · dsimp only
    omega
  · omega

theorem put_eq_some :
    put sheet s box = some s' ↔
      (turned sheet s box.1).y + box.2 + sheet.border ≤ sheet.height ∧
        s' =
          { x := (turned sheet s box.1).x + (box.1 + sheet.gap)
            y := (turned sheet s box.1).y
            rowHeight := max (turned sheet s box.1).rowHeight box.2
            placed := s.placed ++
              [⟨(turned sheet s box.1).x, (turned sheet s box.1).y, box.1, box.2⟩] } := by
  simp only [put, turned_placed, Option.ite_none_left_eq_some, Int.not_lt, Option.some.injEq]
  exact and_congr_right' eq_comm

theorem Shelved.put (h : Shelved sheet s) (hgap : 0 ≤ sheet.gap) (hbox : 0 ≤ box.1)
    (hput : put sheet s box = some s') : Shelved sheet s' := by
  obtain ⟨-, rfl⟩ := put_eq_some.mp hput
  have hturned := h.turned hgap box.1
  have hrows := hturned.rows
  rw [turned_placed] at hrows
  have hleft := hturned.left
  have hrow := hturned.rowHeight
  refine ⟨?_, hturned.top, ?_, fun r hr => ?_, ?_⟩
  · dsimp only
    omega
  · dsimp only
    omega
  · rcases List.mem_append.mp hr with hr | hr
    · have hr := hrows r hr
      dsimp only
      omega
    · obtain rfl := List.mem_singleton.mp hr
      dsimp only
      omega
  · refine List.pairwise_append.mpr ⟨h.apart, List.pairwise_singleton _ _, ?_⟩
    intro a ha b hb
    obtain rfl := List.mem_singleton.mp hb
    have ha := hrows a ha
    simp only [Apart]
    omega

/-- What has been placed at the end, box by box. -/
theorem pack_spec (hgap : 0 ≤ sheet.gap) {boxes : List Box} (hboxes : ∀ box ∈ boxes, 0 ≤ box.1)
    (h : Shelved sheet s) (hpack : pack sheet s boxes = some s') :
    Shelved sheet s' ∧ ∃ rects, s'.placed = s.placed ++ rects ∧ rects.map Rect.box = boxes ∧
      (Narrow sheet boxes → ∀ r ∈ rects, Within sheet r) := by
  induction boxes generalizing s with
  | nil =>
      cases hpack
      exact ⟨h, [], (List.append_nil _).symm, rfl, fun _ r hr => absurd hr List.not_mem_nil⟩
  | cons box boxes ih =>
      rw [pack, List.foldlM_cons] at hpack
      obtain ⟨t, hput, hrest⟩ := Option.bind_eq_some_iff.mp hpack
      have hbox := hboxes box List.mem_cons_self
      obtain ⟨hshelved, rects, hplaced, hmap, hwithin⟩ :=
        ih (fun b hb => hboxes b (List.mem_cons_of_mem _ hb)) (h.put hgap hbox hput) hrest
      obtain ⟨hfits, rfl⟩ := put_eq_some.mp hput
      let placed : Rect :=
        ⟨(Shelves.turned sheet s box.1).x, (Shelves.turned sheet s box.1).y, box.1, box.2⟩
      refine ⟨hshelved, placed :: rects, ?_, ?_, fun hnarrow => ?_⟩
      · rw [hplaced, List.append_assoc]
        rfl
      · rw [List.map_cons, hmap]
        rfl
      · intro r hr
        rcases List.mem_cons.mp hr with rfl | hr
        · have hturned := h.turned hgap box.1
          exact ⟨hturned.left, turned_fits (hnarrow box List.mem_cons_self), hturned.top, hfits⟩
        · exact hwithin (fun b hb => hnarrow b (List.mem_cons_of_mem _ hb)) r hr

/-- What the shelves come to is a packing exactly when no box is wider than a row. -/
theorem packing_iff_narrow {gap : Int} (hgap : 0 ≤ sheet.gap) (hle : gap ≤ sheet.gap)
    {boxes : List Box} (hboxes : ∀ box ∈ boxes, 0 ≤ box.1) (h : Shelved sheet s)
    (hpack : pack sheet s boxes = some s') :
    ∃ rects, s'.placed = s.placed ++ rects ∧
      (Packing sheet gap s.placed boxes rects ↔ Narrow sheet boxes) := by
  obtain ⟨hshelved, rects, hplaced, hmap, hwithin⟩ := pack_spec hgap hboxes h hpack
  refine ⟨rects, hplaced, Packing.narrow, fun hnarrow => ⟨hmap, hwithin hnarrow, ?_⟩⟩
  rw [← hplaced]
  exact hshelved.apart.imp fun hapart => hapart.mono hle

end UntitledGame.Lib.Shelves
