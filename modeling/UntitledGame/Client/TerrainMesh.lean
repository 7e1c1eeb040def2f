import UntitledGame.Client.Meshes

/-!
# The ground that is drawn

The terrain's vertices lie on the heightfield that the server stands characters on, and
its triangles face up. Seen from above they tile the world: every point of the square
lies under a triangle, and none lies strictly inside two.
-/

namespace UntitledGame.Client.Mesh

open Lib.Grids Sim Terrain

variable {F : Type*} [Field F] [LinearOrder F] [IsStrictOrderedRing F] [FloorRing F]

/-- A point of the plane under a triangle: a mean of its corners. -/
def Under (a b c : Vec3 F) (x z : F) : Prop :=
  ∃ u v w : F, 0 ≤ u ∧ 0 ≤ v ∧ 0 ≤ w ∧ u + v + w = 1 ∧
    x = u * a.x + v * b.x + w * c.x ∧ z = u * a.z + v * b.z + w * c.z

/-- The same without the edges. -/
def Inside (a b c : Vec3 F) (x z : F) : Prop :=
  ∃ u v w : F, 0 < u ∧ 0 < v ∧ 0 < w ∧ u + v + w = 1 ∧
    x = u * a.x + v * b.x + w * c.x ∧ z = u * a.z + v * b.z + w * c.z

def UnderFace (m : Mesh UInt32 F) (face : UInt32 × UInt32 × UInt32) (x z : F) : Prop :=
  ∃ a b c na nb nc, Corners m UInt32.toNat face a b c na nb nc ∧ Under a b c x z

def InsideFace (m : Mesh UInt32 F) (face : UInt32 × UInt32 × UInt32) (x z : F) : Prop :=
  ∃ a b c na nb nc, Corners m UInt32.toNat face a b c na nb nc ∧ Inside a b c x z

/-- The point lies on the heightfield. -/
def Grounded (hash : Int → Int → F) (p : Vec3 F) : Prop := p.y = heightAt hash p.x p.z

section Cells

omit [IsStrictOrderedRing F] in
theorem kStep_eq : (kStep : F) = 2 := by norm_num [kStep, kWorldSize, kMeshResolution]

omit [IsStrictOrderedRing F] in
theorem kHalfWorld_eq : (kHalfWorld : F) = 512 := by norm_num [kHalfWorld, kWorldSize]

omit [IsStrictOrderedRing F] in
theorem terrainAt_eq (k : Nat) : (terrainAt k : F) = 2 * k - 512 := by
  rw [terrainAt, kStep_eq, kHalfWorld_eq]
  ring

/-- A point of the world lies in a row and in a column. -/
theorem exists_cell {x : F} (h : x ∈ Set.Icc (-kHalfWorld) kHalfWorld) :
    ∃ k < kMeshResolution, (terrainAt k : F) ≤ x ∧ x ≤ terrainAt (k + 1) := by
  obtain ⟨hleft, hright⟩ := h
  rw [kHalfWorld_eq] at hleft hright
  by_cases hedge : x = 512
  · have hlast : 511 < kMeshResolution := by rw [kMeshResolution]; omega
    refine ⟨511, hlast, ?_, ?_⟩ <;> (rw [terrainAt_eq, hedge]; norm_num)
  · have hscaled : 0 ≤ (x + 512) / 2 := by linarith
    have hlt : (x + 512) / 2 < ((512 : Nat) : F) := by
      have hinside : x < 512 := lt_of_le_of_ne hright hedge
      push_cast
      linarith
    refine ⟨⌊(x + 512) / 2⌋₊, (Nat.floor_lt hscaled).mpr hlt, ?_, ?_⟩
    · rw [terrainAt_eq]
      linarith [Nat.floor_le hscaled]
    · rw [terrainAt_eq]
      push_cast
      linarith [Nat.lt_floor_add_one ((x + 512) / 2)]

/-- It lies strictly in one column at most. -/
theorem cell_unique {x : F} {k l : Nat} (hk : (terrainAt k : F) < x ∧ x < terrainAt (k + 1))
    (hl : (terrainAt l : F) < x ∧ x < terrainAt (l + 1)) : k = l := by
  simp only [terrainAt_eq] at hk hl
  push_cast at hk hl
  have hkl : (k : F) < l + 1 := by linarith
  have hlk : (l : F) < k + 1 := by linarith
  have hkl' : k < l + 1 := by exact_mod_cast hkl
  have hlk' : l < k + 1 := by exact_mod_cast hlk
  omega

end Cells

section Faces

variable (sqrt : F → F) (hash : Int → Int → F) {resolution row column n : Nat}

theorem toNat_ofNat32 (h : n < 4294967296) : (UInt32.ofNat n).toNat = n := by
  rw [UInt32.toNat_ofNat']
  exact Nat.mod_eq_of_lt h

theorem toNat_add32 {i j : UInt32} (h : i.toNat + j.toNat < 4294967296) :
    (i + j).toNat = i.toNat + j.toNat := by
  rw [UInt32.toNat_add]
  exact Nat.mod_eq_of_lt h

omit [IsStrictOrderedRing F] in
/-- A vertex of the terrain under its number. -/
theorem terrain_vertex (hrow : row < resolution + 1) (hcolumn : column < resolution + 1)
    (hn : n = row * (resolution + 1) + column) :
    (terrainMesh sqrt hash resolution).positions[n]? = some (terrainPosition hash row column) ∧
      (terrainMesh sqrt hash resolution).normals[n]? =
        some (terrainNormal sqrt hash row column) := by
  subst hn
  exact ⟨getElem?_grid _ hrow hcolumn, getElem?_grid _ hrow hcolumn⟩

/-- The numbers of the four corners of a cell. -/
theorem terrain_numbers (hfits : (resolution + 1) * (resolution + 1) ≤ 4294967296)
    (hrow : row < resolution) (hcolumn : column < resolution) :
    let topLeft := UInt32.ofNat (row * (resolution + 1) + column)
    let bottomLeft := topLeft + UInt32.ofNat (resolution + 1)
    topLeft.toNat = row * (resolution + 1) + column ∧
      (topLeft + 1).toNat = row * (resolution + 1) + (column + 1) ∧
      bottomLeft.toNat = (row + 1) * (resolution + 1) + column ∧
      (bottomLeft + 1).toNat = (row + 1) * (resolution + 1) + (column + 1) := by
  intro topLeft bottomLeft
  have hlast : (row + 1) * (resolution + 1) + (column + 1) < 4294967296 := by
    calc (row + 1) * (resolution + 1) + (column + 1)
        < (row + 1) * (resolution + 1) + (resolution + 1) := by omega
      _ = (row + 2) * (resolution + 1) := by ring
      _ ≤ (resolution + 1) * (resolution + 1) := Nat.mul_le_mul_right _ (by omega)
      _ ≤ 4294967296 := hfits
  have hrows : (row + 1) * (resolution + 1) = row * (resolution + 1) + (resolution + 1) := by ring
  have hone : (1 : UInt32).toNat = 1 := rfl
  have hfirst : topLeft.toNat = row * (resolution + 1) + column := toNat_ofNat32 (by omega)
  have hcolumns : (UInt32.ofNat (resolution + 1)).toNat = resolution + 1 :=
    toNat_ofNat32 (by omega)
  have hbelow : bottomLeft.toNat = (row + 1) * (resolution + 1) + column := by
    rw [toNat_add32 (by omega), hfirst, hcolumns]
    omega
  refine ⟨hfirst, ?_, hbelow, ?_⟩
  · rw [toNat_add32 (by omega), hfirst, hone]
    omega
  · rw [toNat_add32 (by omega), hbelow, hone]
    omega

/-- The number of a corner of a cell. -/
def cornerNumber (resolution row column : Nat) (south east : Bool) : UInt32 :=
  let topLeft := UInt32.ofNat (row * (resolution + 1) + column)
  let left := if south then topLeft + UInt32.ofNat (resolution + 1) else topLeft
  if east then left + 1 else left

variable (hfits : (resolution + 1) * (resolution + 1) ≤ 4294967296)
  (hrow : row < resolution) (hcolumn : column < resolution)

include hfits hrow hcolumn

omit [IsStrictOrderedRing F] in
theorem terrain_corner (south east : Bool) :
    let n := (cornerNumber resolution row column south east).toNat
    (terrainMesh sqrt hash resolution).positions[n]? =
        some (terrainPosition hash (row + south.toNat) (column + east.toNat)) ∧
      (terrainMesh sqrt hash resolution).normals[n]? =
        some (terrainNormal sqrt hash (row + south.toNat) (column + east.toNat)) := by
  have hsouth := Bool.toNat_le south
  have heast := Bool.toNat_le east
  obtain ⟨htopLeft, htopRight, hbottomLeft, hbottomRight⟩ := terrain_numbers hfits hrow hcolumn
  refine terrain_vertex sqrt hash (by omega) (by omega) ?_
  cases south with
  | false =>
      cases east with
      | false => exact htopLeft
      | true => exact htopRight
  | true =>
      cases east with
      | false => exact hbottomLeft
      | true => exact hbottomRight

omit [IsStrictOrderedRing F] in
theorem corners_northWest :
    let p := terrainPosition hash
    let n := terrainNormal sqrt hash
    Corners (terrainMesh sqrt hash resolution) UInt32.toNat (northWest resolution (row, column))
      (p row column) (p (row + 1) column) (p row (column + 1))
      (n row column) (n (row + 1) column) (n row (column + 1)) :=
  have corner := terrain_corner sqrt hash hfits hrow hcolumn
  ⟨corner false false, corner true false, corner false true⟩

omit [IsStrictOrderedRing F] in
theorem corners_southEast :
    let p := terrainPosition hash
    let n := terrainNormal sqrt hash
    Corners (terrainMesh sqrt hash resolution) UInt32.toNat (southEast resolution (row, column))
      (p row (column + 1)) (p (row + 1) column) (p (row + 1) (column + 1))
      (n row (column + 1)) (n (row + 1) column) (n (row + 1) (column + 1)) :=
  have corner := terrain_corner sqrt hash hfits hrow hcolumn
  ⟨corner false true, corner true false, corner true true⟩

end Faces

section Plane

variable (hash : Int → Int → F) (row column : Nat)

omit [IsStrictOrderedRing F] in
theorem facing_northWest :
    (facing (terrainPosition hash row column) (terrainPosition hash (row + 1) column)
      (terrainPosition hash row (column + 1))).y = 4 := by
  simp only [facing, cross, sub, terrainPosition, terrainAt_eq]
  push_cast
  ring

omit [IsStrictOrderedRing F] in
theorem facing_southEast :
    (facing (terrainPosition hash row (column + 1)) (terrainPosition hash (row + 1) column)
      (terrainPosition hash (row + 1) (column + 1))).y = 4 := by
  simp only [facing, cross, sub, terrainPosition, terrainAt_eq]
  push_cast
  ring

variable {row column} {x z : F}

/-- The two triangles of a cell cover it; the diagonal parts them. -/
theorem under_cell (hx : terrainAt column ≤ x ∧ x ≤ terrainAt (column + 1))
    (hz : terrainAt row ≤ z ∧ z ≤ terrainAt (row + 1)) :
    let p := terrainPosition hash
    Under (p row column) (p (row + 1) column) (p row (column + 1)) x z ∨
      Under (p row (column + 1)) (p (row + 1) column) (p (row + 1) (column + 1)) x z := by
  simp only [terrainAt_eq] at hx hz
  push_cast at hx hz
  rcases le_total ((x - (2 * column - 512)) + (z - (2 * row - 512))) 2 with hnear | hfar
  · refine .inl ⟨1 - (x - (2 * column - 512)) / 2 - (z - (2 * row - 512)) / 2,
      (z - (2 * row - 512)) / 2, (x - (2 * column - 512)) / 2, ?_, ?_, ?_, ?_, ?_, ?_⟩
    · linarith
    · linarith [hz.1]
    · linarith [hx.1]
    · ring
    · simp only [terrainPosition, terrainAt_eq]
      push_cast
      ring
    · simp only [terrainPosition, terrainAt_eq]
      push_cast
      ring
  · refine .inr ⟨1 - (z - (2 * row - 512)) / 2, 1 - (x - (2 * column - 512)) / 2,
      (x - (2 * column - 512)) / 2 + (z - (2 * row - 512)) / 2 - 1, ?_, ?_, ?_, ?_, ?_, ?_⟩
    · linarith [hz.2]
    · linarith [hx.2]
    · linarith
    · ring
    · simp only [terrainPosition, terrainAt_eq]
      push_cast
      ring
    · simp only [terrainPosition, terrainAt_eq]
      push_cast
      ring

omit [FloorRing F] in
theorem Inside.swap {a b c : Vec3 F} (h : Inside a b c x z) : Inside c b a x z := by
  obtain ⟨u, v, w, hu, hv, hw, hsum, hx, hz⟩ := h
  exact ⟨w, v, u, hw, hv, hu, by linarith, by linarith, by linarith⟩

/-- A point strictly inside the triangle of the diagonal and one of the other two corners lies in
the cell, and on the side of that corner. -/
theorem inside_corner (far : Bool)
    (h : Inside (terrainPosition hash (row + far.toNat) (column + far.toNat))
      (terrainPosition hash (row + 1) column) (terrainPosition hash row (column + 1)) x z) :
    (terrainAt column < x ∧ x < terrainAt (column + 1)) ∧
      (terrainAt row < z ∧ z < terrainAt (row + 1)) ∧
      if far then 2 < (x - terrainAt column) + (z - terrainAt row)
      else (x - terrainAt column) + (z - terrainAt row) < 2 := by
  obtain ⟨u, v, w, hu, hv, hw, hsum, hx, hz⟩ := h
  obtain rfl : u = 1 - v - w := by linarith
  simp only [terrainPosition, terrainAt_eq] at hx hz ⊢
  cases far with
  | false =>
      simp only [Bool.toNat_false, Nat.add_zero, Bool.false_eq_true, if_false] at hx hz ⊢
      push_cast at hx hz ⊢
      refine ⟨⟨?_, ?_⟩, ⟨?_, ?_⟩, ?_⟩ <;> linarith
  | true =>
      simp only [Bool.toNat_true, if_true] at hx hz ⊢
      push_cast at hx hz ⊢
      refine ⟨⟨?_, ?_⟩, ⟨?_, ?_⟩, ?_⟩ <;> linarith

end Plane

section Main

variable (sqrt : F → F) (hash : Int → Int → F) {resolution : Nat}

omit [IsStrictOrderedRing F] in
/-- The faces are the two triangles of each cell. -/
theorem mem_faces {face : UInt32 × UInt32 × UInt32} :
    face ∈ faces (terrainMesh sqrt hash resolution).indices ↔
      ∃ row < resolution, ∃ column < resolution,
        face = northWest resolution (row, column) ∨ face = southEast resolution (row, column) := by
  rw [faces_terrainMesh, List.mem_flatMap]
  constructor
  · rintro ⟨cell, hcell, hface⟩
    obtain ⟨row, hrow, column, hcolumn, rfl⟩ := mem_grid.mp hcell
    exact ⟨row, hrow, column, hcolumn, List.mem_pair.mp hface⟩
  · rintro ⟨row, hrow, column, hcolumn, hface⟩
    exact ⟨(row, column), mem_grid.mpr ⟨row, hrow, column, hcolumn, rfl⟩, List.mem_pair.mpr hface⟩

/-- The cell and the side of its diagonal on which a point lies say which face it is inside of. -/
theorem inside_cases (hfits : (resolution + 1) * (resolution + 1) ≤ 4294967296)
    {face : UInt32 × UInt32 × UInt32}
    (hmem : face ∈ faces (terrainMesh sqrt hash resolution).indices) {x z : F}
    (h : InsideFace (terrainMesh sqrt hash resolution) face x z) :
    ∃ row column : Nat, (terrainAt column < x ∧ x < terrainAt (column + 1)) ∧
      (terrainAt row < z ∧ z < terrainAt (row + 1)) ∧
      ((x - terrainAt column) + (z - terrainAt row) < 2 ∧
          face = northWest resolution (row, column) ∨
        2 < (x - terrainAt column) + (z - terrainAt row) ∧
          face = southEast resolution (row, column)) := by
  obtain ⟨a, b, c, na, nb, nc, hcorners, hinside⟩ := h
  obtain ⟨row, hrow, column, hcolumn, rfl | rfl⟩ := (mem_faces sqrt hash).mp hmem
  · obtain ⟨rfl, rfl, rfl, _⟩ :=
      hcorners.unique (corners_northWest sqrt hash hfits hrow hcolumn)
    obtain ⟨hx, hz, hside⟩ := inside_corner hash false hinside
    exact ⟨row, column, hx, hz, .inl ⟨hside, rfl⟩⟩
  · obtain ⟨rfl, rfl, rfl, _⟩ :=
      hcorners.unique (corners_southEast sqrt hash hfits hrow hcolumn)
    obtain ⟨hx, hz, hside⟩ := inside_corner hash true hinside.swap
    exact ⟨row, column, hx, hz, .inr ⟨hside, rfl⟩⟩

theorem resolution_fits : (kMeshResolution + 1) * (kMeshResolution + 1) ≤ 4294967296 := by
  rw [kMeshResolution]
  omega

/-- The terrain that is drawn: every corner of every triangle stands on the heightfield, and every
triangle faces up; every point of the world lies under one, and none strictly inside two. -/
theorem ground_tiled :
    (∀ face ∈ faces (createTerrain sqrt hash).indices, ∃ a b c na nb nc,
        Corners (createTerrain sqrt hash) UInt32.toNat face a b c na nb nc ∧
          0 < (facing a b c).y ∧ Grounded hash a ∧ Grounded hash b ∧ Grounded hash c) ∧
      (∀ x ∈ Set.Icc (-kHalfWorld) kHalfWorld, ∀ z ∈ Set.Icc (-kHalfWorld) kHalfWorld,
        ∃ face ∈ faces (createTerrain sqrt hash).indices,
          UnderFace (createTerrain sqrt hash) face x z) ∧
      ∀ face ∈ faces (createTerrain sqrt hash).indices,
        ∀ face' ∈ faces (createTerrain sqrt hash).indices, ∀ x z,
          InsideFace (createTerrain sqrt hash) face x z →
            InsideFace (createTerrain sqrt hash) face' x z → face = face' := by
  refine ⟨?_, ?_, ?_⟩
  · intro face hmem
    obtain ⟨row, hrow, column, hcolumn, rfl | rfl⟩ := (mem_faces sqrt hash).mp hmem
    · refine ⟨_, _, _, _, _, _, corners_northWest sqrt hash resolution_fits hrow hcolumn,
        ?_, rfl, rfl, rfl⟩
      rw [facing_northWest]
      exact four_pos
    · refine ⟨_, _, _, _, _, _, corners_southEast sqrt hash resolution_fits hrow hcolumn,
        ?_, rfl, rfl, rfl⟩
      rw [facing_southEast]
      exact four_pos
  · intro x hx z hz
    obtain ⟨column, hcolumn, hinColumn⟩ := exists_cell hx
    obtain ⟨row, hrow, hinRow⟩ := exists_cell hz
    rcases under_cell hash hinColumn hinRow with hunder | hunder
    · exact ⟨_, (mem_faces sqrt hash).mpr ⟨row, hrow, column, hcolumn, .inl rfl⟩, _, _, _, _, _, _,
        corners_northWest sqrt hash resolution_fits hrow hcolumn, hunder⟩
    · exact ⟨_, (mem_faces sqrt hash).mpr ⟨row, hrow, column, hcolumn, .inr rfl⟩, _, _, _, _, _, _,
        corners_southEast sqrt hash resolution_fits hrow hcolumn, hunder⟩
  · intro face hmem face' hmem' x z hinside hinside'
    obtain ⟨row, column, hx, hz, hside⟩ := inside_cases sqrt hash resolution_fits hmem hinside
    obtain ⟨row', column', hx', hz', hside'⟩ :=
      inside_cases sqrt hash resolution_fits hmem' hinside'
    obtain rfl := cell_unique hx hx'
    obtain rfl := cell_unique hz hz'
    rcases hside with ⟨hnear, rfl⟩ | ⟨hfar, rfl⟩
    · rcases hside' with ⟨_, rfl⟩ | ⟨hfar, rfl⟩
      · rfl
      · exact absurd hnear hfar.not_gt
    · rcases hside' with ⟨hnear, rfl⟩ | ⟨_, rfl⟩
      · exact absurd hnear hfar.not_gt
      · rfl

end Main

/-- There is ground to be seen where the first player appears. -/
theorem ground_tiled_spawn :
    ∃ face ∈ faces (createTerrain (F := ℚ) id Terrain.hash).indices,
      UnderFace (createTerrain id Terrain.hash) face (3 : ℚ) 6 := by
  have hinside : ∀ x : ℚ, 0 ≤ x → x ≤ 6 → x ∈ Set.Icc (-kHalfWorld) kHalfWorld := by
    intro x hleft hright
    rw [kHalfWorld_eq]
    constructor <;> linarith
  exact (ground_tiled id Terrain.hash).2.1 3 (hinside 3 (by norm_num) (by norm_num)) 6
    (hinside 6 (by norm_num) (by norm_num))

end UntitledGame.Client.Mesh
