import UntitledGame.Lib.Grids
import UntitledGame.Sim.Character
import UntitledGame.Terrain.Heightfield
import Mathlib.Analysis.SpecialFunctions.Trigonometric.Basic

/-!
# `mesh.cpp`

The meshes of the client: vertices in rows, and the index lists that join them to
triangles. A triangle is drawn from the side to which the cross product of two of its
edges points; from the other side it is culled.

The functions of the C library are arguments of the definitions. The results about the
capsule take the exact ones, over the reals. `dot`, `cross` and `normalize` are those of
`filament::math`, by the formulas that the library documents.
-/

namespace UntitledGame.Client

open Lib.Grids Sim

/-- What is handed to the engine. The tangent frames are made from the normals there. -/
structure Mesh (ι F : Type*) where
  positions : List (Vec3 F)
  normals : List (Vec3 F)
  uvs : List (F × F)
  indices : List ι
  /-- There is none without a first vertex. -/
  boundingBox : Option (Vec3 F × Vec3 F)
  deriving DecidableEq, Repr

namespace Mesh

/-- The functions of the C library that the meshes call. -/
structure Trig (F : Type*) where
  sin : F → F
  cos : F → F
  sqrt : F → F
  pi : F

section Vectors

variable {F : Type*} [Field F]

def sub (a b : Vec3 F) : Vec3 F := ⟨a.x - b.x, a.y - b.y, a.z - b.z⟩

def dot (a b : Vec3 F) : F := a.x * b.x + a.y * b.y + a.z * b.z

def cross (a b : Vec3 F) : Vec3 F :=
  ⟨a.y * b.z - a.z * b.y, a.z * b.x - a.x * b.z, a.x * b.y - a.y * b.x⟩

def normalize (t : Trig F) (v : Vec3 F) : Vec3 F :=
  ⟨v.x / t.sqrt (dot v v), v.y / t.sqrt (dot v v), v.z / t.sqrt (dot v v)⟩

/-- Where the triangle with these corners faces. -/
def facing (a b c : Vec3 F) : Vec3 F := cross (sub b a) (sub c a)

end Vectors

section Build

variable {F : Type*} [Field F] [LinearOrder F] {ι : Type*}

def lower (a b : Vec3 F) : Vec3 F := ⟨min a.x b.x, min a.y b.y, min a.z b.z⟩

def upper (a b : Vec3 F) : Vec3 F := ⟨max a.x b.x, max a.y b.y, max a.z b.z⟩

/-- `build`, and with wide indices `buildWide`. -/
def build (positions normals : List (Vec3 F)) (uvs : List (F × F)) (indices : List ι) :
    Mesh ι F where
  positions := positions
  normals := normals
  uvs := uvs
  indices := indices
  boundingBox := positions.head?.map fun first =>
    (positions.foldl lower first, positions.foldl upper first)

/-- In no coordinate greater. -/
def Within (a b : Vec3 F) : Prop := a.x ≤ b.x ∧ a.y ≤ b.y ∧ a.z ≤ b.z

omit [Field F] in
theorem Within.trans {a b c : Vec3 F} (h : Within a b) (h' : Within b c) : Within a c :=
  ⟨h.1.trans h'.1, h.2.1.trans h'.2.1, h.2.2.trans h'.2.2⟩

omit [Field F] in
theorem foldl_lower (items : List (Vec3 F)) (first : Vec3 F) :
    Within (items.foldl lower first) first ∧
      ∀ p ∈ items, Within (items.foldl lower first) p := by
  induction items generalizing first with
  | nil => exact ⟨⟨le_rfl, le_rfl, le_rfl⟩, fun _ hmem => absurd hmem List.not_mem_nil⟩
  | cons q rest ih =>
      obtain ⟨hstep, hrest⟩ := ih (lower first q)
      have hfirst : Within (lower first q) first :=
        ⟨min_le_left _ _, min_le_left _ _, min_le_left _ _⟩
      have hnext : Within (lower first q) q :=
        ⟨min_le_right _ _, min_le_right _ _, min_le_right _ _⟩
      exact ⟨hstep.trans hfirst, List.forall_mem_cons.mpr ⟨hstep.trans hnext, hrest⟩⟩

omit [Field F] in
theorem foldl_upper (items : List (Vec3 F)) (first : Vec3 F) :
    Within first (items.foldl upper first) ∧
      ∀ p ∈ items, Within p (items.foldl upper first) := by
  induction items generalizing first with
  | nil => exact ⟨⟨le_rfl, le_rfl, le_rfl⟩, fun _ hmem => absurd hmem List.not_mem_nil⟩
  | cons q rest ih =>
      obtain ⟨hstep, hrest⟩ := ih (upper first q)
      have hfirst : Within first (upper first q) :=
        ⟨le_max_left _ _, le_max_left _ _, le_max_left _ _⟩
      have hnext : Within q (upper first q) :=
        ⟨le_max_right _ _, le_max_right _ _, le_max_right _ _⟩
      exact ⟨hfirst.trans hstep, List.forall_mem_cons.mpr ⟨hnext.trans hstep, hrest⟩⟩

omit [Field F] in
/-- The bounding box holds every vertex. -/
theorem build_boundingBox {positions : List (Vec3 F)} (normals : List (Vec3 F))
    (uvs : List (F × F)) (indices : List ι) {p : Vec3 F} (h : p ∈ positions) :
    ∃ box, (build positions normals uvs indices).boundingBox = some box ∧
      Within box.1 p ∧ Within p box.2 := by
  cases positions with
  | nil => exact absurd h List.not_mem_nil
  | cons first rest =>
      exact ⟨_, rfl, (foldl_lower _ first).2 p h, (foldl_upper _ first).2 p h⟩

end Build

section Cube

variable {F : Type*} [Field F] [LinearOrder F]

def faceNormals : List (Vec3 F) :=
  [⟨0, 0, 1⟩, ⟨0, 0, -1⟩, ⟨1, 0, 0⟩, ⟨-1, 0, 0⟩, ⟨0, 1, 0⟩, ⟨0, -1, 0⟩]

def faceCorners (h : F) : List (List (Vec3 F)) :=
  [[⟨-h, -h, h⟩, ⟨h, -h, h⟩, ⟨h, h, h⟩, ⟨-h, h, h⟩],
    [⟨h, -h, -h⟩, ⟨-h, -h, -h⟩, ⟨-h, h, -h⟩, ⟨h, h, -h⟩],
    [⟨h, -h, h⟩, ⟨h, -h, -h⟩, ⟨h, h, -h⟩, ⟨h, h, h⟩],
    [⟨-h, -h, -h⟩, ⟨-h, -h, h⟩, ⟨-h, h, h⟩, ⟨-h, h, -h⟩],
    [⟨-h, h, h⟩, ⟨h, h, h⟩, ⟨h, h, -h⟩, ⟨-h, h, -h⟩],
    [⟨-h, -h, -h⟩, ⟨h, -h, -h⟩, ⟨h, -h, h⟩, ⟨-h, -h, h⟩]]

def cornerUvs : List (F × F) := [(0.0, 1.0), (1.0, 1.0), (1.0, 0.0), (0.0, 0.0)]

def cubeIndices : List UInt16 :=
  (List.range 6).flatMap fun face =>
    let base := UInt16.ofNat face * 4
    [0, 1, 2, 2, 3, 0].map (base + ·)

def createCube (size : F) : Mesh UInt16 F :=
  build (faceCorners (size * 0.5)).flatten (faceNormals.flatMap (List.replicate 4))
    (List.replicate 6 cornerUvs).flatten cubeIndices

def createPlane (size : F) : Mesh UInt16 F :=
  let h := size * 0.5
  build [⟨-h, 0, -h⟩, ⟨-h, 0, h⟩, ⟨h, 0, h⟩, ⟨h, 0, -h⟩] (List.replicate 4 ⟨0, 1, 0⟩)
    [(0, 0), (0, 1), (1, 1), (1, 0)] [0, 1, 2, 2, 3, 0]

end Cube

section Capsule

variable {F : Type*} [Field F] [LinearOrder F] (t : Trig F) (radius halfHeight : F)
  (segments rings : Nat)

/-- From the top pole down to the equator, and from the equator down to the bottom pole. -/
def latitude (ring : Nat) : F :=
  if ring ≤ rings then t.pi * 0.5 * (1.0 - (ring : F) / (rings : F))
  else -(t.pi * 0.5) * (((ring - rings - 1 : Nat) : F) / (rings : F))

def ringRadius (ring : Nat) : F := t.cos (latitude t rings ring) * radius

def ringY (ring : Nat) : F :=
  t.sin (latitude t rings ring) * radius + (if ring ≤ rings then halfHeight else -halfHeight)

def longitude (segment : Nat) : F :=
  0.5 * t.pi + 2.0 * t.pi * (segment : F) / (segments : F)

def capsulePosition (ring segment : Nat) : Vec3 F :=
  let x := t.cos (longitude t segments segment)
  let z := t.sin (longitude t segments segment)
  ⟨x * ringRadius t radius rings ring, ringY t radius halfHeight rings ring,
    z * ringRadius t radius rings ring⟩

def capsuleNormal (ring segment : Nat) : Vec3 F :=
  let x := t.cos (longitude t segments segment)
  let z := t.sin (longitude t segments segment)
  normalize t ⟨x * t.cos (latitude t rings ring), t.sin (latitude t rings ring),
    z * t.cos (latitude t rings ring)⟩

def totalRings : Nat := rings * 2 + 2

def capsuleUv (ring segment : Nat) : F × F :=
  ((segment : F) / (segments : F), (ring : F) / ((totalRings rings - 1 : Nat) : F))

/-- The two triangles of a cell between two rings. -/
def capsuleCell (cell : Nat × Nat) : List UInt16 :=
  let columns := segments + 1
  let a := UInt16.ofNat (cell.1 * columns + cell.2)
  let b := a + 1
  let c := UInt16.ofNat ((cell.1 + 1) * columns + cell.2)
  let d := c + 1
  [a, b, c, b, d, c]

def createCapsule : Mesh UInt16 F :=
  let columns := segments + 1
  build (grid (totalRings rings) columns (capsulePosition t radius halfHeight segments rings))
    (grid (totalRings rings) columns (capsuleNormal t segments rings))
    (grid (totalRings rings) columns (capsuleUv segments rings))
    ((grid (totalRings rings - 1) segments Prod.mk).flatMap (capsuleCell segments))

def createSphere : Mesh UInt16 F := createCapsule t radius 0.0 segments rings

/-- The first triangle of a cell. -/
def above (cell : Nat × Nat) : UInt16 × UInt16 × UInt16 :=
  let a := UInt16.ofNat (cell.1 * (segments + 1) + cell.2)
  (a, a + 1, UInt16.ofNat ((cell.1 + 1) * (segments + 1) + cell.2))

/-- The second triangle of a cell. -/
def below (cell : Nat × Nat) : UInt16 × UInt16 × UInt16 :=
  let c := UInt16.ofNat ((cell.1 + 1) * (segments + 1) + cell.2)
  (UInt16.ofNat (cell.1 * (segments + 1) + cell.2) + 1, c + 1, c)

/-- The faces of the capsule, cell by cell. -/
theorem faces_createCapsule :
    faces (createCapsule t radius halfHeight segments rings).indices =
      (grid (totalRings rings - 1) segments Prod.mk).flatMap fun cell =>
        [above segments cell, below segments cell] :=
  faces_flatMap _ _ _ _ _ _ _

end Capsule

section Terrain

variable {F : Type*} [Field F] [LinearOrder F] [FloorRing F] (sqrt : F → F)
  (hash : Int → Int → F)

/-- Where a row or a column of the terrain lies. -/
def terrainAt (k : Nat) : F := -Terrain.kHalfWorld + (k : F) * Terrain.kStep

def terrainPosition (row column : Nat) : Vec3 F :=
  ⟨terrainAt column, Terrain.heightAt hash (terrainAt column) (terrainAt row), terrainAt row⟩

def terrainNormal (row column : Nat) : Vec3 F :=
  let n := Terrain.normalAt hash sqrt (terrainAt column) (terrainAt row)
  ⟨n.1, n.2.1, n.2.2⟩

def terrainUv (row column : Nat) : F × F := (terrainAt column, terrainAt row)

variable (resolution : Nat)

/-- The two triangles of a cell of the terrain. -/
def terrainCell (cell : Nat × Nat) : List UInt32 :=
  let columns := resolution + 1
  let topLeft := UInt32.ofNat (cell.1 * columns + cell.2)
  let topRight := topLeft + 1
  let bottomLeft := topLeft + UInt32.ofNat columns
  let bottomRight := bottomLeft + 1
  [topLeft, bottomLeft, topRight, topRight, bottomLeft, bottomRight]

/-- The two loops over rows and columns. -/
def terrainMesh : Mesh UInt32 F :=
  let columns := resolution + 1
  build (grid columns columns (terrainPosition hash))
    (grid columns columns (terrainNormal sqrt hash))
    (grid columns columns terrainUv)
    ((grid resolution resolution Prod.mk).flatMap (terrainCell resolution))

def createTerrain : Mesh UInt32 F := terrainMesh sqrt hash Terrain.kMeshResolution

/-- The first triangle of a cell. -/
def northWest (cell : Nat × Nat) : UInt32 × UInt32 × UInt32 :=
  let topLeft := UInt32.ofNat (cell.1 * (resolution + 1) + cell.2)
  (topLeft, topLeft + UInt32.ofNat (resolution + 1), topLeft + 1)

/-- The second triangle of a cell. -/
def southEast (cell : Nat × Nat) : UInt32 × UInt32 × UInt32 :=
  let topLeft := UInt32.ofNat (cell.1 * (resolution + 1) + cell.2)
  let bottomLeft := topLeft + UInt32.ofNat (resolution + 1)
  (topLeft + 1, bottomLeft, bottomLeft + 1)

/-- The faces of the terrain, cell by cell. -/
theorem faces_terrainMesh :
    faces (terrainMesh sqrt hash resolution).indices =
      (grid resolution resolution Prod.mk).flatMap fun cell =>
        [northWest resolution cell, southEast resolution cell] :=
  faces_flatMap _ _ _ _ _ _ _

end Terrain

section Faces

variable {F : Type*} [Field F] [LinearOrder F] {ι : Type*}

/-- Two corners are the same point, so there is nothing to draw. -/
def Collapsed (a b c : Vec3 F) : Prop := a = b ∨ b = c ∨ c = a

/-- The triangle is drawn when it is seen from where the normals of its corners point. -/
structure Outward (a b c na nb nc : Vec3 F) : Prop where
  first : 0 < dot (facing a b c) na
  second : 0 < dot (facing a b c) nb
  third : 0 < dot (facing a b c) nc

/-- The corners that the three indices of a face name, with their normals. -/
structure Corners (m : Mesh ι F) (number : ι → Nat) (face : ι × ι × ι)
    (a b c na nb nc : Vec3 F) : Prop where
  first : m.positions[number face.1]? = some a ∧ m.normals[number face.1]? = some na
  second : m.positions[number face.2.1]? = some b ∧ m.normals[number face.2.1]? = some nb
  third : m.positions[number face.2.2]? = some c ∧ m.normals[number face.2.2]? = some nc

/-- Three vertices of the mesh, and the face is seen from outside. -/
def Shown (m : Mesh ι F) (number : ι → Nat) (face : ι × ι × ι) : Prop :=
  ∃ a b c na nb nc, Corners m number face a b c na nb nc ∧ Outward a b c na nb nc

/-- Three vertices of the mesh, and they leave nothing to see. -/
def Vanishes (m : Mesh ι F) (number : ι → Nat) (face : ι × ι × ι) : Prop :=
  ∃ a b c na nb nc, Corners m number face a b c na nb nc ∧ Collapsed a b c

omit [LinearOrder F] in
theorem facing_collapsed {a b c : Vec3 F} (h : Collapsed a b c) : facing a b c = ⟨0, 0, 0⟩ := by
  rcases h with rfl | rfl | rfl
  · simp [facing, cross, sub]
  · simp [facing, cross, sub, mul_comm]
  · simp [facing, cross, sub]

/-- What faces anywhere has three corners. -/
theorem Outward.not_collapsed {a b c na nb nc : Vec3 F} (h : Outward a b c na nb nc) :
    ¬ Collapsed a b c := by
  intro hcollapsed
  have hfirst := h.first
  rw [facing_collapsed hcollapsed] at hfirst
  simp [dot] at hfirst

omit [Field F] [LinearOrder F] in
/-- A face has one set of corners. -/
theorem Corners.unique {m : Mesh ι F} {number : ι → Nat} {face : ι × ι × ι}
    {a b c na nb nc a' b' c' na' nb' nc' : Vec3 F} (h : Corners m number face a b c na nb nc)
    (h' : Corners m number face a' b' c' na' nb' nc') :
    a = a' ∧ b = b' ∧ c = c' ∧ na = na' ∧ nb = nb' ∧ nc = nc' :=
  ⟨Option.some.inj (h.first.1.symm.trans h'.first.1),
    Option.some.inj (h.second.1.symm.trans h'.second.1),
    Option.some.inj (h.third.1.symm.trans h'.third.1),
    Option.some.inj (h.first.2.symm.trans h'.first.2),
    Option.some.inj (h.second.2.symm.trans h'.second.2),
    Option.some.inj (h.third.2.symm.trans h'.third.2)⟩

theorem Vanishes.not_shown {m : Mesh ι F} {number : ι → Nat} {face : ι × ι × ι}
    (h : Vanishes m number face) : ¬ Shown m number face := by
  obtain ⟨a, b, c, na, nb, nc, hcorners, hcollapsed⟩ := h
  rintro ⟨a', b', c', na', nb', nc', hcorners', houtward⟩
  obtain ⟨rfl, rfl, rfl, _⟩ := hcorners.unique hcorners'
  exact houtward.not_collapsed hcollapsed

end Faces

section Cubes

variable {F : Type*} [Field F] [LinearOrder F] [IsStrictOrderedRing F] {size : F}

theorem edge_pos (h : 0 < size) : 0 < size * 0.5 := mul_pos h (by norm_num)

omit [IsStrictOrderedRing F] in
theorem Outward.of_flat {a b c n : Vec3 F} (h : 0 < dot (facing a b c) n) :
    Outward a b c n n n := ⟨h, h, h⟩

theorem faces_cubeIndices :
    faces cubeIndices =
      [(0, 1, 2), (2, 3, 0), (4, 5, 6), (6, 7, 4), (8, 9, 10), (10, 11, 8), (12, 13, 14),
        (14, 15, 12), (16, 17, 18), (18, 19, 16), (20, 21, 22), (22, 23, 20)] := rfl

/-- Every triangle of a cube is seen from outside. -/
theorem createCube_shown (h : 0 < size) :
    ∀ face ∈ faces (createCube size).indices, Shown (createCube size) UInt16.toNat face := by
  have hedge := edge_pos h
  have hindices : (createCube size).indices = cubeIndices := rfl
  have harea : 0 < size * 0.5 * (size * 0.5) := mul_pos hedge hedge
  rw [hindices, faces_cubeIndices, createCube]
  generalize size * 0.5 = edge at harea
  simp only [List.forall_mem_cons, List.not_mem_nil, false_imp_iff, implies_true, and_true]
  refine ⟨?_, ?_, ?_, ?_, ?_, ?_, ?_, ?_, ?_, ?_, ?_, ?_⟩ <;>
    refine ⟨_, _, _, _, _, _, ⟨⟨rfl, rfl⟩, ⟨rfl, rfl⟩, ⟨rfl, rfl⟩⟩, .of_flat ?_⟩ <;>
    (simp only [dot, facing, cross, sub]; linarith)

/-- A plane is seen from above. -/
theorem createPlane_shown (h : 0 < size) :
    ∀ face ∈ faces (createPlane size).indices, Shown (createPlane size) UInt16.toNat face := by
  have hedge := edge_pos h
  have hfaces : faces (createPlane size).indices = [(0, 1, 2), (2, 3, 0)] := rfl
  have harea : 0 < size * 0.5 * (size * 0.5) := mul_pos hedge hedge
  rw [hfaces, createPlane]
  generalize size * 0.5 = edge at harea
  simp only [List.forall_mem_cons, List.not_mem_nil, false_imp_iff, implies_true, and_true]
  refine ⟨?_, ?_⟩ <;>
    refine ⟨_, _, _, _, _, _, ⟨⟨rfl, rfl⟩, ⟨rfl, rfl⟩, ⟨rfl, rfl⟩⟩, .of_flat ?_⟩ <;>
    (simp only [dot, facing, cross, sub]; linarith)

end Cubes

end Mesh

end UntitledGame.Client
