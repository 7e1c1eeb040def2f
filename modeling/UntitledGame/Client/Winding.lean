import UntitledGame.Client.Meshes

/-!
# Which way the capsule's triangles face

The source says that the triangles of the capsule point along the normals of their
vertices, and that all 384 of them were compared. Here it is for every capsule, and for
the spheres: a cell between two rings and two segments has two triangles, and up to
positive factors what each of them shows to the normal of any of its corners is how far
the upper ring lies above the lower one along that normal.

The rings at the poles are points, and so a cell there has one triangle less.
-/

namespace UntitledGame.Client.Mesh

open Lib.Grids Sim

noncomputable def exact : Trig ℝ := ⟨Real.sin, Real.cos, Real.sqrt, Real.pi⟩

section Cells

/-- The upper triangle of a cell: its normal side, seen by a corner on either meridian. -/
theorem dot_facing_above (r₁ r₂ y₁ y₂ c s c' s' cp sp : ℝ) :
    let a : Vec3 ℝ := ⟨c * r₁, y₁, s * r₁⟩
    let b : Vec3 ℝ := ⟨c' * r₁, y₁, s' * r₁⟩
    let d : Vec3 ℝ := ⟨c * r₂, y₂, s * r₂⟩
    dot (facing a b d) ⟨c * cp, sp, s * cp⟩ =
        r₁ * (s' * c - c' * s) * ((y₁ - y₂) * cp + (r₂ - r₁) * sp) ∧
      dot (facing a b d) ⟨c' * cp, sp, s' * cp⟩ =
        r₁ * (s' * c - c' * s) * ((y₁ - y₂) * cp + (r₂ - r₁) * sp) := by
  constructor <;> (simp only [dot, facing, cross, sub]; ring)

/-- The lower triangle of a cell. -/
theorem dot_facing_below (r₁ r₂ y₁ y₂ c s c' s' cp sp : ℝ) :
    let b : Vec3 ℝ := ⟨c' * r₁, y₁, s' * r₁⟩
    let d : Vec3 ℝ := ⟨c' * r₂, y₂, s' * r₂⟩
    let e : Vec3 ℝ := ⟨c * r₂, y₂, s * r₂⟩
    dot (facing b d e) ⟨c * cp, sp, s * cp⟩ =
        r₂ * (s' * c - c' * s) * ((y₁ - y₂) * cp + (r₂ - r₁) * sp) ∧
      dot (facing b d e) ⟨c' * cp, sp, s' * cp⟩ =
        r₂ * (s' * c - c' * s) * ((y₁ - y₂) * cp + (r₂ - r₁) * sp) := by
  constructor <;> (simp only [dot, facing, cross, sub]; ring)

end Cells

section Rings

variable {radius halfHeight : ℝ} {segments rings : Nat}

/-- The normals of the source have length one before they are normalised. -/
theorem capsuleNormal_exact (ring segment : Nat) :
    capsuleNormal exact segments rings ring segment =
      ⟨Real.cos (longitude exact segments segment) * Real.cos (latitude exact rings ring),
        Real.sin (latitude exact rings ring),
        Real.sin (longitude exact segments segment) * Real.cos (latitude exact rings ring)⟩ := by
  have hunit : ∀ θ φ : ℝ,
      Real.cos θ * Real.cos φ * (Real.cos θ * Real.cos φ) + Real.sin φ * Real.sin φ +
        Real.sin θ * Real.cos φ * (Real.sin θ * Real.cos φ) = 1 := by
    intro θ φ
    calc _ = (Real.sin θ ^ 2 + Real.cos θ ^ 2) * Real.cos φ ^ 2 + Real.sin φ ^ 2 := by ring
      _ = Real.sin φ ^ 2 + Real.cos φ ^ 2 := by rw [Real.sin_sq_add_cos_sq]; ring
      _ = 1 := Real.sin_sq_add_cos_sq φ
  simp only [capsuleNormal, normalize, dot, exact, hunit, Real.sqrt_one, div_one]

theorem longitude_exact (segment : Nat) :
    longitude exact segments segment = Real.pi / 2 + 2 * Real.pi * segment / segments := by
  have hhalf : (0.5 : ℝ) = 1 / 2 := by norm_num
  have htwo : (2.0 : ℝ) = 2 := by norm_num
  rw [longitude, hhalf, htwo, exact]
  ring

/-- Two meridians next to each other are less than half a turn apart. -/
theorem turn_pos (hsegments : 3 ≤ segments) (segment : Nat) :
    0 < Real.sin (longitude exact segments (segment + 1)) *
        Real.cos (longitude exact segments segment) -
      Real.cos (longitude exact segments (segment + 1)) *
        Real.sin (longitude exact segments segment) := by
  have hcount : (3 : ℝ) ≤ segments := by exact_mod_cast hsegments
  have hturn : longitude exact segments (segment + 1) - longitude exact segments segment =
      2 * Real.pi / segments := by
    rw [longitude_exact, longitude_exact]
    push_cast
    ring
  rw [← Real.sin_sub, hturn]
  apply Real.sin_pos_of_pos_of_lt_pi
  · exact div_pos (mul_pos two_pos Real.pi_pos) (by linarith)
  · rw [div_lt_iff₀ (by linarith)]
    nlinarith [Real.pi_pos]

theorem latitude_above {ring : Nat} (h : ring ≤ rings) :
    latitude exact rings ring = Real.pi / 2 * (1 - ring / rings) := by
  have hhalf : (0.5 : ℝ) = 1 / 2 := by norm_num
  have hone : (1.0 : ℝ) = 1 := by norm_num
  rw [latitude, if_pos h, hhalf, hone, exact]
  ring

theorem latitude_below {ring : Nat} (h : rings < ring) :
    latitude exact rings ring = -(Real.pi / 2 * ((ring - rings - 1) / rings)) := by
  have hhalf : (0.5 : ℝ) = 1 / 2 := by norm_num
  rw [latitude, if_neg (Nat.not_le.mpr h), Nat.sub_sub, Nat.cast_sub h, hhalf, exact]
  push_cast
  ring

/-- Only the first ring and the last one are points. -/
theorem cos_latitude_pos {ring : Nat} (hfirst : ring ≠ 0) (hlast : ring < rings * 2 + 1) :
    0 < Real.cos (latitude exact rings ring) := by
  have hrings : (0 : ℝ) < rings := by
    have : 0 < rings := by omega
    exact_mod_cast this
  have hpos : (0 : ℝ) < ring := by exact_mod_cast Nat.pos_of_ne_zero hfirst
  apply Real.cos_pos_of_mem_Ioo
  by_cases h : ring ≤ rings
  · have hfrac : (ring : ℝ) / rings ∈ Set.Ioc 0 1 :=
      ⟨div_pos hpos hrings, (div_le_one hrings).mpr (by exact_mod_cast h)⟩
    rw [latitude_above h]
    constructor <;> nlinarith [Real.pi_pos, hfrac.1, hfrac.2]
  · have hbelow : (rings : ℝ) + 1 ≤ ring := by exact_mod_cast Nat.lt_of_not_le h
    have habove : (ring : ℝ) < rings * 2 + 1 := by exact_mod_cast hlast
    have hfrac : ((ring : ℝ) - rings - 1) / rings ∈ Set.Ico 0 1 :=
      ⟨div_nonneg (by linarith) hrings.le, (div_lt_one hrings).mpr (by linarith)⟩
    rw [latitude_below (Nat.lt_of_not_le h)]
    constructor <;> nlinarith [Real.pi_pos, hfrac.1, hfrac.2]

theorem cos_latitude_top : Real.cos (latitude exact rings 0) = 0 := by
  rw [latitude_above (Nat.zero_le rings), Nat.cast_zero, zero_div, sub_zero, mul_one,
    Real.cos_pi_div_two]

theorem cos_latitude_bottom (hrings : 1 ≤ rings) :
    Real.cos (latitude exact rings (rings * 2 + 1)) = 0 := by
  have hpos : (rings : ℝ) ≠ 0 := by exact_mod_cast Nat.ne_of_gt hrings
  have hlast : ((rings * 2 + 1 : Nat) : ℝ) - rings - 1 = rings := by push_cast; ring
  rw [latitude_below (by omega), hlast, div_self hpos, mul_one, Real.cos_neg,
    Real.cos_pi_div_two]

/-- Two rings of the same half, one under the other. -/
theorem latitude_drop (hrings : 1 ≤ rings) {ring : Nat} (h : ring ≠ rings) :
    latitude exact rings ring - latitude exact rings (ring + 1) = Real.pi / 2 / rings := by
  have hpos : (rings : ℝ) ≠ 0 := by exact_mod_cast Nat.ne_of_gt hrings
  rcases Nat.lt_or_gt_of_ne h with hlt | hgt
  · rw [latitude_above hlt.le, latitude_above hlt]
    push_cast
    field_simp
    ring
  · rw [latitude_below hgt, latitude_below (Nat.lt_succ_of_lt hgt)]
    push_cast
    field_simp
    ring

/-- The lower equator lies straight below the upper one. -/
theorem latitude_equator (hrings : 1 ≤ rings) :
    latitude exact rings rings = 0 ∧ latitude exact rings (rings + 1) = 0 := by
  have hne : (rings : ℝ) ≠ 0 := by exact_mod_cast Nat.ne_of_gt hrings
  constructor
  · rw [latitude_above le_rfl, div_self hne, sub_self, mul_zero]
  · rw [latitude_below (Nat.lt_succ_self rings)]
    push_cast
    ring

/-- How far a ring lies above the next one, along the normal of a corner of either. -/
noncomputable def lead (radius halfHeight : ℝ) (rings ring corner : Nat) : ℝ :=
  (ringY exact radius halfHeight rings ring - ringY exact radius halfHeight rings (ring + 1)) *
      Real.cos (latitude exact rings corner) +
    (ringRadius exact radius rings (ring + 1) - ringRadius exact radius rings ring) *
      Real.sin (latitude exact rings corner)

/-- Two rings of one half: the sphere bends away from the normal. -/
theorem lead_pos_of_half (hradius : 0 < radius) (hrings : 1 ≤ rings) {ring : Nat}
    (h : ring ≠ rings) {corner : Nat} (hcorner : corner = ring ∨ corner = ring + 1) :
    0 < lead radius halfHeight rings ring corner := by
  have hheights : (if ring ≤ rings then halfHeight else -halfHeight) =
      if ring + 1 ≤ rings then halfHeight else -halfHeight := by
    split <;> split <;> first | rfl | omega
  have hbend : 0 < Real.sin (latitude exact rings ring - latitude exact rings (ring + 1)) := by
    have hcount : (1 : ℝ) ≤ rings := by exact_mod_cast hrings
    rw [latitude_drop hrings h]
    apply Real.sin_pos_of_pos_of_lt_pi
    · exact div_pos (div_pos Real.pi_pos two_pos) (by linarith)
    · rw [div_lt_iff₀ (by linarith)]
      nlinarith [Real.pi_pos]
  have hlead : lead radius halfHeight rings ring corner =
      radius * Real.sin (latitude exact rings ring - latitude exact rings (ring + 1)) := by
    rw [Real.sin_sub, lead, ringY, ringY, ringRadius, ringRadius, hheights]
    rcases hcorner with rfl | rfl <;> (simp only [exact]; ring)
  rw [hlead]
  exact mul_pos hradius hbend

/-- The two equators: the cylinder is as high as it is. -/
theorem lead_equator (hrings : 1 ≤ rings) {corner : Nat}
    (hcorner : corner = rings ∨ corner = rings + 1) :
    lead radius halfHeight rings rings corner = 2 * halfHeight := by
  obtain ⟨habove, hbelow⟩ := latitude_equator hrings
  have hzero : latitude exact rings corner = 0 := by
    rcases hcorner with rfl | rfl
    · exact habove
    · exact hbelow
  rw [lead, hzero, ringY, ringY, habove, hbelow, if_pos le_rfl,
    if_neg (Nat.not_succ_le_self rings), Real.cos_zero, Real.sin_zero]
  ring

theorem above_outward (hsegments : 3 ≤ segments) (hradius : 0 < radius) {ring : Nat}
    (hfirst : ring ≠ 0) (hring : ring < rings * 2 + 1) (segment : Nat)
    (hlead : ∀ corner, corner = ring ∨ corner = ring + 1 →
      0 < lead radius halfHeight rings ring corner) :
    let p := capsulePosition exact radius halfHeight segments rings
    let n := capsuleNormal exact segments rings
    Outward (p ring segment) (p ring (segment + 1)) (p (ring + 1) segment)
      (n ring segment) (n ring (segment + 1)) (n (ring + 1) segment) := by
  intro p n
  have hfactor := mul_pos (mul_pos (cos_latitude_pos hfirst hring) hradius)
    (turn_pos hsegments segment)
  constructor
  · rw [show n ring segment = _ from capsuleNormal_exact ring segment]
    exact (dot_facing_above _ _ _ _ _ _ _ _ _ _).1.symm ▸
      mul_pos hfactor (hlead ring (.inl rfl))
  · rw [show n ring (segment + 1) = _ from capsuleNormal_exact ring (segment + 1)]
    exact (dot_facing_above _ _ _ _ _ _ _ _ _ _).2.symm ▸
      mul_pos hfactor (hlead ring (.inl rfl))
  · rw [show n (ring + 1) segment = _ from capsuleNormal_exact (ring + 1) segment]
    exact (dot_facing_above _ _ _ _ _ _ _ _ _ _).1.symm ▸
      mul_pos hfactor (hlead (ring + 1) (.inr rfl))

theorem below_outward (hsegments : 3 ≤ segments) (hradius : 0 < radius) {ring : Nat}
    (hring : ring < rings * 2) (segment : Nat)
    (hlead : ∀ corner, corner = ring ∨ corner = ring + 1 →
      0 < lead radius halfHeight rings ring corner) :
    let p := capsulePosition exact radius halfHeight segments rings
    let n := capsuleNormal exact segments rings
    Outward (p ring (segment + 1)) (p (ring + 1) (segment + 1)) (p (ring + 1) segment)
      (n ring (segment + 1)) (n (ring + 1) (segment + 1)) (n (ring + 1) segment) := by
  intro p n
  have hfactor := mul_pos
    (mul_pos (cos_latitude_pos (Nat.succ_ne_zero ring) (Nat.succ_lt_succ hring)) hradius)
    (turn_pos hsegments segment)
  constructor
  · rw [show n ring (segment + 1) = _ from capsuleNormal_exact ring (segment + 1)]
    exact (dot_facing_below _ _ _ _ _ _ _ _ _ _).2.symm ▸
      mul_pos hfactor (hlead ring (.inl rfl))
  · rw [show n (ring + 1) (segment + 1) = _ from capsuleNormal_exact (ring + 1) (segment + 1)]
    exact (dot_facing_below _ _ _ _ _ _ _ _ _ _).2.symm ▸
      mul_pos hfactor (hlead (ring + 1) (.inr rfl))
  · rw [show n (ring + 1) segment = _ from capsuleNormal_exact (ring + 1) segment]
    exact (dot_facing_below _ _ _ _ _ _ _ _ _ _).1.symm ▸
      mul_pos hfactor (hlead (ring + 1) (.inr rfl))

end Rings

section Numbers

variable {segments rings : Nat}

theorem toNat_ofNat {n : Nat} (h : n < 65536) : (UInt16.ofNat n).toNat = n := by
  rw [UInt16.toNat_ofNat']
  exact Nat.mod_eq_of_lt h

theorem toNat_succ {n : Nat} (h : n + 1 < 65536) : (UInt16.ofNat n + 1).toNat = n + 1 := by
  rw [UInt16.toNat_add, toNat_ofNat (Nat.lt_of_succ_lt h)]
  exact Nat.mod_eq_of_lt h

/-- The index buffer is wide enough for the last vertex of a cell. -/
theorem number_lt (hfits : totalRings rings * (segments + 1) ≤ 65536) {ring segment : Nat}
    (hring : ring < totalRings rings) (hsegment : segment < segments) :
    ring * (segments + 1) + segment + 1 < 65536 := by
  calc ring * (segments + 1) + segment + 1
      < ring * (segments + 1) + (segments + 1) := by omega
    _ = (ring + 1) * (segments + 1) := by ring
    _ ≤ totalRings rings * (segments + 1) := Nat.mul_le_mul_right _ hring
    _ ≤ 65536 := hfits

end Numbers

section Faces

variable {radius halfHeight : ℝ} {segments rings : Nat}

/-- A vertex of the capsule under its number. -/
theorem vertex_at (radius halfHeight : ℝ) {ring segment n : Nat}
    (hring : ring < totalRings rings) (hsegment : segment < segments + 1)
    (hn : n = ring * (segments + 1) + segment) :
    (createCapsule exact radius halfHeight segments rings).positions[n]? =
        some (capsulePosition exact radius halfHeight segments rings ring segment) ∧
      (createCapsule exact radius halfHeight segments rings).normals[n]? =
        some (capsuleNormal exact segments rings ring segment) := by
  subst hn
  exact ⟨getElem?_grid _ hring hsegment, getElem?_grid _ hring hsegment⟩

/-- The number of a corner of a cell. -/
def cellNumber (segments ring segment : Nat) (lower east : Bool) : UInt16 :=
  let left := UInt16.ofNat ((ring + lower.toNat) * (segments + 1) + segment)
  if east then left + 1 else left

theorem cell_corner (radius halfHeight : ℝ)
    (hfits : totalRings rings * (segments + 1) ≤ 65536) {ring segment : Nat}
    (hring : ring < rings * 2 + 1) (hsegment : segment < segments) (lower east : Bool) :
    let n := (cellNumber segments ring segment lower east).toNat
    (createCapsule exact radius halfHeight segments rings).positions[n]? =
        some (capsulePosition exact radius halfHeight segments rings (ring + lower.toNat)
          (segment + east.toNat)) ∧
      (createCapsule exact radius halfHeight segments rings).normals[n]? =
        some (capsuleNormal exact segments rings (ring + lower.toNat) (segment + east.toNat)) := by
  have hlower := Bool.toNat_le lower
  have heast := Bool.toNat_le east
  have hinside : ring + lower.toNat < totalRings rings := by
    rw [totalRings]
    omega
  have hlast := number_lt hfits hinside hsegment
  refine vertex_at radius halfHeight hinside (by omega) ?_
  cases east with
  | false => exact toNat_ofNat (Nat.lt_of_succ_lt hlast)
  | true => exact toNat_succ hlast

theorem corners_above (radius halfHeight : ℝ)
    (hfits : totalRings rings * (segments + 1) ≤ 65536) {ring segment : Nat}
    (hring : ring < rings * 2 + 1) (hsegment : segment < segments) :
    let p := capsulePosition exact radius halfHeight segments rings
    let n := capsuleNormal exact segments rings
    Corners (createCapsule exact radius halfHeight segments rings) UInt16.toNat
      (above segments (ring, segment))
      (p ring segment) (p ring (segment + 1)) (p (ring + 1) segment)
      (n ring segment) (n ring (segment + 1)) (n (ring + 1) segment) :=
  have corner := cell_corner radius halfHeight hfits hring hsegment
  ⟨corner false false, corner false true, corner true false⟩

theorem corners_below (radius halfHeight : ℝ)
    (hfits : totalRings rings * (segments + 1) ≤ 65536) {ring segment : Nat}
    (hring : ring < rings * 2 + 1) (hsegment : segment < segments) :
    let p := capsulePosition exact radius halfHeight segments rings
    let n := capsuleNormal exact segments rings
    Corners (createCapsule exact radius halfHeight segments rings) UInt16.toNat
      (below segments (ring, segment))
      (p ring (segment + 1)) (p (ring + 1) (segment + 1)) (p (ring + 1) segment)
      (n ring (segment + 1)) (n (ring + 1) (segment + 1)) (n (ring + 1) segment) :=
  have corner := cell_corner radius halfHeight hfits hring hsegment
  ⟨corner false true, corner true true, corner true false⟩

/-- All vertices of a ring at a pole are one point. -/
theorem capsulePosition_pole {ring : Nat} (h : Real.cos (latitude exact rings ring) = 0)
    (segment segment' : Nat) :
    capsulePosition exact radius halfHeight segments rings ring segment =
      capsulePosition exact radius halfHeight segments rings ring segment' := by
  have hpoint : ringRadius exact radius rings ring = 0 := by
    rw [ringRadius]
    exact mul_eq_zero_of_left h radius
  simp only [capsulePosition, hpoint, mul_zero]

/-- Without a cylinder the two equators are one. -/
theorem capsulePosition_equator (hrings : 1 ≤ rings) (segment : Nat) :
    capsulePosition exact radius 0 segments rings rings segment =
      capsulePosition exact radius 0 segments rings (rings + 1) segment := by
  obtain ⟨habove, hbelow⟩ := latitude_equator hrings
  simp only [capsulePosition, ringRadius, ringY, habove, hbelow, neg_zero, ite_self]

/-- The rings between which something is drawn lead along the normals. -/
theorem lead_pos (hradius : 0 < radius) (hrings : 1 ≤ rings) {ring : Nat}
    (h : ring ≠ rings ∨ 0 < halfHeight) {corner : Nat}
    (hcorner : corner = ring ∨ corner = ring + 1) :
    0 < lead radius halfHeight rings ring corner := by
  by_cases hequator : ring = rings
  · subst hequator
    rw [lead_equator hrings hcorner]
    exact mul_pos two_pos (h.resolve_left fun hne => hne rfl)
  · exact lead_pos_of_half hradius hrings hequator hcorner

/-- A triangle of a cell is shown, unless the cell is at the pole where two of its corners meet, or
on the cylinder of a sphere. -/
theorem shown_or_vanishes {m : Mesh UInt16 ℝ} {face : UInt16 × UInt16 × UInt16}
    {a b c na nb nc : Vec3 ℝ} (hcorners : Corners m UInt16.toNat face a b c na nb nc)
    (hhalf : 0 ≤ halfHeight) {ring pole : Nat} (hpole : ring = pole → Collapsed a b c)
    (hflat : ring = rings → halfHeight = 0 → Collapsed a b c)
    (hbody : ring ≠ pole → ring ≠ rings ∨ 0 < halfHeight → Outward a b c na nb nc) :
    (ring ≠ pole ∧ (ring ≠ rings ∨ 0 < halfHeight) ∧ Shown m UInt16.toNat face) ∨
      (¬ (ring ≠ pole ∧ (ring ≠ rings ∨ 0 < halfHeight)) ∧ Vanishes m UInt16.toNat face) := by
  by_cases hend : ring = pole
  · exact .inr ⟨fun h => h.1 hend, _, _, _, _, _, _, hcorners, hpole hend⟩
  · by_cases hdrawn : ring ≠ rings ∨ 0 < halfHeight
    · exact .inl ⟨hend, hdrawn, _, _, _, _, _, _, hcorners, hbody hend hdrawn⟩
    · obtain ⟨hequator, hsphere⟩ := not_or.mp hdrawn
      exact .inr ⟨fun h => hdrawn h.2, _, _, _, _, _, _, hcorners,
        hflat (not_not.mp hequator) (le_antisymm (not_lt.mp hsphere) hhalf)⟩

theorem shown_iff {m : Mesh UInt16 ℝ} {face : UInt16 × UInt16 × UInt16} {p q : Prop}
    (h : (p ∧ q ∧ Shown m UInt16.toNat face) ∨ (¬ (p ∧ q) ∧ Vanishes m UInt16.toNat face)) :
    Shown m UInt16.toNat face ↔ p ∧ q := by
  rcases h with ⟨hp, hq, hshown⟩ | ⟨hnot, hvanishes⟩
  · exact ⟨fun _ => ⟨hp, hq⟩, fun _ => hshown⟩
  · exact ⟨fun hshown => absurd hshown hvanishes.not_shown, fun hcell => absurd hcell hnot⟩

variable (hsegments : 3 ≤ segments) (hrings : 1 ≤ rings)
  (hfits : totalRings rings * (segments + 1) ≤ 65536) (hradius : 0 < radius)

include hsegments hrings hfits hradius

/-- The first triangle of a cell has an edge on the upper ring. -/
theorem above_cases (hhalf : 0 ≤ halfHeight) {ring segment : Nat}
    (hring : ring < rings * 2 + 1) (hsegment : segment < segments) :
    let m := createCapsule exact radius halfHeight segments rings
    let face := above segments (ring, segment)
    (ring ≠ 0 ∧ (ring ≠ rings ∨ 0 < halfHeight) ∧ Shown m UInt16.toNat face) ∨
      (¬ (ring ≠ 0 ∧ (ring ≠ rings ∨ 0 < halfHeight)) ∧ Vanishes m UInt16.toNat face) := by
  intro m face
  apply shown_or_vanishes (corners_above radius halfHeight hfits hring hsegment) hhalf
  · rintro rfl
    exact .inl (capsulePosition_pole cos_latitude_top segment (segment + 1))
  · rintro rfl rfl
    exact .inr (.inr (capsulePosition_equator hrings segment).symm)
  · intro hfirst hbody
    exact above_outward hsegments hradius hfirst hring segment fun _ =>
      lead_pos hradius hrings hbody

/-- The second one has an edge on the lower ring. -/
theorem below_cases (hhalf : 0 ≤ halfHeight) {ring segment : Nat}
    (hring : ring < rings * 2 + 1) (hsegment : segment < segments) :
    let m := createCapsule exact radius halfHeight segments rings
    let face := below segments (ring, segment)
    (ring ≠ rings * 2 ∧ (ring ≠ rings ∨ 0 < halfHeight) ∧ Shown m UInt16.toNat face) ∨
      (¬ (ring ≠ rings * 2 ∧ (ring ≠ rings ∨ 0 < halfHeight)) ∧
        Vanishes m UInt16.toNat face) := by
  intro m face
  apply shown_or_vanishes (corners_below radius halfHeight hfits hring hsegment) hhalf
  · rintro rfl
    exact .inr (.inl (capsulePosition_pole (cos_latitude_bottom hrings) (segment + 1) segment))
  · rintro rfl rfl
    exact .inl (capsulePosition_equator hrings (segment + 1))
  · intro hlast hbody
    exact below_outward hsegments hradius (by omega) segment fun _ =>
      lead_pos hradius hrings hbody

open Classical in
/-- What a cell shows: two triangles, one at a pole, none on the cylinder of a sphere. -/
theorem count_cell (hhalf : 0 ≤ halfHeight) {ring segment : Nat}
    (hring : ring < rings * 2 + 1) (hsegment : segment < segments) :
    let m := createCapsule exact radius halfHeight segments rings
    [above segments (ring, segment), below segments (ring, segment)].countP
        (fun face => decide (Shown m UInt16.toNat face)) =
      (if ring ≠ 0 ∧ (ring ≠ rings ∨ 0 < halfHeight) then 1 else 0) +
        (if ring ≠ rings * 2 ∧ (ring ≠ rings ∨ 0 < halfHeight) then 1 else 0) := by
  intro m
  have habove : Shown m UInt16.toNat (above segments (ring, segment)) ↔
      ring ≠ 0 ∧ (ring ≠ rings ∨ 0 < halfHeight) :=
    shown_iff (above_cases hsegments hrings hfits hradius hhalf hring hsegment)
  have hbelow : Shown m UInt16.toNat (below segments (ring, segment)) ↔
      ring ≠ rings * 2 ∧ (ring ≠ rings ∨ 0 < halfHeight) :=
    shown_iff (below_cases hsegments hrings hfits hradius hhalf hring hsegment)
  simp only [List.countP_cons, List.countP_nil, decide_eq_true_eq, habove, hbelow]
  ring

end Faces

section Count

variable {rings : Nat}

/-- What falls short of two in each row falls short of the whole. -/
theorem sum_short (n : Nat) (shown short : Nat → Nat)
    (h : ∀ i ∈ Finset.range n, shown i + short i = 2) :
    (∑ i ∈ Finset.range n, shown i) + ∑ i ∈ Finset.range n, short i = n * 2 := by
  rw [← Finset.sum_add_distrib, Finset.sum_congr rfl h, Finset.sum_const, Finset.card_range,
    smul_eq_mul]

/-- Around a capsule every cell shows two triangles but at the poles. -/
theorem sum_capsule {halfHeight : ℝ} (hbody : 0 < halfHeight) :
    (∑ ring ∈ Finset.range (rings * 2 + 1),
      ((if ring ≠ 0 ∧ (ring ≠ rings ∨ 0 < halfHeight) then 1 else 0) +
        (if ring ≠ rings * 2 ∧ (ring ≠ rings ∨ 0 < halfHeight) then 1 else 0))) =
      4 * rings := by
  have hsum := sum_short (rings * 2 + 1)
    (fun ring => (if ring ≠ 0 ∧ (ring ≠ rings ∨ 0 < halfHeight) then 1 else 0) +
      (if ring ≠ rings * 2 ∧ (ring ≠ rings ∨ 0 < halfHeight) then 1 else 0))
    (fun ring => (if ring = 0 then 1 else 0) + (if ring = rings * 2 then 1 else 0))
    (by
      intro ring _
      simp only [hbody, or_true, and_true]
      split <;> split <;> simp_all)
  have hshort : (∑ ring ∈ Finset.range (rings * 2 + 1),
      ((if ring = 0 then 1 else 0) + (if ring = rings * 2 then 1 else 0))) = 2 := by
    simp [Finset.sum_add_distrib]
  omega

/-- Around a sphere the cells of the cylinder show none. -/
theorem sum_sphere (hrings : 1 ≤ rings) :
    (∑ ring ∈ Finset.range (rings * 2 + 1),
      ((if ring ≠ 0 ∧ (ring ≠ rings ∨ (0 : ℝ) < 0) then 1 else 0) +
        (if ring ≠ rings * 2 ∧ (ring ≠ rings ∨ (0 : ℝ) < 0) then 1 else 0))) + 2 =
      4 * rings := by
  have hsum := sum_short (rings * 2 + 1)
    (fun ring => (if ring ≠ 0 ∧ (ring ≠ rings ∨ (0 : ℝ) < 0) then 1 else 0) +
      (if ring ≠ rings * 2 ∧ (ring ≠ rings ∨ (0 : ℝ) < 0) then 1 else 0))
    (fun ring => ((if ring = 0 then 1 else 0) + (if ring = rings * 2 then 1 else 0)) +
      (if ring = rings then 2 else 0))
    (by
      intro ring _
      by_cases hequator : ring = rings
      · have hfirst : ring ≠ 0 := by omega
        simp [hequator.symm, hfirst]
      · simp only [hequator, lt_irrefl, or_false, ne_eq, not_false_eq_true, and_true]
        split <;> split <;> simp_all)
  have hshort : (∑ ring ∈ Finset.range (rings * 2 + 1),
      (((if ring = 0 then 1 else 0) + (if ring = rings * 2 then 1 else 0)) +
        (if ring = rings then 2 else 0))) = 4 := by
    have hinside : rings < rings * 2 + 1 := by omega
    simp [Finset.sum_add_distrib, hinside]
  omega

end Count

section Main

open Classical in
/-- The index buffer of every capsule that fits into 16 bits names vertices of the capsule; each
triangle is seen from outside at all three corners or has two corners in one point. Of a capsule
`4 * segments * rings` are seen, of a sphere the cylinder's are missing. -/
theorem faces_outward {radius halfHeight : ℝ} {segments rings : Nat} (hsegments : 3 ≤ segments)
    (hrings : 1 ≤ rings) (hfits : totalRings rings * (segments + 1) ≤ 65536)
    (hradius : 0 < radius) (hhalf : 0 ≤ halfHeight) :
    let m := createCapsule exact radius halfHeight segments rings
    (∀ face ∈ faces m.indices, Shown m UInt16.toNat face ∨ Vanishes m UInt16.toNat face) ∧
      (faces m.indices).countP (fun face => decide (Shown m UInt16.toNat face)) +
          (if 0 < halfHeight then 0 else 2 * segments) = 4 * segments * rings := by
  intro m
  constructor
  · intro face hmem
    rw [faces_createCapsule, List.mem_flatMap] at hmem
    obtain ⟨cell, hcell, hface⟩ := hmem
    obtain ⟨ring, hring, segment, hsegment, rfl⟩ := mem_grid.mp hcell
    rcases List.mem_pair.mp hface with rfl | rfl
    · rcases above_cases hsegments hrings hfits hradius hhalf hring hsegment with h | h
      · exact .inl h.2.2
      · exact .inr h.2
    · rcases below_cases hsegments hrings hfits hradius hhalf hring hsegment with h | h
      · exact .inl h.2.2
      · exact .inr h.2
  · have hcount : (faces m.indices).countP (fun face => decide (Shown m UInt16.toNat face)) =
        segments * ∑ ring ∈ Finset.range (rings * 2 + 1),
          ((if ring ≠ 0 ∧ (ring ≠ rings ∨ 0 < halfHeight) then 1 else 0) +
            (if ring ≠ rings * 2 ∧ (ring ≠ rings ∨ 0 < halfHeight) then 1 else 0)) := by
      rw [faces_createCapsule, List.countP_flatMap, map_grid]
      exact sum_grid fun ring hring segment hsegment =>
        count_cell hsegments hrings hfits hradius hhalf hring hsegment
    rw [hcount]
    by_cases hbody : 0 < halfHeight
    · rw [if_pos hbody, sum_capsule hbody]
      ring
    · obtain rfl : halfHeight = 0 := le_antisymm (not_lt.mp hbody) hhalf
      rw [if_neg hbody, Nat.mul_comm 2 segments, ← Nat.mul_add, sum_sphere hrings]
      ring

open Classical in
/-- The capsule of a player, with the 384 triangles that the source speaks of. -/
theorem faces_outward_player :
    let m := createCapsule exact 0.35 0.5 16 6
    (faces m.indices).countP (fun face => decide (Shown m UInt16.toNat face)) = 384 := by
  have h := (@faces_outward 0.35 0.5 16 6 (by decide) (by decide) (by decide)
    (by norm_num) (by norm_num)).2
  rwa [if_pos (by norm_num)] at h

end Main

end UntitledGame.Client.Mesh
