import Mathlib.Algebra.Order.Floor.Ring
import Mathlib.Analysis.Convex.Basic
import Mathlib.Data.Rat.Floor
import Mathlib.Tactic.Linarith
import Mathlib.Tactic.Positivity
import Mathlib.Tactic.Ring

/-!
# `terrain::heightAt`

The ground, as value noise on a lattice: hashes at the corners of a cell are
interpolated, a few octaves of that are added up and normalised, and the result
is averaged over five points. Every stage but the first is a mean of the one
before it, so a height keeps to the range that the hashes give it.

Arithmetic is exact, and a lattice cell is an unbounded integer. The hash is an
argument of everything that is built on it; `hash` is the one of the source.
-/

namespace UntitledGame.Terrain

def kSeed : UInt32 := 0x9E3779B9
def kOctaves : Nat := 5
def kMeshResolution : Nat := 512

section Field

variable {F : Type*} [Field F] [LinearOrder F] [FloorRing F]

def kBaseWavelength : F := 340.0
def kLacunarity : F := 2.03
def kGain : F := 0.5
def kWorldSize : F := 1024.0
def kAmplitude : F := 110.0

/-- `h ^= h >> shift`. -/
def xorShift (h shift : UInt32) : UInt32 := h ^^^ (h >>> shift)

/-- The integer part of the hash. -/
def mixed (x y : Int) : UInt32 :=
  let h := kSeed
  let h := h ^^^ (UInt32.ofInt x * 0x85EBCA6B)
  let h := h ^^^ (UInt32.ofInt y * 0xC2B2AE35)
  let h := xorShift h 15 * 0x2545F491
  let h := xorShift h 13 * 0x3B9ACB93
  xorShift h 16

def hash (x y : Int) : F := ((mixed x y &&& 0x00FFFFFF).toNat : F) / (0x01000000 : F)

/-- The quintic fade. -/
def fade (t : F) : F := t * t * t * (t * (t * 6.0 - 15.0) + 10.0)

variable (hash : Int → Int → F)

/-- Random values on the lattice, smoothly interpolated. -/
def valueNoise (x y : F) : F :=
  let cellX := ⌊x⌋
  let cellY := ⌊y⌋
  let fx := fade (x - (cellX : F))
  let fy := fade (y - (cellY : F))
  let topLeft := hash cellX cellY
  let topRight := hash (cellX + 1) cellY
  let bottomLeft := hash cellX (cellY + 1)
  let bottomRight := hash (cellX + 1) (cellY + 1)
  let top := topLeft + (topRight - topLeft) * fx
  let bottom := bottomLeft + (bottomRight - bottomLeft) * fx
  top + (bottom - top) * fy

/-- The variables of the loop over the octaves. -/
structure Octaves (F : Type*) where
  frequency : F
  amplitude : F
  total : F
  normalisation : F
  deriving DecidableEq, Repr

def Octaves.start : Octaves F := ⟨1.0 / kBaseWavelength, 1.0, 0.0, 0.0⟩

/-- The body of the loop. -/
def octave (x z : F) (o : Octaves F) : Octaves F where
  frequency := o.frequency * kLacunarity
  amplitude := o.amplitude * kGain
  total := o.total + valueNoise hash (x * o.frequency) (z * o.frequency) * o.amplitude
  normalisation := o.normalisation + o.amplitude

/-- The fractal height before smoothing. -/
def rawHeight (x z : F) : F :=
  let o := (octave hash x z)^[kOctaves] Octaves.start
  let unit := o.total / o.normalisation * 2.0 - 1.0
  unit * kAmplitude * 0.5

def kSmoothRadius : F := kWorldSize / (kMeshResolution : F) * 0.5

/-- Ground height at a world position. -/
def heightAt (x z : F) : F :=
  let centre := rawHeight hash x z
  let left := rawHeight hash (x - kSmoothRadius) z
  let right := rawHeight hash (x + kSmoothRadius) z
  let back := rawHeight hash x (z - kSmoothRadius)
  let front := rawHeight hash x (z + kSmoothRadius)
  centre * 0.5 + (left + right + back + front) * 0.125

def kHalfWorld : F := kWorldSize * 0.5

/-- The distance over which `normalAt` takes its differences. -/
def kStep : F := kWorldSize / (kMeshResolution : F)

/-- The normal of the ground: the cross product of two tangents, normalised. -/
def normalAt (sqrt : F → F) (x z : F) : F × F × F :=
  let dx := heightAt hash (x + kStep) z - heightAt hash (x - kStep) z
  let dz := heightAt hash x (z + kStep) - heightAt hash x (z - kStep)
  let nx := -dx
  let ny := 2.0 * kStep
  let nz := -dz
  let length := sqrt (nx * nx + ny * ny + nz * nz)
  (nx / length, ny / length, nz / length)

end Field

section Bounds

variable {F : Type*} [Field F] [LinearOrder F] [IsStrictOrderedRing F] [FloorRing F]

open Set

/-- The hash is a proper fraction. -/
theorem hash_mem (x y : Int) : 0 ≤ (hash x y : F) ∧ (hash x y : F) < 1 := by
  have hlt : (mixed x y &&& 0x00FFFFFF).toNat < 0x01000000 := by
    rw [UInt32.toNat_and]
    exact Nat.lt_of_le_of_lt Nat.and_le_right (by decide)
  have hcast : ((mixed x y &&& 0x00FFFFFF).toNat : F) < (0x01000000 : F) := by exact_mod_cast hlt
  constructor
  · exact div_nonneg (Nat.cast_nonneg _) (by norm_num)
  · exact (div_lt_one (by norm_num)).mpr hcast

/-- Between lattice lines the fade stays between zero and one. -/
theorem fade_mem {t : F} (h : t ∈ Icc (0 : F) 1) : fade t ∈ Icc (0 : F) 1 := by
  obtain ⟨h₀, h₁⟩ := h
  have hrest : 0 ≤ 1 - t := sub_nonneg.mpr h₁
  constructor
  · have hfactor : 0 ≤ t * (t * 6.0 - 15.0) + 10.0 := by nlinarith [sq_nonneg (t - 1)]
    exact mul_nonneg (mul_nonneg (mul_nonneg h₀ h₀) h₀) hfactor
  · -- the fade is its own mirror image, so what is left to one is a fade as well
    have hmirror : 1 - fade t = (1 - t) ^ 3 * (6 * t ^ 2 + 3 * t + 1) := by
      rw [fade]
      norm_num
      ring
    have hleft : 0 ≤ 1 - fade t := by
      rw [hmirror]
      positivity
    exact sub_nonneg.mp hleft

omit [FloorRing F] in
/-- Interpolation does not leave the range of its ends. -/
theorem lerp_mem {a b t lo hi : F} (ha : a ∈ Icc lo hi) (hb : b ∈ Icc lo hi)
    (ht : t ∈ Icc (0 : F) 1) : a + (b - a) * t ∈ Icc lo hi := by
  have hmem := (convex_Icc lo hi).add_smul_sub_mem ha hb ht
  rwa [smul_eq_mul, mul_comm] at hmem

theorem fract_mem (x : F) : x - (⌊x⌋ : F) ∈ Icc (0 : F) 1 :=
  ⟨sub_nonneg.mpr (Int.floor_le x), (Int.fract_lt_one x).le⟩

variable {hash : Int → Int → F} (hhash : ∀ i j, 0 ≤ hash i j ∧ hash i j < 1)

include hhash

theorem valueNoise_mem (x y : F) : valueNoise hash x y ∈ Icc (0 : F) 1 := by
  have hcorner : ∀ i j, hash i j ∈ Icc (0 : F) 1 := fun i j => ⟨(hhash i j).1, (hhash i j).2.le⟩
  have hx := fade_mem (fract_mem x)
  have hy := fade_mem (fract_mem y)
  have htop := lerp_mem (hcorner ⌊x⌋ ⌊y⌋) (hcorner (⌊x⌋ + 1) ⌊y⌋) hx
  have hbottom := lerp_mem (hcorner ⌊x⌋ (⌊y⌋ + 1)) (hcorner (⌊x⌋ + 1) (⌊y⌋ + 1)) hx
  exact lerp_mem htop hbottom hy

/-- The total is a part of the normalisation. -/
structure Weighed (o : Octaves F) : Prop where
  amplitude : 0 < o.amplitude
  total_nonneg : 0 ≤ o.total
  total_le : o.total ≤ o.normalisation

omit hhash [IsStrictOrderedRing F] in
theorem weighed_start : Weighed (Octaves.start : Octaves F) where
  amplitude := by norm_num [Octaves.start]
  total_nonneg := by norm_num [Octaves.start]
  total_le := by norm_num [Octaves.start]

/-- An octave adds less to the total than to the normalisation. -/
theorem weighed_octave (x z : F) {o : Octaves F} (h : Weighed o) : Weighed (octave hash x z o) := by
  obtain ⟨hnoise₀, hnoise₁⟩ := valueNoise_mem hhash (x * o.frequency) (z * o.frequency)
  have hgain : (0 : F) < kGain := by norm_num [kGain]
  have hpart := mul_le_of_le_one_left h.amplitude.le hnoise₁
  refine ⟨mul_pos h.amplitude hgain, ?_, ?_⟩
  · exact add_nonneg h.total_nonneg (mul_nonneg hnoise₀ h.amplitude.le)
  · exact add_le_add h.total_le hpart

theorem weighed_octaves (x z : F) (n : Nat) :
    Weighed ((octave hash x z)^[n] Octaves.start) := by
  induction n with
  | zero => exact weighed_start
  | succ n ih =>
      rw [Function.iterate_succ_apply']
      exact weighed_octave hhash x z ih

theorem rawHeight_mem (x z : F) :
    rawHeight hash x z ∈ Icc (-(kAmplitude / 2) : F) (kAmplitude / 2) := by
  set o := (octave hash x z)^[kOctaves] Octaves.start with ho
  have hweighed : Weighed o := weighed_octaves hhash x z kOctaves
  have hpos : 0 < o.normalisation := by
    have hbefore := weighed_octaves hhash x z 4
    rw [ho, kOctaves, Function.iterate_succ_apply']
    exact add_pos_of_nonneg_of_pos (hbefore.total_nonneg.trans hbefore.total_le) hbefore.amplitude
  have hunit₀ : 0 ≤ o.total / o.normalisation := div_nonneg hweighed.total_nonneg hpos.le
  have hunit₁ : o.total / o.normalisation ≤ 1 := (div_le_one hpos).mpr hweighed.total_le
  have hheight : rawHeight hash x z =
      (o.total / o.normalisation * 2.0 - 1.0) * kAmplitude * 0.5 := rfl
  rw [hheight, kAmplitude]
  constructor
  · linarith
  · linarith

theorem heightAt_mem (x z : F) :
    heightAt hash x z ∈ Icc (-(kAmplitude / 2) : F) (kAmplitude / 2) := by
  obtain ⟨hc₀, hc₁⟩ := rawHeight_mem hhash x z
  obtain ⟨hl₀, hl₁⟩ := rawHeight_mem hhash (x - kSmoothRadius) z
  obtain ⟨hr₀, hr₁⟩ := rawHeight_mem hhash (x + kSmoothRadius) z
  obtain ⟨hb₀, hb₁⟩ := rawHeight_mem hhash x (z - kSmoothRadius)
  obtain ⟨hf₀, hf₁⟩ := rawHeight_mem hhash x (z + kSmoothRadius)
  rw [heightAt]
  constructor
  · linarith
  · linarith

/-- Every height is within half the amplitude of zero, so no two are further apart than the
amplitude. -/
theorem heightAt_within : (∀ x z : F,
      heightAt hash x z ∈ Icc (-(kAmplitude / 2) : F) (kAmplitude / 2)) ∧
    ∀ x z x' z' : F, |heightAt hash x z - heightAt hash x' z'| ≤ kAmplitude := by
  refine ⟨heightAt_mem hhash, fun x z x' z' => ?_⟩
  obtain ⟨hlow, hhigh⟩ := heightAt_mem hhash x z
  obtain ⟨hlow', hhigh'⟩ := heightAt_mem hhash x' z'
  apply abs_le.mpr
  constructor
  · linarith
  · linarith

end Bounds

/-- The terrain of the game. -/
theorem heightAt_within_hash : (∀ x z : ℚ,
      heightAt hash x z ∈ Set.Icc (-(kAmplitude / 2) : ℚ) (kAmplitude / 2)) ∧
    ∀ x z x' z' : ℚ, |heightAt hash x z - heightAt hash x' z'| ≤ kAmplitude :=
  heightAt_within hash_mem

end UntitledGame.Terrain
