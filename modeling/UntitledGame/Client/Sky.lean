import UntitledGame.Client.Meshes
import Mathlib.Analysis.SpecialFunctions.Trigonometric.Basic

/-!
# `sky.cpp`

What the time of day makes of the light and of the sky. The source says that one of sun
and moon is always up and that the night is never black; it has a guard for the latter,
which never has to act.

The functions of the C library are an argument of the definitions and exact in the results.
`clamp` and `mix` are those of `filament::math`, by the formulas that the library documents.
-/

namespace UntitledGame.Client

open Sim
open Mesh (Trig dot Within)

/-- What the renderer needs to draw one moment of the day. -/
structure SkyState (F : Type*) where
  sunDirection : Vec3 F
  moonDirection : Vec3 F
  lightDirection : Vec3 F
  lightColor : Vec3 F
  lightIntensity : F
  skyColor : Vec3 F
  ambientIntensity : F
  sunColor : Vec3 F
  moonColor : Vec3 F
  sunVisible : Bool
  moonVisible : Bool
  fogColor : Vec3 F
  fogDensity : F
  deriving DecidableEq, Repr

namespace Sky

structure Functions (F : Type*) extends Trig F where
  exp : F → F

section Constants

variable {F : Type*} [Field F]

def kArcAzimuth : F := 0.6
def kSunIntensity : F := 100000.0
def kMoonIntensity : F := 9000.0
def kDayAmbient : F := 42000.0
def kNightAmbient : F := 15000.0
def kTwilightAmbientBoost : F := 14000.0

def kNoonLight : Vec3 F := ⟨1.0, 0.96, 0.90⟩
def kHorizonLight : Vec3 F := ⟨1.0, 0.52, 0.26⟩
def kMoonLight : Vec3 F := ⟨0.55, 0.68, 1.0⟩
def kDaySky : Vec3 F := ⟨0.10, 0.22, 0.45⟩
def kNightSky : Vec3 F := ⟨0.020, 0.028, 0.055⟩
def kTwilightSky : Vec3 F := ⟨0.30, 0.12, 0.07⟩
def kSunDisc : Vec3 F := ⟨1.0, 0.95, 0.75⟩
def kMoonDisc : Vec3 F := ⟨0.80, 0.85, 0.95⟩

end Constants

section Evaluate

variable {F : Type*} [Field F] [LinearOrder F]

def clamp (x low high : F) : F := min high (max x low)

def smoothstep (edge0 edge1 x : F) : F :=
  let t := clamp ((x - edge0) / (edge1 - edge0)) 0.0 1.0
  t * t * (3.0 - 2.0 * t)

def neg (v : Vec3 F) : Vec3 F := ⟨-v.x, -v.y, -v.z⟩

def mix (a b : Vec3 F) (t : F) : Vec3 F :=
  ⟨a.x * (1.0 - t) + b.x * t, a.y * (1.0 - t) + b.y * t, a.z * (1.0 - t) + b.z * t⟩

variable (f : Functions F) (timeOfDay : F)

/-- Sunrise puts the sun on the horizon and noon puts it overhead. -/
def sunDirection : Vec3 F :=
  let angle := 2.0 * f.pi * (timeOfDay - 0.25)
  let elevation := f.sin angle
  let horizontal := f.cos angle
  Mesh.normalize f.toTrig
    ⟨horizontal * f.cos kArcAzimuth, elevation, horizontal * f.sin kArcAzimuth⟩

/-- How much of full daylight there is. -/
def dayAmount (sunHeight : F) : F := smoothstep (-0.10) 0.28 sunHeight

/-- Peaks as either body crosses the horizon. -/
def horizonCloseness (sunHeight : F) : F := f.exp (-(sunHeight * sunHeight) / (0.16 * 0.16))

/-- The curve of the ambient light, before the guard. -/
def ambientCurve (sunHeight : F) : F :=
  kNightAmbient + (kDayAmbient - kNightAmbient) * dayAmount sunHeight +
    kTwilightAmbientBoost * horizonCloseness f sunHeight

def skyColor (sunHeight : F) : Vec3 F :=
  mix (mix kNightSky kDaySky (dayAmount sunHeight)) kTwilightSky
    (horizonCloseness f sunHeight * 0.75)

def fogColor (sunHeight : F) : Vec3 F :=
  let sky := skyColor f sunHeight
  mix ⟨sky.x * 1.15 + 0.03, sky.y * 1.15 + 0.05, sky.z * 1.15 + 0.08⟩ kTwilightSky
    (horizonCloseness f sunHeight * 0.5)

def evaluateSky : SkyState F :=
  let sun := sunDirection f timeOfDay
  let moon := neg sun
  let sunHeight := sun.y
  let moonHeight := moon.y
  let day := 0.0 < sunHeight
  { sunDirection := sun
    moonDirection := moon
    lightDirection := if day then neg sun else neg moon
    lightColor :=
      if day then mix kHorizonLight kNoonLight (smoothstep 0.0 0.35 sunHeight) else kMoonLight
    lightIntensity :=
      if day then kSunIntensity * smoothstep (-0.02) 0.25 sunHeight
      else kMoonIntensity * smoothstep (-0.02) 0.25 moonHeight
    skyColor := skyColor f sunHeight
    ambientIntensity :=
      if ambientCurve f sunHeight < kNightAmbient then kNightAmbient
      else ambientCurve f sunHeight
    sunColor := kSunDisc
    moonColor := kMoonDisc
    sunVisible := decide (-0.12 < sunHeight)
    moonVisible := decide (-0.12 < moonHeight)
    fogColor := fogColor f sunHeight
    fogDensity := 0.0006 + 0.0004 * (1.0 - dayAmount sunHeight) }

end Evaluate

section Curves

/-- The curve over the clamped argument. -/
theorem smoothstep_eq (edge0 edge1 x : ℝ) :
    ∃ t, t = clamp ((x - edge0) / (edge1 - edge0)) 0 1 ∧ 0 ≤ t ∧ t ≤ 1 ∧
      smoothstep edge0 edge1 x = t * t * (3 - 2 * t) := by
  have hzero : (0.0 : ℝ) = 0 := by norm_num
  have hone : (1.0 : ℝ) = 1 := by norm_num
  have htwo : (2.0 : ℝ) = 2 := by norm_num
  have hthree : (3.0 : ℝ) = 3 := by norm_num
  refine ⟨_, rfl, le_min zero_le_one (le_max_right _ _), min_le_left _ _, ?_⟩
  rw [smoothstep, hzero, hone, htwo, hthree]

/-- Between nought and one, whatever is put in. -/
theorem smoothstep_mem (edge0 edge1 x : ℝ) :
    0 ≤ smoothstep edge0 edge1 x ∧ smoothstep edge0 edge1 x ≤ 1 := by
  obtain ⟨t, _, hlow, hhigh, heq⟩ := smoothstep_eq edge0 edge1 x
  rw [heq]
  constructor
  · exact mul_nonneg (mul_nonneg hlow hlow) (by linarith)
  · nlinarith [mul_nonneg (mul_nonneg hlow hlow) (sub_nonneg.mpr hhigh),
      mul_nonneg hlow (sub_nonneg.mpr hhigh), sq_nonneg (t - 1)]

/-- Above its lower edge there is something of it. -/
theorem smoothstep_pos {edge0 edge1 x : ℝ} (hedges : edge0 < edge1) (h : edge0 < x) :
    0 < smoothstep edge0 edge1 x := by
  obtain ⟨t, ht, _, hhigh, heq⟩ := smoothstep_eq edge0 edge1 x
  have hlow : 0 < t := by
    rw [ht]
    exact lt_min zero_lt_one (lt_max_of_lt_left (div_pos (sub_pos.mpr h) (sub_pos.mpr hedges)))
  rw [heq]
  exact mul_pos (mul_pos hlow hlow) (by linarith)

theorem within_mix {low high a b : Vec3 ℝ} {t : ℝ} (ha : Within low a ∧ Within a high)
    (hb : Within low b ∧ Within b high) (ht : 0 ≤ t ∧ t ≤ 1) :
    Within low (mix a b t) ∧ Within (mix a b t) high := by
  have hone : (1.0 : ℝ) = 1 := by norm_num
  have hmean : ∀ p q r : ℝ, p ≤ q → p ≤ r → p ≤ q * (1 - t) + r * t := by
    intro p q r hq hr
    nlinarith [mul_le_mul_of_nonneg_right hq (sub_nonneg.mpr ht.2),
      mul_le_mul_of_nonneg_right hr ht.1]
  have hmean' : ∀ p q r : ℝ, q ≤ p → r ≤ p → q * (1 - t) + r * t ≤ p := by
    intro p q r hq hr
    nlinarith [mul_le_mul_of_nonneg_right hq (sub_nonneg.mpr ht.2),
      mul_le_mul_of_nonneg_right hr ht.1]
  rw [mix, hone]
  exact ⟨⟨hmean _ _ _ ha.1.1 hb.1.1, hmean _ _ _ ha.1.2.1 hb.1.2.1,
      hmean _ _ _ ha.1.2.2 hb.1.2.2⟩,
    ⟨hmean' _ _ _ ha.2.1 hb.2.1, hmean' _ _ _ ha.2.2.1 hb.2.2.1,
      hmean' _ _ _ ha.2.2.2 hb.2.2.2⟩⟩

end Curves

section Exact

noncomputable def exact : Functions ℝ :=
  { sin := Real.sin, cos := Real.cos, sqrt := Real.sqrt, pi := Real.pi, exp := Real.exp }

/-- The angle of the sun on its arc. -/
noncomputable def angle (timeOfDay : ℝ) : ℝ := 2.0 * Real.pi * (timeOfDay - 0.25)

theorem angle_eq (timeOfDay : ℝ) : angle timeOfDay = 2 * Real.pi * (timeOfDay - 1 / 4) := by
  have htwo : (2.0 : ℝ) = 2 := by norm_num
  have hquarter : (0.25 : ℝ) = 1 / 4 := by norm_num
  rw [angle, htwo, hquarter]

/-- The sun's direction has length one before it is normalised. -/
theorem sunDirection_exact (timeOfDay : ℝ) :
    sunDirection exact timeOfDay =
      ⟨Real.cos (angle timeOfDay) * Real.cos kArcAzimuth, Real.sin (angle timeOfDay),
        Real.cos (angle timeOfDay) * Real.sin kArcAzimuth⟩ := by
  have hunit : ∀ θ φ : ℝ,
      Real.cos θ * Real.cos φ * (Real.cos θ * Real.cos φ) + Real.sin θ * Real.sin θ +
        Real.cos θ * Real.sin φ * (Real.cos θ * Real.sin φ) = 1 := by
    intro θ φ
    calc _ = Real.cos θ ^ 2 * (Real.sin φ ^ 2 + Real.cos φ ^ 2) + Real.sin θ ^ 2 := by ring
      _ = Real.sin θ ^ 2 + Real.cos θ ^ 2 := by rw [Real.sin_sq_add_cos_sq]; ring
      _ = 1 := Real.sin_sq_add_cos_sq θ
  simp only [sunDirection, Mesh.normalize, dot, exact, angle, hunit, Real.sqrt_one, div_one]

theorem horizonCloseness_mem (sunHeight : ℝ) :
    0 < horizonCloseness exact sunHeight ∧ horizonCloseness exact sunHeight ≤ 1 := by
  constructor
  · exact Real.exp_pos _
  · apply Real.exp_le_one_iff.mpr
    exact div_nonpos_of_nonpos_of_nonneg (neg_nonpos.mpr (mul_self_nonneg _)) (by norm_num)

/-- By day the sun is up, from sunrise to sunset. -/
theorem sin_angle_pos_iff {timeOfDay : ℝ} (h : 0 ≤ timeOfDay ∧ timeOfDay < 1) :
    0 < Real.sin (angle timeOfDay) ↔ 1 / 4 < timeOfDay ∧ timeOfDay < 3 / 4 := by
  have hpi := Real.pi_pos
  constructor
  · intro hpos
    constructor
    · by_contra hearly
      have hnight : Real.sin (angle timeOfDay) ≤ 0 := by
        apply Real.sin_nonpos_of_nonpos_of_neg_pi_le
        · rw [angle_eq]
          nlinarith
        · rw [angle_eq]
          nlinarith [h.1]
      exact absurd hpos hnight.not_gt
    · by_contra hlate
      have hshift : Real.sin (angle timeOfDay) = -Real.sin (angle timeOfDay - Real.pi) := by
        rw [Real.sin_sub_pi, neg_neg]
      have hnight : 0 ≤ Real.sin (angle timeOfDay - Real.pi) := by
        apply Real.sin_nonneg_of_nonneg_of_le_pi
        · rw [angle_eq]
          nlinarith
        · rw [angle_eq]
          nlinarith [h.2]
      linarith
  · rintro ⟨hrise, hset⟩
    apply Real.sin_pos_of_pos_of_lt_pi
    · rw [angle_eq]
      nlinarith
    · rw [angle_eq]
      nlinarith

/-- A day later the sun stands where it stood. -/
theorem sunDirection_next_day (timeOfDay : ℝ) :
    sunDirection exact (timeOfDay + 1) = sunDirection exact timeOfDay := by
  have hangle : angle (timeOfDay + 1) = angle timeOfDay + 2 * Real.pi := by
    rw [angle_eq, angle_eq]
    ring
  rw [sunDirection_exact, sunDirection_exact, hangle, Real.cos_add_two_pi, Real.sin_add_two_pi]

/-- The ambient light keeps above the night's without the guard. -/
theorem ambientCurve_mem (sunHeight : ℝ) :
    kNightAmbient < ambientCurve exact sunHeight ∧
      ambientCurve exact sunHeight ≤ kDayAmbient + kTwilightAmbientBoost := by
  obtain ⟨hday, hday'⟩ := smoothstep_mem (-0.10) 0.28 sunHeight
  obtain ⟨hnear, hnear'⟩ := horizonCloseness_mem sunHeight
  rw [ambientCurve, dayAmount]
  simp only [kNightAmbient, kDayAmbient, kTwilightAmbientBoost]
  constructor
  · linarith
  · linarith

theorem skyColor_mem (sunHeight : ℝ) :
    Within ⟨0, 0, 0⟩ (skyColor exact sunHeight) ∧
      Within (skyColor exact sunHeight) ⟨0.3, 0.22, 0.45⟩ := by
  obtain ⟨hnear, hnear'⟩ := horizonCloseness_mem sunHeight
  apply within_mix
  · apply within_mix
    · constructor <;> refine ⟨?_, ?_, ?_⟩ <;> norm_num [kNightSky]
    · constructor <;> refine ⟨?_, ?_, ?_⟩ <;> norm_num [kDaySky]
    · exact smoothstep_mem _ _ _
  · constructor <;> refine ⟨?_, ?_, ?_⟩ <;> norm_num [kTwilightSky]
  · constructor <;> linarith

theorem fogColor_mem (sunHeight : ℝ) :
    Within ⟨0, 0, 0⟩ (fogColor exact sunHeight) ∧
      Within (fogColor exact sunHeight) ⟨1, 1, 1⟩ := by
  obtain ⟨hnear, hnear'⟩ := horizonCloseness_mem sunHeight
  obtain ⟨⟨hx, hy, hz⟩, hx', hy', hz'⟩ := skyColor_mem sunHeight
  simp only at hx hy hz hx' hy' hz'
  apply within_mix
  · constructor <;> refine ⟨?_, ?_, ?_⟩ <;> (simp only; linarith)
  · constructor <;> refine ⟨?_, ?_, ?_⟩ <;> norm_num [kTwilightSky]
  · constructor <;> linarith

end Exact

section Main

/-- What holds of every moment of the day. -/
structure Sound (sky : SkyState ℝ) : Prop where
  opposite : sky.moonDirection = neg sky.sunDirection
  unit : dot sky.sunDirection sky.sunDirection = 1
  oneUp : 0 ≤ sky.sunDirection.y ∨ 0 ≤ sky.moonDirection.y
  oneVisible : sky.sunVisible = true ∨ sky.moonVisible = true
  fromAbove : sky.lightDirection.y ≤ 0
  ofTheOneUp : sky.lightDirection = neg sky.sunDirection ∧ 0 < sky.sunDirection.y ∨
    sky.lightDirection = neg sky.moonDirection ∧ 0 ≤ sky.moonDirection.y
  lit : 0 < sky.lightIntensity ∧ sky.lightIntensity ≤ kSunIntensity
  ambient : kNightAmbient < sky.ambientIntensity ∧
    sky.ambientIntensity ≤ kDayAmbient + kTwilightAmbientBoost
  colours : ∀ c ∈ [sky.lightColor, sky.skyColor, sky.fogColor, sky.sunColor, sky.moonColor],
    Within ⟨0, 0, 0⟩ c ∧ Within c ⟨1, 1, 1⟩
  haze : 0.0006 ≤ sky.fogDensity ∧ sky.fogDensity ≤ 0.001

/-- The light is that of the body that is up. -/
theorem light_cases (timeOfDay : ℝ) :
    let sunHeight := Real.sin (angle timeOfDay)
    let sky := evaluateSky exact timeOfDay
    (0 < sunHeight ∧ sky.lightDirection = neg sky.sunDirection ∧
        sky.lightColor = mix kHorizonLight kNoonLight (smoothstep 0.0 0.35 sunHeight) ∧
        sky.lightIntensity = kSunIntensity * smoothstep (-0.02) 0.25 sunHeight) ∨
      (sunHeight ≤ 0 ∧ sky.lightDirection = neg sky.moonDirection ∧
        sky.lightColor = kMoonLight ∧
        sky.lightIntensity = kMoonIntensity * smoothstep (-0.02) 0.25 (-sunHeight)) := by
  have hzero : (0.0 : ℝ) = 0 := by norm_num
  intro sunHeight sky
  have hheight : (sunDirection exact timeOfDay).y = sunHeight := by
    rw [sunDirection_exact]
  rcases lt_or_ge 0 sunHeight with hday | hnight
  · have hday' : 0.0 < (sunDirection exact timeOfDay).y := by rwa [hzero, hheight]
    refine .inl ⟨hday, ?_, ?_, ?_⟩
    · exact if_pos hday'
    · rw [← hheight]
      exact if_pos hday'
    · rw [← hheight]
      exact if_pos hday'
  · have hnight' : ¬ 0.0 < (sunDirection exact timeOfDay).y := by
      rw [hzero, hheight]
      exact hnight.not_gt
    refine .inr ⟨hnight, ?_, ?_, ?_⟩
    · exact if_neg hnight'
    · exact if_neg hnight'
    · rw [← hheight]
      exact if_neg hnight'

/-- The guard never acts. -/
theorem ambientIntensity_eq (timeOfDay : ℝ) :
    (evaluateSky exact timeOfDay).ambientIntensity =
      ambientCurve exact (sunDirection exact timeOfDay).y :=
  if_neg (ambientCurve_mem _).1.le.not_gt

theorem lightColor_mem (timeOfDay : ℝ) :
    Within ⟨0, 0, 0⟩ (evaluateSky exact timeOfDay).lightColor ∧
      Within (evaluateSky exact timeOfDay).lightColor ⟨1, 1, 1⟩ := by
  rcases light_cases timeOfDay with ⟨_, _, hcolor, _⟩ | ⟨_, _, hcolor, _⟩
  · rw [hcolor]
    apply within_mix
    · constructor <;> refine ⟨?_, ?_, ?_⟩ <;> norm_num [kHorizonLight]
    · constructor <;> refine ⟨?_, ?_, ?_⟩ <;> norm_num [kNoonLight]
    · exact smoothstep_mem _ _ _
  · rw [hcolor]
    constructor <;> refine ⟨?_, ?_, ?_⟩ <;> norm_num [kMoonLight]

theorem lightIntensity_mem (timeOfDay : ℝ) :
    0 < (evaluateSky exact timeOfDay).lightIntensity ∧
      (evaluateSky exact timeOfDay).lightIntensity ≤ kSunIntensity := by
  have hsun : (0 : ℝ) < kSunIntensity := by norm_num [kSunIntensity]
  have hmoon : (0 : ℝ) < kMoonIntensity := by norm_num [kMoonIntensity]
  have hdimmer : (kMoonIntensity : ℝ) ≤ kSunIntensity := by
    norm_num [kMoonIntensity, kSunIntensity]
  rcases light_cases timeOfDay with ⟨hday, _, _, hintensity⟩ | ⟨hnight, _, _, hintensity⟩
  · rw [hintensity]
    constructor
    · exact mul_pos hsun (smoothstep_pos (by norm_num) (by linarith))
    · exact mul_le_of_le_one_right hsun.le (smoothstep_mem _ _ _).2
  · rw [hintensity]
    constructor
    · exact mul_pos hmoon (smoothstep_pos (by norm_num) (by linarith))
    · exact (mul_le_of_le_one_right hmoon.le (smoothstep_mem _ _ _).2).trans hdimmer

theorem sound_evaluateSky (timeOfDay : ℝ) : Sound (evaluateSky exact timeOfDay) := by
  have hsun : (evaluateSky exact timeOfDay).sunDirection = sunDirection exact timeOfDay := rfl
  have hheight : (evaluateSky exact timeOfDay).sunDirection.y = Real.sin (angle timeOfDay) := by
    rw [hsun, sunDirection_exact]
  have hmoon : (evaluateSky exact timeOfDay).moonDirection.y = -Real.sin (angle timeOfDay) := by
    rw [← hheight]
    rfl
  constructor
  · rfl
  · rw [hsun, sunDirection_exact, dot]
    calc _ = Real.cos (angle timeOfDay) ^ 2 *
            (Real.sin kArcAzimuth ^ 2 + Real.cos kArcAzimuth ^ 2) +
          Real.sin (angle timeOfDay) ^ 2 := by ring
      _ = Real.sin (angle timeOfDay) ^ 2 + Real.cos (angle timeOfDay) ^ 2 := by
          rw [Real.sin_sq_add_cos_sq]
          ring
      _ = 1 := Real.sin_sq_add_cos_sq _
  · rw [hheight, hmoon]
    rcases le_total 0 (Real.sin (angle timeOfDay)) with hup | hdown
    · exact .inl hup
    · exact .inr (neg_nonneg.mpr hdown)
  · -- both are shown as long as neither is far below the horizon
    have hthreshold : (-0.12 : ℝ) < 0 := by norm_num
    rcases le_total 0 (Real.sin (angle timeOfDay)) with hup | hdown
    · exact .inl (decide_eq_true (hthreshold.trans_le (hheight ▸ hup)))
    · exact .inr (decide_eq_true (hthreshold.trans_le (hmoon ▸ neg_nonneg.mpr hdown)))
  · rcases light_cases timeOfDay with ⟨hday, hlight, _⟩ | ⟨hnight, hlight, _⟩
    · rw [hlight, neg, hheight]
      exact neg_nonpos.mpr hday.le
    · rw [hlight, neg, hmoon, neg_neg]
      exact hnight
  · rcases light_cases timeOfDay with ⟨hday, hlight, _⟩ | ⟨hnight, hlight, _⟩
    · exact .inl ⟨hlight, hheight ▸ hday⟩
    · exact .inr ⟨hlight, hmoon ▸ neg_nonneg.mpr hnight⟩
  · exact lightIntensity_mem timeOfDay
  · rw [ambientIntensity_eq]
    exact ambientCurve_mem _
  · have hsky := skyColor_mem (sunDirection exact timeOfDay).y
    simp only [List.forall_mem_cons, List.not_mem_nil, false_imp_iff, implies_true, and_true]
    refine ⟨lightColor_mem timeOfDay, ⟨hsky.1, hsky.2.trans ?_⟩, fogColor_mem _, ?_, ?_⟩
    · refine ⟨?_, ?_, ?_⟩ <;> norm_num
    · constructor <;> refine ⟨?_, ?_, ?_⟩ <;> norm_num [evaluateSky, kSunDisc]
    · constructor <;> refine ⟨?_, ?_, ?_⟩ <;> norm_num [evaluateSky, kMoonDisc]
  · obtain ⟨hday, hday'⟩ := smoothstep_mem (-0.10) 0.28 (sunDirection exact timeOfDay).y
    rw [evaluateSky]
    simp only [dayAmount]
    constructor <;> linarith

/-- At every moment one of sun and moon is up and lights the world from above, and the night is
never black, without the guard; the sun is up from sunrise to sunset, and a day later the sky
looks the same. -/
theorem sky_every_day (timeOfDay : ℝ) (h : 0 ≤ timeOfDay ∧ timeOfDay < 1) (days : Nat) :
    Sound (evaluateSky exact timeOfDay) ∧
      (evaluateSky exact timeOfDay).ambientIntensity =
        ambientCurve exact (evaluateSky exact timeOfDay).sunDirection.y ∧
      (0 < (evaluateSky exact timeOfDay).sunDirection.y ↔
        1 / 4 < timeOfDay ∧ timeOfDay < 3 / 4) ∧
      evaluateSky exact (timeOfDay + days) = evaluateSky exact timeOfDay := by
  refine ⟨sound_evaluateSky timeOfDay, ambientIntensity_eq timeOfDay, ?_, ?_⟩
  · have hsun : (evaluateSky exact timeOfDay).sunDirection = sunDirection exact timeOfDay := rfl
    rw [hsun, sunDirection_exact]
    exact sin_angle_pos_iff h
  · induction days with
    | zero => rw [Nat.cast_zero, add_zero]
    | succ days ih =>
        rw [Nat.cast_succ, ← add_assoc, evaluateSky, sunDirection_next_day]
        exact ih

/-- Noon, two days later. -/
theorem sky_every_day_noon :
    0 < (evaluateSky exact (1 / 2)).sunDirection.y ∧
      evaluateSky exact (1 / 2 + (2 : Nat)) = evaluateSky exact (1 / 2) := by
  obtain ⟨_, _, hup, hsame⟩ := sky_every_day (1 / 2) (by norm_num) 2
  exact ⟨hup.mpr (by norm_num), hsame⟩

end Main

end Sky

end UntitledGame.Client
