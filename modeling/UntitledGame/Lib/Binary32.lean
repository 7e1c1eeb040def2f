import Mathlib

/-!
# Single precision numbers

Which 32-bit patterns are numbers, and how IEEE comparison treats those that are
not. A pattern whose exponent bits are all ones is an infinity or no number at
all, and every comparison with something that is no number is false.

`clamp_mem_iff` is about clamping by two comparisons: the result is within the
bounds exactly when the value was a number.
-/

namespace UntitledGame.Lib.Binary32

open Float.Model

section Comparison

/-- Two unpacked floats have an order if and only if both are numbers. -/
theorem compare_isSome_iff (a b : UnpackedFloat) :
    (a.compare b).isSome ↔ a.isNaN = false ∧ b.isNaN = false := by
  fun_cases UnpackedFloat.compare a b
  case case4 hb _ => cases b <;> simp_all [UnpackedFloat.isNaN]
  case case5 hb _ => cases b <;> simp_all [UnpackedFloat.isNaN]
  case case6 ha _ => cases a <;> simp_all [UnpackedFloat.isNaN]
  case case7 ha _ => cases a <;> simp_all [UnpackedFloat.isNaN]
  all_goals simp [UnpackedFloat.isNaN]

/-- Finite floats of one sign are ordered by their exponents, then by their mantissas. -/
theorem compare_finite_swap (m₁ m₂ : Nat) (e₁ e₂ : Int) :
    (compare e₂ e₁).then (compare m₂ m₁) = ((compare e₁ e₂).then (compare m₁ m₂)).swap := by
  rw [Ordering.swap_then, Int.compare_swap, Nat.compare_swap]

/-- Comparing the other way round. -/
theorem compare_swap (a b : UnpackedFloat) : b.compare a = (a.compare b).map Ordering.swap := by
  fun_cases UnpackedFloat.compare a b
  case case1 => cases b <;> rfl
  case case3 s t => cases s <;> cases t <;> rfl
  case case13 m₁ e₁ _ m₂ e₂ _ =>
    exact congrArg (fun o => some o.swap) (compare_finite_swap m₁ m₂ e₁ e₂)
  case case16 m₁ e₁ _ m₂ e₂ _ => exact congrArg some (compare_finite_swap m₁ m₂ e₁ e₂)
  all_goals simp_all [UnpackedFloat.compare]

/-- The order of two numbers, read in both directions. -/
theorem exists_compare {a b : Float32} (ha : a.isNaN = false) (hb : b.isNaN = false) :
    ∃ o : Ordering, a.toModel.unpack.compare b.toModel.unpack = some o ∧
      b.toModel.unpack.compare a.toModel.unpack = some o.swap := by
  obtain ⟨o, ho⟩ := Option.isSome_iff_exists.mp ((compare_isSome_iff _ _).mpr ⟨ha, hb⟩)
  refine ⟨o, ho, ?_⟩
  rw [compare_swap, ho]
  rfl

theorem lt_iff (a b : Float32) :
    a < b ↔ a.toModel.unpack.compare b.toModel.unpack = some .lt := by
  have hlt : a < b ↔ decide (a.toModel < b.toModel) = true := Iff.rfl
  rw [hlt, decide_eq_true_iff]
  exact beq_iff_eq

theorem le_iff (a b : Float32) :
    a ≤ b ↔ (a.toModel.unpack.compare b.toModel.unpack).any (·.isLE) = true := by
  have hle : a ≤ b ↔ decide (a.toModel ≤ b.toModel) = true := Iff.rfl
  rw [hle, decide_eq_true_iff]
  exact Iff.rfl

/-- Nothing is below, or at most, what is no number. -/
theorem isNaN_of_le {a b : Float32} (h : a ≤ b) : a.isNaN = false ∧ b.isNaN = false := by
  rw [le_iff] at h
  apply (compare_isSome_iff _ _).mp
  cases hc : a.toModel.unpack.compare b.toModel.unpack with
  | none => simp [hc] at h
  | some o => rfl

/-- Numbers are ordered totally. -/
theorem not_lt_iff_le {a b : Float32} (ha : a.isNaN = false) (hb : b.isNaN = false) :
    ¬a < b ↔ b ≤ a := by
  obtain ⟨o, hab, hba⟩ := exists_compare ha hb
  rw [lt_iff, le_iff, hab, hba]
  cases o with
  | lt => simp
  | eq => simp
  | gt => simp

theorem le_refl_of_number {a : Float32} (ha : a.isNaN = false) : a ≤ a := by
  apply (not_lt_iff_le ha ha).mp
  intro hlt
  obtain ⟨o, haa, haa'⟩ := exists_compare ha ha
  rw [lt_iff, haa, Option.some.injEq] at hlt
  rw [haa, hlt] at haa'
  cases haa'

/-- Comparisons with what is no number are false. -/
theorem not_lt_of_isNaN {a b : Float32} (h : a.isNaN = true ∨ b.isNaN = true) : ¬a < b := by
  intro hlt
  rw [lt_iff] at hlt
  have hnumbers := (compare_isSome_iff a.toModel.unpack b.toModel.unpack).mp (by rw [hlt]; rfl)
  rcases h with h | h
  · exact absurd (hnumbers.1.symm.trans h) (by decide)
  · exact absurd (hnumbers.2.symm.trans h) (by decide)

/-- Clamping by two comparisons brings exactly the numbers between the bounds. -/
theorem clamp_mem_iff {v low high : Float32} (h : low ≤ high) :
    (low ≤ (if v < low then low else if high < v then high else v) ∧
        (if v < low then low else if high < v then high else v) ≤ high) ↔
      v.isNaN = false := by
  obtain ⟨hlow, hhigh⟩ := isNaN_of_le h
  cases hv : v.isNaN with
  | true =>
      rw [if_neg (not_lt_of_isNaN (Or.inl hv)), if_neg (not_lt_of_isNaN (Or.inr hv))]
      constructor
      · rintro ⟨hle, -⟩
        exact (isNaN_of_le hle).2.symm.trans hv |>.symm
      · intro hfalse
        cases hfalse
  | false =>
      refine iff_of_true ?_ rfl
      split
      · exact ⟨le_refl_of_number hlow, h⟩
      · rename_i hge
        split
        · exact ⟨h, le_refl_of_number hhigh⟩
        · rename_i hle
          exact ⟨(not_lt_iff_le hv hlow).mp hge, (not_lt_iff_le hhigh hv).mp hle⟩

end Comparison

section Patterns

open UnpackedFloat (unpackExponent unpackMantissa)

variable {spec : Format}

/-- No number: an exponent of ones, and a mantissa that is not zero. -/
theorem isNaN_unpack (v : BitVec spec.numBits) :
    (UnpackedFloat.unpack spec v).isNaN = true ↔
      unpackExponent v = -1#_ ∧ unpackMantissa v ≠ 0#_ := by
  simp only [UnpackedFloat.unpack]
  split
  · rename_i hones
    split
    · rename_i hzero
      exact iff_of_false Bool.false_ne_true fun h => h.2 hzero
    · rename_i hsome
      exact iff_of_true rfl ⟨hones, hsome⟩
  · rename_i hones
    refine iff_of_false ?_ fun h => hones h.1
    split
    · split
      · exact Bool.false_ne_true
      · exact Bool.false_ne_true
    · exact Bool.false_ne_true

/-- Finite: any other exponent. -/
theorem isFinite_unpack (v : BitVec spec.numBits) :
    (UnpackedFloat.unpack spec v).isFinite = true ↔ unpackExponent v ≠ -1#_ := by
  simp only [UnpackedFloat.unpack]
  split
  · rename_i hones
    refine iff_of_false ?_ (not_not_intro hones)
    split
    · exact Bool.false_ne_true
    · exact Bool.false_ne_true
  · rename_i hones
    refine iff_of_true ?_ hones
    split
    · split
      · rfl
      · rfl
    · rfl

theorem toNat_ones : (-(BitVec.ofNat spec.exponentBits 1)).toNat = 2 ^ spec.exponentBits - 1 := by
  rw [BitVec.neg_one_eq_allOnes, BitVec.toNat_allOnes]

/-- The exponent of an unpacked finite float fits below the ones. -/
theorem unpack_finite_fits (hbits : 2 ≤ spec.exponentBits) {v : BitVec spec.numBits}
    {sign : UnpackedFloat.Sign} {m : Nat} {e : Int} {hm : 0 < m}
    (h : UnpackedFloat.unpack spec v = .finite sign m e hm) :
    (e + spec.exponentBias + spec.mantissaBitsWithoutImplicit).toNat + 1 <
      2 ^ spec.exponentBits := by
  have hbound : (unpackExponent v).toNat < 2 ^ spec.exponentBits := BitVec.isLt _
  have hfour : 2 ^ 2 ≤ 2 ^ spec.exponentBits := Nat.pow_le_pow_right (by decide) hbits
  simp only [UnpackedFloat.unpack] at h
  split at h
  · split at h
    · cases h
    · cases h
  · rename_i hones
    have hne : (unpackExponent v).toNat ≠ 2 ^ spec.exponentBits - 1 := by
      intro heq
      exact hones (BitVec.eq_of_toNat_eq (heq.trans toNat_ones.symm))
    split at h
    · rename_i hzero
      split at h
      · cases h
      · cases h
        rw [hzero, BitVec.toNat_zero]
        omega
    · cases h
      omega

/-- Packing such a float does not overflow it. -/
theorem pack_finite_exponent (sign : UnpackedFloat.Sign) {m : Nat} {e : Int} (hm : 0 < m)
    (hfits : (e + spec.exponentBias + spec.mantissaBitsWithoutImplicit).toNat + 1 <
      2 ^ spec.exponentBits) :
    unpackExponent (UnpackedFloat.pack spec (.finite sign m e hm)) ≠ -1#_ := by
  intro h
  have hones := congrArg BitVec.toNat h
  rw [toNat_ones] at hones
  simp only [UnpackedFloat.pack, if_neg (Nat.not_le.mpr hfits)] at hones
  split at hones
  · rw [UnpackedFloat.unpackExponent_packComponents, BitVec.toNat_ofNat,
      Nat.mod_eq_of_lt (by omega)] at hones
    omega
  · rw [UnpackedFloat.unpackExponent_packComponents, BitVec.toNat_zero] at hones
    omega

theorem not_isNaN_of_isFinite {u : UnpackedFloat} (h : u.isFinite = true) : u.isNaN = false := by
  cases u with
  | notANumber => cases h
  | infinity sign => cases h
  | zero sign => rfl
  | finite sign m e hm => rfl

theorem leadingBit_ne_zero {w : Nat} (hw : 0 < w) : 1#w <<< (w - 1) ≠ 0#w := by
  intro h
  have hzero := congrArg BitVec.toNat h
  have hone : 1 % 2 ^ w = 1 := Nat.mod_eq_of_lt (Nat.one_lt_two_pow (Nat.ne_of_gt hw))
  have hlead : 2 ^ (w - 1) < 2 ^ w := Nat.pow_lt_pow_right (by decide) (by omega)
  rw [BitVec.toNat_shiftLeft, BitVec.toNat_ofNat, hone, Nat.shiftLeft_eq, Nat.one_mul,
    Nat.mod_eq_of_lt hlead, BitVec.toNat_zero] at hzero
  exact absurd hzero (Nat.ne_of_gt (Nat.two_pow_pos _))

/-- Unpacking and packing once more keeps what is no number and what is finite. -/
theorem unpack_pack_unpack (hbits : 2 ≤ spec.exponentBits) (v : BitVec spec.numBits) :
    let u := UnpackedFloat.unpack spec v
    (UnpackedFloat.unpack spec (UnpackedFloat.pack spec u)).isNaN = u.isNaN ∧
      (UnpackedFloat.unpack spec (UnpackedFloat.pack spec u)).isFinite = u.isFinite := by
  intro u
  have hfinite : unpackExponent (UnpackedFloat.pack spec u) ≠ -1#_ → u.isFinite = true →
      (UnpackedFloat.unpack spec (UnpackedFloat.pack spec u)).isNaN = u.isNaN ∧
        (UnpackedFloat.unpack spec (UnpackedFloat.pack spec u)).isFinite = u.isFinite := by
    intro hexponent hu
    have hpacked := (isFinite_unpack _).mpr hexponent
    exact ⟨(not_isNaN_of_isFinite hpacked).trans (not_isNaN_of_isFinite hu).symm,
      hpacked.trans hu.symm⟩
  cases hu : u with
  | notANumber =>
      have hexponent : unpackExponent (UnpackedFloat.packedNaN spec) = -1#_ :=
        UnpackedFloat.unpackExponent_packComponents
      have hmantissa : unpackMantissa (UnpackedFloat.packedNaN spec) ≠ 0#_ := by
        rw [UnpackedFloat.packedNaN, UnpackedFloat.unpackMantissa_packComponents]
        exact leadingBit_ne_zero spec.hm
      refine ⟨(isNaN_unpack _).mpr ⟨hexponent, hmantissa⟩, Bool.eq_false_iff.mpr fun h => ?_⟩
      exact (isFinite_unpack _).mp h hexponent
  | infinity sign =>
      have hexponent : unpackExponent (UnpackedFloat.packedInfinity spec sign) = -1#_ :=
        UnpackedFloat.unpackExponent_packComponents
      have hmantissa : unpackMantissa (UnpackedFloat.packedInfinity spec sign) = 0#_ :=
        UnpackedFloat.unpackMantissa_packComponents
      refine ⟨Bool.eq_false_iff.mpr fun h => ?_, Bool.eq_false_iff.mpr fun h => ?_⟩
      · exact ((isNaN_unpack _).mp h).2 hmantissa
      · exact (isFinite_unpack _).mp h hexponent
  | zero sign =>
      rw [hu] at hfinite
      refine hfinite (fun h => ?_) rfl
      have hzero : unpackExponent (UnpackedFloat.packedZero spec sign) = 0#_ :=
        UnpackedFloat.unpackExponent_packComponents
      have hones := congrArg BitVec.toNat (hzero.symm.trans h)
      have hfour : 2 ^ 2 ≤ 2 ^ spec.exponentBits := Nat.pow_le_pow_right (by decide) hbits
      rw [toNat_ones, BitVec.toNat_zero] at hones
      omega
  | finite sign m e hm =>
      rw [hu] at hfinite
      exact hfinite (pack_finite_exponent sign hm (unpack_finite_fits hbits hu)) rfl

/-- The pattern stands for a number, an infinity being one. -/
def IsNumber (bits : UInt32) : Prop := bits &&& 0x7FFFFFFF ≤ 0x7F800000

/-- The pattern stands for a finite number. -/
def IsFinite (bits : UInt32) : Prop := bits &&& 0x7FFFFFFF < 0x7F800000

instance : DecidablePred IsNumber := fun bits =>
  inferInstanceAs (Decidable (bits &&& 0x7FFFFFFF ≤ 0x7F800000))

instance : DecidablePred IsFinite := fun bits =>
  inferInstanceAs (Decidable (bits &&& 0x7FFFFFFF < 0x7F800000))

theorem toNat_magnitude (bits : UInt32) : (bits &&& 0x7FFFFFFF).toNat = bits.toNat % 2 ^ 31 := by
  rw [UInt32.toNat_and]
  exact Nat.and_two_pow_sub_one_eq_mod bits.toNat 31

theorem exponent_eq_ones_iff (bits : UInt32) :
    @unpackExponent Format.binary32 bits.toBitVec = -1#_ ↔ bits.toNat / 2 ^ 23 % 2 ^ 8 = 255 := by
  have hexponent : (@unpackExponent Format.binary32 bits.toBitVec).toNat =
      bits.toNat / 2 ^ 23 % 2 ^ 8 := by
    simp only [unpackExponent, BitVec.toNat_cast, BitVec.extractLsb_toNat]
    rw [Nat.shiftRight_eq_div_pow]
    rfl
  rw [← hexponent]
  constructor
  · intro h
    rw [h]
    rfl
  · intro h
    exact BitVec.eq_of_toNat_eq h

theorem mantissa_eq_zero_iff (bits : UInt32) :
    @unpackMantissa Format.binary32 bits.toBitVec = 0#_ ↔ bits.toNat % 2 ^ 23 = 0 := by
  have hmantissa : (@unpackMantissa Format.binary32 bits.toBitVec).toNat = bits.toNat % 2 ^ 23 := by
    simp only [unpackMantissa, BitVec.toNat_cast, BitVec.extractLsb_toNat]
    rw [Nat.shiftRight_zero]
    rfl
  rw [← hmantissa]
  constructor
  · intro h
    rw [h]
    rfl
  · intro h
    exact BitVec.eq_of_toNat_eq h

/-- The patterns that are read as numbers. -/
theorem isNaN_ofBits_iff (bits : UInt32) : (Float32.ofBits bits).isNaN = false ↔ IsNumber bits := by
  have hunpacked : (Float32.ofBits bits).isNaN =
      (UnpackedFloat.unpack Format.binary32 bits.toBitVec).isNaN :=
    (@unpack_pack_unpack Format.binary32 (by decide) bits.toBitVec).1
  have hbound := bits.toNat_lt
  rw [hunpacked, Bool.eq_false_iff, ne_eq, isNaN_unpack, exponent_eq_ones_iff, ne_eq,
    mantissa_eq_zero_iff, IsNumber, UInt32.le_iff_toNat_le, toNat_magnitude]
  simp only [UInt32.reduceToNat]
  omega

/-- The patterns that are read as finite numbers. -/
theorem isFinite_ofBits_iff (bits : UInt32) :
    (Float32.ofBits bits).isFinite = true ↔ IsFinite bits := by
  have hunpacked : (Float32.ofBits bits).isFinite =
      (UnpackedFloat.unpack Format.binary32 bits.toBitVec).isFinite :=
    (@unpack_pack_unpack Format.binary32 (by decide) bits.toBitVec).2
  have hbound := bits.toNat_lt
  rw [hunpacked, isFinite_unpack, ne_eq, exponent_eq_ones_iff, IsFinite, UInt32.lt_iff_toNat_lt,
    toNat_magnitude]
  simp only [UInt32.reduceToNat]
  omega

end Patterns

end UntitledGame.Lib.Binary32
