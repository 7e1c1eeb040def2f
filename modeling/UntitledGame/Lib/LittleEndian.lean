import Mathlib.Data.Nat.Bitwise
import Mathlib.Data.List.Basic
import Mathlib.Algebra.Order.Ring.Nat

/-!
# Little-endian byte lists

A number of fixed width as the list of its bytes, least significant first.
`bytes` and `value` are the recursive forms the proofs use; `shifted` and
`assembled` are the shift-and-mask forms a byte loop computes, and are shown
to be the same functions.
-/

namespace UntitledGame.Lib.LittleEndian

/-- The `n` low bytes of `v`, least significant first. -/
def bytes : Nat → Nat → List UInt8
  | 0, _ => []
  | n + 1, v => UInt8.ofNat v :: bytes n (v / 256)

/-- The number that a little-endian byte list stands for. -/
def value : List UInt8 → Nat
  | [] => 0
  | b :: rest => b.toNat + 256 * value rest

theorem value_bytes (n v : Nat) : value (bytes n v) = v % 256 ^ n := by
  induction n generalizing v with
  | zero => simp [bytes, value, Nat.mod_one]
  | succ n ih =>
      have hb : (UInt8.ofNat v).toNat = v % 256 := UInt8.toNat_ofNat'
      rw [bytes, value, ih, hb, Nat.pow_succ', Nat.mod_mul]

/-- A number below `256 ^ n` is recovered from its `n` bytes. -/
theorem value_bytes_of_lt {n v : Nat} (h : v < 256 ^ n) : value (bytes n v) = v := by
  rw [value_bytes, Nat.mod_eq_of_lt h]

theorem value_lt (bs : List UInt8) : value bs < 256 ^ bs.length := by
  induction bs with
  | nil => simp [value]
  | cons b rest ih =>
      have hb : b.toNat < 256 := b.toNat_lt
      rw [value, List.length_cons, Nat.pow_succ']
      omega

/-- A byte list is recovered from its number. -/
theorem bytes_value (bs : List UInt8) : bytes bs.length (value bs) = bs := by
  induction bs with
  | nil => rfl
  | cons b rest ih =>
      have hb : b.toNat < 256 := b.toNat_lt
      have hlow : UInt8.ofNat (b.toNat + 256 * value rest) = b := by
        apply UInt8.toNat_inj.mp
        rw [UInt8.toNat_ofNat']
        omega
      have hhigh : (b.toNat + 256 * value rest) / 256 = value rest := by omega
      rw [List.length_cons, value, bytes, hlow, hhigh, ih]

/-- The bytes that a shifting loop emits, one for each index. -/
def shifted (n v : Nat) : List UInt8 :=
  (List.range n).map fun i => UInt8.ofNat (v >>> (8 * i))

theorem shifted_eq_bytes (n v : Nat) : shifted n v = bytes n v := by
  induction n generalizing v with
  | zero => rfl
  | succ n ih =>
      have hshift : ∀ i, v >>> (8 * (i + 1)) = (v / 256) >>> (8 * i) := by
        intro i
        rw [show 8 * (i + 1) = 8 + 8 * i by omega, Nat.shiftRight_add,
          Nat.shiftRight_eq_div_pow v 8]
      have htail : shifted n (v / 256) = (List.range n).map
          (fun i => UInt8.ofNat (v >>> (8 * (i + 1)))) := by
        simp only [shifted, hshift]
      rw [bytes, ← ih, htail, shifted, List.range_succ_eq_map]
      simp

/-- The number that a loop of `v |= byte << (8 * i)` leaves in its accumulator. -/
def assembled (bs : List UInt8) : Nat :=
  bs.zipIdx.foldl (fun v p => v ||| p.1.toNat <<< (8 * p.2)) 0

private theorem or_shiftLeft {v k b : Nat} (h : v < 2 ^ k) :
    v ||| b <<< k = v + 2 ^ k * b := by
  rw [Nat.or_comm, Nat.shiftLeft_eq, Nat.mul_comm, ← Nat.two_pow_add_eq_or_of_lt h]
  omega

private theorem foldl_or (bs : List UInt8) (k v : Nat) (h : v < 2 ^ (8 * k)) :
    (bs.zipIdx k).foldl (fun v p => v ||| p.1.toNat <<< (8 * p.2)) v =
      v + 2 ^ (8 * k) * value bs := by
  induction bs generalizing k v with
  | nil => simp [value]
  | cons b rest ih =>
      have hb : b.toNat < 256 := b.toNat_lt
      have hpow : 2 ^ (8 * (k + 1)) = 2 ^ (8 * k) * 256 := by
        rw [Nat.mul_succ, Nat.pow_add]
      have hv : v + 2 ^ (8 * k) * b.toNat < 2 ^ (8 * (k + 1)) := by
        have hle : 2 ^ (8 * k) * b.toNat ≤ 2 ^ (8 * k) * 255 :=
          Nat.mul_le_mul_left _ (by omega)
        omega
      rw [List.zipIdx_cons, List.foldl_cons, or_shiftLeft h, ih _ _ hv, hpow, value]
      rw [Nat.mul_add, Nat.mul_assoc, Nat.add_assoc]

theorem assembled_eq_value (bs : List UInt8) : assembled bs = value bs := by
  simpa [assembled] using foldl_or bs 0 0 (by simp)

end UntitledGame.Lib.LittleEndian
