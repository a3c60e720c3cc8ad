import Mathlib.Data.Rat.Floor
import Mathlib.Algebra.Order.Field.Power
import Mathlib.Tactic.NormNum

namespace Society.Numeric

/-! The values of nonnegative finite binary64 words, and ceilings of dyadic numbers. -/

section Dyadic

/-- Division that rounds up. -/
def divUp (n d : Nat) : Nat := n/d+if n%d=0 then 0 else 1

theorem divUp_le_iff {n d k : Nat} (hd : 0 < d) : divUp n d≤k ↔ n≤k*d := by
  have hn := Nat.div_add_mod n d
  have hr := Nat.mod_lt n hd
  rw [divUp,Nat.mul_comm k d]
  constructor
  · intro h
    split at h
    · have := Nat.mul_le_mul_left d (show n/d≤k by omega)
      omega
    · have := Nat.mul_le_mul_left d (show n/d+1≤k by omega)
      rw [Nat.mul_add,Nat.mul_one] at this
      omega
  · intro h
    split
    · have := Nat.le_of_mul_le_mul_left (show d*(n/d)≤d*k by omega) hd
      omega
    · have := Nat.lt_of_mul_lt_mul_left (show d*(n/d)<d*k by omega)
      omega

theorem ceil_div (n : Nat) {d : Nat} (hd : 0 < d) : ⌈(n : ℚ)/d⌉₊=divUp n d := by
  have hpos : (0 : ℚ)<d := by exact_mod_cast hd
  apply Nat.le_antisymm
  · rw [Nat.ceil_le,div_le_iff₀ hpos]
    exact_mod_cast (divUp_le_iff hd).mp (Nat.le_refl _)
  · rw [divUp_le_iff hd]
    have h := (div_le_iff₀ hpos).mp (Nat.le_ceil ((n : ℚ)/d))
    exact_mod_cast h

/-- The ceiling of a natural number times a power of two, at either sign of the exponent. -/
theorem ceil_scaled (n : Nat) (e : Int) : ⌈(n : ℚ)*2^e⌉₊=
    if 0≤e then n*2^e.toNat else divUp n (2^(-e).toNat) := by
  split
  · next he =>
    obtain ⟨k,rfl⟩ := Int.eq_ofNat_of_zero_le he
    rw [zpow_natCast,Int.toNat_natCast,← Nat.cast_ofNat (R := ℚ),← Nat.cast_pow,← Nat.cast_mul]
    exact Nat.ceil_natCast _
  · next he =>
    obtain ⟨k,hk⟩ := Int.eq_ofNat_of_zero_le (show 0≤ -e by omega)
    obtain rfl : e= -(k : Int) := by omega
    have h := ceil_div n (Nat.two_pow_pos k)
    rw [Nat.cast_pow] at h
    rw [zpow_neg,zpow_natCast,← div_eq_mul_inv,neg_neg,Int.toNat_natCast]
    exact h

end Dyadic

section Words

namespace Binary64

def exponentField (bits : Nat) : Nat := bits/2^52%2^11

def fraction (bits : Nat) : Nat := bits%2^52

def significand (bits : Nat) : Nat :=
  if exponentField bits=0 then fraction bits else 2^52+fraction bits

def binaryExponent (bits : Nat) : Int :=
  if exponentField bits=0 then -1074 else (exponentField bits : Int)-1075

/-- The number that a nonnegative finite word stands for. -/
def value (bits : Nat) : ℚ := significand bits*2^binaryExponent bits

theorem significand_lt (bits : Nat) : significand bits<2^53 := by
  have h := Nat.mod_lt bits (Nat.two_pow_pos 52)
  unfold significand fraction
  split <;> omega

theorem significand_pos {bits : Nat} (h : ¬(exponentField bits=0 ∧ fraction bits=0)) :
    0 < significand bits := by
  unfold significand
  split <;> omega

theorem value_zero {bits : Nat} (h : exponentField bits=0 ∧ fraction bits=0) :
    value bits=0 := by
  rw [value,significand,if_pos h.1,h.2,Nat.cast_zero,zero_mul]

/-- The ceiling of a scaled value is that of its scaled significand. -/
theorem ceil_value_mul (bits k : Nat) : ⌈value bits*k⌉₊=
    if 0≤binaryExponent bits then significand bits*k*2^(binaryExponent bits).toNat
    else divUp (significand bits*k) (2^(-binaryExponent bits).toNat) := by
  rw [← ceil_scaled,value,Nat.cast_mul,mul_right_comm]

/-- The values from a power of two on are those of its exponent field on. -/
theorem two_pow_le_value_iff {bits n : Nat} (h : 53 ≤ n) :
    (2 : ℚ)^n≤value bits ↔ (n : Int)-52≤binaryExponent bits := by
  have hlt : (significand bits : ℚ)<2^53 := by exact_mod_cast significand_lt bits
  have hpos : (0 : ℚ)<2^binaryExponent bits := zpow_pos (by norm_num) _
  constructor
  · intro hle
    by_contra hexp
    have hupper : (2 : ℚ)^binaryExponent bits≤2^((n : Int)-53) :=
      zpow_le_zpow_right₀ (by norm_num) (by omega)
    have hvalue : value bits<2^53*2^((n : Int)-53) := by
      calc value bits < 2^53*2^binaryExponent bits := by
            rw [value]
            exact mul_lt_mul_of_pos_right hlt hpos
        _ ≤ 2^53*2^((n : Int)-53) := mul_le_mul_of_nonneg_left hupper (by norm_num)
    have hsplit : (2 : ℚ)^53*2^((n : Int)-53)=2^n := by
      rw [← zpow_natCast,← zpow_add₀ (by norm_num : (2 : ℚ)≠0),← zpow_natCast]
      congr 1
      push_cast
      omega
    rw [hsplit] at hvalue
    exact absurd hle (not_le.mpr hvalue)
  · intro hexp
    have hnormal : exponentField bits≠0 := by
      intro hzero
      rw [binaryExponent,if_pos hzero] at hexp
      omega
    have hlow : (2 : ℚ)^52 ≤ significand bits := by
      rw [significand,if_neg hnormal]
      exact_mod_cast Nat.le_add_right _ _
    calc (2 : ℚ)^n = 2^52*2^((n : Int)-52) := by
          rw [← zpow_natCast,← zpow_natCast (2 : ℚ) 52,← zpow_add₀ (by norm_num : (2 : ℚ)≠0)]
          congr 1
          push_cast
          omega
      _ ≤ 2^52*2^binaryExponent bits :=
          mul_le_mul_of_nonneg_left (zpow_le_zpow_right₀ (by norm_num) hexp) (by norm_num)
      _ ≤ value bits := mul_le_mul_of_nonneg_right hlow hpos.le

end Binary64
end Words
end Society.Numeric
