import Society.Binary64
import Society.Boundary.Cost
import Society.Kernel.Values

namespace Society.Boundary
open Society.Numeric Society.Numeric.Binary64
open Society.Kernel (ProviderCostBinary64 Ranged UsdMicros i64Max)

/-! Both conversions of a provider cost to millionths of a dollar against the exact ceiling. -/

section Conversions
variable (v : ProviderCostBinary64)

/-- The exact cost in millionths, rounded up. -/
def exactMicroUsd (bits : Nat) : Nat := ⌈value bits*1000000⌉₊

/-- The same cost on the side of the Pi boundary. -/
def providerCost (v : ProviderCostBinary64) : ProviderCost := ⟨v.bits⟩

theorem exponentField_eq : exponentField v.bits=v.bits/2^52 := by
  have h := v.valid
  unfold exponentField
  omega

theorem exactMicroUsd_eq (bits : Nat) : exactMicroUsd bits=
    if 0≤binaryExponent bits then significand bits*1000000*2^(binaryExponent bits).toNat
    else divUp (significand bits*1000000) (2^(-binaryExponent bits).toNat) := by
  have h := ceil_value_mul bits 1000000
  rwa [Nat.cast_ofNat] at h

theorem exactMicroUsd_zero {bits : Nat} (h : exponentField bits=0 ∧ fraction bits=0) :
    exactMicroUsd bits=0 := by
  rw [exactMicroUsd,value_zero h,zero_mul,Nat.ceil_zero]

/-- A right shift by the width of the numbers or more leaves one. -/
theorem divUp_far {n k : Nat} (hn : 0 < n) (hk : n<2^k) : divUp n (2^k)=1 := by
  rw [divUp,Nat.div_eq_of_lt hk,Nat.mod_eq_of_lt hk,if_neg (by omega)]

/-- The boundary's conversion, by the sign of the exponent. -/
theorem ceilToMicroUsd_eq : (providerCost v).ceilToMicroUsd=
    if 0≤binaryExponent v.bits then
      if (binaryExponent v.bits).toNat<128 then .ok (exactMicroUsd v.bits%2^128)
      else .error .overflow
    else .ok (exactMicroUsd v.bits) := by
  have hunfold : (providerCost v).ceilToMicroUsd=
      if exponentField v.bits=0 ∧ fraction v.bits=0 then .ok 0 else
      if 2^128 ≤ significand v.bits*1000000 then .error .overflow else
      let e := if exponentField v.bits=0 then (-1074 : Int)
        else (exponentField v.bits : Int)-1023-52
      if 0≤e then
        if e.toNat<128 then .ok (significand v.bits*1000000*2^e.toNat%2^128) else .error .overflow
      else
        if 128 ≤ (-e).toNat then .ok 1
        else .ok (divUp (significand v.bits*1000000) (2^(-e).toNat)) := rfl
  rw [hunfold]
  by_cases hzero : exponentField v.bits=0 ∧ fraction v.bits=0
  · have he : ¬0≤binaryExponent v.bits := by
      rw [binaryExponent,if_pos hzero.1]
      decide
    rw [if_pos hzero,if_neg he,exactMicroUsd_zero hzero]
  · have hnumerator : significand v.bits*1000000<2^73 := by
      have := significand_lt v.bits
      omega
    have hexponent : (if exponentField v.bits=0 then (-1074 : Int)
        else (exponentField v.bits : Int)-1023-52)=binaryExponent v.bits := by
      unfold binaryExponent
      split <;> omega
    rw [hexponent,if_neg hzero,if_neg (by omega),exactMicroUsd_eq]
    by_cases he : 0≤binaryExponent v.bits
    · simp only [if_pos he]
    · simp only [if_neg he]
      by_cases hshift : 128 ≤ (-binaryExponent v.bits).toNat
      · have hpos : 0 < significand v.bits*1000000 := Nat.mul_pos (significand_pos hzero) (by decide)
        have hfar : significand v.bits*1000000<2^(-binaryExponent v.bits).toNat :=
          lt_of_lt_of_le hnumerator (Nat.pow_le_pow_right (by decide) (by omega))
        rw [divUp_far hpos hfar]
        exact if_pos hshift
      · exact if_neg hshift

/-- The kernel's conversion, by the sign of the exponent. -/
theorem ceilMicroUsd_eq : v.ceilMicroUsd=
    if 0≤binaryExponent v.bits then
      if (binaryExponent v.bits).toNat<128 then
        Ranged.new 0 i64Max (exactMicroUsd v.bits%2^128) else none
    else Ranged.new 0 i64Max (exactMicroUsd v.bits) := by
  unfold ProviderCostBinary64.ceilMicroUsd
  rw [← exponentField_eq]
  change (if exponentField v.bits=0 ∧ fraction v.bits=0 then _ else _)=_
  by_cases hzero : exponentField v.bits=0 ∧ fraction v.bits=0
  · have he : ¬0≤binaryExponent v.bits := by
      rw [binaryExponent,if_pos hzero.1]
      decide
    rw [if_pos hzero,if_neg he,exactMicroUsd_zero hzero]
    rfl
  · have hnumerator : significand v.bits*1000000<2^73 := by
      have := significand_lt v.bits
      omega
    rw [if_neg hzero,exactMicroUsd_eq]
    by_cases he : 0≤binaryExponent v.bits
    · have hlarge : exponentField v.bits≥1075 ∧
          exponentField v.bits-1075=(binaryExponent v.bits).toNat := by
        unfold binaryExponent at he ⊢
        split at he <;> omega
      rw [if_pos he,if_pos he,if_pos hlarge.1,hlarge.2]
      rfl
    · have hsmall : ¬exponentField v.bits≥1075 := by
        unfold binaryExponent at he
        split at he <;> omega
      have hplaces : (if exponentField v.bits=0 then 1074 else 1075-exponentField v.bits)=
          (-binaryExponent v.bits).toNat := by
        unfold binaryExponent
        split <;> omega
      rw [if_neg he,if_neg he,if_neg hsmall,hplaces]
      by_cases hshift : (-binaryExponent v.bits).toNat≥128
      · have hpos : 0 < significand v.bits*1000000 := Nat.mul_pos (significand_pos hzero) (by decide)
        have hfar : significand v.bits*1000000<2^(-binaryExponent v.bits).toNat :=
          lt_of_lt_of_le hnumerator (Nat.pow_le_pow_right (by decide) (by omega))
        rw [divUp_far hpos hfar]
        exact if_pos hshift
      · exact if_neg hshift

theorem exactMicroUsd_fits_iff (bits : Nat) :
    exactMicroUsd bits<2^128 ↔ value bits*1000000≤2^128-1 := by
  have h : ⌈value bits*1000000⌉₊≤2^128-1 ↔ value bits*1000000≤((2^128-1 : Nat) : ℚ) := Nat.ceil_le
  have hcast : ((2^128-1 : Nat) : ℚ)=2^128-1 := by norm_num
  rw [hcast] at h
  rw [← h,exactMicroUsd]
  omega

/-- Costs from `2^180` on are those whose left shift the arithmetic refuses. -/
theorem shift_refused_iff (bits : Nat) :
    (2 : ℚ)^180≤value bits ↔ 0≤binaryExponent bits ∧ ¬(binaryExponent bits).toNat<128 := by
  rw [two_pow_le_value_iff (by decide)]
  omega

theorem exactMicroUsd_shifted {bits : Nat} (he : 0≤binaryExponent bits) :
    2^(binaryExponent bits).toNat≤exactMicroUsd bits := by
  have hnormal : exponentField bits≠0 := by
    intro hzero
    rw [binaryExponent,if_pos hzero] at he
    exact absurd he (by decide)
  have hsignificand : 1 ≤ significand bits*1000000 := by
    rw [significand,if_neg hnormal]
    omega
  rw [exactMicroUsd_eq,if_pos he]
  exact Nat.le_mul_of_pos_left _ hsignificand

theorem exactMicroUsd_small {bits : Nat} (he : ¬0≤binaryExponent bits) :
    exactMicroUsd bits<2^128 := by
  have hsignificand := significand_lt bits
  have hceil : exactMicroUsd bits ≤ significand bits*1000000 := by
    rw [exactMicroUsd_eq,if_neg he,divUp_le_iff (Nat.two_pow_pos _)]
    exact Nat.le_mul_of_pos_right _ (Nat.two_pow_pos _)
  omega

variable {v}

/-- No high bits are lost. -/
def Fits (v : ProviderCostBinary64) : Prop :=
  exactMicroUsd v.bits<2^128 ∨ 0≤binaryExponent v.bits ∧ ¬(binaryExponent v.bits).toNat<128

theorem Fits.ceilToMicroUsd (h : Fits v) : (providerCost v).ceilToMicroUsd=
    if exactMicroUsd v.bits<2^128 then .ok (exactMicroUsd v.bits) else .error .overflow := by
  rw [ceilToMicroUsd_eq v]
  by_cases he : 0≤binaryExponent v.bits
  · by_cases hplaces : (binaryExponent v.bits).toNat<128
    · have hfits : exactMicroUsd v.bits<2^128 := h.resolve_right (fun hr => hr.2 hplaces)
      rw [if_pos he,if_pos hplaces,if_pos hfits,Nat.mod_eq_of_lt hfits]
    · have hlarge := exactMicroUsd_shifted he
      have hpow : 2^128≤2^(binaryExponent v.bits).toNat :=
        Nat.pow_le_pow_right (by decide) (by omega)
      rw [if_pos he,if_neg hplaces,if_neg (by omega)]
  · rw [if_neg he,if_pos (exactMicroUsd_small he)]

theorem Fits.ceilMicroUsd (h : Fits v) :
    v.ceilMicroUsd=Ranged.new 0 i64Max (exactMicroUsd v.bits) := by
  rw [ceilMicroUsd_eq v]
  by_cases he : 0≤binaryExponent v.bits
  · by_cases hplaces : (binaryExponent v.bits).toNat<128
    · have hfits : exactMicroUsd v.bits<2^128 := h.resolve_right (fun hr => hr.2 hplaces)
      rw [if_pos he,if_pos hplaces,Nat.mod_eq_of_lt hfits]
    · have hlarge := exactMicroUsd_shifted he
      have hpow : 2^128≤2^(binaryExponent v.bits).toNat :=
        Nat.pow_le_pow_right (by decide) (by omega)
      have hover : ¬(0≤exactMicroUsd v.bits ∧ exactMicroUsd v.bits ≤ i64Max) := by
        have : i64Max<2^128 := by decide
        omega
      rw [if_pos he,if_neg hplaces,Ranged.new,dif_neg hover]
  · rw [if_neg he]

variable (v)

/-- The boundary and the kernel both answer a cost exactly, one within 128 bits and the other within
63, agree where both do, and never make a positive cost zero, just when the cost in millionths fits
in 128 bits or the cost is at least `2^180`. In between the left shift drops the high bits. -/
theorem cost_conversions_exact_iff :
    ((∀ n,(providerCost v).ceilToMicroUsd=.ok n → n=exactMicroUsd v.bits) ∧
      ((providerCost v).ceilToMicroUsd=.error .overflow ↔ 2^128≤exactMicroUsd v.bits) ∧
      (∀ m : UsdMicros,v.ceilMicroUsd=some m ↔
        exactMicroUsd v.bits ≤ i64Max ∧ m.val=exactMicroUsd v.bits) ∧
      (∀ n m,(providerCost v).ceilToMicroUsd=.ok n → v.ceilMicroUsd=some m → n=m.val) ∧
      (0 < value v.bits → (providerCost v).ceilToMicroUsd≠.ok 0 ∧
        v.ceilMicroUsd≠some UsdMicros.zero)) ↔
    value v.bits*1000000≤2^128-1 ∨ 2^180≤value v.bits := by
  rw [← exactMicroUsd_fits_iff,shift_refused_iff]
  constructor
  · rintro ⟨hexact,_⟩
    by_contra hnot
    obtain ⟨hwide,hshift⟩ := not_or.mp hnot
    have he : 0≤binaryExponent v.bits := by
      by_contra he
      exact hwide (exactMicroUsd_small he)
    have hplaces : (binaryExponent v.bits).toNat<128 := by
      by_contra h
      exact hshift ⟨he,h⟩
    -- the boundary answers with the low bits only
    have hanswer := hexact (exactMicroUsd v.bits%2^128) (by
      rw [ceilToMicroUsd_eq,if_pos he,if_pos hplaces])
    have hlow := Nat.mod_lt (exactMicroUsd v.bits) (Nat.two_pow_pos 128)
    omega
  · intro hcond
    have hpi := Fits.ceilToMicroUsd hcond
    have hkernel := Fits.ceilMicroUsd hcond
    have hsome (m : UsdMicros) : v.ceilMicroUsd=some m ↔ m.val=exactMicroUsd v.bits := by
      rw [hkernel,Ranged.new_eq_some]
    have hok (n : Nat) (hn : (providerCost v).ceilToMicroUsd=.ok n) : n=exactMicroUsd v.bits := by
      rw [hpi] at hn
      split at hn <;> cases hn
      rfl
    refine ⟨hok,?_,?_,?_,?_⟩
    · rw [hpi]
      split
      · next h => exact ⟨nofun,fun h' => absurd h (not_lt.mpr h')⟩
      · next h => exact ⟨fun _ => not_lt.mp h,fun _ => rfl⟩
    · intro m
      rw [hsome]
      exact ⟨fun h => ⟨h ▸ m.valid.2,h⟩,And.right⟩
    · intro n m hn hm
      rw [hok n hn,(hsome m).mp hm]
    · intro hpos
      have hexact : 0 < exactMicroUsd v.bits := Nat.ceil_pos.mpr (mul_pos hpos (by norm_num))
      refine ⟨fun h => ?_,fun h => ?_⟩
      · have := hok 0 h
        omega
      · have : UsdMicros.zero.val=exactMicroUsd v.bits := (hsome _).mp h
        rw [← this] at hexact
        exact absurd hexact (by decide)

/-- `2^122` dollars. -/
def largeCost : ProviderCostBinary64 := ⟨1145*2^52,by decide⟩

/-- All of its bits are shifted out: both conversions charge nothing. -/
theorem large_cost_free : (providerCost largeCost).ceilToMicroUsd=.ok 0 ∧
    largeCost.ceilMicroUsd=some UsdMicros.zero ∧ exactMicroUsd largeCost.bits=15625*2^128 := by
  refine ⟨by decide,by decide,?_⟩
  rw [exactMicroUsd_eq]
  decide

end Conversions
end Society.Boundary
