import Mathlib.Tactic.Positivity
import Cvc.Condition

/-!
# The order of the parameter values

Two values in normal form are compared by their signs and scales before their digits. The operators and the conditions follow the
order of the numbers, and `Compare` does except for a zero, which it takes for less than a negative number and more than a
positive one (`normalValue_order_iff`).
-/

namespace Cvc
namespace CNormalValue

/-- The normal form: seven to nine digits, but fewer at the smallest scale and more at the largest. -/
def IsNormal (v : CNormalValue) : Prop :=
  v.scale ∈ ([0, -3, -6, -9, -12, -15, -18, -21] : List Int) ∧ (v.scale ≠ -21 → 10 ^ 6 ≤ v.value.natAbs) ∧
    (v.scale ≠ 0 → v.value.natAbs < 10 ^ 9)
  deriving Decidable

/-- The value at the smallest scale. -/
def units (v : CNormalValue) : Int := v.value * 10 ^ (v.scale + 21).toNat

variable {v w : CNormalValue}

theorem realValue_eq_units (hv : v.IsNormal) : v.realValue = v.units / 10 ^ 21 := by
  obtain ⟨value, scale⟩ := v
  obtain ⟨hscale, -⟩ := hv
  simp only [List.mem_cons, List.not_mem_nil, or_false] at hscale
  rcases hscale with rfl | rfl | rfl | rfl | rfl | rfl | rfl | rfl <;> simp [realValue, units] <;> ring

theorem natAbs_units (v : CNormalValue) : v.units.natAbs = v.value.natAbs * 10 ^ (v.scale + 21).toNat := by
  rw [units, Int.natAbs_mul, Int.natAbs_pow]
  rfl

/-- The value of the smaller scale is closer to zero. -/
theorem natAbs_units_lt (hv : v.IsNormal) (hw : w.IsNormal) (h : v.scale < w.scale) : v.units.natAbs < w.units.natAbs := by
  obtain ⟨hvscale, -, hsmall⟩ := hv
  obtain ⟨hwscale, hlarge, -⟩ := hw
  simp only [List.mem_cons, List.not_mem_nil, or_false] at hvscale hwscale
  have hexponent : (v.scale + 21).toNat + 3 ≤ (w.scale + 21).toNat := by omega
  rw [natAbs_units, natAbs_units]
  calc v.value.natAbs * 10 ^ (v.scale + 21).toNat
    _ < 10 ^ 9 * 10 ^ (v.scale + 21).toNat := Nat.mul_lt_mul_of_pos_right (hsmall (by omega)) (by positivity)
    _ = 10 ^ 6 * 10 ^ ((v.scale + 21).toNat + 3) := by ring
    _ ≤ w.value.natAbs * 10 ^ (w.scale + 21).toNat :=
      Nat.mul_le_mul (hlarge (by omega)) (Nat.pow_le_pow_right (by decide) hexponent)

theorem units_sign (v : CNormalValue) : (v.units < 0 ↔ v.value < 0) ∧ (0 < v.units ↔ 0 < v.value) := by
  have hpos : (0 : Int) < 10 ^ (v.scale + 21).toNat := by positivity
  rw [units, mul_neg_iff, mul_pos_iff]
  omega

theorem units_lt_iff (h : v.scale = w.scale) : v.units < w.units ↔ v.value < w.value := by
  unfold units
  rw [h]
  exact mul_lt_mul_iff_left₀ (by positivity)

/-- The sign of the value of the larger scale decides. -/
theorem units_lt_of_scale (hv : v.IsNormal) (hw : w.IsNormal) (h : v.scale < w.scale) :
    0 < w.value ∧ v.units < w.units ∨ w.value < 0 ∧ w.units < v.units := by
  have hlt := natAbs_units_lt hv hw h
  have hsign := w.units_sign
  omega

/-- What the comparisons use: the signs, and the scales where they differ. -/
structure Compared (v w : CNormalValue) : Prop where
  less : v.scale < w.scale → 0 < w.value ∧ v.units < w.units ∨ w.value < 0 ∧ w.units < v.units
  greater : w.scale < v.scale → 0 < v.value ∧ w.units < v.units ∨ v.value < 0 ∧ v.units < w.units
  same : v.scale = w.scale → (v.units < w.units ↔ v.value < w.value) ∧ (w.units < v.units ↔ w.value < v.value)
  sign : ((v.units < 0 ↔ v.value < 0) ∧ (0 < v.units ↔ 0 < v.value)) ∧ (w.units < 0 ↔ w.value < 0) ∧ (0 < w.units ↔ 0 < w.value)

theorem compared (hv : v.IsNormal) (hw : w.IsNormal) : Compared v w where
  less := units_lt_of_scale hv hw
  greater := units_lt_of_scale hw hv
  same h := ⟨units_lt_iff h, units_lt_iff h.symm⟩
  sign := ⟨v.units_sign, w.units_sign⟩

namespace Compared

variable (h : Compared v w)
include h

theorem operatorEq_iff : v.operatorEq w = true ↔ v.units = w.units := by
  obtain ⟨hless, hgreater, hsame, hsign⟩ := h
  unfold operatorEq
  simp only [Bool.and_eq_true, beq_iff_eq]
  omega

theorem operatorLt_iff : v.operatorLt w = true ↔ v.units < w.units := by
  unfold operatorLt
  simp only [h.operatorEq_iff]
  obtain ⟨hless, hgreater, hsame, hsign⟩ := h
  split_ifs <;> simp <;> omega

theorem operatorGt_iff : v.operatorGt w = true ↔ w.units < v.units := by
  have hlt := h.operatorLt_iff
  unfold operatorGt
  simp only [h.operatorEq_iff]
  split_ifs with heq
  · simp [heq]
  · rw [Bool.not_eq_true', ← Bool.not_eq_true, hlt]
    omega

/-- Zero is below the negative values for `Compare`. -/
theorem compareValue_eq_iff : (v.compareValue w = if v.units < w.units then -1 else if w.units < v.units then 1 else 0) ↔
    v.value ≠ 0 ∨ w.value = 0 := by
  obtain ⟨hless, hgreater, hsame, hsign⟩ := h
  unfold compareValue
  split_ifs <;> simp <;> omega

end Compared

theorem realValue_lt_iff (hv : v.IsNormal) (hw : w.IsNormal) : v.realValue < w.realValue ↔ v.units < w.units := by
  rw [realValue_eq_units hv, realValue_eq_units hw, div_lt_div_iff_of_pos_right (by positivity), Int.cast_lt]

theorem realValue_inj (hv : v.IsNormal) (hw : w.IsNormal) : v.realValue = w.realValue ↔ v.units = w.units := by
  rw [realValue_eq_units hv, realValue_eq_units hw, div_left_inj' (by positivity), Int.cast_inj]

end CNormalValue

/-- The relation of two numbers that a text stands for. -/
def writtenRelation : Text → Option (ℚ → ℚ → Prop)
  | ['='] => some (· = ·)
  | ['<'] => some (· < ·)
  | ['>'] => some (· > ·)
  | ['=', '>'] | ['>', '='] => some (· ≥ ·)
  | ['=', '<'] | ['<', '='] => some (· ≤ ·)
  | _ => none

open CNormalValue

/-- The operators and the conditions always follow the order of the numbers, and `Compare` does exactly if it does not compare
zero with another number. -/
theorem normalValue_order_iff {v w : CNormalValue} (hv : v.IsNormal) (hw : w.IsNormal) :
    ((v.operatorLt w = true ↔ v.realValue < w.realValue) ∧ (v.operatorGt w = true ↔ v.realValue > w.realValue) ∧
      (v.operatorEq w = true ↔ v.realValue = w.realValue) ∧
      v.compareValue w = (if v.realValue < w.realValue then -1 else if v.realValue > w.realValue then 1 else 0) ∧
      ∀ parameter text value R, writtenRelation text = some R →
        ((CCondition.mk parameter (gRelationStringMap text) value w).checkCondition v = true ↔ R v.realValue w.realValue)) ↔
    v.value ≠ 0 ∨ w.value = 0 := by
  have h := compared hv hw
  have heq := h.operatorEq_iff.trans (realValue_inj hv hw).symm
  have hlt := h.operatorLt_iff.trans (realValue_lt_iff hv hw).symm
  have hgt := h.operatorGt_iff.trans (realValue_lt_iff hw hv).symm
  have hcompare := h.compareValue_eq_iff
  simp only [← realValue_lt_iff hv hw, ← realValue_lt_iff hw hv] at hcompare
  rw [← hcompare]
  refine ⟨fun hall => hall.2.2.2.1, fun hcompare => ⟨hlt, hgt, heq, hcompare, fun parameter text value R hR => ?_⟩⟩
  unfold writtenRelation at hR
  split at hR
  case h_8 => nomatch hR
  all_goals
    obtain rfl := Option.some.inj hR
    simp [CCondition.checkCondition, gRelationStringMap, heq, hlt, hgt, ← Bool.not_eq_true]

theorem normalValue_order_zero : (⟨1000000, -6⟩ : CNormalValue).operatorGt ⟨0, -21⟩ = true ∧
    (⟨1000000, -6⟩ : CNormalValue).realValue > (⟨0, -21⟩ : CNormalValue).realValue := by
  have h := (normalValue_order_iff (v := ⟨1000000, -6⟩) (w := ⟨0, -21⟩) (by decide) (by decide)).2 (.inl (by decide))
  exact ⟨by decide, h.2.1.1 (by decide)⟩

/-- `Compare` of 0 with -1. -/
theorem compare_zero_negative : CNormalValue.new ['0'] = .ok ⟨0, -21⟩ ∧ CNormalValue.compare ⟨0, -21⟩ ['-', '1'] = .ok (-1) ∧
    CNormalValue.new ['-', '1'] = .ok ⟨-1000000, -6⟩ ∧
      (⟨-1000000, -6⟩ : CNormalValue).realValue < (⟨0, -21⟩ : CNormalValue).realValue := by
  refine ⟨by decide +kernel, by decide +kernel, by decide +kernel, by decide +kernel⟩

end Cvc
