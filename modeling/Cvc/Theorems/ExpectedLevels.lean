import Cvc.ExpectedLevels

/-!
# Evidence for expected minimums and maximums

An expected minimum or maximum should be accepted on evidence only: a known voltage on the right side of an expected voltage, or
the name of the net or power. The code compares with the mark for unknown voltages as if it were a voltage, the highest one. So an
unknown minimum is above everything that is expected, and everything is below an expected maximum that is not a voltage.
-/

namespace Cvc
namespace ExpectedNets

variable (nets : ExpectedNets) {expected : Text}

/-- The evidence for an expected bound of a net. -/
def Evidence (bit : CalculatedBit) (voltage : CPower → Int) (isBound : Int → Int → Prop) (expected : Text)
    (myNetId : Nat) : Prop :=
  ∃ p, nets.finalPower bit myNetId = some p ∧
    (voltage (nets.power p) ≠ unknownVoltage ∧ isValidVoltage expected = true ∧
        (∃ v, stringToVoltage expected = .ok v ∧ isBound v (voltage (nets.power p))) ∨
      nets.isNamed bit myNetId p expected = true)

/-- The expected minimum is accepted only on evidence. -/
def MinEvident (expected : Text) (myNetId : Nat) : Prop :=
  nets.foundMin expected myNetId = .ok true → nets.Evidence .min CPower.minVoltage (· ≤ ·) expected myNetId

/-- The expected maximum is accepted only on evidence. -/
def MaxEvident (expected : Text) (myNetId : Nat) : Prop :=
  nets.foundMax expected myNetId = .ok true → nets.Evidence .max CPower.maxVoltage (· ≥ ·) expected myNetId

variable {nets}

/-- What it takes for a bound to be accepted. -/
theorem foundBound_eq_true {bit : CalculatedBit} {isVoltageMatch : Int → CPower → Bool} {myNetId : Nat}
    (hopen : expected ≠ "open".toList) : nets.foundBound bit isVoltageMatch expected myNetId = .ok true ↔
      ∃ p v, nets.finalPower bit myNetId = some p ∧ stringToVoltage expected = .ok v ∧
        (isVoltageMatch v (nets.power p) = true ∨ nets.isNamed bit myNetId p expected = true) := by
  unfold foundBound
  rw [if_neg hopen]
  cases hp : nets.finalPower bit myNetId with
  | none => simp [pure, Except.pure]
  | some p =>
    cases hv : stringToVoltage expected with
    | error e => simp [bind, Except.bind]
    | ok v => simp [bind, Except.bind, pure, Except.pure]

/-- A text that is not a voltage stands for the unknown one. -/
theorem stringToVoltage_invalid (h : isValidVoltage expected = false) : stringToVoltage expected = .ok unknownVoltage := by
  simp [stringToVoltage, h, pure, Except.pure]

/-- An expected minimum is accepted on evidence only, exactly when the minimum is known, or it is named, or it is expected to be
above the unknown voltage. -/
theorem minEvident_iff (hopen : expected ≠ "open".toList) (myNetId : Nat) : nets.MinEvident expected myNetId ↔
      ∀ p v, nets.finalPower .min myNetId = some p → stringToVoltage expected = .ok v → v ≤ unknownVoltage →
        (nets.power p).minVoltage ≠ unknownVoltage ∨ nets.isNamed .min myNetId p expected = true := by
  unfold MinEvident foundMin
  rw [foundBound_eq_true hopen]
  constructor
  · intro hclaim p v hp hv hle
    by_cases hknown : (nets.power p).minVoltage = unknownVoltage
    · obtain ⟨p', hp', hevidence⟩ := hclaim ⟨p, v, hp, hv, .inl (by simpa [hknown] using hle)⟩
      obtain rfl : p = p' := Option.some.inj (hp.symm.trans hp')
      exact hevidence.imp_left fun h => h.1
    · exact .inl hknown
  · rintro hcond ⟨p, v, hp, hv, hmatch | hnamed⟩
    · have hle : v ≤ (nets.power p).minVoltage := by simpa using hmatch
      have htop : (nets.power p).minVoltage ≤ unknownVoltage := Int.le_of_lt_add_one (nets.isVoltage p).1.2
      refine ⟨p, hp, (hcond p v hp hv (hle.trans htop)).imp_left fun hknown => ⟨hknown, ?_, v, hv, hle⟩⟩
      by_contra hinvalid
      obtain rfl : unknownVoltage = v :=
        Except.ok.inj ((stringToVoltage_invalid (Bool.not_eq_true _ ▸ hinvalid)).symm.trans hv)
      omega
    · exact ⟨p, hp, .inr hnamed⟩

/-- An expected maximum is accepted on evidence only, exactly when it is named, or it is a voltage and the maximum is known or
expected to be below the unknown voltage. -/
theorem maxEvident_iff (hopen : expected ≠ "open".toList) (myNetId : Nat) : nets.MaxEvident expected myNetId ↔
      ∀ p v, nets.finalPower .max myNetId = some p → stringToVoltage expected = .ok v →
        isValidVoltage expected = true ∧ ((nets.power p).maxVoltage ≠ unknownVoltage ∨ v < unknownVoltage) ∨
          nets.isNamed .max myNetId p expected = true := by
  unfold MaxEvident foundMax
  rw [foundBound_eq_true hopen]
  have htop : ∀ p, (nets.power p).maxVoltage ≤ unknownVoltage := fun p => Int.le_of_lt_add_one (nets.isVoltage p).2.2.2
  constructor
  · intro hclaim p v hp hv
    have hevident : v ≥ (nets.power p).maxVoltage →
        (nets.power p).maxVoltage ≠ unknownVoltage ∧ isValidVoltage expected = true ∨
          nets.isNamed .max myNetId p expected = true := by
      intro hge
      obtain ⟨p', hp', hevidence⟩ := hclaim ⟨p, v, hp, hv, .inl (by simpa using hge)⟩
      obtain rfl : p = p' := Option.some.inj (hp.symm.trans hp')
      exact hevidence.imp_left fun h => ⟨h.1, h.2.1⟩
    cases hvalid : isValidVoltage expected with
    | false =>
      obtain rfl : unknownVoltage = v := Except.ok.inj ((stringToVoltage_invalid hvalid).symm.trans hv)
      exact .inr ((hevident (htop p)).resolve_left fun h => absurd (hvalid.symm.trans h.2) (by decide))
    | true =>
      by_cases hknown : (nets.power p).maxVoltage = unknownVoltage
      · by_cases hlt : v < unknownVoltage
        · exact .inl ⟨rfl, .inr hlt⟩
        · exact .inr ((hevident (hknown ▸ Int.not_lt.1 hlt)).resolve_left fun h => h.1 hknown)
      · exact .inl ⟨rfl, .inl hknown⟩
  · rintro hcond ⟨p, v, hp, hv, hmatch | hnamed⟩
    · have hge : v ≥ (nets.power p).maxVoltage := by simpa using hmatch
      refine ⟨p, hp, (hcond p v hp hv).imp_left fun ⟨hvalid, hor⟩ => ⟨fun hknown => ?_, hvalid, v, hv, hge⟩⟩
      rcases hor with hne | hlt
      · exact hne hknown
      · exact absurd hlt (Int.not_lt.2 (hknown ▸ hge))
    · exact ⟨p, hp, .inr hnamed⟩

/-- Expected minimums and maximums of every level are accepted on evidence only, exactly when no mark for an unknown voltage gets
into the comparison: neither an unknown minimum, nor an expected maximum that is not a voltage, nor an unknown maximum where the
mark or more is expected; or the expected value is a name of what was found. -/
theorem checkExpectedValues_evident_iff (nets : ExpectedNets) (expected : Text)
    (hopen : expected ≠ "open".toList) (myNetId : Nat) :
    (nets.MinEvident expected myNetId ↔
      ∀ p v, nets.finalPower .min myNetId = some p → stringToVoltage expected = .ok v → v ≤ unknownVoltage →
        (nets.power p).minVoltage ≠ unknownVoltage ∨ nets.isNamed .min myNetId p expected = true) ∧
    (nets.MaxEvident expected myNetId ↔
      ∀ p v, nets.finalPower .max myNetId = some p → stringToVoltage expected = .ok v →
        isValidVoltage expected = true ∧ ((nets.power p).maxVoltage ≠ unknownVoltage ∨ v < unknownVoltage) ∨
          nets.isNamed .max myNetId p expected = true) :=
  ⟨minEvident_iff hopen myNetId, maxEvident_iff hopen myNetId⟩

/-- The net `A` has a maximum only, `VSS` has the voltage zero, and `B` leads to `VSS`. -/
def unknownMinimum : ExpectedNets where
  power p := if p = 0 then { maxVoltage := 1200, netId := 0 }
    else { minVoltage := 0, simVoltage := 0, maxVoltage := 0, netId := 1 }
  isVoltage p := by
    unfold IsVoltage
    split <;> decide
  netVoltagePtr n := if n < 2 then some n else none
  finalNetId _ n := if n = 2 then 1 else n
  getEquivalentNet := id
  netName n := ["A", "VSS", "B"].getD n "" |>.toList
  cvcExpectedErrorThreshold := 0

/-- The expected level of a net. -/
def level (netId : Nat) (expectedMin expectedMax : String) : CPower :=
  { netId, extraData := some { expectedMin := expectedMin.toList, expectedMax := expectedMax.toList } }

/-- For the net `B`, the minimum and the maximum `0.5` are compared with a known voltage. -/
theorem unknownMinimum_evident : unknownMinimum.MinEvident "0.5".toList 2 ∧ unknownMinimum.MaxEvident "0.5".toList 2 := by
  obtain ⟨hmin, hmax⟩ := checkExpectedValues_evident_iff unknownMinimum "0.5".toList (by decide) 2
  have hp : ∀ bit, unknownMinimum.finalPower bit 2 = some 1 := fun bit => by cases bit <;> decide
  refine ⟨hmin.2 fun p v hfinal _ _ => .inl ?_, hmax.2 fun p v hfinal _ => .inl ⟨by decide +kernel, .inl ?_⟩⟩
  · obtain rfl : 1 = p := Option.some.inj ((hp .min).symm.trans hfinal)
    decide
  · obtain rfl : 1 = p := Option.some.inj ((hp .max).symm.trans hfinal)
    decide

/-- No error is reported for the minimum `0.5` of `A`, which has no minimum, nor for the maximum `VDD` of `B`, which leads to
`VSS`. -/
theorem unknownMinimum_not_evident :
    unknownMinimum.checkExpectedValues [level 0 "0.5" "", level 2 "" "VDD"] = .ok [] ∧
      ¬ unknownMinimum.MinEvident "0.5".toList 0 ∧ ¬ unknownMinimum.MaxEvident "VDD".toList 2 := by
  have hrun : (unknownMinimum.checkExpectedValues [level 0 "0.5" "", level 2 "" "VDD"]).toOption = some [] := by decide +kernel
  have hvalue : (stringToVoltage "0.5".toList).toOption = some 500 := by decide +kernel
  have hname : (stringToVoltage "VDD".toList).toOption = some unknownVoltage := by decide +kernel
  refine ⟨eq_ok_of_toOption hrun, fun h => ?_, fun h => ?_⟩
  · rcases (minEvident_iff (by decide) 0).1 h 0 500 (by decide) (eq_ok_of_toOption hvalue) (by decide) with hne | hnamed
    · exact hne rfl
    · exact absurd hnamed (by decide)
  · rcases (maxEvident_iff (by decide) 2).1 h 1 unknownVoltage (by decide) (eq_ok_of_toOption hname) with ⟨hvalid, -⟩ | hnamed
    · exact absurd hvalid (by decide +kernel)
    · exact absurd hnamed (by decide)

end ExpectedNets
end Cvc
