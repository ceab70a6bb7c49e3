import Mathlib.Data.List.Forall2
import Cvc.Dual
import Cvc.OverVoltage

/-!
# Overvoltage checks on a device and on its dual

The flags of a dual terminal are the flags of the terminal with minimum and maximum exchanged (`Mirrors`), and a difference of two
valid voltages is as far from zero as that of their mirror images. So `FindVbsError` and `FindVgsError` report the same on a
device and on its dual. `FindVbgError` and `FindVdsError` do not: the last leak test of the first reads `validMinGate` in the
place of `validMinGateLeak`, and the exception of the second for pumping capacitors subtracts voltages that need not be known.
`overVoltage_dual` says for exactly which devices they do.
-/

namespace Cvc

/-- A reading with the same flag, and with the negative of the voltage if it is valid. -/
structure Reading.Mirrors (a b : Reading) : Prop where
  valid : a.valid = b.valid
  voltage : b.valid = true → a.voltage = -b.voltage

/-- The readings of a dual terminal. -/
structure Readings.Mirrors (a b : Readings) : Prop where
  min : a.min.Mirrors b.max
  max : a.max.Mirrors b.min
  minLeak : a.minLeak.Mirrors b.maxLeak
  maxLeak : a.maxLeak.Mirrors b.minLeak

theorem exceeds_neg (p v : Int) : exceeds p (-v) = exceeds p v := by rw [exceeds, exceeds, Int.natAbs_neg]

/-- A valid voltage is over the limit. -/
def Reading.IsFar (p : Int) (a : Reading) : Prop := a.valid = true ∧ p < a.voltage.natAbs

/-- A valid voltage is compared with zero where the other one is not valid. -/
theorem Reading.alone_one_iff {p : Int} {a b : Reading} : a.alone p [b] = true ↔ a.IsFar p ∧ b.valid = false := by
  simp [Reading.alone, Reading.IsFar, exceeds, and_right_comm]

namespace Reading.Mirrors

variable {a a' b b' : Reading}
variable (p : Int) (ha : a'.Mirrors a)
include p ha

theorem apart (hb : b'.Mirrors b) : a'.apart p b' = a.apart p b := by
  unfold Reading.apart
  rw [ha.valid, hb.valid]
  cases hva : a.valid with
  | false => rfl
  | true =>
    cases hvb : b.valid with
    | false => rfl
    | true => rw [ha.voltage hva, hb.voltage hvb, ← exceeds_neg, show -(-a.voltage - -b.voltage) = a.voltage - b.voltage by omega]

theorem alone {others others' : List Reading} (ho : List.Forall₂ Reading.Mirrors others' others) :
    a'.alone p others' = a.alone p others := by
  have hall : others'.all (!·.valid) = others.all (!·.valid) := by
    induction ho with
    | nil => rfl
    | cons h _ ih => rw [List.all_cons, List.all_cons, h.valid, ih]
  unfold Reading.alone
  rw [ha.valid, hall]
  cases hva : a.valid with
  | false => rfl
  | true => rw [ha.voltage hva, exceeds_neg]

theorem alone_one (hb : b'.Mirrors b) : a'.alone p [b'] = a.alone p [b] :=
  ha.alone p (.cons hb .nil)

end Reading.Mirrors

namespace Readings.Mirrors

variable {a a' b b' : Readings} (p : Int) (ha : a'.Mirrors a)
include p ha

theorem apart (hb : b'.Mirrors b) : a'.apart p b' = a.apart p b := by
  unfold Readings.apart
  rw [ha.min.apart p hb.max, ha.max.apart p hb.min, Bool.or_comm]

theorem leakApart (hb : b'.Mirrors b) : a'.leakApart p b' = a.leakApart p b := by
  unfold Readings.leakApart
  rw [ha.minLeak.apart p hb.maxLeak, ha.maxLeak.apart p hb.minLeak, Bool.or_comm]

theorem leakAlone {others others' : List Readings} (ho : List.Forall₂ Readings.Mirrors others' others) :
    a'.leakAlone p others' = a.leakAlone p others := by
  have hmin : List.Forall₂ Reading.Mirrors (others'.map (·.minLeak)) (others.map (·.maxLeak)) :=
    List.forall₂_map_left_iff.2 (List.forall₂_map_right_iff.2 (ho.imp fun _ _ h => h.minLeak))
  have hmax : List.Forall₂ Reading.Mirrors (others'.map (·.maxLeak)) (others.map (·.minLeak)) :=
    List.forall₂_map_left_iff.2 (List.forall₂_map_right_iff.2 (ho.imp fun _ _ h => h.maxLeak))
  unfold Readings.leakAlone
  rw [ha.minLeak.alone p hmax, ha.maxLeak.alone p hmin, Bool.or_comm]

end Readings.Mirrors

/-! ## The flags of a dual terminal -/

namespace Terminal

variable {t : Terminal} {nets : PowerNets}

theorem validIf_congr {valid other : Bool} {p q : Prop} [Decidable p] [Decidable q]
    (h : valid = true → other = true → (p ↔ q)) : validIf valid other p = validIf valid other q := by
  cases valid with
  | false => rfl
  | true =>
    cases other with
    | false => rfl
    | true => simp [h rfl rfl]

theorem has_dual (ht : t.HasDual) : t.dual.hasMin nets.dual = t.hasMax nets ∧ t.dual.hasMax nets.dual = t.hasMin nets := by
  simp [hasMin, hasMax, PowerNets.isHiz_dual, ht.minVoltage.beq_unknown, ht.maxVoltage.beq_unknown]

theorem hasLeak_dual (ht : t.HasDual) : t.dual.hasMinLeak = t.hasMaxLeak ∧ t.dual.hasMaxLeak = t.hasMinLeak := by
  simp [hasMinLeak, hasMaxLeak, bne, ht.minLeakVoltage.beq_unknown, ht.maxLeakVoltage.beq_unknown]

theorem minVoltage_ne_of_hasMin (h : t.hasMin nets = true) : t.minVoltage ≠ unknownVoltage := by
  simp only [hasMin, Bool.not_eq_true', Bool.or_eq_false_iff, beq_eq_false_iff_ne] at h
  exact h.1

theorem maxVoltage_ne_of_hasMax (h : t.hasMax nets = true) : t.maxVoltage ≠ unknownVoltage := by
  simp only [hasMax, Bool.not_eq_true', Bool.or_eq_false_iff, beq_eq_false_iff_ne] at h
  exact h.1

theorem validLeak_dual (ht : t.HasDual) : t.dual.validMinLeak = t.validMaxLeak ∧ t.dual.validMaxLeak = t.validMinLeak := by
  obtain ⟨hmin, hmax⟩ := hasLeak_dual ht
  unfold validMinLeak validMaxLeak
  rw [hmin, hmax]
  exact ⟨validIf_congr fun hmax hmin => negate_le_negate (bne_iff_ne.1 hmin) (bne_iff_ne.1 hmax),
    validIf_congr fun hmin hmax => negate_le_negate (bne_iff_ne.1 hmin) (bne_iff_ne.1 hmax)⟩

/-- The dual of a terminal is valid on the one side exactly if the terminal is valid on the other. -/
theorem valid_dual (ht : t.HasDual) : t.dual.validMin nets.dual = t.validMax nets ∧
    t.dual.validMax nets.dual = t.validMin nets := by
  obtain ⟨hmin, hmax⟩ := @has_dual t nets ht
  obtain ⟨hminLeak, hmaxLeak⟩ := validLeak_dual ht
  have hle : t.hasMin nets = true → t.hasMax nets = true →
    (t.dual.minVoltage ≤ t.dual.maxVoltage ↔ t.minVoltage ≤ t.maxVoltage) :=
    fun hmin hmax => negate_le_negate (minVoltage_ne_of_hasMin hmin) (maxVoltage_ne_of_hasMax hmax)
  unfold validMin validMax
  rw [hmin, hmax, hminLeak, hmaxLeak, validIf_congr hle, validIf_congr fun hmax hmin => hle hmin hmax]
  exact ⟨validIf_congr fun hmax hleak => negate_le_negate (maxVoltage_ne_of_hasMax (of_validIf hmax))
    (bne_iff_ne.1 (of_validIf hleak)),
    validIf_congr fun hmin hleak => negate_le_negate (bne_iff_ne.1 (of_validIf hleak))
      (minVoltage_ne_of_hasMin (of_validIf hmin))⟩

/-- The readings of a dual terminal mirror those of the terminal. -/
theorem mirrors_dual (nets : PowerNets) (ht : t.HasDual) :
    (t.dual.setMinMaxLeakVoltagesAndFlags nets.dual).Mirrors (t.setMinMaxLeakVoltagesAndFlags nets) where
  min := ⟨(valid_dual ht).1, fun h => negate_of_ne (maxVoltage_ne_of_validMax h)⟩
  max := ⟨(valid_dual ht).2, fun h => negate_of_ne (minVoltage_ne_of_validMin h)⟩
  minLeak := ⟨(validLeak_dual ht).1, fun h => negate_of_ne (bne_iff_ne.1 (of_validIf h))⟩
  maxLeak := ⟨(validLeak_dual ht).2, fun h => negate_of_ne (bne_iff_ne.1 (of_validIf h))⟩

end Terminal

theorem isPumpCapacitor_dual {c : CFullConnection} (hc : c.HasDual) : c.dual.isPumpCapacitor = c.isPumpCapacitor := by
  have hpump : ∀ t : Terminal, t.HasDual → (t.dual.minPower == t.dual.maxPower && t.dual.minVoltage != t.dual.maxVoltage) =
      (t.minPower == t.maxPower && t.minVoltage != t.maxVoltage) := by
    intro t ht
    have hp : (t.maxPower == t.minPower) = (t.minPower == t.maxPower) := BEq.comm
    have hv : (negate t.maxVoltage != negate t.minVoltage) = (t.minVoltage != t.maxVoltage) := by
      rw [bne, bne, beq_negate ht.maxVoltage ht.minVoltage, BEq.comm]
    show (t.maxPower == t.minPower && negate t.maxVoltage != negate t.minVoltage) = _
    rw [hp, hv]
  have htype : (c.dual.type != .capacitor) = (c.type != .capacitor) := by
    show (c.type.dual != .capacitor) = _
    cases c.type <;> rfl
  unfold CFullConnection.isPumpCapacitor
  rw [htype, show c.dual.source = c.source.dual from rfl, show c.dual.drain = c.drain.dual from rfl, hpump _ hc.source,
    hpump _ hc.drain]

/-! ## The checks -/

namespace OverVoltageEnv

variable {plain a b : Bool} {env : OverVoltageEnv} {error : CvcError} {heading display : String}

def dual (env : OverVoltageEnv) : OverVoltageEnv := { env with nets := env.nets.dual }

section
variable (p : Int) {gate gate' source source' drain drain' bulk bulk' : Readings}
variable (hg : gate'.Mirrors gate) (hs : source'.Mirrors source) (hd : drain'.Mirrors drain) (hb : bulk'.Mirrors bulk)

section
include hs hd

include hb in
theorem vbsLeakError_mirror : vbsLeakError p source' drain' bulk' = vbsLeakError p source drain bulk := by
  unfold vbsLeakError
  rw [hs.leakApart p hb, hd.leakApart p hb, hb.leakAlone p (.cons hs (.cons hd .nil)), hs.leakAlone p (.cons hb .nil),
    hd.leakAlone p (.cons hb .nil)]

theorem vdsLeakError_mirror : vdsLeakError p source' drain' = vdsLeakError p source drain := by
  unfold vdsLeakError
  rw [hs.leakApart p hd, hs.leakAlone p (.cons hd .nil), hd.leakAlone p (.cons hs .nil)]

include hg in
theorem vgsLeakError_mirror : vgsLeakError p gate' source' drain' = vgsLeakError p gate source drain := by
  unfold vgsLeakError
  rw [hg.leakApart p hs, hg.leakApart p hd, hg.leakAlone p (.cons hs (.cons hd .nil)), hs.leakAlone p (.cons hg .nil),
    hd.leakAlone p (.cons hg .nil)]

end

/-- The leak tests of `FindVbgError` that are mirror images of each other. -/
def vbgPairedLeakError (p : Int) (gate bulk : Readings) : Bool :=
  gate.leakApart p bulk || gate.leakAlone p [bulk]

/-- The flags of the gate that the last two leak tests of `FindVbgError` read come to the same as those that their mirror images
read, for the leak voltages of the bulk that are over the limit. -/
@[mk_iff]
structure VbgFlagsAgree (p : Int) (gate bulk : Readings) : Prop where
  onlyMin : bulk.minLeak.IsFar p → ¬ bulk.maxLeak.IsFar p → gate.maxLeak.valid = gate.max.valid
  onlyMax : ¬ bulk.minLeak.IsFar p → bulk.maxLeak.IsFar p → gate.minLeak.valid = gate.min.valid
  both : bulk.minLeak.IsFar p → bulk.maxLeak.IsFar p →
    (gate.maxLeak.valid && gate.min.valid) = (gate.minLeak.valid && gate.max.valid)

theorem vbgUnpaired_eq_iff : (bulk.maxLeak.alone p [gate.minLeak] || bulk.minLeak.alone p [gate.max]) =
    (bulk.minLeak.alone p [gate.maxLeak] || bulk.maxLeak.alone p [gate.min]) ↔ VbgFlagsAgree p gate bulk := by
  rw [Bool.eq_iff_iff, vbgFlagsAgree_iff]
  simp only [Bool.or_eq_true, Reading.alone_one_iff]
  by_cases hmin : bulk.minLeak.IsFar p <;> by_cases hmax : bulk.maxLeak.IsFar p <;>
    cases gate.maxLeak.valid <;> cases gate.minLeak.valid <;> cases gate.max.valid <;> cases gate.min.valid <;> simp [hmin, hmax]

theorem vbgLeakError_eq : vbgLeakError p gate bulk =
    (vbgPairedLeakError p gate bulk || (bulk.minLeak.alone p [gate.maxLeak] || bulk.maxLeak.alone p [gate.min])) :=
  Bool.or_assoc _ _ _

theorem or_eq_or_left_iff {a b c : Bool} : (a || b) = (a || c) ↔ a = true ∨ b = c := by
  cases a <;> cases b <;> cases c <;> simp

include hg hb in
/-- Mirrored readings have the same leak error exactly if a paired test finds it or the unpaired tests agree. -/
theorem vbgLeakError_mirror_iff : vbgLeakError p gate' bulk' = vbgLeakError p gate bulk ↔
      vbgPairedLeakError p gate bulk = true ∨ VbgFlagsAgree p gate bulk := by
  rw [vbgLeakError_eq, vbgLeakError_eq, vbgPairedLeakError, hg.leakApart p hb, hg.leakAlone p (.cons hb .nil),
    ← vbgPairedLeakError, hb.minLeak.alone_one p hg.maxLeak,
    hb.maxLeak.alone_one p hg.min, or_eq_or_left_iff, vbgUnpaired_eq_iff]

end

theorem overVoltageError_eq_iff :
    env.overVoltageError error heading display plain a = env.overVoltageError error heading display plain b ↔
      plain = true ∨ env.cvcLeakOvervoltage = false ∨ a = b := by
  unfold overVoltageError
  cases plain <;> cases env.cvcLeakOvervoltage <;> cases a <;> cases b <;> simp

theorem overVoltageError_ne_none {leaks : Bool} (h : plain = true) :
    env.overVoltageError error heading display plain leaks ≠ none := by
  rw [overVoltageError, if_pos h]
  exact Option.some_ne_none _

/-- The exception for pumping capacitors, with two tests of their differences. -/
theorem pumpException_eq_iff {error : Option OverVoltageError} {pump : Bool} (h : plain = true → error ≠ none) :
    (if plain && pump && a then none else error) = (if plain && pump && b then none else error) ↔
      plain = false ∨ pump = false ∨ a = b := by
  cases plain with
  | false => simp
  | true =>
    have hne := h rfl
    cases pump <;> cases a <;> cases b <;> simp [hne, hne.symm]

/-- The devices on which `FindVbgError` reports what it reports on the dual. -/
def VbgAgrees (env : OverVoltageEnv) (theParameter : Int) (c : CFullConnection) : Prop :=
  (env.readings c.gate).apart (env.limit theParameter) (env.readings c.bulk) = true ∨ env.cvcLeakOvervoltage = false ∨
    vbgPairedLeakError (env.limit theParameter) (env.readings c.gate) (env.readings c.bulk) = true ∨
    VbgFlagsAgree (env.limit theParameter) (env.readings c.gate) (env.readings c.bulk)

/-! ## The exception for pumping capacitors -/

/-- One of two voltages is not known, and the other one, which is not zero, or its negative is within the limit of the mark for
unknown voltages. -/
def NearMark (p a b : Int) : Prop :=
  a = unknownVoltage ∧ b ≠ unknownVoltage ∧ b ≠ 0 ∧ unknownVoltage ≤ b.natAbs + p ∨
    b = unknownVoltage ∧ a ≠ unknownVoltage ∧ a ≠ 0 ∧ unknownVoltage ≤ a.natAbs + p

/-- Two voltages are known and not over the limit apart. -/
def KnownWithin (p a b : Int) : Prop := a ≠ unknownVoltage ∧ b ≠ unknownVoltage ∧ (a - b).natAbs ≤ p

/-- The mark is not negated, so it changes sides: the difference with it is within the limit on the device or on its dual. -/
theorem exceeds_negate_iff {p a b : Int} (hp : p ≤ unknownVoltage) (ha : HasDual a) (hb : HasDual b) :
    exceeds p (negate a - negate b) = exceeds p (a - b) ↔ ¬ NearMark p a b := by
  rw [Bool.eq_iff_iff]
  simp only [exceeds, decide_eq_true_eq, NearMark]
  unfold HasDual maxVoltage at ha hb
  unfold negate
  split <;> split <;> omega

/-- The voltages of a source and a drain with a plain error: a minimum and a maximum are known and over the limit apart. -/
def PlainError (p smin smax dmin dmax : Int) : Prop :=
  smin ≠ unknownVoltage ∧ dmax ≠ unknownVoltage ∧ p < (smin - dmax).natAbs ∨
    smax ≠ unknownVoltage ∧ dmin ≠ unknownVoltage ∧ p < (smax - dmin).natAbs

section
variable {p smin smax dmin dmax : Int} (h : PlainError p smin smax dmin dmax)
include h

theorem PlainError.swap : PlainError p smax smin dmax dmin := Or.symm h

section
variable (hsmax : HasDual smax) (hdmin : HasDual dmin) (hdmax : HasDual dmax)
include hsmax hdmin hdmax

/-- With a plain error, a difference that has no mark near is within the limit only between known voltages. -/
theorem PlainError.within_iff (hmark : ¬ NearMark p smin dmin) : exceeds p (smin - dmin) = false ↔ KnownWithin p smin dmin := by
  simp only [exceeds, decide_eq_false_iff_not, KnownWithin]
  unfold NearMark at hmark
  unfold PlainError at h
  unfold HasDual maxVoltage unknownVoltage at *
  omega

/-- With a plain error, one of two differences that have the mark near is over the limit, the other one is not. -/
theorem PlainError.exceeds_eq (hp : p ≤ unknownVoltage) (hsmin : HasDual smin) (hmin : NearMark p smin dmin)
    (hmax : NearMark p smax dmax) : exceeds p (smax - dmax) = !exceeds p (smin - dmin) := by
  rw [Bool.eq_iff_iff]
  simp only [exceeds, Bool.not_eq_true', decide_eq_false_iff_not, decide_eq_true_eq]
  unfold NearMark at hmin hmax
  unfold PlainError at h
  unfold HasDual maxVoltage unknownVoltage at *
  omega

end
end

theorem NearMark.not_knownWithin {p a b : Int} (h : NearMark p a b) : ¬ KnownWithin p a b := by
  rintro ⟨ha, hb, -⟩
  rcases h with ⟨hmark, -⟩ | ⟨hmark, -⟩
  · exact ha hmark
  · exact hb hmark

/-- The exception tells a device from its dual: one of the differences is between known voltages and within the limit, the other
one has the mark near. -/
def MarkDecides (p : Int) (source drain : Terminal) : Prop :=
  NearMark p source.minVoltage drain.minVoltage ∧ KnownWithin p source.maxVoltage drain.maxVoltage ∨
    KnownWithin p source.minVoltage drain.minVoltage ∧ NearMark p source.maxVoltage drain.maxVoltage

/-- Readings too far apart come from voltages too far apart. -/
theorem plainError_of_apart {p : Int} {source drain : Terminal}
    (herror : (env.readings source).apart p (env.readings drain) = true) :
    PlainError p source.minVoltage source.maxVoltage drain.minVoltage drain.maxVoltage := by
  simp only [Readings.apart, Reading.apart, exceeds, Bool.or_eq_true, Bool.and_eq_true, decide_eq_true_eq] at herror
  refine herror.imp ?_ ?_
  · rintro ⟨⟨hmin, hmax⟩, hapart⟩
    exact ⟨Terminal.minVoltage_ne_of_validMin hmin, Terminal.maxVoltage_ne_of_validMax hmax, hapart⟩
  · rintro ⟨⟨hmax, hmin⟩, hapart⟩
    exact ⟨Terminal.maxVoltage_ne_of_validMax hmax, Terminal.minVoltage_ne_of_validMin hmin, hapart⟩

/-- Duality keeps the exception for pump capacitors, unless the mark of an unknown voltage decides it. -/
theorem pumpsWithin_dual_iff {p : Int} {source drain : Terminal} (hp : p ≤ unknownVoltage)
    (hs : source.HasDual) (hd : drain.HasDual)
    (herror : PlainError p source.minVoltage source.maxVoltage drain.minVoltage drain.maxVoltage) :
    pumpsWithin p source.dual drain.dual = pumpsWithin p source drain ↔ ¬ MarkDecides p source drain := by
  have hmin := exceeds_negate_iff hp hs.minVoltage hd.minVoltage
  have hmax := exceeds_negate_iff hp hs.maxVoltage hd.maxVoltage
  show (!exceeds p (negate source.maxVoltage - negate drain.maxVoltage) &&
    !exceeds p (negate source.minVoltage - negate drain.minVoltage)) = _ ↔ _
  unfold pumpsWithin MarkDecides
  by_cases nearMin : NearMark p source.minVoltage drain.minVoltage
  · by_cases nearMax : NearMark p source.maxVoltage drain.maxVoltage
    · have hne := herror.exceeds_eq hs.maxVoltage hd.minVoltage hd.maxVoltage hp hs.minVoltage nearMin nearMax
      simp only [nearMin, nearMax, nearMin.not_knownWithin, nearMax.not_knownWithin] at hmin hmax ⊢
      grind
    · have hknown := herror.swap.within_iff hs.minVoltage hd.maxVoltage hd.minVoltage nearMax
      grind
  · have hknown := herror.within_iff hs.maxVoltage hd.minVoltage hd.maxVoltage nearMin
    grind

/-- The devices on which `FindVdsError` reports what it reports on the dual. -/
def VdsAgrees (env : OverVoltageEnv) (theParameter : Int) (c : CFullConnection) : Prop :=
  (env.readings c.source).apart (env.limit theParameter) (env.readings c.drain) = false ∨ c.isPumpCapacitor = false ∨
    ¬ MarkDecides (env.limit theParameter) c.source c.drain

theorem limit_le (env : OverVoltageEnv) (par : Int) : env.limit par ≤ unknownVoltage := by
  have := @Int.bmod_lt (par + env.cvcOvervoltageErrorThreshold) (2 ^ 16) (by decide)
  unfold limit int16 unknownVoltage
  omega

section
variable {env : OverVoltageEnv} {par : Int} {c : CFullConnection} {display : String}

theorem readings_mirror (env : OverVoltageEnv) {t : Terminal} (ht : t.HasDual) :
    (env.dual.readings t.dual).Mirrors (env.readings t) :=
  Terminal.mirrors_dual env.nets ht

theorem findVbsError_dual (hc : c.HasDual) : env.dual.findVbsError par c.dual display = env.findVbsError par c display := by
  have hs := env.readings_mirror hc.source
  have hd := env.readings_mirror hc.drain
  have hb := env.readings_mirror hc.bulk
  exact congrArg₂ (env.overVoltageError _ _ _) (congrArg₂ _ (hs.apart _ hb) (hd.apart _ hb)) (vbsLeakError_mirror _ hs hd hb)

theorem findVgsError_dual (hc : c.HasDual) : env.dual.findVgsError par c.dual display = env.findVgsError par c display := by
  have hg := env.readings_mirror hc.gate
  have hs := env.readings_mirror hc.source
  have hd := env.readings_mirror hc.drain
  exact congrArg₂ (env.overVoltageError _ _ _) (congrArg₂ _ (hg.apart _ hs) (hg.apart _ hd)) (vgsLeakError_mirror _ hg hs hd)

/-- `FindVbgError` finds the same in the dual circuit exactly if its unpaired tests agree or do not matter. -/
theorem findVbgError_dual_iff (hc : c.HasDual) :
    env.dual.findVbgError par c.dual display = env.findVbgError par c display ↔ env.VbgAgrees par c := by
  have hg := env.readings_mirror hc.gate
  have hb := env.readings_mirror hc.bulk
  have hplain := hg.apart (env.limit par) hb
  have hleak := vbgLeakError_mirror_iff (env.limit par) hg hb
  show env.overVoltageError _ _ _ ((env.dual.readings c.gate.dual).apart (env.limit par) (env.dual.readings c.bulk.dual))
    _ = _ ↔ _
  rw [hplain, findVbgError, overVoltageError_eq_iff]
  exact or_congr_right (or_congr_right hleak)

/-- `FindVdsError` finds the same in the dual circuit exactly if no mark decides about a pump. -/
theorem findVdsError_dual_iff (hc : c.HasDual) :
    env.dual.findVdsError par c.dual display = env.findVdsError par c display ↔ env.VdsAgrees par c := by
  have hs := env.readings_mirror hc.source
  have hd := env.readings_mirror hc.drain
  have hplain := hs.apart (env.limit par) hd
  have hleak := vdsLeakError_mirror (env.limit par) hs hd
  show (if (env.dual.readings c.source.dual).apart (env.limit par) (env.dual.readings c.drain.dual) &&
      c.dual.isPumpCapacitor && pumpsWithin (env.limit par) c.source.dual c.drain.dual then none
    else
      env.overVoltageError _ _ display ((env.dual.readings c.source.dual).apart (env.limit par) (env.dual.readings c.drain.dual))
        (vdsLeakError (env.limit par) (env.dual.readings c.source.dual) (env.dual.readings c.drain.dual))) = _ ↔ _
  rw [isPumpCapacitor_dual hc, hplain, hleak]
  refine (pumpException_eq_iff overVoltageError_ne_none).trans ?_
  unfold VdsAgrees
  cases herror : (env.readings c.source).apart (env.limit par) (env.readings c.drain) with
  | false => simp
  | true =>
    have hpumps := pumpsWithin_dual_iff (env.limit_le par) hc.source hc.drain (plainError_of_apart herror)
    exact or_congr_right (or_congr_right hpumps)

/-- The four overvoltage checks on a device and on its dual: the checks of the bulk and of the gate against source and drain
always report the same; the check of the gate against the bulk and that of the source against the drain do exactly on the devices
of `VbgAgrees` and `VdsAgrees`. -/
theorem overVoltage_dual (env : OverVoltageEnv) (theParameter : Int) (c : CFullConnection) (display : String) (hc : c.HasDual) :
    env.dual.findVbsError theParameter c.dual display = env.findVbsError theParameter c display ∧
      env.dual.findVgsError theParameter c.dual display = env.findVgsError theParameter c display ∧
      (env.dual.findVbgError theParameter c.dual display = env.findVbgError theParameter c display ↔
        env.VbgAgrees theParameter c) ∧
      (env.dual.findVdsError theParameter c.dual display = env.findVdsError theParameter c display ↔
        env.VdsAgrees theParameter c) :=
  ⟨findVbsError_dual hc, findVgsError_dual hc, findVbgError_dual_iff hc, findVdsError_dual_iff hc⟩

end

/-- Nets with no powers. -/
def noPowers : OverVoltageEnv where
  nets := { power := fun _ => {}, netVoltagePtr := fun _ => none, next := fun _ net => net }

/-- A device with a minimum leak voltage at its gate and a maximum leak voltage at its bulk, both of 1.5 V. -/
def leakyDevice : CFullConnection where
  gate := { minLeakVoltage := 1500 }
  bulk := { maxLeakVoltage := 1500 }
  type := .nmos

/-- A capacitor between a net that is pumped and one of which only the maximum is known. -/
def pumpCapacitor : CFullConnection where
  source := { minVoltage := -13000, maxVoltage := 0, minPower := some 0, maxPower := some 0 }
  drain := { maxVoltage := 7500 }
  type := .capacitor

theorem leakyDevice_hasDual : leakyDevice.HasDual := by
  constructor <;> constructor <;> decide

/-- The two checks on a device with leaks and on its dual. -/
theorem leakyDevice_overVoltage_dual : leakyDevice.HasDual ∧
    noPowers.dual.findVbsError 1000 leakyDevice.dual " 1.0" = noPowers.findVbsError 1000 leakyDevice " 1.0" ∧
    noPowers.dual.findVgsError 1000 leakyDevice.dual " 1.0" = noPowers.findVgsError 1000 leakyDevice " 1.0" :=
  ⟨leakyDevice_hasDual, (overVoltage_dual noPowers 1000 leakyDevice " 1.0" leakyDevice_hasDual).1,
    (overVoltage_dual noPowers 1000 leakyDevice " 1.0" leakyDevice_hasDual).2.1⟩

/-- Two devices with duals on which a check reports an error that it does not report on the dual, or the other way round. -/
theorem overVoltage_dual_ne : leakyDevice.HasDual ∧ pumpCapacitor.HasDual ∧
    noPowers.findVbgError 1000 leakyDevice " 1.0" = some ⟨.overvoltageVbg, "Overvoltage Error:Gate vs Bulk: (logic ok) 1.0"⟩ ∧
    noPowers.dual.findVbgError 1000 leakyDevice.dual " 1.0" = none ∧
    noPowers.findVdsError 20000 pumpCapacitor " 20.0" = some ⟨.overvoltageVds, "Overvoltage Error:Source vs Drain: 20.0"⟩ ∧
    noPowers.dual.findVdsError 20000 pumpCapacitor.dual " 20.0" = none :=
  ⟨leakyDevice_hasDual, by constructor <;> constructor <;> decide, by decide +kernel, by decide +kernel, by decide +kernel,
    by decide +kernel⟩

end OverVoltageEnv
end Cvc
