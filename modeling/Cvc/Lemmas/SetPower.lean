import Cvc.Lib.Loop
import Cvc.SetPower

/-!
# What a mode gives to a net

`CCvcDb::SetModePower` refined by a merge for each net: the definitions that name the net, in the order of the power list, are
merged into the first of them, and nothing else has a part in the power of the net. The step lemmas follow the round of the inner
loop; the invariant between two definitions is that each net has a power of its own, made for this net, and that the definitions
not read yet are as they were.
-/

namespace Cvc

open CCircuitPtrList List

/-! ## Merging definitions -/

namespace CPower

variable (power : CPower)

/-- What a power has from its definition, whatever its net. -/
def defined : CPower := power.copyTo unknownNet

@[simp] theorem defined_copyTo (n : Nat) : (power.copyTo n).defined = power.defined := by
  cases hextra : power.extraData <;> simp [defined, copyTo, hextra]

@[simp] theorem defined_netId (n : Nat) : ({ power with netId := n } : CPower).defined = power.defined := rfl

theorem defined_overrideWith (other power : CPower) :
    (other.overrideWith power).defined = other.defined.overrideWith power.defined := rfl

@[simp] theorem defined_definition : power.defined.definition = power.definition := rfl

@[simp] theorem extraData_defined : power.defined.expectedMin = power.expectedMin ∧
    power.defined.expectedSim = power.expectedSim ∧
    power.defined.expectedMax = power.expectedMax ∧ power.defined.family = power.family := by
  cases hextra : power.extraData <;> simp [defined, copyTo, expectedMin, expectedSim, expectedMax, family, hextra]

theorem conflictsWith_defined (other power : CPower) : other.defined.conflictsWith power.defined = other.conflictsWith power := by
  simp only [conflictsWith, extraData_defined]
  rfl

/-- A further definition of a net that has a power. -/
def mergeInto (other power : CPower) : CPower := if power.definition = other.definition then other else other.overrideWith power

/-- The power of a net after its definitions in a list. -/
def mergeAll : List CPower → Option CPower
  | [] => none
  | first :: rest => some (rest.foldl mergeInto first)

theorem mergeAll_concat (l : List CPower) (power : CPower) :
    mergeAll (l ++ [power]) = some ((mergeAll l).elim power (mergeInto · power)) := by
  cases l with
  | nil => rfl
  | cons first rest => simp [mergeAll]

/-- A further definition of a net is in conflict with the power that it has. -/
def Conflict (stored : Option CPower) (power : CPower) : Prop :=
  ∃ other ∈ stored, power.definition ≠ other.definition ∧ other.conflictsWith power = true

end CPower

/-- The values that a definition may give. -/
inductive PowerField where
  | minVoltage
  | simVoltage
  | maxVoltage
  | expectedMin
  | expectedSim
  | expectedMax
  deriving DecidableEq, Repr

/-- Three of the values are voltages. -/
def PowerField.isVoltage : PowerField → Bool
  | .minVoltage | .simVoltage | .maxVoltage => true
  | _ => false

namespace CPower

variable {power other : CPower}

/-- A voltage that is given. -/
def givenVoltage (voltage : Int) : Option (Int ⊕ Text) := if voltage = unknownVoltage then none else some (.inl voltage)

/-- An expected value that is given. -/
def givenText (text : Text) : Option (Int ⊕ Text) := if text = [] then none else some (.inr text)

/-- The value that a power gives for a field, if it gives one. -/
def given (power : CPower) : PowerField → Option (Int ⊕ Text)
  | .minVoltage => givenVoltage power.minVoltage
  | .simVoltage => givenVoltage power.simVoltage
  | .maxVoltage => givenVoltage power.maxVoltage
  | .expectedMin => givenText power.expectedMin
  | .expectedSim => givenText power.expectedSim
  | .expectedMax => givenText power.expectedMax

/-- Two definitions have the same type and family, and never give two values for one field. -/
structure Agrees (power other : CPower) : Prop where
  type_eq : power.type = other.type
  family_eq : power.family = other.family
  given_eq : ∀ f v w, power.given f = some v → other.given f = some w → v = w

@[simp] theorem given_defined (power : CPower) (f : PowerField) : power.defined.given f = power.given f := by
  cases f <;> simp [given] <;> rfl

theorem Agrees.defined (h : power.Agrees other) : power.defined.Agrees other.defined :=
  ⟨h.type_eq, by simpa using h.family_eq, fun f v w hv hw => h.given_eq f v w (by simpa using hv) (by simpa using hw)⟩

theorem givenVoltage_overrideVoltage (v w : Int) : givenVoltage (overrideVoltage v w) = (givenVoltage v).or (givenVoltage w) := by
  by_cases hv : v = unknownVoltage <;> by_cases hw : w = unknownVoltage <;> simp [givenVoltage, overrideVoltage, hv, hw]

/-- An override completes the voltages, and only them. -/
theorem given_overrideWith (other power : CPower) (f : PowerField) :
    (other.overrideWith power).given f = if f.isVoltage then (other.given f).or (power.given f) else other.given f := by
  cases f <;> simp [given, overrideWith, PowerField.isVoltage, givenVoltage_overrideVoltage] <;> rfl

theorem voltageConflict_iff {v w : Int} :
    voltageConflict v w = true ↔ ∃ x y, givenVoltage v = some x ∧ givenVoltage w = some y ∧ x ≠ y := by
  by_cases hv : v = unknownVoltage <;> by_cases hw : w = unknownVoltage <;> simp [voltageConflict, givenVoltage, hw]

theorem expectedConflict_iff {v w : Text} : expectedConflict v w = true ↔ ∃ x y, givenText v = some x ∧
    givenText w = some y ∧ x ≠ y := by
  by_cases hv : v = [] <;> by_cases hw : w = [] <;> simp [expectedConflict, givenText, hw]

/-- Definitions that agree are not in conflict. -/
theorem not_conflictsWith_of_agrees (h : other.Agrees power) : other.conflictsWith power = false := by
  have hno : ∀ f, ¬ ∃ x y, other.given f = some x ∧ power.given f = some y ∧ x ≠ y := by
    rintro f ⟨x, y, hx, hy, hne⟩
    exact hne (h.given_eq f x y hx hy)
  have hmin := voltageConflict_iff.not.2 (hno .minVoltage)
  have hsim := voltageConflict_iff.not.2 (hno .simVoltage)
  have hmax := voltageConflict_iff.not.2 (hno .maxVoltage)
  have hexpMin := expectedConflict_iff.not.2 (hno .expectedMin)
  have hexpSim := expectedConflict_iff.not.2 (hno .expectedSim)
  have hexpMax := expectedConflict_iff.not.2 (hno .expectedMax)
  simp [conflictsWith, hmin, hsim, hmax, hexpMin, hexpSim, hexpMax, h.type_eq, h.family_eq]

/-- What the merged power has: the type, the family and the definition of the first one, and no value that no definition gives. -/
theorem foldl_mergeInto_kept (first : CPower) (rest : List CPower) :
    (rest.foldl mergeInto first).definition = first.definition ∧ (rest.foldl mergeInto first).type = first.type ∧
      (rest.foldl mergeInto first).family = first.family ∧
      ∀ f v, (rest.foldl mergeInto first).given f = some v → ∃ d ∈ first :: rest, d.given f = some v := by
  induction rest using reverseRecOn with
  | nil => exact ⟨rfl, rfl, rfl, fun f v hv => ⟨first, mem_cons_self, hv⟩⟩
  | append_singleton rest d ih =>
    obtain ⟨hdefinition, htype, hfamily, hgiven⟩ := ih
    have hmore : ∀ f v, (∃ d ∈ first :: rest, d.given f = some v) → ∃ e ∈ first :: (rest ++ [d]), e.given f = some v :=
      fun f v ⟨e, he, hv⟩ => ⟨e, by simpa using (mem_cons.1 he).imp_right .inl, hv⟩
    rw [foldl_append, foldl_cons, foldl_nil, mergeInto]
    split
    · exact ⟨hdefinition, htype, hfamily, fun f v hv => hmore f v (hgiven f v hv)⟩
    refine ⟨hdefinition, htype, hfamily, fun f v hv => ?_⟩
    rw [given_overrideWith] at hv
    split at hv
    · rcases Option.or_eq_some_iff.1 hv with hv | ⟨-, hv⟩
      · exact hmore f v (hgiven f v hv)
      · exact ⟨d, by simp, hv⟩
    · exact hmore f v (hgiven f v hv)

/-- The values of the merged power: those of the first definition, and the voltages of those with another text. -/
theorem given_foldl_mergeInto {first : CPower} {rest : List CPower}
    (hagree : ∀ d ∈ first :: rest, ∀ e ∈ first :: rest, d.Agrees e) (f : PowerField) (v : Int ⊕ Text) :
    (rest.foldl mergeInto first).given f = some v ↔
      first.given f = some v ∨ f.isVoltage = true ∧ ∃ d ∈ rest, d.definition ≠ first.definition ∧ d.given f = some v := by
  induction rest using reverseRecOn with
  | nil => simp
  | append_singleton rest d ih =>
    have hsub : ∀ e ∈ first :: rest, e ∈ first :: (rest ++ [d]) := fun e he => by
      simpa using (mem_cons.1 he).imp_right .inl
    have ih := ih fun e he e' he' => hagree e (hsub e he) e' (hsub e' he')
    obtain ⟨hdefinition, -, -, hgiven⟩ := foldl_mergeInto_kept first rest
    have hagreed : ∀ w, (rest.foldl mergeInto first).given f = some w → d.given f = some v → w = v := by
      intro w hw hv
      obtain ⟨e, he, hw⟩ := hgiven f w hw
      exact (hagree e (hsub e he) d (by simp)).given_eq f w v hw hv
    rw [foldl_append, foldl_cons, foldl_nil, mergeInto, hdefinition]
    by_cases hd : d.definition = first.definition
    · rw [if_pos hd, ih]
      simp [or_and_right, exists_or, hd]
    rw [if_neg hd, given_overrideWith]
    by_cases hf : f.isVoltage = true
    · rw [if_pos hf]
      constructor
      · intro hv
        rcases Option.or_eq_some_iff.1 hv with hv | ⟨-, hv⟩
        · exact (ih.1 hv).imp_right fun ⟨hf, e, he, hv⟩ => ⟨hf, e, mem_append_left _ he, hv⟩
        · exact .inr ⟨hf, d, by simp, hd, hv⟩
      · intro hv
        have hcases : (rest.foldl mergeInto first).given f = some v ∨ d.given f = some v := by
          rcases hv with hv | ⟨-, e, he, hne, hv⟩
          · exact .inl (ih.2 (.inl hv))
          · rcases mem_append.1 he with he | he
            · exact .inl (ih.2 (.inr ⟨hf, e, he, hne, hv⟩))
            · exact .inr (mem_singleton.1 he ▸ hv)
        cases ho : (rest.foldl mergeInto first).given f with
        | none => simpa [ho] using hcases
        | some w =>
          rcases hcases with hv | hv
          · simpa [ho] using hv
          · simpa using hagreed w ho hv
    · rw [if_neg hf, ih]
      simp [hf]

/-- Definitions of a net that agree never come into conflict. -/
theorem not_conflict_mergeAll {l : List CPower}
    (hagree : ∀ d ∈ l ++ [power], ∀ e ∈ l ++ [power], d.Agrees e) : ¬ Conflict (mergeAll l) power := by
  rintro ⟨other, hother, -, hconflict⟩
  cases l with
  | nil => simp [mergeAll] at hother
  | cons first rest =>
    obtain rfl : rest.foldl mergeInto first = other := by simpa [mergeAll] using hother
    obtain ⟨-, htype, hfamily, hgiven⟩ := foldl_mergeInto_kept first rest
    have hfirst := hagree first (by simp) power (by simp)
    have hagrees : (rest.foldl mergeInto first).Agrees power :=
      ⟨htype.trans hfirst.type_eq, hfamily.trans hfirst.family_eq, fun f v w hv hw => by
        obtain ⟨d, hd, hv⟩ := hgiven f v hv
        exact (hagree d (mem_append_left _ hd) power (by simp)).given_eq f v w hv hw⟩
    exact absurd ((not_conflictsWith_of_agrees hagrees).symm.trans hconflict) (by decide)

end CPower

/-! ## The rounds for the nets of a definition -/

namespace PowerSettings

variable (s : PowerSettings)

/-- The definition that the power of a net has. -/
def stored (n : Nat) : Option CPower := (s.netVoltagePtr n).map fun p => (s.power p).defined

/-- Every power of a net was made for it, and none of them is pending. -/
def Owned (pending : Nat → Prop) : Prop :=
  ∀ n p, s.netVoltagePtr n = some p → (s.power p).netId = n ∧ p < s.powerCount ∧ ¬ pending p

end PowerSettings

namespace ModePowerState

open CPower PowerSettings

variable {s : ModePowerState} {pending : Nat → Prop} {net : Nat} {nets : List Nat}

/-- What is known between two rounds: `power` is what the definition says. -/
structure Inv (pending : Nat → Prop) (power : CPower) (s : ModePowerState) : Prop where
  owned : s.settings.Owned pending
  myPower_lt : s.myPower < s.settings.powerCount
  pending_lt : ∀ p, pending p → p < s.settings.powerCount
  not_pending : ¬ pending s.myPower
  defined_eq : (s.settings.power s.myPower).defined = power

/-- What the first part of a round does: the power of the net is merged with the definition, and nothing else is changed. -/
structure Overridden (pending : Nat → Prop) (power : CPower) (net : Nat) (s t : ModePowerState) : Prop where
  inv : t.Inv pending power
  myPower_eq : t.myPower = s.myPower
  powerCount_eq : t.settings.powerCount = s.settings.powerCount
  netVoltagePtr_eq : t.settings.netVoltagePtr = s.settings.netVoltagePtr
  stored_self : t.settings.stored net = (s.settings.stored net).map (mergeInto · power)
  stored_ne : ∀ n, n ≠ net → t.settings.stored n = s.settings.stored n
  error : t.myPowerError = true → s.myPowerError = true ∨ Conflict (s.settings.stored net) power
  power_eq : ∀ p, s.settings.netVoltagePtr net ≠ some p → t.settings.power p = s.settings.power p

/-- What the second part of a round does: the current power is one made for the net, and nothing else is changed. -/
structure Defined (pending : Nat → Prop) (power : CPower) (net : Nat) (s t : ModePowerState) : Prop where
  inv : t.Inv pending power
  netVoltagePtr_eq : t.settings.netVoltagePtr = s.settings.netVoltagePtr
  stored_eq : t.settings.stored = s.settings.stored
  error_eq : t.myPowerError = s.myPowerError
  netId_eq : (t.settings.power t.myPower).netId = net
  pending_eq : ∀ p, pending p → t.settings.power p = s.settings.power p
  not_stored : ∀ n, t.settings.netVoltagePtr n ≠ some t.myPower

/-- What a round does for a net. -/
structure Round (pending : Nat → Prop) (power : CPower) (net : Nat) (s t : ModePowerState) : Prop where
  inv : t.Inv pending power
  stored_self : t.settings.stored net = some ((s.settings.stored net).elim power (mergeInto · power))
  stored_ne : ∀ n, n ≠ net → t.settings.stored n = s.settings.stored n
  error : t.myPowerError = true → s.myPowerError = true ∨ Conflict (s.settings.stored net) power
  pending_eq : ∀ p, pending p → t.settings.power p = s.settings.power p
  not_stored : ∀ n, n ≠ net → t.settings.netVoltagePtr n ≠ some t.myPower

variable {power : CPower}

section
variable (hs : s.Inv pending power)
include hs

theorem overridden (hnet : s.settings.netVoltagePtr net ≠ some s.myPower) : Overridden pending power net s (s.override net) := by
  have hdefinition : (s.settings.power s.myPower).definition = power.definition := by rw [← hs.defined_eq, defined_definition]
  cases hother : s.settings.netVoltagePtr net with
  | none =>
    have heq : s.override net = s := by simp [override, hother]
    rw [heq]
    exact ⟨hs, rfl, rfl, rfl, by simp [stored, hother], fun _ _ => rfl, .inl, fun _ _ => rfl⟩
  | some o =>
    have hstored : s.settings.stored net = some (s.settings.power o).defined := by simp [stored, hother]
    by_cases hsame : (s.settings.power s.myPower).definition = (s.settings.power o).definition
    · have heq : s.override net = s := by simp [override, hother, hsame]
      rw [heq]
      refine ⟨hs, rfl, rfl, rfl, ?_, fun _ _ => rfl, .inl, fun _ _ => rfl⟩
      simp [hstored, mergeInto, ← hdefinition, hsame]
    have hmine : s.myPower ≠ o := fun h => hnet (h ▸ hother)
    have hne : ∀ n p, n ≠ net → s.settings.netVoltagePtr n = some p → p ≠ o := by
      rintro n p hn hp rfl
      exact hn ((hs.owned n p hp).1.symm.trans (hs.owned net p hother).1)
    have heq : s.override net = { s with
        settings := s.settings.setPower o ((s.settings.power o).overrideWith (s.settings.power s.myPower))
        myPowerError := s.myPowerError || (s.settings.power o).conflictsWith (s.settings.power s.myPower) } := by
      simp [override, hother, hsame]
    rw [heq]
    refine ⟨⟨fun n p hp => ⟨?_, (hs.owned n p hp).2⟩, hs.myPower_lt, hs.pending_lt, hs.not_pending, ?_⟩, rfl, rfl, rfl, ?_,
      fun n hn => ?_, fun herror => ?_, fun p hp => ?_⟩
    · by_cases hpo : p = o
      · subst hpo
        simpa [setPower, overrideWith] using (hs.owned n p hp).1
      · simpa [setPower, hpo] using (hs.owned n p hp).1
    · simpa [setPower, hmine] using hs.defined_eq
    · simp [stored, setPower, hother, mergeInto, ← hdefinition, hsame, defined_overrideWith, hs.defined_eq]
    · simp only [stored, setPower]
      cases hp : s.settings.netVoltagePtr n with
      | none => rfl
      | some p => simp [hne n p hn hp]
    · rcases Bool.or_eq_true_iff.1 herror with herror | hconflict
      · exact .inl herror
      · refine .inr ⟨_, hstored, ?_, ?_⟩
        · simpa [← hdefinition] using hsame
        · rw [← hs.defined_eq, conflictsWith_defined]
          exact hconflict
    · have hpo : p ≠ o := fun h => hp (h ▸ hother)
      simp [setPower, hpo]

/-- The first net takes the definition of the list, which no net has. -/
theorem defined_first (hfree : ∀ n, s.settings.netVoltagePtr n ≠ some s.myPower) :
    Defined pending power net s (s.define true net) := by
  have hne : ∀ n p, s.settings.netVoltagePtr n = some p → p ≠ s.myPower := fun n p hp h => hfree n (h ▸ hp)
  refine ⟨⟨fun n p hp => ?_, hs.myPower_lt, hs.pending_lt, hs.not_pending, ?_⟩, rfl, ?_, rfl, ?_, fun p hp => ?_, hfree⟩
  · simpa [define, setPower, hne n p hp] using hs.owned n p hp
  · simpa [define, setPower] using hs.defined_eq
  · funext n
    simp only [stored, define, setPower, if_true]
    cases hp : s.settings.netVoltagePtr n with
    | none => rfl
    | some p => simp [hne n p hp]
  · simp [define, setPower]
  · have : p ≠ s.myPower := fun h => hs.not_pending (h ▸ hp)
    simp [define, setPower, this]

/-- A later net takes a copy. -/
theorem defined_next : Defined pending power net s (s.define false net) := by
  have hne : ∀ n p, s.settings.netVoltagePtr n = some p → p ≠ s.settings.powerCount :=
    fun n p hp => Nat.ne_of_lt (hs.owned n p hp).2.1
  refine ⟨⟨fun n p hp => ?_, Nat.lt_succ_self _, fun p hp => Nat.lt_succ_of_lt (hs.pending_lt p hp), fun hp => ?_, ?_⟩, rfl, ?_,
    rfl, ?_,
    fun p hp => ?_, fun n hn => hne n _ hn rfl⟩
  · have hp' : s.settings.netVoltagePtr n = some p := hp
    obtain ⟨hid, hlt, hpending⟩ := hs.owned n p hp'
    refine ⟨?_, Nat.lt_succ_of_lt hlt, hpending⟩
    simpa [define, newPower, pushPower, hne n p hp'] using hid
  · exact Nat.lt_irrefl _ (hs.pending_lt _ hp)
  · simpa [define, newPower, pushPower] using hs.defined_eq
  · funext n
    simp only [stored, define, newPower, pushPower, Bool.false_eq_true, if_false]
    cases hp : s.settings.netVoltagePtr n with
    | none => rfl
    | some p => simp [hne n p hp]
  · simp [define, newPower, pushPower, copyTo]
  · have := Nat.ne_of_lt (hs.pending_lt p hp)
    simp [define, newPower, pushPower, this]

/-- The two parts of a round, and the third one that gives a net its first power. -/
theorem round_of_defined {isFirst : Bool} (hover : Overridden pending power net s (s.override net))
    (hdef : Defined pending power net (s.override net) ((s.override net).define isFirst net)) :
    Round pending power net s (s.setNet isFirst net) := by
  set t := (s.override net).define isFirst net
  have hpending : ∀ p, pending p → t.settings.power p = s.settings.power p := fun p hp =>
    (hdef.pending_eq p hp).trans (hover.power_eq p fun h => (hs.owned net p h).2.2 hp)
  have herror : t.myPowerError = true → s.myPowerError = true ∨ Conflict (s.settings.stored net) power := fun h =>
    hover.error (hdef.error_eq ▸ h)
  cases hother : s.settings.netVoltagePtr net with
  | some o =>
    have heq : s.setNet isFirst net = t := by simp [setNet, hother, t]
    rw [heq]
    refine ⟨hdef.inv, ?_, fun n hn => ?_, herror, hpending, fun n _ => hdef.not_stored n⟩
    · rw [hdef.stored_eq, hover.stored_self]
      simp [stored, hother]
    · rw [hdef.stored_eq, hover.stored_ne n hn]
  | none =>
    have heq : s.setNet isFirst net = { t with settings := t.settings.install net t.myPower } := by simp [setNet, hother, t]
    rw [heq]
    refine ⟨⟨fun n p hp => ?_, hdef.inv.myPower_lt, hdef.inv.pending_lt, hdef.inv.not_pending, hdef.inv.defined_eq⟩,
      ?_, fun n hn => ?_,
      herror, hpending, fun n hn => ?_⟩
    · by_cases hn : n = net
      · subst hn
        obtain rfl : t.myPower = p := by simpa [install] using hp
        exact ⟨hdef.netId_eq, hdef.inv.myPower_lt, hdef.inv.not_pending⟩
      · exact hdef.inv.owned n p (by simpa [install, hn] using hp)
    · simp [stored, install, hdef.inv.defined_eq, hother]
    · rw [← hover.stored_ne n hn, ← hdef.stored_eq]
      simp [stored, install, hn]
    · simpa [install, hn] using hdef.not_stored n

/-- The round for the first net of a definition. -/
theorem round_first (hfree : ∀ n, s.settings.netVoltagePtr n ≠ some s.myPower) :
    Round pending power net s (s.setNet true net) := by
  have hover := overridden hs (hfree net)
  refine round_of_defined hs hover (defined_first hover.inv fun n => ?_)
  rw [hover.netVoltagePtr_eq, hover.myPower_eq]
  exact hfree n

end

/-- What the rounds for some nets do. -/
structure Rounds (pending : Nat → Prop) (power : CPower) (nets : List Nat) (s t : ModePowerState) : Prop where
  inv : t.Inv pending power
  stored_of_mem : ∀ n ∈ nets, t.settings.stored n = some ((s.settings.stored n).elim power (mergeInto · power))
  stored_of_not_mem : ∀ n, n ∉ nets → t.settings.stored n = s.settings.stored n
  error : t.myPowerError = true → s.myPowerError = true ∨ ∃ n ∈ nets, Conflict (s.settings.stored n) power
  pending_eq : ∀ p, pending p → t.settings.power p = s.settings.power p

/-- The round for a net before those for others. -/
theorem Rounds.cons {t u : ModePowerState} (hnot : net ∉ nets) (hfirst : Round pending power net s t)
    (hrest : Rounds pending power nets t u) : Rounds pending power (net :: nets) s u := by
  have hne : ∀ n ∈ nets, n ≠ net := fun n hn h => hnot (h ▸ hn)
  refine ⟨hrest.inv, fun n hn => ?_, fun n hn => ?_, fun herror => ?_, fun p hp => ?_⟩
  · rcases mem_cons.1 hn with rfl | hn
    · rw [hrest.stored_of_not_mem n hnot, hfirst.stored_self]
    · rw [hrest.stored_of_mem n hn, hfirst.stored_ne n (hne n hn)]
  · obtain ⟨hn', hn⟩ := not_or.1 (mem_cons.not.1 hn)
    rw [hrest.stored_of_not_mem n hn, hfirst.stored_ne n hn']
  · rcases hrest.error herror with herror | ⟨n, hn, hconflict⟩
    · exact (hfirst.error herror).imp_right fun hconflict => ⟨net, mem_cons_self, hconflict⟩
    · rw [hfirst.stored_ne n (hne n hn)] at hconflict
      exact .inr ⟨n, mem_cons_of_mem _ hn, hconflict⟩
  · rw [hrest.pending_eq p hp, hfirst.pending_eq p hp]

/-- The rounds after the first one, for nets that do not have the current power. -/
theorem rounds_next (hnodup : nets.Nodup) (hs : s.Inv pending power)
    (hnets : ∀ n ∈ nets, s.settings.netVoltagePtr n ≠ some s.myPower) :
    Rounds pending power nets s (nets.foldl (fun s theNetId => s.setNet false theNetId) s) := by
  induction nets generalizing s with
  | nil => exact ⟨hs, by simp, fun _ _ => rfl, .inl, fun _ _ => rfl⟩
  | cons net nets ih =>
    obtain ⟨hnot, hnodup⟩ := nodup_cons.1 hnodup
    have hover := overridden hs (hnets net mem_cons_self)
    have hfirst := round_of_defined hs hover (defined_next hover.inv)
    exact .cons hnot hfirst (ih hnodup hfirst.inv fun n hn => hfirst.not_stored n fun h => hnot (h ▸ hn))

/-- All rounds of a definition that names a net. -/
theorem rounds_setNets (hnodup : nets.Nodup) (hne : nets ≠ []) (hs : s.Inv pending power)
    (hfree : ∀ n, s.settings.netVoltagePtr n ≠ some s.myPower) : Rounds pending power nets s (s.setNets nets) := by
  obtain ⟨net, nets, rfl⟩ := exists_cons_of_ne_nil hne
  obtain ⟨hnot, hnodup⟩ := nodup_cons.1 hnodup
  have hfirst : Round pending power net s (s.setNet true net) := round_first hs hfree
  exact .cons hnot hfirst (rounds_next hnodup hfirst.inv fun n hn => hfirst.not_stored n fun h => hnot (h ▸ hn))

end ModePowerState

/-! ## The definitions of a power file -/

section
variable {h : Hierarchy} (names : CCircuitPtrList h) (regex : Text → Option (Text → Bool)) (db : CCvcDb)
  {defs : List CPower} {d : CPower}

open CPower

/-- The nets that a definition names. -/
def CCircuitPtrList.netsOf (definition : CPower) : List Nat :=
    (names.netIdList regex db definition.powerSignal 0).toOption.getD []

/-- The definitions of a list that name a net. -/
def CCircuitPtrList.named (definitions : List CPower) (n : Nat) : List CPower := definitions.filter (n ∈ names.netsOf regex db ·)

variable {names regex db}

theorem CCircuitPtrList.netIdList_eq {definition : CPower} (hne : names.netsOf regex db definition ≠ []) :
    names.netIdList regex db definition.powerSignal 0 = .ok (names.netsOf regex db definition) := by
  unfold netsOf at *
  cases hlist : names.netIdList regex db definition.powerSignal 0 with
  | error e => simp [hlist, Except.toOption] at hne
  | ok nets => simp [Except.toOption]

theorem CCircuitPtrList.mem_named {n : Nat} : d ∈ names.named regex db defs n ↔ d ∈ defs ∧ n ∈ names.netsOf regex db d := by
  simp [named]

variable (names regex db) in
/-- What is known when the first definitions of a list are read: the others are as they were, the power of a net is merged from
the definitions that name it, and no error was reported. -/
structure Read (definitions : List CPower) (k : Nat) (s : PowerSettings × Bool) : Prop where
  owned : s.1.Owned fun p => k ≤ p ∧ p < definitions.length
  pending_lt : ∀ p, k ≤ p ∧ p < definitions.length → p < s.1.powerCount
  pending_eq : ∀ p d, k ≤ p → definitions[p]? = some d → s.1.power p = d
  stored_eq : ∀ n, s.1.stored n = mergeAll ((names.named regex db (definitions.take k) n).map defined)
  error_eq : s.2 = false

/-- Every definition names a net, and definitions of the same net agree. -/
structure CCircuitPtrList.Agreeing (names : CCircuitPtrList h) (regex : Text → Option (Text → Bool)) (db : CCvcDb)
    (definitions : List CPower) : Prop where
  nets_ne : ∀ d ∈ definitions, names.netsOf regex db d ≠ []
  agrees : ∀ n, ∀ d ∈ names.named regex db definitions n, ∀ e ∈ names.named regex db definitions n, d.Agrees e

theorem read_start (defs : List CPower) : Read names regex db defs 0 (.ofDefinitions defs, false) := by
  refine ⟨nofun, fun p hp => hp.2, fun p d _ hd => ?_, fun n => rfl, rfl⟩
  simp [PowerSettings.ofDefinitions, hd]

/-- Reading one more definition. -/
theorem read_setDefinition (hagreeing : names.Agreeing regex db defs) {k : Nat}
    (hd : defs[k]? = some d) {s : PowerSettings × Bool} (hs : Read names regex db defs k s) :
    ∃ t, names.setDefinition regex db s k = .ok t ∧ Read names regex db defs (k + 1) t := by
  obtain ⟨hk, hdk⟩ := List.getElem?_eq_some_iff.1 hd
  have hmem : d ∈ defs := mem_of_getElem? hd
  have hne := hagreeing.nets_ne d hmem
  have hpower : s.1.power k = d := hs.pending_eq k d (Nat.le_refl _) hd
  have hlist : names.netIdList regex db (s.1.power k).powerSignal 0 = .ok (names.netsOf regex db d) := by
    rw [hpower]
    exact netIdList_eq hne
  let start : ModePowerState := { settings := s.1.pushPower k, myPower := k, myPowerError := s.2 }
  have hinv : start.Inv (fun p => k + 1 ≤ p ∧ p < defs.length) d.defined :=
    ⟨fun n p hp => ⟨(hs.owned n p hp).1, (hs.owned n p hp).2.1, fun hp' => (hs.owned n p hp).2.2 ⟨by omega, hp'.2⟩⟩,
      hs.pending_lt k ⟨Nat.le_refl _, hk⟩, fun p hp => hs.pending_lt p ⟨by omega, hp.2⟩, fun hp => by simp [start] at hp,
      congrArg defined hpower⟩
  obtain ⟨found, -, hfound⟩ := bind_eq_ok.1 hlist
  have hrounds := ModePowerState.rounds_setNets (Except.ok.inj hfound ▸ (nodup_range.filter _)) hne hinv fun n hn =>
    (hs.owned n k hn).2.2 ⟨Nat.le_refl _, hk⟩
  have htake : defs.take (k + 1) = defs.take k ++ [d] := by rw [take_add_one, hd, Option.toList_some]
  refine ⟨_, by simp only [setDefinition, hlist]; rfl, ⟨hrounds.inv.owned, hrounds.inv.pending_lt, ?_, fun n => ?_, ?_⟩⟩
  · intro p e hp he
    have := (List.getElem?_eq_some_iff.1 he).1
    exact (hrounds.pending_eq p ⟨hp, this⟩).trans (hs.pending_eq p e (by omega) he)
  · have hstored : start.settings.stored n = mergeAll ((names.named regex db (defs.take k) n).map defined) := hs.stored_eq n
    rw [named, htake, filter_append, map_append]
    by_cases hn : n ∈ names.netsOf regex db d
    · rw [hrounds.stored_of_mem n hn, hstored, filter_cons_of_pos (by simpa using hn), filter_nil, map_cons,
        map_nil, mergeAll_concat]
      rfl
    · rw [hrounds.stored_of_not_mem n hn, hstored, filter_cons_of_neg (by simpa using hn)]
      simp [named]
  · refine Bool.eq_false_iff.2 fun herror => ?_
    rcases hrounds.error herror with herror | ⟨n, hn, hconflict⟩
    · exact absurd (hs.error_eq.symm.trans herror) (by decide)
    rw [show start.settings.stored n = _ from hs.stored_eq n] at hconflict
    refine not_conflict_mergeAll (fun e he e' he' => ?_) hconflict
    have hlater : ∀ e ∈ (names.named regex db (defs.take k) n).map defined ++ [d.defined],
        ∃ e0 ∈ names.named regex db defs n, e = e0.defined := by
      intro e he
      rcases mem_append.1 he with he | he
      · obtain ⟨e0, he0, rfl⟩ := mem_map.1 he
        obtain ⟨htake, hnet⟩ := mem_named.1 he0
        exact ⟨e0, mem_named.2 ⟨mem_of_mem_take htake, hnet⟩, rfl⟩
      · exact ⟨d, mem_named.2 ⟨hmem, hn⟩, mem_singleton.1 he⟩
    obtain ⟨e0, he0, rfl⟩ := hlater e he
    obtain ⟨e1, he1, rfl⟩ := hlater e' he'
    exact (hagreeing.agrees n e0 he0 e1 he1).defined

/-- Reading all definitions. -/
theorem read_setModePower (hagreeing : names.Agreeing regex db defs) :
    ∃ t, names.setModePower regex db defs = .ok t ∧ Read names regex db defs defs.length t := by
  refine Loop.exists_foldlM_range (fun k s hk hread => ?_) (read_start defs)
  exact read_setDefinition hagreeing (getElem?_eq_getElem hk) hread

end
end Cvc
