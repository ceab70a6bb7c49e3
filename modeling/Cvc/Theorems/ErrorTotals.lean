import Cvc.Lemmas.ErrorCount
import Cvc.Lemmas.MFactor

/-!
# The totals of errors

A run of the checks is the list of what they detect, with the sections of the report that end in between: the checks read neither
the limit nor the counts. Two runs on the same circuit with different limits count the same errors, except at the places that do
not count when there is no limit.
-/

namespace Cvc

/-- What the checks of a run detect: an error of a device, an unexpected voltage (`CCvcDb::CheckExpectedVoltages` counts it
itself), and the end of a section. -/
inductive ErrorEvent where
  | detected (site : ErrorSite) (theDeviceId : Nat) (theErrorIndex : CvcError)
  | unexpected
  | endSection (theErrorSubIndex : Nat) (theModelList : List ModelType) (devices : List (Nat × Nat))
  deriving DecidableEq

namespace ErrorEnv

variable (env : ErrorEnv) (cvcCircuitErrorLimit : Nat)

/-- The counts after an event. -/
def countEvent (s : ErrorState) : ErrorEvent → Except Failure ErrorState
  | .detected site theDeviceId theErrorIndex => do
    let (_, s) ← env.reportError cvcCircuitErrorLimit site s theDeviceId theErrorIndex
    pure s
  | .unexpected =>
    pure { s with errorCount := Function.update s.errorCount .expectedVoltage (s.errorCount .expectedVoltage + 1) }
  | .endSection theErrorSubIndex theModelList devices =>
    pure (env.printAndResetCircuitErrors cvcCircuitErrorLimit theErrorSubIndex theModelList devices s).2

/-- The counts after the events of a run. -/
def countEvents (events : List ErrorEvent) (s : ErrorState) : Except Failure ErrorState :=
  events.foldlM (env.countEvent cvcCircuitErrorLimit) s

/-- How often an event is counted for a kind of error. -/
def countOf (theErrorIndex : CvcError) : ErrorEvent → Nat
  | .detected site theDeviceId index =>
    if index = theErrorIndex ∧ ¬(site.limitFirst = true ∧ cvcCircuitErrorLimit = 0) then (env.weight theDeviceId).toOption.getD 0
    else 0
  | .unexpected => if theErrorIndex = .expectedVoltage then 1 else 0
  | .endSection .. => 0

/-- An event is an error of a device that counts, at a place that looks at the limit before it counts. -/
def skippedWithoutLimit : ErrorEvent → Bool
  | .detected site theDeviceId _ => site.limitFirst && (env.weight theDeviceId).toOption != some 0
  | _ => false

/-- The device of an event has a weight. -/
def Weighted : ErrorEvent → Prop
  | .detected _ theDeviceId _ => ∃ w, env.weight theDeviceId = .ok w
  | _ => True

variable {env} {lim : Nat} {s : ErrorState}

theorem countOf_detected {site : ErrorSite} {d : Nat} {index idx : CvcError} {w : Nat} (hw : env.weight d = .ok w) :
    env.countOf lim idx (.detected site d index) =
      if index = idx ∧ ¬(site.limitFirst = true ∧ lim = 0) then w else 0 := by
  show (if _ then (env.weight d).toOption.getD 0 else 0) = _
  rw [hw]
  rfl

theorem errorCount_sumUpErrors {sub : Nat} {theModelList : List ModelType} {devices : List (Nat × Nat)} :
    (env.sumUpErrors lim sub theModelList devices s).2.errorCount = s.errorCount := by
  induction devices generalizing s with
  | nil => rfl
  | cons x devices ih =>
    unfold sumUpErrors
    split
    · exact ih
    · exact ih

/-- An error is counted at every place by its weight, unless the place looks at the limit first and there is none. -/
theorem errorCount_reportError {site : ErrorSite} {d : Nat} {idx : CvcError} {w : Nat} (hw : env.weight d = .ok w) :
    ∃ b s', env.reportError lim site s d idx = .ok (b, s') ∧ s'.errorCount = if site.limitFirst = true ∧ lim = 0 then s.errorCount
        else Function.update s.errorCount idx (s.errorCount idx + w) := by
  unfold reportError
  split
  · exact ⟨true, s, rfl, rfl⟩
  · obtain ⟨count, s', hok, hcount⟩ := @errorCount_incrementDeviceError _ s _ idx _ hw
    exact ⟨_, s', bind_eq_ok.2 ⟨_, hok, rfl⟩, hcount⟩

/-- An event returns, and adds to the count of every kind what it counts for it. -/
theorem countEvent_ok {e : ErrorEvent} (he : env.Weighted e) : ∃ s', env.countEvent lim s e = .ok s' ∧
      ∀ idx, s'.errorCount idx = s.errorCount idx + env.countOf lim idx e := by
  cases e with
  | detected site d index =>
    obtain ⟨w, hw⟩ := he
    obtain ⟨b, s', hok, hcount⟩ := @errorCount_reportError _ lim s site _ index _ hw
    refine ⟨s', bind_eq_ok.2 ⟨_, hok, rfl⟩, fun idx => ?_⟩
    rw [hcount, countOf_detected hw]
    by_cases hindex : index = idx
    · subst hindex
      by_cases hskip : site.limitFirst = true ∧ lim = 0
      · rw [if_pos hskip, if_neg fun h => h.2 hskip, Nat.add_zero]
      · rw [if_neg hskip, if_pos ⟨rfl, hskip⟩, Function.update_self]
    · have hnone : ¬(index = idx ∧ ¬(site.limitFirst = true ∧ lim = 0)) := fun h => hindex h.1
      rw [if_neg hnone, Nat.add_zero]
      split
      · rfl
      · rw [Function.update_of_ne (Ne.symm hindex)]
  | unexpected =>
    refine ⟨_, rfl, fun idx => ?_⟩
    unfold countOf
    by_cases hindex : idx = .expectedVoltage
    · subst hindex
      simp
    · simp [hindex]
  | endSection sub theModelList devices =>
    refine ⟨_, rfl, fun idx => ?_⟩
    exact congrFun errorCount_sumUpErrors idx

/-- A run returns, and its totals are what its events count. -/
theorem countEvents_ok {events : List ErrorEvent} (hw : ∀ e ∈ events, env.Weighted e) :
    ∃ s', env.countEvents lim events s = .ok s' ∧
      ∀ idx, s'.errorCount idx = s.errorCount idx + (events.map (env.countOf lim idx)).sum := by
  induction events generalizing s with
  | nil => exact ⟨s, rfl, fun _ => rfl⟩
  | cons e events ih =>
    obtain ⟨s₁, hs1, hone⟩ := @countEvent_ok _ lim s _ (hw _ List.mem_cons_self)
    obtain ⟨s', hs', hrest⟩ := @ih s₁ fun e he => hw e (List.mem_cons_of_mem _ he)
    refine ⟨s', ?_, fun idx => ?_⟩
    · unfold countEvents at hs' ⊢
      rw [List.foldlM_cons, hs1]
      exact hs'
    · rw [hrest, hone, List.map_cons, List.sum_cons, Nat.add_assoc]

/-! ## Two runs -/

/-- What an event counts depends on the limit only through whether there is one. -/
theorem countOf_eq_of_iff {L₁ L₂ : Nat} (hL : L₁ = 0 ↔ L₂ = 0) : env.countOf L₁ = env.countOf L₂ := by
  funext idx e
  unfold countOf
  simp [hL]

/-- Without a limit an event counts at most what it counts with one. -/
theorem countOf_zero_le {L : Nat} (idx : CvcError) (e : ErrorEvent) : env.countOf 0 idx e ≤ env.countOf L idx e := by
  cases e with
  | detected site d index =>
    unfold countOf
    by_cases hindex : index = idx
    · by_cases hfirst : site.limitFirst = true
      · simp [hfirst]
      · simp [hfirst]
    · simp [hindex]
  | unexpected | endSection => exact le_rfl

/-- An event counts the same without a limit as with one, unless it is skipped without a limit. -/
theorem countOf_zero_eq_iff {L : Nat} (hL : L ≠ 0) {e : ErrorEvent} (he : env.Weighted e) :
    (∀ idx, env.countOf 0 idx e = env.countOf L idx e) ↔ env.skippedWithoutLimit e = false := by
  cases e with
  | detected site d index =>
    obtain ⟨w, hw⟩ := he
    simp only [countOf_detected hw, skippedWithoutLimit, hw]
    by_cases hfirst : site.limitFirst = true
    · have hweight : (∀ idx, index = idx → 0 = w) ↔ w = 0 :=
        ⟨fun h => (h index rfl).symm, fun h _ _ => h.symm⟩
      simpa [hfirst, hL, Except.toOption] using hweight
    · simp [hfirst]
  | unexpected | endSection => exact iff_of_true (fun _ => rfl) rfl

/-- The totals of a run without a limit and of one with a limit. -/
theorem sum_countOf_zero_eq_iff {L : Nat} (hL : L ≠ 0) {events : List ErrorEvent} (hw : ∀ e ∈ events, env.Weighted e) :
    (∀ idx, (events.map (env.countOf 0 idx)).sum = (events.map (env.countOf L idx)).sum) ↔
      ∀ e ∈ events, env.skippedWithoutLimit e = false := by
  simp only [sum_map_eq_iff fun e _ => countOf_zero_le _ e]
  constructor
  · intro hall e he
    exact (countOf_zero_eq_iff hL (hw e he)).1 fun idx => hall idx e he
  · intro hall idx e he
    exact (countOf_zero_eq_iff hL (hw e he)).2 (hall e he) idx

/-- Two runs of the same checks with any two limits return, and their totals are the same for every kind of error exactly when
both have a limit, or none has, or no error that counts is detected at a place that looks at the limit before it counts. -/
theorem totals_eq_iff (env : ErrorEnv) (L₁ L₂ : Nat) (events : List ErrorEvent) (hw : ∀ e ∈ events, env.Weighted e)
    (s : ErrorState) :
    ∃ s₁ s₂, env.countEvents L₁ events s = .ok s₁ ∧ env.countEvents L₂ events s = .ok s₂ ∧
      ((∀ theErrorIndex, s₁.errorCount theErrorIndex = s₂.errorCount theErrorIndex) ↔
        (L₁ = 0 ↔ L₂ = 0) ∨ ∀ e ∈ events, env.skippedWithoutLimit e = false) := by
  obtain ⟨s₁, hs1, hsum1⟩ := @countEvents_ok _ L₁ s _ hw
  obtain ⟨s₂, hs2, hsum2⟩ := @countEvents_ok _ L₂ s _ hw
  refine ⟨s₁, s₂, hs1, hs2, ?_⟩
  simp only [hsum1, hsum2, Nat.add_left_cancel_iff]
  by_cases hL : L₁ = 0 ↔ L₂ = 0
  · rw [countOf_eq_of_iff hL]
    exact iff_of_true (fun _ => rfl) (Or.inl hL)
  rw [or_iff_right hL]
  rcases Nat.eq_zero_or_pos L₁ with rfl | hpos
  · exact sum_countOf_zero_eq_iff (fun h => hL ⟨fun _ => h, fun _ => rfl⟩) hw
  · obtain rfl : L₂ = 0 := by omega
    rw [← sum_countOf_zero_eq_iff (Nat.pos_iff_ne_zero.1 hpos) hw]
    exact forall_congr' fun _ => eq_comm

/-- A top circuit with two devices. -/
def twoDevices : ErrorEnv :=
  { db := {
      deviceCount := 2
      instancePtrV := fun id => if id = 0 then some { localToGlobalNetIdV := [0, 1], masterName := 0 } else none
      deviceParentV := [0, 0] } }

theorem twoDevices_totals_eq :
    ∃ s₁ s₂, twoDevices.countEvents 0 [.detected .findForwardBiasDiodes 0 .forwardDiode, .unexpected] {} = .ok s₁ ∧
      twoDevices.countEvents 1 [.detected .findForwardBiasDiodes 0 .forwardDiode, .unexpected] {} = .ok s₂ ∧
      ∀ theErrorIndex, s₁.errorCount theErrorIndex = s₂.errorCount theErrorIndex := by
  obtain ⟨s₁, s₂, hs1, hs2, heq⟩ := totals_eq_iff twoDevices 0 1
    [.detected .findForwardBiasDiodes 0 .forwardDiode, .unexpected] (by simpa [Weighted] using ⟨1, by decide⟩) {}
  exact ⟨s₁, s₂, hs1, hs2, heq.2 (Or.inr (by decide))⟩

/-- An error at each of the four places counts with a limit and does not count without one. -/
theorem twoDevices_totals_ne :
    ∃ s₁ s₂, twoDevices.countEvents 0
        [.detected .setEquivalentNets 0 .leak, .detected .setLatchPower 1 .leak, .endSection 0 [] [(0, 0), (0, 1)],
          .detected .printOverVoltageError 0 .overvoltageVgs, .detected .printModelError 1 .modelCheck] {} = .ok s₁ ∧
      twoDevices.countEvents 100
        [.detected .setEquivalentNets 0 .leak, .detected .setLatchPower 1 .leak, .endSection 0 [] [(0, 0), (0, 1)],
          .detected .printOverVoltageError 0 .overvoltageVgs, .detected .printModelError 1 .modelCheck] {} = .ok s₂ ∧
      s₁.errorCount .leak = 0 ∧ s₂.errorCount .leak = 2 ∧
      s₁.errorCount .overvoltageVgs = 0 ∧ s₂.errorCount .overvoltageVgs = 1 ∧
      s₁.errorCount .modelCheck = 0 ∧ s₂.errorCount .modelCheck = 1 := by
  exact ⟨_, _, rfl, rfl, by decide, by decide, by decide, by decide, by decide, by decide⟩

end ErrorEnv
end Cvc
