import Mathlib.Data.List.Count
import Cvc.Lemmas.ErrorCount

/-!
# The limit of printed errors

For every device of every circuit, the errors of one kind that a section of the report prints and the mark of its summary, against
the errors that are detected. An error is printed while the count that includes it is below the limit, so at most one error less
than the limit is printed, while the summary marks a device only when it has more errors than the limit.
-/

namespace Cvc

open List Function

/-- A line of the summary marks a device of a circuit as exceeding the limit. -/
def SummaryLine.Marks (line : SummaryLine) (x : Nat × Nat) : Prop :=
  line.circuitName = x.1 ∧ line.deviceIt = x.2 ∧ line.exceeded ≠ none

namespace ErrorEnv

variable (env : ErrorEnv) (cvcCircuitErrorLimit : Nat) (theErrorIndex : CvcError)

/-- The errors of one kind that a section detects, each with whether it is printed. -/
def reportErrors : List (ErrorSite × Nat) → ErrorState → Except Failure (List (Nat × Bool) × ErrorState)
  | [], s => pure ([], s)
  | (site, theDeviceId) :: errors, s => do
    let (printed, s) ← env.reportError cvcCircuitErrorLimit site s theDeviceId theErrorIndex
    let (log, s) ← reportErrors errors s
    pure ((theDeviceId, printed) :: log, s)

/-- A device is the one with the given number in the given circuit. -/
def isDevice (x : Nat × Nat) (theDeviceId : Nat) : Bool :=
  match env.deviceOf theDeviceId with
  | .ok y => y == x
  | .error _ => false

/-- The number of errors of a device of a circuit that are detected. -/
def detected (x : Nat × Nat) (errors : List (ErrorSite × Nat)) : Nat := errors.countP fun e => env.isDevice x e.2

/-- The number of errors of a device of a circuit that are printed. -/
def printed (x : Nat × Nat) (log : List (Nat × Bool)) : Nat := log.countP fun e => env.isDevice x e.1 && e.2

/-- The errors of a device are printed up to the limit, all of them if it is zero, and the summary marks the device if one is not.
-/
def LimitKept (n printed : Nat) (x : Nat × Nat) (lines : List SummaryLine) : Prop :=
  printed = (if cvcCircuitErrorLimit = 0 then n else min n cvcCircuitErrorLimit) ∧
    ((∃ line ∈ lines, line.Marks x) ↔ printed < n)

variable {env} {lim : Nat} {idx : CvcError} {s s' : ErrorState} {x : Nat × Nat}
variable {d sub w : Nat} {y : Nat × Nat} {site : ErrorSite} {errors : List (ErrorSite × Nat)}

/-! ## The errors of a section -/

/-- The counts of a device of a circuit after a number of errors: the count for printing stops under `UNKNOWN_DEVICE`. -/
structure Counts (theErrorIndex : CvcError) (x : Nat × Nat) (n : Nat) (s : ErrorState) : Prop where
  errorCount : s.deviceErrorCountV (x.1, x.2, theErrorIndex.subIndex) = n % 2 ^ 32
  printCount : s.devicePrintCountV (x.1, x.2, theErrorIndex.subIndex) = min n (unknownDevice - 1)

/-- One error of a device of a circuit. -/
theorem Counts.countError_self {n : Nat} (hs : Counts idx x n s) :
    (s.countError (x.1, x.2, idx.subIndex) idx 1 none).1 = min (n + 1) unknownDevice ∧
      Counts idx x (n + 1) (s.countError (x.1, x.2, idx.subIndex) idx 1 none).2 := by
  have hu : unknownDevice = 2 ^ 32 - 1 := rfl
  have hcount : (s.countError (x.1, x.2, idx.subIndex) idx 1 none).1 = min (n + 1) unknownDevice := by
    show (s.devicePrintCountV _ + 1) % 2 ^ 32 = _
    rw [hs.printCount]
    omega
  refine ⟨hcount, ?_, ?_⟩
  · show Function.update s.deviceErrorCountV _ _ _ = _
    rw [update_self, hs.errorCount]
    omega
  · unfold ErrorState.countError at hcount ⊢
    simp only at hcount ⊢
    split
    · rw [update_self, hs.printCount]
      omega
    · rw [hs.printCount]
      omega

/-- One error of another device. -/
theorem Counts.countError_of_ne {n : Nat} (hs : Counts idx x n s) (hne : y ≠ x) :
    Counts idx x n (s.countError (y.1, y.2, idx.subIndex) idx 1 none).2 := by
  have hkey : (x.1, x.2, idx.subIndex) ≠ (y.1, y.2, idx.subIndex) := by
    intro he
    simp only [Prod.mk.injEq, and_true] at he
    exact hne (Prod.ext he.1.symm he.2.symm)
  refine ⟨?_, ?_⟩
  · show Function.update s.deviceErrorCountV _ _ _ = _
    rw [update_of_ne hkey]
    exact hs.errorCount
  · unfold ErrorState.countError
    simp only
    split
    · rw [update_of_ne hkey]
      exact hs.printCount
    · exact hs.printCount

/-- One error at any place, with a limit. -/
theorem reportError_limit (hfile : env.cvcCellErrorLimitFile = "") (hL : 0 < lim)
    (hU : lim ≤ unknownDevice) (hw : env.weight d = .ok 1) {n : Nat} (hs : Counts idx x n s) :
    ∃ b s', env.reportError lim site s d idx = .ok (b, s') ∧
      if env.isDevice x d then (b = true ↔ n + 1 < lim) ∧ Counts idx x (n + 1) s'
      else Counts idx x n s' := by
  obtain ⟨y, m, cell, hy, hone, hnone, hok⟩ := @incrementDeviceError_ok _ s _ idx _ hw
  obtain rfl := hnone hfile
  obtain rfl : m = 1 := hone
  have hreport : env.reportError lim site s d idx = .ok (decide ((s.countError (y.1, y.2, idx.subIndex) idx 1 none).1 < lim) ||
          decide (lim = 0),
        (s.countError (y.1, y.2, idx.subIndex) idx 1 none).2) := by
    unfold reportError
    rw [if_neg (by omega), hok]
    rfl
  refine ⟨_, _, hreport, ?_⟩
  rw [isDevice, hy]
  by_cases hyx : y = x
  · subst hyx
    rw [if_pos (by simp)]
    refine ⟨?_, hs.countError_self.2⟩
    rw [hs.countError_self.1]
    simp only [Bool.or_eq_true, decide_eq_true_eq]
    omega
  · rw [if_neg (by simpa using hyx)]
    exact hs.countError_of_ne hyx

theorem reportErrors_cons {b : Bool} {s1 : ErrorState} {log : List (Nat × Bool)}
    (hb : env.reportError lim site s d idx = .ok (b, s1))
    (hlog : env.reportErrors lim idx errors s1 = .ok (log, s')) : env.reportErrors lim idx ((site, d) :: errors) s =
      .ok ((d, b) :: log, s') := by
  unfold reportErrors
  rw [hb]
  show (env.reportErrors lim idx errors s1 >>= _) = _
  rw [hlog]
  rfl

/-- A section with a limit prints the errors of a device while their number is below the limit. -/
theorem reportErrors_limit (hfile : env.cvcCellErrorLimitFile = "") (hL : 0 < lim)
    (hU : lim ≤ unknownDevice) (hw : ∀ e ∈ errors, env.weight e.2 = .ok 1) {n : Nat} (hs : Counts idx x n s) :
    ∃ log s', env.reportErrors lim idx errors s = .ok (log, s') ∧ Counts idx x (n + env.detected x errors) s' ∧
      min n (lim - 1) + env.printed x log = min (n + env.detected x errors) (lim - 1) := by
  -- the errors before the section's first one, `n` of them, have been printed up to one less than the limit
  induction errors generalizing s n with
  | nil => exact ⟨[], s, rfl, hs, rfl⟩
  | cons e errors ih =>
    obtain ⟨site, d⟩ := e
    obtain ⟨b, s1, hb, hstep⟩ := @reportError_limit _ _ _ _ x _ site hfile hL hU (hw _ mem_cons_self) n hs
    have ih := @ih s1 fun e he => hw e (mem_cons_of_mem _ he)
    split at hstep
    · rename_i hx
      obtain ⟨hprinted, hs1⟩ := hstep
      obtain ⟨log, s', hlog, hs', hmin⟩ := ih hs1
      have hdetected : env.detected x ((site, d) :: errors) = env.detected x errors + 1 :=
        countP_cons_of_pos hx
      refine ⟨(d, b) :: log, s', reportErrors_cons hb hlog, ?_, ?_⟩
      · rw [hdetected, Nat.add_comm _ 1, ← Nat.add_assoc]
        exact hs'
      · cases b with
        | true =>
          have hcount : env.printed x ((d, true) :: log) = env.printed x log + 1 :=
            countP_cons_of_pos (by simpa using hx)
          have hlt := hprinted.1 rfl
          omega
        | false =>
          have hcount : env.printed x ((d, false) :: log) = env.printed x log := countP_cons_of_neg (by simp)
          have hge : ¬n + 1 < lim := fun h => nomatch hprinted.2 h
          omega
    · rename_i hx
      obtain ⟨log, s', hlog, hs', hmin⟩ := ih hstep
      have hdetected : env.detected x ((site, d) :: errors) = env.detected x errors := countP_cons_of_neg hx
      have hcount : env.printed x ((d, b) :: log) = env.printed x log :=
        countP_cons_of_neg (by simp only [Bool.and_eq_true]; exact fun h => hx h.1)
      refine ⟨(d, b) :: log, s', reportErrors_cons hb hlog, hdetected ▸ hs', ?_⟩
      rw [hdetected, hcount]
      exact hmin

/-- One error at any place, without a limit. -/
theorem reportError_unlimited (hw : env.weight d = .ok w) : ∃ s', env.reportError 0 site s d idx = .ok (true, s') := by
  unfold reportError
  split
  · exact ⟨s, rfl⟩
  obtain ⟨count, s', hok, -⟩ := @errorCount_incrementDeviceError _ s _ idx _ hw
  refine ⟨s', ?_⟩
  rw [hok]
  simp

/-- A section without a limit prints every error. -/
theorem reportErrors_unlimited (hw : ∀ e ∈ errors, env.weight e.2 = .ok 1) :
    ∃ log s', env.reportErrors 0 idx errors s = .ok (log, s') ∧ env.printed x log = env.detected x errors := by
  induction errors generalizing s with
  | nil => exact ⟨[], s, rfl, rfl⟩
  | cons e errors ih =>
    obtain ⟨site, d⟩ := e
    obtain ⟨s1, hb⟩ := @reportError_unlimited _ idx s _ _ site (hw _ mem_cons_self)
    obtain ⟨log, s', hlog, hprinted⟩ := @ih s1 fun e he => hw e (mem_cons_of_mem _ he)
    refine ⟨(d, true) :: log, s', reportErrors_cons hb hlog, ?_⟩
    unfold printed detected at hprinted ⊢
    simp [countP_cons, hprinted]

/-! ## The summary -/

/-- The line of a device marks it if it has more errors than the limit, and no other device. -/
theorem exists_summaryLine_marks_iff : (∃ line ∈ (s.summaryLine lim sub y.1 y.2).toList, line.Marks x) ↔
      y = x ∧ 0 < s.devicePrintCountV (y.1, y.2, sub) ∧ 0 < lim ∧ lim < s.deviceErrorCountV (y.1, y.2, sub) := by
  unfold ErrorState.summaryLine SummaryLine.Marks
  by_cases hprint : 0 < s.devicePrintCountV (y.1, y.2, sub)
  · simp [hprint, Prod.ext_iff, and_assoc]
  · simp [hprint]

/-- The devices that the summary marks: those of its list that have more errors than the limit. -/
theorem exists_sumUpErrors_marks_iff {theModelList : List ModelType} {devices : List (Nat × Nat)} :
    (∃ line ∈ (env.sumUpErrors lim sub theModelList devices s).1, line.Marks x) ↔
    x ∈ devices ∧ (theModelList = [] ∨ env.modelType x.1 x.2 ∈ theModelList) ∧ 0 < s.devicePrintCountV (x.1, x.2, sub) ∧
      0 < lim ∧ lim < s.deviceErrorCountV (x.1, x.2, sub) := by
  induction devices generalizing s with
  | nil => simp [sumUpErrors]
  | cons y devices ih =>
    unfold sumUpErrors
    split
    · rename_i hcovered
      simp only [mem_append, or_and_right, exists_or, ih, exists_summaryLine_marks_iff]
      by_cases hyx : y = x
      · subst hyx
        rcases hcovered with hall | hmem
        · simp [ErrorState.reset, hall]
        · simp [ErrorState.reset, hmem]
      · have hkey : (x.1, x.2, sub) ≠ (y.1, y.2, sub) := by
          intro he
          simp only [Prod.mk.injEq, and_true] at he
          exact hyx (Prod.ext he.1.symm he.2.symm)
        simp [hyx, ErrorState.reset, update_of_ne hkey, Ne.symm hyx]
    · rename_i hcovered
      rw [ih]
      by_cases hyx : y = x
      · subst hyx
        simp [hcovered]
      · simp [Ne.symm hyx]

/-! ## A section -/

/-- For every device of every circuit that the summary of a section covers, the errors of a kind are printed up to the limit and
the device is marked when one is not, exactly when there is no limit or there are fewer errors than the limit. -/
theorem limitKept_iff (env : ErrorEnv) (hfile : env.cvcCellErrorLimitFile = "") (cvcCircuitErrorLimit : Nat)
    (hU : cvcCircuitErrorLimit ≤ uint32Max) (theErrorIndex : CvcError) (errors : List (ErrorSite × Nat))
    (hw : ∀ e ∈ errors, env.weight e.2 = .ok 1) (theModelList : List ModelType) (devices : List (Nat × Nat)) (x : Nat × Nat)
    (hx : x ∈ devices) (hcovered : theModelList = [] ∨ env.modelType x.1 x.2 ∈ theModelList) (s : ErrorState)
    (herrors : s.deviceErrorCountV (x.1, x.2, theErrorIndex.subIndex) = 0)
    (hprints : s.devicePrintCountV (x.1, x.2, theErrorIndex.subIndex) = 0) :
    ∃ log s', env.reportErrors cvcCircuitErrorLimit theErrorIndex errors s = .ok (log, s') ∧
      (LimitKept cvcCircuitErrorLimit (env.detected x errors) (env.printed x log) x
          (env.printAndResetCircuitErrors cvcCircuitErrorLimit theErrorIndex.subIndex theModelList devices s').1 ↔
        cvcCircuitErrorLimit = 0 ∨ env.detected x errors < cvcCircuitErrorLimit) := by
  rcases Nat.eq_zero_or_pos cvcCircuitErrorLimit with rfl | hL
  · obtain ⟨log, s', hlog, hprinted⟩ := @reportErrors_unlimited _ theErrorIndex s x _ hw
    refine ⟨log, s', hlog, iff_of_true ⟨hprinted, ?_⟩ (.inl rfl)⟩
    show (∃ line ∈ (env.sumUpErrors 0 theErrorIndex.subIndex theModelList devices s').1, line.Marks x) ↔ _
    rw [exists_sumUpErrors_marks_iff]
    omega
  have hs : Counts theErrorIndex x 0 s := ⟨herrors, hprints⟩
  obtain ⟨log, s', hlog, hs', hmin⟩ := reportErrors_limit hfile hL hU hw hs
  refine ⟨log, s', hlog, ?_⟩
  have hu : unknownDevice = 2 ^ 32 - 1 := rfl
  have hmarks : (∃ line ∈ (env.printAndResetCircuitErrors cvcCircuitErrorLimit theErrorIndex.subIndex theModelList devices s').1,
      line.Marks x) ↔ cvcCircuitErrorLimit < env.detected x errors % 2 ^ 32 := by
    show (∃ line ∈ (env.sumUpErrors cvcCircuitErrorLimit theErrorIndex.subIndex theModelList devices s').1, line.Marks x) ↔ _
    rw [exists_sumUpErrors_marks_iff, hs'.errorCount, hs'.printCount]
    simp only [hx, hcovered, true_and]
    omega
  unfold LimitKept
  rw [hmarks, if_neg (Nat.pos_iff_ne_zero.1 hL)]
  omega

/-- A top circuit with two instances of a circuit with one transistor, between other nets. -/
def twoInstances : ErrorEnv :=
  { db := {
      deviceCount := 2
      instancePtrV := fun id => [
        { localToGlobalNetIdV := [0, 1, 2], masterName := 0 },
        { localToGlobalNetIdV := [0, 1], parallelInstance := 1, firstDeviceId := 0, masterName := 1 },
        { localToGlobalNetIdV := [0, 2], parallelInstance := 1, firstDeviceId := 1, masterName := 1 }][id]?
      deviceParentV := [1, 2] } }

/-- Both transistors leak: two errors of the one device of the circuit. -/
def twoLeaks : List (ErrorSite × Nat) := [(.findNmosPossibleLeakErrors, 0), (.findNmosPossibleLeakErrors, 1)]

theorem twoInstances_limitKept :
    ∃ log s', twoInstances.reportErrors 3 .nmosPossibleLeak twoLeaks {} = .ok (log, s') ∧
      LimitKept 3 2 (twoInstances.printed (1, 0) log) (1, 0) (twoInstances.printAndResetCircuitErrors 3 0 [] [(1, 0)] s').1 := by
  obtain ⟨log, s', hok, hkept⟩ :=
    limitKept_iff twoInstances rfl 3 (by decide) .nmosPossibleLeak twoLeaks (by decide) [] [(1, 0)] (1, 0)
    (by decide) (by decide) {} rfl rfl
  exact ⟨log, s', hok, hkept.2 (by decide)⟩

/-- With the limit two, the second of two errors of a device is not printed, and the device is not marked. -/
theorem twoInstances_not_limitKept :
    ∃ log s', twoInstances.reportErrors 2 .nmosPossibleLeak twoLeaks {} = .ok (log, s') ∧
      twoInstances.detected (1, 0) twoLeaks = 2 ∧
      twoInstances.printed (1, 0) log = 1 ∧
      (twoInstances.printAndResetCircuitErrors 2 0 [] [(1, 0)] s').1 = [⟨1, 0, 2, none⟩] ∧
      ¬LimitKept 2 2 (twoInstances.printed (1, 0) log) (1, 0) (twoInstances.printAndResetCircuitErrors 2 0 [] [(1, 0)] s').1 := by
  refine ⟨[(0, true), (1, false)], _, rfl, by decide, by decide, by decide, fun hkept => ?_⟩
  exact absurd hkept.1 (by decide)

end ErrorEnv
end Cvc
