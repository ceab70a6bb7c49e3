import Cvc.ErrorCount

/-!
# One error

What counting an error of a device does: to the counts of its device when there are no cell limits, and to the count of its kind
in general.
-/

namespace Cvc
namespace ErrorEnv

variable {env : ErrorEnv} {s s' : ErrorState} {d : Nat} {idx : CvcError}

variable (env) in
/-- The circuit of a device and its number in the circuit. -/
def deviceOf (theDeviceId : Nat) : Except Failure (Nat × Nat) := do
  let myInstance ← env.db.instancePtr (← env.deviceParent theDeviceId)
  pure (myInstance.masterName, theDeviceId - myInstance.firstDeviceId)

variable (env) in
/-- How often an error of a device counts: as often as its instance is there, unless its cell has the limit zero. -/
def weight (theDeviceId : Nat) : Except Failure Nat := do
  let myParentId ← env.deviceParent theDeviceId
  let myMFactor ← env.db.calculateMFactor myParentId
  match ← env.cellLimit myParentId with
  | some (_, 0) => pure 0
  | _ => pure myMFactor

/-- Counting an error of a device with a weight returns. -/
theorem incrementDeviceError_ok {w : Nat} (hw : env.weight d = .ok w) :
    ∃ x m cell, env.deviceOf d = .ok x ∧ (match cell with | some (_, 0) => 0 | _ => m) = w ∧
      (env.cvcCellErrorLimitFile = "" → cell = none) ∧ env.incrementDeviceError s d idx =
        .ok (s.countError (x.1, x.2, idx.subIndex) idx m cell) := by
  obtain ⟨parent, hparent, hw⟩ := bind_eq_ok.1 hw
  obtain ⟨m, hm, hw⟩ := bind_eq_ok.1 hw
  obtain ⟨cell, hcell, hw⟩ := bind_eq_ok.1 hw
  obtain ⟨i, hi, -⟩ := bind_eq_ok.1 hm
  refine ⟨_, m, cell, bind_eq_ok.2 ⟨parent, hparent, bind_eq_ok.2 ⟨i, hi, rfl⟩⟩, ?_, ?_, ?_⟩
  · split at hw <;> exact Except.ok.inj hw
  · intro hfile
    unfold cellLimit at hcell
    rw [if_pos hfile] at hcell
    exact (Except.ok.inj hcell).symm
  · unfold incrementDeviceError
    rw [hparent]
    show (env.db.instancePtr parent >>= _) = _
    rw [hi]
    rw [hm]
    rw [hcell]
    rfl

/-- An error counts for its kind by its weight. -/
theorem errorCount_incrementDeviceError {w : Nat} (hw : env.weight d = .ok w) :
    ∃ count s', env.incrementDeviceError s d idx = .ok (count, s') ∧
      s'.errorCount = Function.update s.errorCount idx (s.errorCount idx + w) := by
  obtain ⟨x, m, cell, -, rfl, -, hok⟩ := incrementDeviceError_ok hw
  refine ⟨_, _, hok, ?_⟩
  match cell with
  | none => rfl
  | some (_, 0) => exact (Function.update_eq_self _ _).symm
  | some (_, limit + 1) => rfl

end ErrorEnv
end Cvc
