import Cvc.Instance

/-!
# Counting and printing errors

`CCvcDb::IncrementDeviceError` counts an error of a device for the device of its circuit, for its kind and, if there is a file of
cell error limits, for the cell. The functions that detect an error compare what it returns with the error limit of the run and
print the error or not; at the end of a section of the report, `CCircuitPtrList::PrintAndResetCircuitErrors` sums up the errors of
every device of every circuit and clears the counts.

The counts of a device are under the name of its circuit, its number in the circuit and the sub-index of the kind. The key of
`cellErrorCountMap` is a text of four parts, here the parts. What is printed of an error, and the texts, order and other parts of
the lines of the summary, are left out.
-/

namespace Cvc

/-- `cvcError_t`. -/
inductive CvcError where
  | leak
  | hizInput
  | forwardDiode
  | nmosSourceBulk
  | nmosGateSource
  | nmosPossibleLeak
  | pmosSourceBulk
  | pmosGateSource
  | pmosPossibleLeak
  | overvoltageVbg
  | overvoltageVbs
  | overvoltageVds
  | overvoltageVgs
  | modelCheck
  | expectedVoltage
  | lddSource
  | minVoltageConflict
  | maxVoltageConflict
  | fuseError
  deriving DecidableEq, Repr

/-- `myErrorSubIndex` of `CCvcDb::IncrementDeviceError`. -/
def CvcError.subIndex : CvcError → Nat
  | .overvoltageVbs => 1
  | .overvoltageVds => 2
  | .overvoltageVgs => 3
  | .modelCheck => 4
  | _ => 0

/-- The counts of errors. -/
structure ErrorState where
  deviceErrorCountV : Nat × Nat × Nat → Nat := fun _ => 0
  devicePrintCountV : Nat × Nat × Nat → Nat := fun _ => 0
  errorCount : CvcError → Nat := fun _ => 0
  cellErrorCountMap : Nat × Nat × Nat × Nat → Nat := fun _ => 0

/-- The count that `CCvcDb::IncrementDeviceError` returns for a device, with the limit of its cell if it has one, and the errors
of the cell. -/
def ErrorState.returnCount (s : ErrorState) (device : Nat × Nat × Nat) :
    Option (Nat × Nat) → Nat × (Nat × Nat × Nat × Nat → Nat)
  | none => ((s.devicePrintCountV device + 1) % 2 ^ 32, s.cellErrorCountMap)
  | some (cell, myLimit) =>
    if 0 < myLimit then
      let count := (s.cellErrorCountMap (cell, device) + 1) % 2 ^ 32
      (if count > myLimit then unknownDevice else count, Function.update s.cellErrorCountMap (cell, device) count)
    else (unknownDevice, s.cellErrorCountMap)

/-- The counts of `CCvcDb::IncrementDeviceError`, for the device of a circuit with the limit of its cell if it has one. -/
def ErrorState.countError (s : ErrorState) (device : Nat × Nat × Nat) (theErrorIndex : CvcError) (myMFactor : Nat)
    (cell : Option (Nat × Nat)) : Nat × ErrorState :=
  let (myReturnCount, cellErrorCountMap) := s.returnCount device cell
  let counted := match cell with
    | none => true
    | some (_, myLimit) => 0 < myLimit
  (myReturnCount, {
    deviceErrorCountV := if counted then
      Function.update s.deviceErrorCountV device ((s.deviceErrorCountV device + myMFactor) % 2 ^ 32) else s.deviceErrorCountV
    errorCount := if counted then
      Function.update s.errorCount theErrorIndex (s.errorCount theErrorIndex + myMFactor) else s.errorCount
    devicePrintCountV := if myReturnCount < unknownDevice then
      Function.update s.devicePrintCountV device ((s.devicePrintCountV device + 1) % 2 ^ 32) else s.devicePrintCountV
    cellErrorCountMap := cellErrorCountMap })

/-- What counting reads: the database, the name of the file of cell error limits and the limits it sets for circuits
(`UNKNOWN_DEVICE` for the others), and the types of the models of devices. -/
structure ErrorEnv where
  db : CCvcDb
  cvcCellErrorLimitFile : String := ""
  errorLimit : Nat → Nat := fun _ => unknownDevice
  modelType : Nat → Nat → ModelType := fun _ _ => .nmos

namespace ErrorEnv

variable (env : ErrorEnv)

/-- `deviceParent_v` of a device. -/
def deviceParent (theDeviceId : Nat) : Except Failure Nat :=
  match env.db.deviceParentV[theDeviceId]? with
  | none => .error .undefined
  | some id => .ok id

/-- The loop of `CCvcDb::IncrementDeviceError` over the ancestors of an instance, which has an id over those of its ancestors: the
first one with a limit, or the top. -/
def limitedAncestor : Nat → Nat → Except Failure Nat
  | 0, _ => .error .undefined
  | depth + 1, myAncestor =>
    if 0 < myAncestor then do
      let i ← env.db.instancePtr myAncestor
      if env.errorLimit i.masterName = unknownDevice then limitedAncestor depth i.parentId else pure myAncestor
    else pure myAncestor

/-- The cell whose error limit holds for a device, with the limit, if there is one. -/
def cellLimit (theParentId : Nat) : Except Failure (Option (Nat × Nat)) :=
  if env.cvcCellErrorLimitFile = "" then pure none
  else do
    let myAncestor ← env.limitedAncestor (theParentId + 1) theParentId
    if 0 < myAncestor then do
      let i ← env.db.instancePtr myAncestor
      pure (some (i.masterName, env.errorLimit i.masterName))
    else pure none

/-- `CCvcDb::IncrementDeviceError`. -/
def incrementDeviceError (s : ErrorState) (theDeviceId : Nat) (theErrorIndex : CvcError) : Except Failure (Nat × ErrorState) := do
  let myParentId ← env.deviceParent theDeviceId
  let myInstance ← env.db.instancePtr myParentId
  let myMFactor ← env.db.calculateMFactor myParentId
  let cell ← env.cellLimit myParentId
  pure (s.countError (myInstance.masterName, theDeviceId - myInstance.firstDeviceId, theErrorIndex.subIndex) theErrorIndex
    myMFactor cell)

end ErrorEnv

/-- The places that detect errors of devices, by the functions they are in. -/
inductive ErrorSite where
  | reportSimShort
  | reportShort
  | shortSimNets
  | printFuseError
  | printMinVoltageConflict
  | printMaxVoltageConflict
  | printOverVoltageError
  | printModelError
  | findNmosGateVsSourceErrors
  | findPmosGateVsSourceErrors
  | findNmosSourceVsBulkErrors
  | findPmosSourceVsBulkErrors
  | findForwardBiasDiodes
  | findNmosPossibleLeakErrors
  | findPmosPossibleLeakErrors
  | findFloatingInputErrors
  | findLDDErrors
  | checkInverterIO
  | checkOppositeLogic
  | setEquivalentNets
  | setLatchPower
  deriving DecidableEq, Repr

/-- The places that look at the limit before they count, so that `||` skips the count of an error without a limit. -/
def ErrorSite.limitFirst : ErrorSite → Bool
  | .printOverVoltageError | .printModelError | .setEquivalentNets | .setLatchPower => true
  | _ => false

namespace ErrorEnv

variable (env : ErrorEnv)

/-- The test of a place that has detected an error, for the limit `cvcCircuitErrorLimit`: whether the error is printed. -/
def reportError (cvcCircuitErrorLimit : Nat) (site : ErrorSite) (s : ErrorState) (theDeviceId : Nat) (theErrorIndex : CvcError) :
    Except Failure (Bool × ErrorState) :=
  if site.limitFirst = true ∧ cvcCircuitErrorLimit = 0 then pure (true, s)
  else do
    let (count, s) ← env.incrementDeviceError s theDeviceId theErrorIndex
    pure (count < cvcCircuitErrorLimit || cvcCircuitErrorLimit = 0, s)

end ErrorEnv

/-- A line of the summary of a section: the circuit, the number of the device in it, its errors, and the limit if it is marked as
exceeded. -/
structure SummaryLine where
  circuitName : Nat
  deviceIt : Nat
  errorCount : Nat
  exceeded : Option Nat
  deriving DecidableEq, Repr

/-- The line of a device, if errors of it have been counted for printing. -/
def ErrorState.summaryLine (s : ErrorState) (theErrorLimit theErrorSubIndex : Nat) (circuitName deviceIt : Nat) :
    Option SummaryLine :=
  if 0 < s.devicePrintCountV (circuitName, deviceIt, theErrorSubIndex) then
    let errorCount := s.deviceErrorCountV (circuitName, deviceIt, theErrorSubIndex)
    some ⟨circuitName, deviceIt, errorCount,
      if 0 < theErrorLimit ∧ theErrorLimit < errorCount then some theErrorLimit else none⟩
  else none

/-- The counts of a device are cleared. -/
def ErrorState.reset (s : ErrorState) (theErrorSubIndex : Nat) (circuitName deviceIt : Nat) : ErrorState :=
  { s with
    deviceErrorCountV := Function.update s.deviceErrorCountV (circuitName, deviceIt, theErrorSubIndex) 0
    devicePrintCountV := Function.update s.devicePrintCountV (circuitName, deviceIt, theErrorSubIndex) 0 }

/-- The loops of `CCircuitPtrList::PrintAndResetCircuitErrors`, over the devices of circuits that are used. -/
def ErrorEnv.sumUpErrors (env : ErrorEnv) (theErrorLimit theErrorSubIndex : Nat) (theModelList : List ModelType) :
    List (Nat × Nat) → ErrorState → List SummaryLine × ErrorState
  | [], s => ([], s)
  | (circuitName, deviceIt) :: rest, s =>
    if theModelList = [] ∨ env.modelType circuitName deviceIt ∈ theModelList then
      let line := s.summaryLine theErrorLimit theErrorSubIndex circuitName deviceIt
      let (lines, s) := env.sumUpErrors theErrorLimit theErrorSubIndex theModelList rest
        (s.reset theErrorSubIndex circuitName deviceIt)
      (line.toList ++ lines, s)
    else env.sumUpErrors theErrorLimit theErrorSubIndex theModelList rest s

/-- `CCircuitPtrList::PrintAndResetCircuitErrors`. -/
def ErrorEnv.printAndResetCircuitErrors (env : ErrorEnv) (theErrorLimit theErrorSubIndex : Nat) (theModelList : List ModelType)
    (devices : List (Nat × Nat)) (s : ErrorState) : List SummaryLine × ErrorState :=
  let (lines, s) := env.sumUpErrors theErrorLimit theErrorSubIndex theModelList devices s
  (lines, { s with cellErrorCountMap := fun _ => 0 })

end Cvc
