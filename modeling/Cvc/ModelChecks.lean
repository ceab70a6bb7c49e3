import Cvc.ModeLoop
import Cvc.OverVoltage
import Cvc.PowerDefinition

/-!
# Overvoltage and model checks of all devices

`CCvcDb::FindAllOverVoltageErrors` goes through the models, the devices of each model and the instances of their circuits, and
makes the overvoltage checks for the limits of the model, and the checks of the model check file (`CCvcDb::FindModelError`).

The devices of a model are the list that `firstDevice_p` leads to, each one with its circuit and its number in it. What
`MapDeviceNets` finds for a device of an instance is given. The state has, besides the counts, the calls of `FindModelError` made
so far; what is printed of an error is left out.
-/

namespace Cvc

/-- `CModelCheck` with the voltages read from its texts. -/
structure VoltageCheck extends CModelCheck where
  minInclusiveVoltage : Int := 0
  minExclusiveVoltage : Int := 0
  maxInclusiveVoltage : Int := 0
  maxExclusiveVoltage : Int := 0
  deriving DecidableEq, Repr

/-- The voltage of `CModelCheck::SetValue`, which stays zero where the text is not a voltage. -/
def CModelCheck.setValue (check : CModelCheck) (theParameter : Text) : Except Failure Int :=
  if theParameter = [] then pure 0
  else if check.isVoltage = true ∧ isValidVoltage theParameter = true then do
    let v ← stringToVoltage theParameter
    storeVoltage v
  else do
    let _ ← fromString theParameter
    pure 0

/-- `CModelCheck::CModelCheck`. -/
def VoltageCheck.new (theCheck theParameter theInclusiveMin theExclusiveMin theInclusiveMax theExclusiveMax : Text) :
    Except Failure VoltageCheck := do
  let check := CModelCheck.new theCheck theParameter theInclusiveMin theExclusiveMin theInclusiveMax theExclusiveMax
  let minInclusiveVoltage ← check.setValue check.minInclusiveText
  let maxInclusiveVoltage ← check.setValue check.maxInclusiveText
  let minExclusiveVoltage ← check.setValue check.minExclusiveText
  let maxExclusiveVoltage ← check.setValue check.maxExclusiveText
  pure { check with minInclusiveVoltage, minExclusiveVoltage, maxInclusiveVoltage, maxExclusiveVoltage }

/-- `myError` of `CCvcDb::FindModelError`. -/
def VoltageCheck.isViolated (theCheck : VoltageCheck) (bulk : Readings) : Bool :=
  if theCheck.parameter = "Vb".toList then
    if !(bulk.min.valid && bulk.max.valid) then true
    else
      (if theCheck.minExclusiveText ≠ [] then decide (bulk.min.voltage ≤ theCheck.minExclusiveVoltage)
        else if theCheck.minInclusiveText ≠ [] then decide (bulk.min.voltage < theCheck.minInclusiveVoltage)
        else false) ||
      (if theCheck.maxExclusiveText ≠ [] then decide (bulk.max.voltage ≥ theCheck.maxExclusiveVoltage)
        else if theCheck.maxInclusiveText ≠ [] then decide (bulk.max.voltage > theCheck.maxInclusiveVoltage)
        else false)
  else false

/-- The part of a `CModel` that the checks read, with its devices. -/
structure CheckedModel where
  maxVbg : Int := unknownVoltage
  maxVbs : Int := unknownVoltage
  maxVds : Int := unknownVoltage
  maxVgs : Int := unknownVoltage
  maxVbgDefinition : Text := []
  maxVbsDefinition : Text := []
  maxVdsDefinition : Text := []
  maxVgsDefinition : Text := []
  conditionString : Text := []
  checkList : List VoltageCheck := []
  devices : List (Nat × Nat) := []
  deriving DecidableEq, Repr

namespace CheckedModel

variable (model : CheckedModel)

/-- One of the four limits is known. -/
def hasLimit : Bool :=
  !(model.maxVbg == unknownVoltage && model.maxVbs == unknownVoltage && model.maxVds == unknownVoltage &&
    model.maxVgs == unknownVoltage)

/-- `PrintToleranceParameter`. -/
def printToleranceParameter (definition : Text) (parameter : Int) : Text :=
  if parameter ≠ unknownVoltage ∧ definition ≠ printParameter parameter then definition ++ "->".toList ++ printParameter parameter
  else definition

/-- The parameter that an overvoltage error displays. -/
def displayParameter (name : String) (definition : Text) (parameter : Int) : String :=
  String.ofList (name.toList ++ printToleranceParameter definition parameter ++ ' ' :: model.conditionString)

end CheckedModel

/-- A device in an instance that is not parallel: the instance, the number of the device in its circuit, and its id. -/
structure DeviceUse where
  instanceId : Nat
  deviceIt : Nat
  deviceId : Nat
  deriving DecidableEq, Repr

/-- A call of `CCvcDb::FindModelError`, with the model that it is made for. -/
structure Evaluation where
  model : CheckedModel
  use : DeviceUse
  check : VoltageCheck
  deriving DecidableEq, Repr

/-- The counts, and the checks evaluated so far. -/
structure CheckState where
  errors : ErrorState := {}
  evaluated : List Evaluation := []

/-- What `CCvcDb::FindAllOverVoltageErrors` reads besides the models: what the overvoltage checks and counting read, the limit,
what `MapDeviceNets` finds for an instance and the number of a device, and the devices of all circuits for the summaries. -/
structure ModelCheckEnv where
  overVoltage : OverVoltageEnv
  errors : ErrorEnv
  cvcCircuitErrorLimit : Nat
  mapDeviceNets : Nat → Nat → CFullConnection
  devices : List (Nat × Nat) := []

namespace ModelCheckEnv

variable (env : ModelCheckEnv)

/-- The check is violated by a device of an instance. -/
def isViolated (use : DeviceUse) (check : VoltageCheck) : Bool :=
  check.isViolated (env.overVoltage.readings (env.mapDeviceNets use.instanceId use.deviceIt).bulk)

/-- `CCvcDb::PrintOverVoltageError`, for the error of a check if it has one. -/
def printOverVoltageError (use : DeviceUse) (error : Option OverVoltageError) (s : CheckState) : Except Failure CheckState :=
  match error with
  | none => pure s
  | some e => do
    let (_, errors) ← env.errors.reportError env.cvcCircuitErrorLimit .printOverVoltageError s.errors use.deviceId e.theErrorIndex
    pure { s with errors }

/-- An overvoltage check, if the limit of the model is known. -/
def overVoltageCheck (limit : Int) (use : DeviceUse) (error : Option OverVoltageError) (s : CheckState) :
    Except Failure CheckState :=
  if limit ≠ unknownVoltage then env.printOverVoltageError use error s else pure s

/-- `CCvcDb::FindModelError`, with `CCvcDb::PrintModelError`. -/
def findModelError (model : CheckedModel) (use : DeviceUse) (s : CheckState) (theCheck : VoltageCheck) :
    Except Failure CheckState := do
  let s := { s with evaluated := s.evaluated ++ [⟨model, use, theCheck⟩] }
  if env.isViolated use theCheck then do
    let (_, errors) ← env.errors.reportError env.cvcCircuitErrorLimit .printModelError s.errors use.deviceId .modelCheck
    pure { s with errors }
  else pure s

/-- The checks of a device of an instance. -/
def checkUse (model : CheckedModel) (use : DeviceUse) (s : CheckState) : Except Failure CheckState := do
  let c := env.mapDeviceNets use.instanceId use.deviceIt
  let s ← env.overVoltageCheck model.maxVbg use
    (env.overVoltage.findVbgError model.maxVbg c (model.displayParameter " Vbg=" model.maxVbgDefinition model.maxVbg)) s
  let s ← env.overVoltageCheck model.maxVbs use
    (env.overVoltage.findVbsError model.maxVbs c (model.displayParameter " Vbs=" model.maxVbsDefinition model.maxVbs)) s
  let s ← env.overVoltageCheck model.maxVds use
    (env.overVoltage.findVdsError model.maxVds c (model.displayParameter " Vds=" model.maxVdsDefinition model.maxVds)) s
  let s ← env.overVoltageCheck model.maxVgs use
    (env.overVoltage.findVgsError model.maxVgs c (model.displayParameter " Vgs=" model.maxVgsDefinition model.maxVgs)) s
  model.checkList.foldlM (env.findModelError model use) s

/-- The round of the innermost loop, for an instance of the circuit of a device. -/
def checkInstance (model : CheckedModel) (deviceIt : Nat) (s : CheckState) (myInstanceId : Nat) : Except Failure CheckState := do
  let myInstance ← env.errors.db.instancePtr myInstanceId
  if myInstance.isParallelInstance then pure s
  else env.checkUse model ⟨myInstanceId, deviceIt, myInstance.firstDeviceId + deviceIt⟩ s

/-- The round for a device of a model, in the instances of its circuit. -/
def checkDevice (model : CheckedModel) (s : CheckState) (device : Nat × Nat) : Except Failure CheckState :=
  (env.errors.db.instanceIdV device.1).foldlM (env.checkInstance model device.2) s

/-- The round for a model: `continue`, if it has none of the four limits. -/
def checkModel (s : CheckState) (model : CheckedModel) : Except Failure CheckState :=
  if !model.hasLimit then pure s else model.devices.foldlM (env.checkDevice model) s

/-- The summaries of the five sections. -/
def appendErrorFiles (s : CheckState) : CheckState :=
  { s with
    errors := (List.range 5).foldl
      (fun errors theErrorSubIndex =>
        (env.errors.printAndResetCircuitErrors env.cvcCircuitErrorLimit theErrorSubIndex [] env.devices errors).2) s.errors }

/-- `CCvcDb::FindAllOverVoltageErrors`, for the models in the order of `cvcModelListMap`. -/
def findAllOverVoltageErrors (models : List CheckedModel) (errors : ErrorState) : Except Failure CheckState := do
  let s ← models.foldlM env.checkModel { errors }
  pure (env.appendErrorFiles s)

end ModelCheckEnv
end Cvc
