import Mathlib.Order.Lattice.Nat
import Cvc.ModeLoop
import Cvc.NameLookup
import Cvc.PowerDefinition

/-!
# Setting the powers of the nets

`CCvcDb::SetModePower` gives the definitions of the power file to the nets that their signals name, and `CCvcDb::SetInstancePower`
those of the power files of instances. A definition that names more than one net is copied for each net behind the first one,
always from the copy before. In the power file of the mode a net with two definitions keeps the first one, with the voltages that
only the second one gives; in that of an instance the definitions of inputs become expected levels.

A power is made at the next free number. `netStatus_v` and `powerPtrType_v` are left out, and of what is printed only whether it
is an error.
-/

namespace Cvc

/-- The powers that were made, those of the nets, and the lists of powers and of expected levels. -/
structure PowerSettings where
  power : Nat → CPower
  powerCount : Nat
  netVoltagePtr : Nat → Option Nat := fun _ => none
  cvcPowerPtrList : List Nat := []
  cvcExpectedLevelPtrList : List Nat := []

namespace PowerSettings

variable (s : PowerSettings)

/-- `new CPower`; the pointer is the number of powers made before. -/
def newPower (power : CPower) : PowerSettings :=
  { s with power := Function.update s.power s.powerCount power, powerCount := s.powerCount + 1 }

def setPower (p : Nat) (power : CPower) : PowerSettings := { s with power := Function.update s.power p power }

/-- `netVoltagePtr_v[theNetId].full = p`. -/
def install (theNetId p : Nat) : PowerSettings := { s with netVoltagePtr := Function.update s.netVoltagePtr theNetId (some p) }

/-- Put a power behind the last one of the power list. -/
def pushPower (p : Nat) : PowerSettings := { s with cvcPowerPtrList := s.cvcPowerPtrList ++ [p] }

/-- Put a power behind the last one of the list of expected levels. -/
def pushExpectedLevel (p : Nat) : PowerSettings := { s with cvcExpectedLevelPtrList := s.cvcExpectedLevelPtrList ++ [p] }

/-- `CCvcDb::GetEquivalentNet`, with the equivalent nets fixed. -/
def getEquivalentNet (equivalentNet : Nat → Nat) (theNetId : Nat) : Nat :=
  if theNetId = unknownNet then unknownNet
  else
    match s.netVoltagePtr (equivalentNet theNetId) with
    | some myPower => if (s.power myPower).netId ≠ unknownNet then (s.power myPower).netId else equivalentNet theNetId
    | none => equivalentNet theNetId

end PowerSettings

/-! ## The power file of a mode -/

/-- The new voltage of a power, when another definition gives `myVoltage`. -/
def overrideVoltage (myOtherVoltage myVoltage : Int) : Int :=
  if myVoltage ≠ unknownVoltage ∧ myOtherVoltage = unknownVoltage then myVoltage else myOtherVoltage

/-- Two definitions give different voltages. -/
def voltageConflict (myOtherVoltage myVoltage : Int) : Bool :=
  myVoltage != unknownVoltage && myOtherVoltage != unknownVoltage && myOtherVoltage != myVoltage

/-- Two definitions give different expected values. -/
def expectedConflict (myOtherExpected myExpected : Text) : Bool :=
  myExpected != [] && myOtherExpected != [] && myOtherExpected != myExpected

/-- A power after the overrides of another definition. The accessors of the expected values return copies, so what is assigned to
them is lost. -/
def CPower.overrideWith (myOtherPower myPower : CPower) : CPower :=
  { myOtherPower with
    minVoltage := overrideVoltage myOtherPower.minVoltage myPower.minVoltage
    simVoltage := overrideVoltage myOtherPower.simVoltage myPower.simVoltage
    maxVoltage := overrideVoltage myOtherPower.maxVoltage myPower.maxVoltage }

/-- `myPowerConflict` for two definitions of a net. -/
def CPower.conflictsWith (myOtherPower myPower : CPower) : Bool :=
  expectedConflict myOtherPower.expectedMin myPower.expectedMin ||
    expectedConflict myOtherPower.expectedSim myPower.expectedSim ||
    expectedConflict myOtherPower.expectedMax myPower.expectedMax ||
    voltageConflict myOtherPower.minVoltage myPower.minVoltage || voltageConflict myOtherPower.simVoltage myPower.simVoltage ||
    voltageConflict myOtherPower.maxVoltage myPower.maxVoltage ||
    (myPower.type != myOtherPower.type || myPower.family != myOtherPower.family)

/-- The variables of `CCvcDb::SetModePower`. The power list goes up to the current definition. -/
structure ModePowerState where
  settings : PowerSettings
  myPower : Nat
  myPowerError : Bool

namespace ModePowerState

/-- The part of a round in which the power that the net already has is compared with the definition. -/
def override (s : ModePowerState) (theNetId : Nat) : ModePowerState :=
  match s.settings.netVoltagePtr theNetId with
  | none => s
  | some myOtherPower =>
    let other := s.settings.power myOtherPower
    let mine := s.settings.power s.myPower
    if mine.definition = other.definition then s
    else
      { s with
        settings := s.settings.setPower myOtherPower (other.overrideWith mine)
        myPowerError := s.myPowerError || other.conflictsWith mine }

/-- The definition for a net: the one of the list for the first net, a copy behind it for the others. -/
def define (s : ModePowerState) (isFirst : Bool) (theNetId : Nat) : ModePowerState :=
  let power := s.settings.power s.myPower
  if isFirst then { s with settings := s.settings.setPower s.myPower { power with netId := theNetId } }
  else
    { s with
      settings := (s.settings.newPower (power.copyTo theNetId)).pushPower s.settings.powerCount
      myPower := s.settings.powerCount }

/-- One round of the inner loop of `CCvcDb::SetModePower`. -/
def setNet (s : ModePowerState) (isFirst : Bool) (theNetId : Nat) : ModePowerState :=
  let t := (s.override theNetId).define isFirst theNetId
  match s.settings.netVoltagePtr theNetId with
  | none => { t with settings := t.settings.install theNetId t.myPower }
  | some _ => t

/-- The inner loop of `CCvcDb::SetModePower`, over the nets of a definition. -/
def setNets (s : ModePowerState) : List Nat → ModePowerState
  | [] => { s with myPowerError := true }
  | first :: rest => rest.foldl (fun s theNetId => s.setNet false theNetId) (s.setNet true first)

end ModePowerState

/-- The power list of a power file, before a net has a power. -/
def PowerSettings.ofDefinitions (definitions : List CPower) : PowerSettings where
  power p := (definitions[p]?).getD {}
  powerCount := definitions.length

/-- The numbers of a set from the least on. -/
def ascending (nets : Finset Nat) : List Nat := (List.range (nets.sup id + 1)).filter (· ∈ nets)

section
variable {h : Hierarchy} (names : CCircuitPtrList h) (regex : Text → Option (Text → Bool)) (db : CCvcDb)

/-- The nets of a signal in the order of the loops, which is that of the ids. -/
def CCircuitPtrList.netIdList (thePowerSignal : Text) (theParent : Nat) : Except Failure (List Nat) := do
  let found ← names.findUniqueNetIds regex db thePowerSignal theParent
  pure (ascending found.nets)

/-- One round of the outer loop of `CCvcDb::SetModePower`. -/
def CCircuitPtrList.setDefinition (s : PowerSettings × Bool) (p : Nat) : Except Failure (PowerSettings × Bool) := do
  let myNetIdList ← names.netIdList regex db (s.1.power p).powerSignal 0
  let t := ModePowerState.setNets { settings := s.1.pushPower p, myPower := p, myPowerError := s.2 } myNetIdList
  pure (t.settings, t.myPowerError)

/-- `CCvcDb::SetModePower` for the definitions of a power file, with whether it reports an error. -/
def CCircuitPtrList.setModePower (definitions : List CPower) : Except Failure (PowerSettings × Bool) :=
  (List.range definitions.length).foldlM (names.setDefinition regex db) (.ofDefinitions definitions, false)

end

/-! ## The power files of instances -/

/-- The signal of a line of the power file of an instance. -/
def instanceSignal (theHierarchyName myOriginalPower : Text) : Text :=
  if myOriginalPower.take 1 = ['/'] then theHierarchyName ++ myOriginalPower
  else if myOriginalPower.take 2 ≠ ['*', '('] then theHierarchyName ++ hierarchyDelimiter :: myOriginalPower
  else myOriginalPower

namespace CPower

/-- The known voltages of a power as expected values. -/
def expectVoltages (power : CPower) : CPower :=
  let extraData := power.extraData.getD {}
  { power with
    extraData := some { extraData with
      expectedMin := if power.minVoltage ≠ unknownVoltage then toStringVolts power.minVoltage else extraData.expectedMin
      expectedSim := if power.simVoltage ≠ unknownVoltage then toStringVolts power.simVoltage else extraData.expectedSim
      expectedMax := if power.maxVoltage ≠ unknownVoltage then toStringVolts power.maxVoltage else extraData.expectedMax } }

/-- A power with expected values only. -/
def expectedOnly (power : CPower) : CPower :=
  let power := { power with
    minVoltage := unknownVoltage, simVoltage := unknownVoltage, maxVoltage := unknownVoltage
    type := { power.type with inputBit := false } }
  { power with definition := power.standardDefinition }

/-- The expected values are not all empty. -/
def hasExpected (power : CPower) : Bool := !(power.expectedMin.isEmpty && power.expectedSim.isEmpty && power.expectedMax.isEmpty)

end CPower

/-- The variables of `CCvcDb::SetInstancePower` in the loop over the lines of a file. -/
structure InstancePowerState where
  settings : PowerSettings
  myLocalMacroPtrMap : Text → Option Nat := fun _ => none
  voltages : VoltageState := {}
  myPowerError : Bool := false

namespace InstancePowerState

/-- A power of the top gets the name that it has in the instance, as a macro. -/
def setMacro (s : InstancePowerState) (myOriginalPower : Text) (theNetId : Nat) : InstancePowerState :=
  match s.settings.netVoltagePtr theNetId with
  | some myOtherPower =>
    if (s.settings.power myOtherPower).type.powerBit then
      { s with myLocalMacroPtrMap := Function.update s.myLocalMacroPtrMap myOriginalPower (some myOtherPower) }
    else { s with myPowerError := true }
  | none => { s with myPowerError := true }

/-- An input becomes an expected level. -/
def setExpected (s : InstancePowerState) (myPower : Nat) : InstancePowerState :=
  let power := (s.settings.power myPower).expectVoltages
  if power.hasExpected then
    { s with settings := (s.settings.setPower myPower power.expectedOnly).pushExpectedLevel myPower }
  else { s with settings := s.settings.setPower myPower power }

/-- Another definition is ignored for a net that has a power, and is the power of a net that has none. -/
def setFull (s : InstancePowerState) (myPower theNetId : Nat) : InstancePowerState :=
  match s.settings.netVoltagePtr theNetId with
  | some _ => s
  | none => { s with settings := (s.settings.pushPower myPower).install theNetId myPower }

/-- The round of the loop over the nets of a line, for a net and its copy of the definition. -/
def setNet (s : InstancePowerState) (myOriginalPower : Text) (myPower theNetId : Nat) : InstancePowerState :=
  let power := s.settings.power myPower
  if power.type.powerBit && myOriginalPower.head?.any Char.isAlpha then s.setMacro myOriginalPower theNetId
  else if power.type.inputBit then s.setExpected myPower
  else s.setFull myPower theNetId

variable (equivalentNet : Nat → Nat)

/-- A round for the first net of a line. -/
def setFirst (s : InstancePowerState) (myOriginalPower : Text) (myPower theNetId : Nat) : InstancePowerState :=
  let myNetId := s.settings.getEquivalentNet equivalentNet theNetId
  let power := s.settings.power myPower
  { s with settings := s.settings.setPower myPower { power with netId := myNetId } }.setNet myOriginalPower myPower myNetId

/-- A round for one of the other nets, with a copy of the definition of the net before. -/
def setNext (myOriginalPower : Text) (s : InstancePowerState × Nat) (theNetId : Nat) : InstancePowerState × Nat :=
  let myNetId := s.1.settings.getEquivalentNet equivalentNet theNetId
  let myPower := s.1.settings.powerCount
  let power := s.1.settings.power s.2
  ({ s.1 with settings := s.1.settings.newPower (power.copyTo myNetId) }.setNet myOriginalPower myPower myNetId, myPower)

/-- The loop over the nets of a line. -/
def setNets (s : InstancePowerState) (myOriginalPower : Text) (myPower : Nat) : List Nat → InstancePowerState
  | [] => s
  | first :: rest =>
    (rest.foldl (setNext equivalentNet myOriginalPower) (s.setFirst equivalentNet myOriginalPower myPower first, myPower)).1

end InstancePowerState

section
variable {h : Hierarchy} (names : CCircuitPtrList h) (regex : Text → Option (Text → Bool)) (db : CCvcDb)
variable (equivalentNet : Nat → Nat) (depth : Nat) (cvcPowerMacroPtrMap : List (Text × CPower))

/-- A line of the power file of an instance. -/
def CCircuitPtrList.setInstanceLine (theInstanceId : Nat) (s : InstancePowerState) (line : Text) :
    Except Failure InstancePowerState := do
  let (power, voltages) ← CPower.ofString line (fun name => (s.myLocalMacroPtrMap name).map s.settings.power) depth s.voltages
  let myOriginalPower := power.powerSignal
  let myHierarchyName ← h.hierarchyName db theInstanceId
  let powerSignal := instanceSignal myHierarchyName myOriginalPower
  let power := { power with extraData := power.extraData.map ({ · with powerSignal := powerSignal }) }
  let myNetIdList ← names.netIdList regex db powerSignal theInstanceId
  let t : InstancePowerState := { s with settings := s.settings.newPower power, voltages }
  pure (t.setNets equivalentNet myOriginalPower s.settings.powerCount myNetIdList)

/-- A macro of the power file of the mode: it is one in the instance as well, if it is not a net of the top. -/
def CCircuitPtrList.addTopMacro (s : InstancePowerState) (powerMap : Text × CPower) : Except Failure InstancePowerState := do
  let myNetId ← names.findNet db 0 powerMap.1
  if myNetId = unknownNet then
    pure { s with
      settings := s.settings.newPower powerMap.2
      myLocalMacroPtrMap := Function.update s.myLocalMacroPtrMap powerMap.1 (some s.settings.powerCount) }
  else pure s

/-- The power file for one of its instances. -/
def CCircuitPtrList.setInstanceFile (powerList : List Text) (s : InstancePowerState) (theInstanceId : Nat) :
    Except Failure InstancePowerState := do
  let s ← cvcPowerMacroPtrMap.foldlM (names.addTopMacro db) { s with myLocalMacroPtrMap := fun _ => none }
  powerList.foldlM (names.setInstanceLine regex db equivalentNet depth theInstanceId) s

/-- One round of the outer loop of `CCvcDb::SetInstancePower`. -/
def CCircuitPtrList.setInstances (s : InstancePowerState) (instancePower : CInstancePower) :
    Except Failure InstancePowerState := do
  let myInstanceIdList ← names.findInstanceIds regex db instancePower.instanceName 0
  myInstanceIdList.foldlM (names.setInstanceFile regex db equivalentNet depth cvcPowerMacroPtrMap instancePower.powerList) s

/-- `CCvcDb::SetInstancePower`, with whether it reports an error. -/
def CCircuitPtrList.setInstancePower (cvcInstancePowerPtrList : List CInstancePower) (settings : PowerSettings)
    (voltages : VoltageState) :
    Except Failure (PowerSettings × Bool) := do
  let s ← cvcInstancePowerPtrList.foldlM (names.setInstances regex db equivalentNet depth cvcPowerMacroPtrMap)
    { settings, voltages }
  pure (s.settings, s.myPowerError)

end
end Cvc
