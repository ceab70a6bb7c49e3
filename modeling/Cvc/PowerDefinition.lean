import Cvc.BusNet

/-!
# Power definitions

The constructors of `CPower.cc`: a line of a power file is a signal, perhaps with an alias behind `~>`, and parameters between
blanks. A parameter with an `@` gives one of the voltages, an expected value or a family; one without is a type, a voltage, a
macro or a formula. The definition of a power is the text of its parameters. `StandardDefinition` is the way back, from a power to
a text.

`powerId` and `flagAllShorts` are left out: no function here reads them.
-/

namespace Cvc

/-! ## Voltages as texts -/

/-- The three digits of a number below a thousand. -/
def threeDigits (n : Nat) : Text := [Nat.digitChar (n / 100 % 10), Nat.digitChar (n / 10 % 10), Nat.digitChar (n % 10)]

/-- A voltage in volts with a sign, a point and three digits behind it. -/
def fixedVolts (v : Int) : Text × Text :=
  ((if v < 0 then ['-'] else []) ++ (toString (v.natAbs / 1000)).toList, threeDigits (v.natAbs % 1000))

/-- `to_string<float>(float(theVoltage) / VOLTAGE_SCALE)`: six significant digits are enough for a `voltage_t`. -/
def toStringVolts (theVoltage : Int) : Text :=
  match ((fixedVolts theVoltage).2.reverse.dropWhile (· == '0')).reverse with
  | [] => (fixedVolts theVoltage).1
  | fraction => (fixedVolts theVoltage).1 ++ '.' :: fraction

/-- `PrintParameter`, with the scale `VOLTAGE_SCALE`. -/
def printParameter (parameter : Int) : Text :=
  if parameter = unknownVoltage then "????".toList
  else
    let (whole, fraction) := fixedVolts parameter
    -- at most two zeros are removed
    let fraction := if fraction.drop 1 = ['0', '0'] then fraction.take 1 else if fraction.drop 2 = ['0'] then fraction.take 2
      else fraction
    whole ++ '.' :: fraction

/-- `String_to_Voltage`. The arithmetic is exact here; the code rounds the `float` product first, so next to a half it may store
the other neighbour (it has 1000 for `1.0004`, this 1001). -/
def stringToVoltage (value : Text) : Except Failure Int :=
  if isValidVoltage value then do
    let v ← fromString value
    pure (roundAway (v * 1000 + 1 / 10))
  else pure unknownVoltage

/-- A floating point number that is stored in a `voltage_t`. -/
def storeVoltage (v : Int) : Except Failure Int := if -2 ^ 15 ≤ v ∧ v < 2 ^ 15 then pure v else throw .undefined

/-! ## The constructor for a line -/

/-- `ALIAS_DELIMITER`. -/
def aliasDelimiter : Text := ['~', '>']

/-- The place of the alias delimiter in a text. -/
def aliasBegin (t : Text) : Option Nat := (List.range t.length).find? fun i => (t.drop i).take 2 == aliasDelimiter

/-- The parts of a text between blanks. -/
def blankTokens (t : Text) : List Text := (t.splitOnP isBlank).filter (· ≠ [])

/-- What the constructor of a power reads: the line, the macros, and how deep definitions of thresholds may be nested. -/
structure DefinitionEnv where
  thePowerString : Text
  thePowerMacroPtrMap : Text → Option CPower
  depth : Nat

/-- The power under construction, with the texts that are collected and what evaluations of voltages change. -/
structure DefinitionState where
  power : CPower := {}
  extraData : CExtraPowerData := {}
  myDefinition : Text := []
  myImplicitFamily : Text := []
  voltages : VoltageState

namespace DefinitionState

/-- `myImplicitFamily += thePowerMacroPtrMap.implicitFamily`. -/
def addImplicitFamily (s : DefinitionState) : DefinitionState :=
  { s with myImplicitFamily := s.myImplicitFamily ++ s.voltages.implicitFamily }

end DefinitionState

namespace DefinitionEnv

variable (env : DefinitionEnv)

/-- A call of `CPowerPtrMap::CalculateVoltage`. -/
def calculate (theEquation : Text) (theType : NetStatus) (s : DefinitionState) : Except Failure (Int × DefinitionState) := do
  let (v, voltages) ← calculateVoltage env.thePowerMacroPtrMap env.depth theEquation theType false true s.voltages
  pure (v, { s with voltages })

/-- `CPowerPtrMap::CalculateExpectedValue`. -/
def calculateExpectedValue (theEquation : Text) (theType : NetStatus) (s : DefinitionState) :
    Except Failure (Text × DefinitionState) :=
  if theEquation = "open".toList then pure (theEquation, s)
  else if (env.thePowerMacroPtrMap theEquation).isSome then pure (theEquation, s)
  else if isValidVoltage theEquation then pure (theEquation, s)
  else do
    let (myVoltage, s) ← env.calculate theEquation theType s
    pure (toStringVolts myVoltage, s)

/-- The family that a power permits or prohibits: the alias of a macro, if it has one. -/
def familyOf (myParameterValue : Text) : Text :=
  match env.thePowerMacroPtrMap myParameterValue with
  | some macroPower => if macroPower.powerAlias ≠ [] then macroPower.powerAlias else myParameterValue
  | none => myParameterValue

/-- A parameter with an `@`. -/
def valueParameter (myParameterName myParameterValue : Text) (s : DefinitionState) : Except Failure DefinitionState :=
  if myParameterName = "min".toList then do
    let (v, s) ← env.calculate myParameterValue .minPower s
    pure { s.addImplicitFamily with power := { s.power with minVoltage := v, minCalculationType := .noCalculation } }
  else if myParameterName = "max".toList then do
    let (v, s) ← env.calculate myParameterValue .maxPower s
    pure { s.addImplicitFamily with power := { s.power with maxVoltage := v, maxCalculationType := .noCalculation } }
  else if myParameterName = "sim".toList then do
    let (v, s) ← env.calculate myParameterValue .simPower s
    pure { s.addImplicitFamily with power := { s.power with simVoltage := v, simCalculationType := .noCalculation } }
  else if myParameterName = "expectMin".toList then do
    let (expected, s) ← env.calculateExpectedValue myParameterValue .minPower s
    pure { s with extraData := { s.extraData with expectedMin := expected } }
  else if myParameterName = "expectMax".toList then do
    let (expected, s) ← env.calculateExpectedValue myParameterValue .maxPower s
    pure { s with extraData := { s.extraData with expectedMax := expected } }
  else if myParameterName = "expectSim".toList then do
    let (expected, s) ← env.calculateExpectedValue myParameterValue .simPower s
    pure { s with extraData := { s.extraData with expectedSim := expected } }
  else if myParameterName = "permit".toList ∨ myParameterName = "prohibit".toList then
    pure { s with
      extraData := { s.extraData with family := env.familyOf myParameterValue }
      power := { s.power with relativeFriendly := decide (myParameterName = "permit".toList) } }
  else pure s

/-- `CPower::SetPowerAlias`. -/
def setPowerAlias (powerSignal : Text) : Text :=
  let myPowerAlias :=
    match aliasBegin env.thePowerString with
    | some theAliasStart => (env.thePowerString.drop (theAliasStart + 2)).takeWhile (!isBlank ·)
    | none =>
      if hierarchyDelimiter ∉ powerSignal then powerSignal
      -- only the signals of the top have an alias
      else if powerSignal.head? = some hierarchyDelimiter ∧ hierarchyDelimiter ∉ powerSignal.tail then powerSignal.tail
      else []
  myPowerAlias.takeWhile (· ∉ ['\x7b', '[', '(', '<'])

/-- A parameter that is the name of a macro. -/
def macroParameter (myParameterName : Text) (macroPower : CPower) (s : DefinitionState) : DefinitionState :=
  let extraData :=
    match macroPower.extraData with
    | none => s.extraData
    | some extra =>
      { s.extraData with
        expectedMin := extra.expectedMin, expectedMax := extra.expectedMax, expectedSim :=
          extra.expectedSim, family := extra.family }
  { s with
    power := { s.power with
      minVoltage := macroPower.minVoltage
      maxVoltage := macroPower.maxVoltage
      simVoltage := macroPower.simVoltage
      relativeFriendly := macroPower.relativeFriendly
      type := { s.power.type with hizBit := macroPower.type.hizBit } }
    extraData := { extraData with powerAlias := myParameterName }
    myImplicitFamily := s.myImplicitFamily ++ ',' :: myParameterName ++
      (if macroPower.family ≠ [] then ',' :: macroPower.family else []) }

/-- A parameter that is neither a type nor a voltage nor a macro. -/
def formulaParameter (myParameterName : Text) (s : DefinitionState) : Except Failure DefinitionState := do
  let (simVoltage, s) ← env.calculate myParameterName .simPower s
  let (maxVoltage, s) ← env.calculate myParameterName .maxPower s
  let (minVoltage, s) ← env.calculate myParameterName .minPower s
  pure { s.addImplicitFamily with power := { s.power with simVoltage, maxVoltage, minVoltage } }

/-- A parameter without an `@`. -/
def wordParameter (myParameterName : Text) (s : DefinitionState) : Except Failure DefinitionState :=
  if myParameterName = "input".toList then pure { s with power :=
    { s.power with type := { s.power.type with inputBit := true } } }
  else if myParameterName = "power".toList then
    pure { s with
      power := { s.power with type := { s.power.type with powerBit := true } }
      extraData := if s.extraData.powerAlias = [] then
        { s.extraData with powerAlias := env.setPowerAlias s.extraData.powerSignal } else s.extraData }
  else if myParameterName = "analog".toList then pure { s with power :=
    { s.power with type := { s.power.type with analogBit := true } } }
  else if myParameterName = "resistor".toList then pure { s with power :=
    { s.power with type := { s.power.type with resistorBit := true } } }
  else if myParameterName = "open".toList then
    pure { s with power := { s.power with type := { s.power.type with hizBit := true }, simVoltage := unknownVoltage } }
  else if isValidVoltage myParameterName then do
    let v ← stringToVoltage myParameterName
    let v ← storeVoltage v
    pure { s with power := { s.power with simVoltage := v, maxVoltage := v, minVoltage := v } }
  else
    match env.thePowerMacroPtrMap myParameterName with
    | some macroPower => pure (macroParameter myParameterName macroPower s)
    | none => env.formulaParameter myParameterName s

/-- One round of the loop of the constructor. -/
def parameter (s : DefinitionState) (token : Text) : Except Failure DefinitionState := do
  let s ← match token.idxOf? '@' with
    | some myAtIndex => env.valueParameter (token.take myAtIndex) (token.drop (myAtIndex + 1)) s
    | none => env.wordParameter token s
  pure { s with myDefinition := s.myDefinition ++ ' ' :: token }

/-- What the constructor does after its loop. -/
def finish (s : DefinitionState) : CPower :=
  { s.power with
    definition := s.myDefinition
    extraData := some { s.extraData with
      family := if s.power.type.hizBit ∧ s.extraData.family = [] then "cvc-noleak".toList else s.extraData.family
      implicitFamily := s.myImplicitFamily.drop 1 } }

end DefinitionEnv

namespace CPower

/-- `CPower::CPower(string, CPowerPtrMap &, CModelListMap &)`. -/
def ofString (thePowerString : Text) (thePowerMacroPtrMap : Text → Option CPower) (depth : Nat) (voltages : VoltageState) :
    Except Failure (CPower × VoltageState) := do
  let thePowerString := trim thePowerString
  let env : DefinitionEnv := { thePowerString, thePowerMacroPtrMap, depth }
  let powerSignal := (thePowerString.takeWhile (!isBlank ·)).take ((aliasBegin thePowerString).getD thePowerString.length)
  let s ← (blankTokens thePowerString).tail.foldlM env.parameter { extraData := { powerSignal }, voltages }
  pure (DefinitionEnv.finish s, s.voltages)

/-- `CPower::CPower(CPower *, netId_t)`. The pull voltages and the default nets are not copied. -/
def copyTo (thePower : CPower) (theNetId : Nat) : CPower where
  minVoltage := thePower.minVoltage
  maxVoltage := thePower.maxVoltage
  simVoltage := thePower.simVoltage
  extraData := thePower.extraData.map fun extra =>
    { extra with pullDownVoltage := unknownVoltage, pullUpVoltage := unknownVoltage }
  relativeFriendly := thePower.relativeFriendly
  type := thePower.type
  definition := thePower.definition
  active := thePower.active
  netId := theNetId
  minCalculationType := thePower.minCalculationType
  simCalculationType := thePower.simCalculationType
  maxCalculationType := thePower.maxCalculationType

/-- One voltage in `CPower::StandardDefinition`. -/
def standardVoltage (name : String) (calculatedBit : Bool) (voltage : Int) : Text :=
  if voltage = unknownVoltage then [] else name.toList ++ (if calculatedBit then '=' else '@') :: printParameter voltage

/-- A text in `CPower::StandardDefinition`. -/
def standardText (name : String) (text : Text) : Text := if text = [] then [] else name.toList ++ text

/-- A bit in `CPower::StandardDefinition`. -/
def standardBit (name : String) (bit : Bool) : Text := if bit then name.toList else []

/-- `CPower::StandardDefinition`. -/
def standardDefinition (power : CPower) : Text :=
  (if power.simVoltage ≠ unknownVoltage ∧ power.minVoltage = power.simVoltage ∧ power.simVoltage = power.maxVoltage ∧
      power.type.powerBit = true then
    ' ' :: printParameter power.minVoltage
  else
    standardVoltage " min" power.type.minCalculatedBit power.minVoltage ++
      standardVoltage " sim" power.type.simCalculatedBit power.simVoltage ++
      standardVoltage " max" power.type.maxCalculatedBit power.maxVoltage) ++
  standardText " expectMin@" power.expectedMin ++ standardText " expectSim@" power.expectedSim ++
  standardText " expectMax@" power.expectedMax ++ standardBit " open" power.type.hizBit ++
    standardBit " input" power.type.inputBit ++
  standardBit " power" power.type.powerBit ++ standardBit " resistor" power.type.resistorBit ++
  standardText (if power.relativeFriendly then " permit@" else " prohibit@") power.family

end CPower
end Cvc
