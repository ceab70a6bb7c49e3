import Cvc.NetState
import Cvc.PowerDefinition

/-!
# Checking the expected levels

`CCvcDb::CheckExpectedValues`: for every expected level of the list, the expected simulation voltage, minimum and maximum of its
net are compared with the powers that the net leads to. An expected value is a voltage, the name of a net, the alias of a power,
or `open`. What is not found as expected is an error, with a line in the error file. The line feed after the errors of a level and
the debug file are left out.
-/

namespace Cvc

/-- What `CCvcDb::CheckExpectedValues` reads: the powers, the final nets in `minNet_v`, `simNet_v` and `maxNet_v`, and the names.
-/
structure ExpectedNets where
  power : Nat → CPower
  isVoltage : ∀ p, IsVoltage (power p).minVoltage ∧ IsVoltage (power p).simVoltage ∧ IsVoltage (power p).maxVoltage
  netVoltagePtr : Nat → Option Nat
  finalNetId : CalculatedBit → Nat → Nat
  getEquivalentNet : Nat → Nat
  netName : Nat → Text
  cvcExpectedErrorThreshold : Int

/-- `CCvcDb::PrintVoltage`. -/
def printVoltage (theVoltage : Int) : Text := if theVoltage = unknownVoltage then "???".toList else (toString theVoltage).toList

namespace ExpectedNets

variable (nets : ExpectedNets)

/-- The power that a net leads to, if there is one. -/
def finalPower (bit : CalculatedBit) (myNetId : Nat) : Option Nat :=
  if nets.finalNetId bit myNetId = unknownNet then none else nets.netVoltagePtr (nets.finalNetId bit myNetId)

/-- The expected value is the name of the final net, or the alias of its power. -/
def isNamed (bit : CalculatedBit) (myNetId p : Nat) (expected : Text) : Bool :=
  expected == nets.netName (nets.finalNetId bit myNetId) || expected == (nets.power p).powerAlias

/-- A voltage is open: there is no power, it is unknown, or the power is open. -/
def isOpen (bit : CalculatedBit) (voltage : CPower → Int) (myNetId : Nat) : Bool :=
  (nets.finalPower bit myNetId).all fun p => voltage (nets.power p) == unknownVoltage || (nets.power p).type.hizBit

/-- The expected simulation voltage is found. -/
def foundSim (expected : Text) (myNetId : Nat) : Except Failure Bool :=
  if expected = "open".toList then
    pure ((nets.finalPower .sim myNetId).all (fun p => (nets.power p).simVoltage == unknownVoltage) &&
      (nets.isOpen .min CPower.minVoltage myNetId || nets.isOpen .max CPower.maxVoltage myNetId))
  else
    match nets.finalPower .sim myNetId with
    | none => pure false
    | some p =>
      if (nets.power p).simVoltage = unknownVoltage then pure false
      else do
        let isVoltageMatch ← if isValidVoltage expected then do
            let v ← stringToVoltage expected
            pure (decide ((v - (nets.power p).simVoltage).natAbs ≤ nets.cvcExpectedErrorThreshold))
          else pure false
        pure (isVoltageMatch || nets.isNamed .sim myNetId p expected)

/-- The expected minimum or maximum is found. For `open` it is the simulation voltage that has to be unknown. -/
def foundBound (bit : CalculatedBit) (isVoltageMatch : Int → CPower → Bool) (expected : Text) (myNetId : Nat) :
    Except Failure Bool :=
  if expected = "open".toList then
    pure ((nets.finalPower bit myNetId).all fun p => (nets.power p).simVoltage == unknownVoltage)
  else
    match nets.finalPower bit myNetId with
    | none => pure false
    | some p => do
      let v ← stringToVoltage expected
      pure (isVoltageMatch v (nets.power p) || nets.isNamed bit myNetId p expected)

/-- Anything higher than the expected minimum is a match. -/
def foundMin (expected : Text) (myNetId : Nat) : Except Failure Bool :=
  nets.foundBound .min (fun v power => decide (v ≤ power.minVoltage)) expected myNetId

/-- Anything lower than the expected maximum is a match. -/
def foundMax (expected : Text) (myNetId : Nat) : Except Failure Bool :=
  nets.foundBound .max (fun v power => decide (v ≥ power.maxVoltage)) expected myNetId

/-- A voltage of the final net in an error, if it is known. -/
def foundText (bit : CalculatedBit) (voltage : CPower → Int) (myNetId : Nat) : Option Text :=
  match nets.finalPower bit myNetId with
  | none => none
  | some p =>
    if voltage (nets.power p) = unknownVoltage then none
    else some (nets.netName (nets.finalNetId bit myNetId) ++ '@' :: printVoltage (voltage (nets.power p)))

/-- What was found instead of an expected simulation voltage. -/
def foundSimText (expected : Text) (myNetId : Nat) : Text :=
  match nets.foundText .sim CPower.simVoltage myNetId with
  | some text => text
  | none =>
    if expected = "open".toList then
      match nets.foundText .min CPower.minVoltage myNetId, nets.foundText .max CPower.maxVoltage myNetId with
      | none, none => "unknown".toList
      | minText, maxText =>
        (minText.map fun text => "(min)".toList ++ text ++ " ".toList).getD [] ++
          (maxText.map fun text => "(max)".toList ++ text).getD []
    else "unknown".toList

/-- The line of an error. -/
def errorLine (what : String) (expected found : Text) (myNetId : Nat) : Text :=
  what.toList ++ nets.netName myNetId ++ " = ".toList ++ expected ++ " but found ".toList ++ found

/-- The errors of one expected value: one line, if there is an expected value that is not found. -/
def errorsOf (what : String) (found : Except Failure Bool) (expected foundInstead : Text) (myNetId : Nat) :
    Except Failure (List Text) :=
  if expected = [] then pure []
  else do
    let myExpectedValueFound ← found
    pure (if myExpectedValueFound then [] else [nets.errorLine what expected foundInstead myNetId])

/-- The round of `CCvcDb::CheckExpectedValues` for one expected level. -/
def checkLevel (power : CPower) : Except Failure (List Text) := do
  let myNetId := nets.getEquivalentNet power.netId
  let sim ← nets.errorsOf "Expected " (nets.foundSim power.expectedSim myNetId) power.expectedSim
    (nets.foundSimText power.expectedSim myNetId) myNetId
  let min ← nets.errorsOf "Expected minimum " (nets.foundMin power.expectedMin myNetId) power.expectedMin
    ((nets.foundText .min CPower.minVoltage myNetId).getD "unknown".toList) myNetId
  let max ← nets.errorsOf "Expected maximum " (nets.foundMax power.expectedMax myNetId) power.expectedMax
    ((nets.foundText .max CPower.maxVoltage myNetId).getD "unknown".toList) myNetId
  pure (sim ++ min ++ max)

/-- `CCvcDb::CheckExpectedValues`: the lines of the errors, as many as are counted. -/
def checkExpectedValues (cvcExpectedLevelPtrList : List CPower) : Except Failure (List Text) := do
  let errors ← cvcExpectedLevelPtrList.mapM nets.checkLevel
  pure errors.flatten

end ExpectedNets
end Cvc
