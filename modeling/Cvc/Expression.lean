import Mathlib.Data.Rat.Floor
import Cvc.Lib.Scan
import Cvc.Power

/-!
# Expressions of voltages and resistances

Expressions in power, model and parameter definitions: `ParseEquation` and `postfix` of `utility.cc` turn the text of an
expression into postfix order, and `CPowerPtrMap::CalculateVoltage` and `CParameterMap::CalculateResistance` evaluate it on a
stack. Numbers are exact: a quotient by zero has no value here, and a number out of the range of the type it is converted to is
undefined.

The last element of a list used as a stack is the head of the list here. The warning about undefined tokens is left out.
-/

namespace Cvc

open Scan (sscanf readNumber)

/-! ## Numbers -/

/-- The characters of the suffixes in `IsValidVoltage_`. -/
def suffixes : List Char := "afpnumkKMGTPE".toList

/-- `IsValidVoltage_`. -/
def isValidVoltage (s : Text) : Bool :=
  sscanf [.run ['-', '+'], .int, .char '.', .int, .word] s == 3 ||
  sscanf [.run ['-', '+'], .int, .word] s == 2 ||
  sscanf [.int, .char '.', .int, .word] s == 2 ||
  sscanf [.int, .word] s == 1 ||
  sscanf [.run ['-', '+'], .int, .char '.', .int, .one suffixes, .word] s == 4 ||
  sscanf [.run ['-', '+'], .int, .one suffixes, .word] s == 3 ||
  sscanf [.int, .char '.', .int, .one suffixes, .word] s == 3 ||
  sscanf [.int, .one suffixes, .word] s == 2

/-- `SISuffix` of `from_string`. -/
def siSuffix : Text → Option ℚ
  | ['a'] => some (10 ^ (-18 : Int))
  | ['f'] => some (10 ^ (-15 : Int))
  | ['p'] => some (10 ^ (-12 : Int))
  | ['n'] => some (10 ^ (-9 : Int))
  | ['u'] => some (10 ^ (-6 : Int))
  | ['m'] => some (10 ^ (-3 : Int))
  | ['k'] | ['K'] => some (10 ^ 3)
  | ['M'] => some (10 ^ 6)
  | ['G'] => some (10 ^ 9)
  | ['T'] => some (10 ^ 12)
  | ['P'] => some (10 ^ 15)
  | ['E'] => some (10 ^ 18)
  | _ => none

/-- `from_string`, for a floating point number. A number that cannot be read is zero, and no suffix is read after it. -/
def fromString (s : Text) : Except Failure ℚ :=
  match readNumber s with
  | none => pure 0
  | some (result, rest) =>
    match (rest.dropWhile Scan.isSpace).takeWhile (!Scan.isSpace ·) with
    | [] => pure result
    | mySuffix =>
      match siSuffix mySuffix with
      | none => .error .outOfRange
      | some factor => pure (result * factor)

/-- `round`: to the nearest integer, halves away from zero. -/
def roundAway (x : ℚ) : Int := if 0 ≤ x then ⌊x + 1 / 2⌋ else ⌈x - 1 / 2⌉

/-! ## Postfix order -/

/-- `myOperators` of `postfix`. -/
def operators : List Char := "()+-/*<>".toList

/-- The loop of `ParseEquation`, which takes at least one character in every round. -/
def parseLoop (theDelimiters : List Char) : Nat → Text → List Text
  | _, [] => []
  | 0, _ => []
  | n + 1, c :: s =>
    if c ∈ theDelimiters then [c] :: parseLoop theDelimiters n s
    else (c :: s.takeWhile (· ∉ theDelimiters)) :: parseLoop theDelimiters n (s.dropWhile (· ∉ theDelimiters))

/-- `ParseEquation`. -/
def parseEquation (theEquation : Text) (theDelimiters : List Char) : List Text :=
  parseLoop theDelimiters theEquation.length theEquation

/-- `set.find(token) < set.length()`, for a token of an expression: such a token is one of the operators or has none in it. -/
def isAmong (set : List Char) : Text → Bool
  | [c] => c ∈ set
  | _ => false

/-- The state of the loop of `postfix`. -/
structure PostfixState where
  myPostfixList : List Text := []
  myOperatorStack : List Text := []
  myLastToken : Text := []

/-- The operators down to the last open parenthesis, and the stack under it. -/
def popToParenthesis : List Text → Except Failure (List Text × List Text)
  | [] => .error .undefined
  | back :: stack =>
    if back = ['('] then pure ([], stack)
    else do
      let (popped, stack) ← popToParenthesis stack
      pure (back :: popped, stack)

/-- `myLowPrecedence` of `postfix`. -/
def isLow : Text → Bool := isAmong ['+', '-']

/-- `myHighPrecedence` of `postfix`. -/
def isHigh : Text → Bool := isAmong ['/', '*', '<', '>']

/-- What an operator of low precedence takes from a stack whose last operator is of high precedence. -/
def popHigher (stack : List Text) : List Text × List Text :=
  let popped := stack.takeWhile isHigh
  match stack.dropWhile isHigh with
  | [] => (popped, [])
  | back :: rest => if isLow back then (popped ++ [back], rest) else (popped, back :: rest)

/-- One round of the loop of `postfix`. -/
def postfixToken (s : PostfixState) (token : Text) : Except Failure PostfixState :=
  if !isAmong operators token then
    pure { s with myPostfixList := s.myPostfixList ++ [token], myLastToken := token }
  else
    let pushed : PostfixState := {
      myPostfixList :=
        if token = ['-'] ∧ (s.myLastToken = [] ∨ s.myLastToken = ['(']) then s.myPostfixList ++ [['0']] else s.myPostfixList
      myOperatorStack := token :: s.myOperatorStack
      myLastToken := token }
    match s.myOperatorStack with
    | [] => pure pushed
    | back :: stack =>
      if back = ['('] ∨ token = ['('] then pure pushed
      else if token = [')'] then do
        let (popped, rest) ← popToParenthesis (back :: stack)
        pure ⟨s.myPostfixList ++ popped, rest, token⟩
      else if isHigh token ∧ isLow back then pure ⟨s.myPostfixList, token :: back :: stack, token⟩
      else if isLow token ∧ isHigh back then
        let (popped, rest) := popHigher (back :: stack)
        pure ⟨s.myPostfixList ++ popped, token :: rest, token⟩
      else pure ⟨s.myPostfixList ++ [back], token :: stack, token⟩

/-- `postfix`. -/
def postfixList (theEquation : Text) : Except Failure (List Text) := do
  let s ← (parseEquation theEquation operators).foldlM postfixToken {}
  pure (s.myPostfixList ++ s.myOperatorStack)

/-- `myTokenList_p` of the two evaluations. -/
def tokenList (theEquation : Text) : Except Failure (List Text) :=
  if isValidVoltage theEquation then pure [theEquation] else postfixList theEquation

/-- The operators of an evaluation, on the number under the last one of the stack and the last one. -/
def applyOperator (token : Text) (x y : ℚ) : Except Failure ℚ :=
  if token = ['+'] then pure (x + y)
  else if token = ['-'] then pure (x - y)
  else if token = ['*'] then pure (x * y)
  else if token = ['/'] then if y = 0 then .error .undefined else pure (x / y)
  else if token = ['<'] then pure (min x y)
  else if token = ['>'] then pure (max x y)
  else .error (.ePowerError ("invalid operator: ".toList ++ token))

/-- `myOperators` of the two evaluations. -/
def isOperator : Text → Bool := isAmong ['+', '-', '/', '*', '<', '>']

/-! ## Voltages -/

/-- `netStatus_t`. -/
inductive NetStatus where
  | analog
  | minPower
  | simPower
  | maxPower
  | needsMinCheck
  | needsMaxCheck
  | needsMinConnection
  | needsMaxConnection
  deriving DecidableEq, Repr

/-- The threshold of a list of models, as far as it is known, and its definition. -/
structure ModelThreshold where
  vth : Int := unknownVoltage
  vthDefinition : Text
  deriving DecidableEq, Repr

/-- What an evaluation of a voltage changes: `implicitFamily` and the thresholds of the lists of models. -/
structure VoltageState where
  implicitFamily : Text := []
  theModelListMap : Text → Option ModelThreshold := fun _ => none

/-- `UNKNOWN_TOKEN`. -/
def unknownToken : ℚ := maxVoltage * 2

/-- A voltage in volts. -/
def volts (v : Int) : ℚ := v / 1000

/-- The voltage of a power of one of the three types of voltages. -/
def CPower.voltage (power : CPower) : NetStatus → Option Int
  | .minPower => some power.minVoltage
  | .simPower => some power.simVoltage
  | .maxPower => some power.maxVoltage
  | _ => none

/-- What the definition of a power pushes on the stack. -/
def CPower.push (power : CPower) (theType : NetStatus) (stack : List ℚ) : List ℚ :=
  match power.voltage theType with
  | some v => (if v = unknownVoltage then unknownToken else volts v) :: stack
  | none => stack

/-- An operator of `CPowerPtrMap::CalculateVoltage`. -/
def voltageOperator (theEquation token : Text) : List ℚ → Except Failure (List ℚ)
  | myVoltage :: back :: stack =>
    if myVoltage = unknownToken then
      if token = ['<'] ∨ token = ['>'] then pure (back :: stack) else pure (unknownToken :: stack)
    else if back = unknownToken then
      if token = ['<'] ∨ token = ['>'] then pure (myVoltage :: stack) else pure (back :: stack)
    else do
      let result ← applyOperator token back myVoltage
      pure (result :: stack)
  | _ => .error (.ePowerError ("invalid equation: ".toList ++ theEquation))

/-- What `CPowerPtrMap::CalculateVoltage` reads besides the expression: the defined powers, the type of the voltage, whether
undefined names are permitted, and the evaluation of the definition of a threshold. -/
structure VoltageEnv where
  powers : Text → Option CPower
  theType : NetStatus
  thePermitUndefinedFlag : Bool := false
  calculateVth : Text → VoltageState → Except Failure (Int × VoltageState)

/-- The name of the models in `Vth[name]`. -/
def vthModelName (token : Text) : Option Text :=
  if token.take 4 = "Vth[".toList ∧ token.getLast? = some ']' then some ((token.drop 4).dropLast) else none

/-- The threshold of a list of models, calculated if it is not known. -/
def VoltageEnv.threshold (env : VoltageEnv) (theEquation name : Text) (s : VoltageState) :
    Except Failure (Int × VoltageState) :=
  let myModelName := "M ".toList ++ name
  match s.theModelListMap myModelName with
  | none =>
    .error (.eModelError ("power definition error: ".toList ++ theEquation ++ " unknown Vth for ".toList ++ name))
  | some models =>
    if models.vth = unknownVoltage then do
      let (vth, s) ← env.calculateVth models.vthDefinition s
      pure (vth, { s with
        theModelListMap := Function.update s.theModelListMap myModelName
          ((s.theModelListMap myModelName).map ({ · with vth := vth })) })
    else pure (models.vth, s)

/-- A name of `CPowerPtrMap::CalculateVoltage`. -/
def VoltageEnv.voltageName (env : VoltageEnv) (theEquation token : Text) (stack : List ℚ) (s : VoltageState) :
    Except Failure (List ℚ × VoltageState) :=
  match env.powers token with
  | some power => pure (power.push env.theType stack, { s with implicitFamily := s.implicitFamily ++ ',' :: token })
  | none =>
    match vthModelName token with
    | some name => do
      let (vth, s) ← env.threshold theEquation name s
      pure (volts vth :: stack, s)
    | none =>
      if env.thePermitUndefinedFlag then pure (unknownToken :: stack, s)
      else .error (.ePowerError ("undefined macro: ".toList ++ token))

/-- One round of the loop of `CPowerPtrMap::CalculateVoltage`. -/
def VoltageEnv.voltageToken (env : VoltageEnv) (theEquation : Text) (state : List ℚ × VoltageState) (token : Text) :
    Except Failure (List ℚ × VoltageState) :=
  let (stack, s) := state
  if isOperator token then do
    let stack ← voltageOperator theEquation token stack
    pure (stack, s)
  else if token.head?.any Char.isAlpha then env.voltageName theEquation token stack s
  else if isValidVoltage token then do
    let v ← fromString token
    pure (v :: stack, s)
  else .error (.ePowerError ("invalid power calculation token: ".toList ++ token))

/-- The number that `CPowerPtrMap::CalculateVoltage` leaves on its stack. -/
def VoltageEnv.evaluate (env : VoltageEnv) (theEquation : Text) (s : VoltageState) : Except Failure (ℚ × VoltageState) := do
  let tokens ← tokenList theEquation
  match ← tokens.foldlM (env.voltageToken theEquation) ([], s) with
  | ([v], s) => pure (v, s)
  | _ => .error (.ePowerError ("invalid equation: ".toList ++ theEquation))

/-- The voltage that `CPowerPtrMap::CalculateVoltage` returns for a number. -/
def toVoltage (v : ℚ) : Except Failure Int :=
  if v > maxVoltage then pure unknownVoltage
  else
    let scaled := roundAway (v * 1000 + 1 / 10)
    if -2 ^ 15 ≤ scaled ∧ scaled < 2 ^ 15 then pure scaled else .error .undefined

/-- `CPowerPtrMap::CalculateVoltage`, with definitions of thresholds nested up to a depth. -/
def calculateVoltage (powers : Text → Option CPower) :
    Nat → Text → NetStatus → (thePermitUndefinedFlag theResetImplicitFlag : Bool) → VoltageState →
      Except Failure (Int × VoltageState)
  | 0, _, _, _, _, _ => .error .undefined
  | depth + 1, theEquation, theType, thePermitUndefinedFlag, theResetImplicitFlag, s => do
    let s := if theResetImplicitFlag then { s with implicitFamily := [] } else s
    let env : VoltageEnv := {
      powers, theType, thePermitUndefinedFlag
      calculateVth := fun definition s => calculateVoltage powers depth definition .simPower false false s }
    let (v, s) ← env.evaluate theEquation s
    let voltage ← toVoltage v
    pure (voltage, s)

/-! ## Resistances -/

/-- The unit of a `CNormalValue`. -/
def normalUnit : Option Char → Option ℚ
  | some 'G' => some (10 ^ 9)
  | some 'M' => some (10 ^ 6)
  | some 'K' | some 'k' => some (10 ^ 3)
  | some 'm' => some (10 ^ (-3 : Int))
  | some 'u' => some (10 ^ (-6 : Int))
  | some 'n' => some (10 ^ (-9 : Int))
  | some 'p' => some (10 ^ (-12 : Int))
  | some 'f' => some (10 ^ (-15 : Int))
  | none => some 1
  | _ => none

/-- The loop of `CNormalValue::CNormalValue` for `scale`, which starts at zero: three less each round, down to -21. -/
def normalScale (x : ℚ) : Nat → Nat
  | 0 => 21
  | n + 1 =>
    let scale := 21 - 3 * (n + 1)
    if |x * 10 ^ scale| < 10 ^ 6 then normalScale x n else scale

/-- `CNormalValue`: the number `value / 10 ^ (-scale)`. -/
structure CNormalValue where
  value : Int
  scale : Int
  deriving DecidableEq, Repr

/-- `CNormalValue::CNormalValue`. -/
def CNormalValue.new (theStringValue : Text) : Except Failure CNormalValue := do
  let myStringValue := trim theStringValue
  let number := myStringValue.takeWhile (· ∈ "-+0123456789.eE".toList)
  let x ← fromString number
  match normalUnit (myStringValue.drop number.length).head? with
  | none => .error (.eFatalError ("unknown suffix on parameter: " ++ String.ofList myStringValue))
  | some unit =>
    let scale := normalScale (x * unit) 7
    pure ⟨roundAway (x * unit * 10 ^ scale + 1 / 10), -scale⟩

/-- `CNormalValue::RealValue`. -/
def CNormalValue.realValue (v : CNormalValue) : ℚ := v.value / 10 ^ (-v.scale)

/-- A name of `CParameterMap::CalculateResistance`. -/
def resistanceName (parameters : Text → Option Text) (theEquation token : Text) : Except Failure ℚ :=
  match parameters (token.map Char.toUpper) with
  | some text => do
    let myParameterValue ← CNormalValue.new text
    pure myParameterValue.realValue
  | none => .error (.eResistanceError ("missing parameter: ".toList ++ token ++ " in ".toList ++ theEquation))

/-- One round of the loop of `CParameterMap::CalculateResistance`. -/
def resistanceToken (parameters : Text → Option Text) (theEquation : Text) (stack : List ℚ) (token : Text) :
    Except Failure (List ℚ) :=
  if isOperator token then
    match stack with
    | myResistance :: back :: stack => do
      let result ← applyOperator token back myResistance
      pure (result :: stack)
    | _ => .error (.ePowerError ("invalid equation: ".toList ++ theEquation))
  else if token.head?.any Char.isAlpha then do
    let v ← resistanceName parameters theEquation token
    pure (v :: stack)
  else if isValidVoltage token then do
    let v ← fromString token
    pure (v :: stack)
  else .error (.eResistanceError ("invalid resistance calculation token: ".toList ++ token ++ " in ".toList ++ theEquation))

/-- The number that `CParameterMap::CalculateResistance` takes from its stack: the first one, for no exception is thrown when
there are more. -/
def evaluateResistance (parameters : Text → Option Text) (theEquation : Text) : Except Failure ℚ := do
  let tokens ← tokenList theEquation
  let stack ← tokens.foldlM (resistanceToken parameters theEquation) []
  match stack.getLast? with
  | some v => pure v
  | none => .error .undefined

/-- `CParameterMap::CalculateResistance`. -/
def calculateResistance (parameters : Text → Option Text) (theEquation : Text) : Except Failure Int := do
  let v ← evaluateResistance parameters theEquation
  if (maxResistance : ℚ) ≤ v then pure maxResistance
  else if roundAway v < -2 ^ 31 then .error .undefined
  else pure (max 1 (roundAway v))

end Cvc
