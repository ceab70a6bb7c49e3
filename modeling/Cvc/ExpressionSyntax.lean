import Cvc.Lib.Infix
import Cvc.Expression

/-!
# Well-formed expressions

What an expression of a definition is, apart from how it is evaluated: numbers and names with the operators `+` and `-`, and `*`,
`/`, `<` and `>` that bind tighter, and what it is worth in rational numbers.
-/

namespace Cvc

open Infix (Expr Spelling Meaning)

/-- A number: digits, with a fraction and a suffix or without. -/
structure NumberLiteral where
  integer : Text
  fraction : Option Text := none
  suffix : Option Char := none
  integer_digits : Scan.Digits integer
  fraction_digits : ∀ f ∈ fraction, Scan.Digits f
  suffix_mem : ∀ c ∈ suffix, c ∈ suffixes

/-- The text of a number. -/
def NumberLiteral.text (n : NumberLiteral) : Text := n.integer ++ (Scan.fractionText n.fraction ++ n.suffix.toList)

/-- The value of a number. -/
def NumberLiteral.value (n : NumberLiteral) : ℚ :=
  Scan.decimal n.integer (n.fraction.getD []) * (siSuffix n.suffix.toList).getD 1

/-- A name: a text that starts with a letter and has no operators in it. -/
structure MacroName where
  text : Text
  isAlpha : text.head?.any Char.isAlpha = true
  not_mem_operators : ∀ c ∈ text, c ∉ operators

/-- An operand. -/
inductive Operand where
  | number (n : NumberLiteral)
  | name (m : MacroName)

/-- The text of an operand. -/
def Operand.text : Operand → Text
  | .number n => n.text
  | .name m => m.text

/-- The operators between the terms of a sum. -/
inductive LowOperator where
  | plus
  | minus
  deriving DecidableEq, Repr

/-- The text of an operator. -/
def LowOperator.text : LowOperator → Text
  | .plus => ['+']
  | .minus => ['-']

/-- The operators between the factors of a product; `<` is the minimum and `>` the maximum. -/
inductive HighOperator where
  | times
  | divide
  | lesser
  | greater
  deriving DecidableEq, Repr

/-- The text of an operator. -/
def HighOperator.text : HighOperator → Text
  | .times => ['*']
  | .divide => ['/']
  | .lesser => ['<']
  | .greater => ['>']

/-- The expressions of a level. -/
abbrev Expression := Expr Operand LowOperator HighOperator

/-- The tokens of expressions. A leading minus sign is a difference from zero in postfix order. -/
def spelling : Spelling Operand LowOperator HighOperator Text where
  operand := Operand.text
  low := LowOperator.text
  high := HighOperator.text
  minus := ['-']
  zero := ['0']
  lparen := ['(']
  rparen := [')']

/-- The text of an expression. -/
def textOf {l : Infix.Level} (e : Expression l) : Text := (e.tokens spelling).flatten

/-- The values of expressions, with the values of names. -/
def rationals (names : Text → Option ℚ) : Meaning Operand LowOperator HighOperator ℚ where
  operand
    | .number n => some n.value
    | .name m => names m.text
  low
    | .plus, x, y => some (x + y)
    | .minus, x, y => some (x - y)
  high
    | .times, x, y => some (x * y)
    | .divide, x, y => if y = 0 then none else some (x / y)
    | .lesser, x, y => some (min x y)
    | .greater, x, y => some (max x y)
  neg x := some (-x)

/-- The values of expressions in which no operator is applied to a given number. -/
def avoiding (t : ℚ) (M : Meaning Operand LowOperator HighOperator ℚ) : Meaning Operand LowOperator HighOperator ℚ where
  operand := M.operand
  low o x y := if x = t ∨ y = t then none else M.low o x y
  high o x y := if x = t ∨ y = t then none else M.high o x y
  neg x := if x = t then none else M.neg x

/-- The voltage of a defined power in volts, if it is known. -/
def voltageOf (powers : Text → Option CPower) (theType : NetStatus) (name : Text) : Option ℚ := do
  let power ← powers name
  let v ← power.voltage theType
  if v = unknownVoltage then none else some (volts v)

/-- The value of a parameter, whose name is not case sensitive. -/
def parameterOf (parameters : Text → Option Text) (name : Text) : Option ℚ := do
  let text ← parameters (name.map Char.toUpper)
  (CNormalValue.new text).toOption.map CNormalValue.realValue

end Cvc
