import Cvc.Expression

/-!
# Conditions on parameters

The comparisons of `CNormalValue.cc` and `CCondition.cc`: a model may be chosen by conditions such as `w>=1.2u`.
-/

namespace Cvc
namespace CNormalValue

/-- `CNormalValue::operator==`. -/
def operatorEq (v w : CNormalValue) : Bool := v.value == w.value && v.scale == w.scale

/-- `CNormalValue::operator<`. -/
def operatorLt (v w : CNormalValue) : Bool :=
  if v.operatorEq w then false
  else if v.value < 0 ∧ w.value ≥ 0 then true
  else if v.value ≥ 0 ∧ w.value < 0 then false
  else if v.value ≥ 0 then
    if v.scale < w.scale then true else if v.scale > w.scale then false else decide (v.value < w.value)
  else if v.scale > w.scale then true else if v.scale < w.scale then false else decide (v.value < w.value)

/-- `CNormalValue::operator>`. -/
def operatorGt (v w : CNormalValue) : Bool := if v.operatorEq w then false else !v.operatorLt w

/-- `CNormalValue::Compare`, with the value of the text. -/
def compareValue (v w : CNormalValue) : Int :=
  if v.value > 0 then
    if w.value ≤ 0 then 1
    else if v.scale > w.scale then 1
    else if v.scale < w.scale then -1
    else if v.value > w.value then 1
    else if v.value < w.value then -1
    else 0
  else if v.value < 0 then
    if w.value ≥ 0 then -1
    else if v.scale > w.scale then -1
    else if v.scale < w.scale then 1
    else if v.value > w.value then 1
    else if v.value < w.value then -1
    else 0
  else if w.value < 0 then -1
  else if w.value > 0 then 1
  else 0

/-- `CNormalValue::Compare`. -/
def compare (v : CNormalValue) (theStringValue : Text) : Except Failure Int := do
  let myCompareValue ← new theStringValue
  pure (v.compareValue myCompareValue)

end CNormalValue

/-- `relation_t`. -/
inductive RelationType where
  | equals | lessThan | greaterThan | notLessThan | notGreaterThan
  deriving DecidableEq, Repr

/-- `gRelationStringMap`, with the first relation for a text that it does not have. -/
def gRelationStringMap : Text → RelationType
  | ['<'] => .lessThan
  | ['>'] => .greaterThan
  | ['=', '>'] | ['>', '='] => .notLessThan
  | ['=', '<'] | ['<', '='] => .notGreaterThan
  | _ => .equals

structure CCondition where
  parameter : Text
  relation : RelationType
  stringValue : Text
  numericValue : CNormalValue

namespace CCondition

/-- `CCondition::CCondition`. -/
def new (theParameter theRelation theValue : Text) : Except Failure CCondition := do
  let myNumericValue ← CNormalValue.new theValue
  pure ⟨theParameter, gRelationStringMap theRelation, theValue, myNumericValue⟩

/-- `CCondition::CheckCondition`. -/
def checkCondition (condition : CCondition) (theCheckValue : CNormalValue) : Bool :=
  match condition.relation with
  | .equals => theCheckValue.operatorEq condition.numericValue
  | .lessThan => theCheckValue.operatorLt condition.numericValue
  | .greaterThan => theCheckValue.operatorGt condition.numericValue
  | .notLessThan => !theCheckValue.operatorLt condition.numericValue
  | .notGreaterThan => !theCheckValue.operatorGt condition.numericValue

end CCondition
end Cvc
