import Cvc.Lemmas.Expression

/-!
# The value of an expression

The evaluations of voltages and of resistances leave the value of a well-formed expression on the stack exactly when the
expression has no redundant parentheses. What they do not read as it is meant is left out by hypotheses: numbers with the suffix
`E`, which the stream takes for the start of an exponent, and for voltages operators applied to the number that stands for an
unknown token.
-/

namespace Cvc

open Option

open Infix (Expr)

variable {l : Infix.Level} {M : Infix.Meaning Operand LowOperator HighOperator ℚ}

/-- The value of an expression in which no operator is applied to a given number. -/
theorem value_of_avoiding {t : ℚ} {e : Expression l} (h : e.value (avoiding t M) ≠ none) :
    e.value (avoiding t M) = e.value M := by
  obtain ⟨v, hv⟩ := ne_none_iff_exists'.1 h
  rw [hv]
  clear h
  induction e generalizing v with
  | operand o => exact hv.symm
  | paren e ih | ofAtom e ih | ofProduct e ih => exact ih v hv
  | high e o f ihe ihf | low e o f ihe ihf =>
    obtain ⟨x, hx, hv⟩ := bind_eq_some_iff.1 hv
    obtain ⟨y, hy, hv⟩ := bind_eq_some_iff.1 hv
    obtain ⟨-, hv⟩ := eq_some_of_avoiding hv
    exact (bind_eq_some_iff.2 ⟨x, (ihe x hx).symm, bind_eq_some_iff.2 ⟨y, (ihf y hy).symm, hv⟩⟩).symm
  | neg e ih =>
    obtain ⟨x, hx, hv⟩ := bind_eq_some_iff.1 hv
    obtain ⟨-, hv⟩ := eq_some_of_avoiding hv
    exact (bind_eq_some_iff.2 ⟨x, (ih x hx).symm, hv⟩).symm

/-- The tokens of an expression without redundant parentheses run to its value, on a machine that reads numbers. -/
theorem run_tokenList {σ : Type} {step : σ → Text → Except Failure σ}
    {stack : σ → List ℚ} (hruns : Expr.Runs spelling M Operand.Readable step stack 0)
    (hnumber : ∀ {s token x}, ReadsAs token x → ∃ s', step s token = .ok s' ∧ stack s' = x :: stack s)
    (hneg : ∀ {n x}, (M.operand (.number n)).bind M.neg = some x → -n.value = x)
    {e : Expression .sum} (hr : e.redundant = false) (hE : ∀ o ∈ e.operands, o.Readable) {v : ℚ} (hv : e.value M = some v)
    (s : σ) : ∃ tokens s', tokenList (textOf e) = .ok tokens ∧ tokens.foldlM step s = .ok s' ∧ stack s' = v :: stack s := by
  rcases tokenList_textOf hr with htokens | ⟨n, hsingle, htokens⟩
  · obtain ⟨s', hrun, hstack⟩ := hruns.run hE hv s
    exact ⟨_, s', htokens, hrun, hstack⟩
  have hn : n.suffix ≠ some 'E' := hE (.number n) (by rw [hsingle.operands]; exact List.mem_cons_self)
  rw [hsingle.value, if_pos rfl] at hv
  obtain rfl := hneg hv
  obtain ⟨s', hs', hstack⟩ := hnumber (s := s) (n.readsAs hn).2
  exact ⟨_, s', htokens, Expr.foldlM_singleton_ok hs', hstack⟩

/-- Without numbers with the suffix `E`, both evaluations leave the value of an expression on the stack exactly when the
expression has no redundant parentheses; the one of voltages if no operator is applied to the number that stands for an unknown
token. -/
theorem evaluate_textOf_iff (e : Expression .sum) (hE : ∀ o ∈ e.operands, o.Readable) (v : ℚ) :
    (∀ (env : VoltageEnv) (s : VoltageState), e.value (rationals (voltageOf env.powers env.theType)) = some v →
      e.value (avoiding unknownToken (rationals (voltageOf env.powers env.theType))) ≠ none →
      ((∃ s', env.evaluate (textOf e) s = .ok (v, s')) ↔ e.redundant = false)) ∧
    ∀ parameters : Text → Option Text, e.value (rationals (parameterOf parameters)) = some v →
      (evaluateResistance parameters (textOf e) = .ok v ↔ e.redundant = false) := by
  refine ⟨fun env s hv havoid => ⟨?_, ?_⟩, fun parameters hv => ⟨?_, ?_⟩⟩
  · rintro ⟨s', h⟩
    obtain ⟨tokens, htokens, h⟩ := bind_eq_ok.1 h
    obtain ⟨state, hrun, -⟩ := bind_eq_ok.1 h
    by_contra hr
    exact not_ok_of_redundant (Bool.not_eq_false _ ▸ hr) (fun _ => ⟨_, rfl⟩) htokens hrun
  · intro hr
    rw [← value_of_avoiding havoid] at hv
    obtain ⟨tokens, ⟨stack, s'⟩, htokens, hrun, rfl⟩ := run_tokenList voltage_runs (fun h => ⟨_, voltageToken_number h, rfl⟩)
      (fun h => some.inj (eq_some_of_avoiding h).2) hr hE hv ([], s)
    exact ⟨s', bind_eq_ok.2 ⟨tokens, htokens, bind_eq_ok.2 ⟨_, hrun, rfl⟩⟩⟩
  · intro h
    obtain ⟨tokens, htokens, h⟩ := bind_eq_ok.1 h
    obtain ⟨state, hrun, -⟩ := bind_eq_ok.1 h
    by_contra hr
    exact not_ok_of_redundant (Bool.not_eq_false _ ▸ hr) (fun _ => ⟨_, rfl⟩) htokens hrun
  · intro hr
    obtain ⟨tokens, stack, htokens, hrun, rfl⟩ := run_tokenList resistance_runs (fun h => ⟨_, resistanceToken_number h, rfl⟩)
      (fun h => some.inj h) hr hE hv []
    exact bind_eq_ok.2 ⟨tokens, htokens, bind_eq_ok.2 ⟨_, hrun, rfl⟩⟩

/-- A number of digits. -/
def digitsLiteral (integer : Text) (hi : Scan.Digits integer) : NumberLiteral :=
  ⟨integer, none, none, hi, zeroLiteral.fraction_digits, zeroLiteral.suffix_mem⟩

/-- The expression `2*vdd-(vdd+1)`. -/
def sampleExpression : Expression .sum :=
  let vdd : Expression .atom := .operand (.name ⟨"vdd".toList, by decide, Scan.forall_mem (by decide)⟩)
  .low (.ofProduct (.high
      (.ofAtom (.operand (.number (digitsLiteral ['2'] ⟨by decide, Scan.forall_mem (by decide)⟩)))) .times vdd)) .minus
    (.ofAtom (.paren (.low (.ofProduct (.ofAtom vdd)) .plus
      (.ofAtom (.operand (.number (digitsLiteral ['1'] ⟨by decide, Scan.forall_mem (by decide)⟩)))))))

theorem sampleExpression_evaluates :
    textOf sampleExpression = "2*vdd-(vdd+1)".toList ∧
    (∃ s', VoltageEnv.evaluate
        { powers := fun name => if name = "vdd".toList then some { simVoltage := 3300 } else none
          theType := .simPower
          calculateVth := fun _ _ => .error .undefined } (textOf sampleExpression) {} = .ok (23 / 10, s')) ∧
    evaluateResistance (fun name => if name = "VDD".toList then some "3.3".toList else none) (textOf sampleExpression) =
      .ok (23 / 10) := by
  have hE : ∀ o ∈ sampleExpression.operands, o.Readable := by decide
  obtain ⟨hvoltage, hresistance⟩ := evaluate_textOf_iff sampleExpression hE (23 / 10)
  exact ⟨by decide +kernel, (hvoltage _ {} (by decide +kernel) (by decide +kernel)).2 rfl,
    (hresistance _ (by decide +kernel)).2 rfl⟩

/-- The expression `(1)`. -/
def parenthesisedOne : Expression .sum :=
  .ofProduct (.ofAtom (.paren
    (.ofProduct (.ofAtom (.operand (.number (digitsLiteral ['1'] ⟨by decide, Scan.forall_mem (by decide)⟩)))))))

/-- The expression `65532+1`. -/
def unknownTokenPlusOne : Expression .sum :=
  .low (.ofProduct (.ofAtom (.operand (.number (digitsLiteral "65532".toList ⟨by decide, Scan.forall_mem (by decide)⟩))))) .plus
    (.ofAtom (.operand (.number (digitsLiteral ['1'] ⟨by decide, Scan.forall_mem (by decide)⟩))))

/-- The expression `1E`. -/
def exaOne : Expression .sum :=
  .ofProduct (.ofAtom (.operand
    (.number ⟨['1'], none, some 'E', ⟨by decide, Scan.forall_mem (by decide)⟩, zeroLiteral.fraction_digits,
    fun _ h => some.inj h ▸ by decide⟩)))

/-- What an evaluation of voltages leaves on the stack, without names. -/
def voltageWithoutNames (theEquation : Text) : Except Failure ℚ :=
  (VoltageEnv.evaluate ⟨fun _ => none, .simPower, false, fun _ _ => .error .undefined⟩ theEquation {}).map Prod.fst

/-- Parentheses around a number are rejected by both evaluations, 65532 takes part in no voltage, and `1E` is zero. -/
theorem evaluate_ne_value :
    (textOf parenthesisedOne = "(1)".toList ∧ parenthesisedOne.value (rationals fun _ => none) = some 1 ∧
      voltageWithoutNames "(1)".toList = .error (.ePowerError "invalid power calculation token: )".toList) ∧
      evaluateResistance (fun _ => none) "(1)".toList =
        .error (.eResistanceError "invalid resistance calculation token: ) in (1)".toList)) ∧
    (textOf unknownTokenPlusOne = "65532+1".toList ∧ unknownTokenPlusOne.value (rationals fun _ => none) = some 65533 ∧
      voltageWithoutNames "65532+1".toList = .ok 65532) ∧
    textOf exaOne = "1E".toList ∧ exaOne.value (rationals fun _ => none) = some (10 ^ 18) ∧
      voltageWithoutNames "1E".toList = .ok 0 ∧ evaluateResistance (fun _ => none) "1E".toList = .ok 0 := by
  decide +kernel

end Cvc
