import Cvc.Lemmas.Postfix

/-!
# Numbers and evaluation

The text of an expression is a valid voltage only when it is a number, with a minus sign or without. The loops of the two
evaluations are stack machines on the postfix forms of expressions, and neither takes a parenthesis.
-/

namespace Cvc

open Option List
open Scan (sscanf Digits NoDigit NoDecimal fractionText)
open Infix (Level)

variable {integer t r eqn : Text} {fraction : Option Text} {c : Char} {x y : ℚ} {stack : List ℚ} {l : Level}

/-! ## Valid voltages -/

/-- Whether a decimal number with a text after it is a valid voltage depends on the text. -/
theorem isValidVoltage_decimal (hi : Digits integer) (hf : ∀ f ∈ fraction, Digits f)
    (ht : NoDigit t) (hpoint : ∀ c ∈ t.head?, c ≠ '.') : (isValidVoltage (integer ++ (fractionText fraction ++ t)) = true ↔
      sscanf [.word] t = 0 ∨ sscanf [.one suffixes, .word] t = 1) ∧
    (isValidVoltage ('-' :: (integer ++ (fractionText fraction ++ t))) = true ↔
      sscanf [.word] t = 0 ∨ sscanf [.one suffixes, .word] t = 1) := by
  have hset : ∀ c ∈ ['-', '+'], c.isDigit = false := Scan.forall_mem (by decide)
  have hminus : '-' ∈ ['-', '+'] := by decide
  have hno : NoDigit (fractionText fraction ++ t) := Scan.noDigit_fractionText ht
  simp only [isValidVoltage, hi.sscanf_run hset, hi.sscanf_run_minus hset hminus, hi.sscanf_int hno, hi.sscanf_int_minus hno,
    Bool.or_eq_true, beq_iff_eq]
  cases fraction with
  | none =>
    have hchar : ∀ format, sscanf (.char '.' :: format) t = 0 := by
      intro format
      cases t with
      | nil => rfl
      | cons c t => rw [Scan.sscanf_char, if_neg (hpoint c rfl)]
    simp only [fractionText, nil_append, hchar]
    omega
  | some f =>
    have hf := hf f rfl
    simp only [fractionText, cons_append, Scan.sscanf_char, if_true, hf.sscanf_int ht,
      Scan.sscanf_word (show Scan.isSpace '.' = false by decide), Scan.sscanf_one, if_neg (show '.' ∉ suffixes by decide)]
    omega

/-- Nothing but a suffix may follow a decimal number. -/
theorem sscanf_suffix {x : Option Char} (hx : ∀ c ∈ x, c ∈ suffixes) (hr : AtOperator r) :
    sscanf [.word] (x.toList ++ r) = 0 ∨ sscanf [.one suffixes, .word] (x.toList ++ r) = 1 ↔ r = [] := by
  have hop : ∀ c ∈ operators, c ∉ suffixes ∧ Scan.isSpace c = false := Scan.forall_mem (by decide)
  cases x with
  | none =>
    cases r with
    | nil => exact iff_of_true (Or.inl rfl) rfl
    | cons c r =>
      obtain ⟨hc, hspace⟩ := hop c (hr c rfl)
      simp [Scan.sscanf_word hspace, Scan.sscanf_one, hc]
  | some x =>
    have hmem := hx x rfl
    have hspace : ∀ c ∈ suffixes, Scan.isSpace c = false := Scan.forall_mem (by decide)
    cases r with
    | nil => simp [Scan.sscanf_one, hmem, Scan.sscanf_word_nil]
    | cons c r =>
      obtain ⟨-, hc⟩ := hop c (hr c rfl)
      simp [Scan.sscanf_one, hmem, Scan.sscanf_word (hspace x hmem), Scan.sscanf_word hc]

variable (n : NumberLiteral)

theorem NumberLiteral.text_append (r : Text) :
    n.text ++ r = n.integer ++ (fractionText n.fraction ++ (n.suffix.toList ++ r)) := by
  simp [NumberLiteral.text]

/-- A number at the head of a text is a valid voltage exactly when the text ends with it, with a minus sign or without. -/
theorem NumberLiteral.isValidVoltage_append (hr : AtOperator r) :
    (isValidVoltage (n.text ++ r) = true ↔ r = []) ∧ (isValidVoltage ('-' :: (n.text ++ r)) = true ↔ r = []) := by
  have hs : ∀ c ∈ suffixes, c.isDigit = false ∧ c ≠ '.' := Scan.forall_mem (by decide)
  have ho : ∀ c ∈ operators, c.isDigit = false ∧ c ≠ '.' := Scan.forall_mem (by decide)
  have hall : ∀ c ∈ (n.suffix.toList ++ r).head?, c.isDigit = false ∧ c ≠ '.' := by
    intro c hc
    cases hx : n.suffix with
    | none => exact ho c (hr c (by rwa [hx] at hc))
    | some d =>
      rw [hx] at hc
      exact some.inj hc ▸ hs d (n.suffix_mem d hx)
  have hvalid := @isValidVoltage_decimal _ (n.suffix.toList ++ r) _ n.integer_digits n.fraction_digits
    (fun c hc => (hall c hc).1) fun c hc => (hall c hc).2
  rw [← n.text_append, sscanf_suffix n.suffix_mem hr] at hvalid
  exact hvalid

theorem not_digit_of_isAlpha (hc : c.isAlpha = true) : c.isDigit = false := by
  delta Char.isAlpha Char.isUpper Char.isLower at hc
  simp only [Bool.or_eq_true, UInt32.le_iff_toNat_le] at hc
  simp only [Char.isDigit, Bool.and_eq_false_iff, UInt32.le_iff_toNat_le]
  simp at hc ⊢
  omega

/-- A text that starts with a name or an open parenthesis is no valid voltage, with a minus sign or without. -/
theorem isValidVoltage_of_head (hc : c = '(' ∨ c.isAlpha = true) (s : Text) :
    isValidVoltage (c :: s) = false ∧ isValidVoltage ('-' :: c :: s) = false := by
  have hdigit : c.isDigit = false := by
    rcases hc with rfl | hc
    · rfl
    · exact not_digit_of_isAlpha hc
  have hother : ∀ d ∈ ['-', '+', ' ', '\t', '\n', '\x0b', '\x0c', '\r'], c ≠ d := by
    rcases hc with rfl | hc
    · exact Scan.forall_mem (by decide)
    · have hall : ∀ d ∈ ['-', '+', ' ', '\t', '\n', '\x0b', '\x0c', '\r'], d.isAlpha = false := Scan.forall_mem (by decide)
      rintro d hd rfl
      rw [hall c hd] at hc
      nomatch hc
  have hsign : c ≠ '-' ∧ c ≠ '+' := ⟨hother _ (by decide), hother _ (by decide)⟩
  have hspace : Scan.isSpace c = false :=
    decide_eq_false fun h => hother c (mem_cons_of_mem _ (mem_cons_of_mem _ h)) rfl
  have hset : c ∉ ['-', '+'] := by simpa using hsign
  have hmem : '-' ∈ ['-', '+'] := by decide
  simp only [isValidVoltage, Scan.sscanf_int_of_not_digit hdigit hspace hsign, Scan.sscanf_run_of_not_mem hset,
    Scan.sscanf_run_of_mem hmem hset]
  decide

/-- A text starts with an operand or an open parenthesis; an operand that nothing follows is the expression, after a minus sign or
not. -/
def Leads {l : Level} (e : Expression l) (m : Bool) (t : Text) : Prop :=
  (∃ o r, t = Operand.text o ++ r ∧ AtOperator r ∧ (r = [] → Infix.Expr.Single o m e)) ∨ ∃ r, t = '(' :: r

theorem Leads.mono {l' : Level} {e : Expression l} {e' : Expression l'} {m m' : Bool} (h : Leads e m t)
    (hsingle : ∀ o, Infix.Expr.Single o m e → Infix.Expr.Single o m' e') : Leads e' m' t := by
  rcases h with ⟨o, r, ht, hat, hs⟩ | h
  · exact .inl ⟨o, r, ht, hat, fun he => hsingle o (hs he)⟩
  · exact .inr h

theorem Leads.append {l' : Level} {e : Expression l} {m : Bool} (h : Leads e m t) (hc : c ∈ operators)
    (s : Text) (e' : Expression l') : Leads e' m (t ++ ([c] ++ s)) := by
  rcases h with ⟨o, r, rfl, hat, -⟩ | ⟨r, rfl⟩
  · refine .inl ⟨o, r ++ ([c] ++ s), append_assoc .., ?_, fun he => ?_⟩
    · intro d hd
      cases r with
      | nil => exact some.inj hd ▸ hc
      | cons b r => exact hat d hd
    · exact absurd (append_eq_nil_iff.1 he).2 (cons_ne_nil _ _)
  · exact .inr ⟨_, rfl⟩

/-- How the text of an expression starts. -/
theorem textOf_leads (e : Expression l) :
    ∃ (m : Bool) (t : Text), textOf e = (if m then ['-'] else []) ++ t ∧ (m = true → l = .sum) ∧ Leads e m t := by
  induction e with
  | operand o =>
    refine ⟨false, o.text, textOf_operand o, nofun, .inl ⟨o, [], (append_nil _).symm, ?_, fun _ => .operand⟩⟩
    exact nofun
  | paren e => exact ⟨false, _, textOf_paren e, nofun, .inr ⟨_, rfl⟩⟩
  | ofAtom e ih | ofProduct e ih =>
    obtain ⟨_ | _, t, ht, hm, h⟩ := ih
    · exact ⟨false, t, ht, nofun, h.mono fun _ hs => by constructor; exact hs⟩
    · nomatch hm rfl
  | neg e ih =>
    obtain ⟨_ | _, t, ht, hm, h⟩ := ih
    · exact ⟨true, t, by rw [textOf_neg, ht]; rfl, fun _ => rfl, h.mono fun _ => .neg⟩
    · nomatch hm rfl
  | high e op f ih _ | low e op f ih _ =>
    obtain ⟨m, t, ht, hm, h⟩ := ih
    obtain ⟨c, hc, hop⟩ := op.text_mem
    refine ⟨m, t ++ ([c] ++ textOf f), ?_, hm, h.append hc _ _⟩
    simp only [textOf_high, textOf_low, hop, ht, append_assoc]

/-- The text of an expression is a valid voltage only if the expression is a number. -/
theorem single_of_isValidVoltage {e : Expression .sum} (h : isValidVoltage (textOf e) = true) :
    ∃ n m, Infix.Expr.Single (.number n) m e ∧ textOf e = (if m then ['-'] else []) ++ n.text := by
  obtain ⟨m, t, ht, -, hleads⟩ := textOf_leads e
  -- no text that starts with a letter or a parenthesis is valid
  have hhead : ∀ c s, t = c :: s → ¬(c = '(' ∨ c.isAlpha = true) := by
    rintro c s rfl hc
    have hfalse := isValidVoltage_of_head hc s
    rw [ht] at h
    cases m with
    | false => exact absurd (hfalse.1.symm.trans h) (by decide)
    | true => exact absurd (hfalse.2.symm.trans h) (by decide)
  rcases hleads with ⟨o, r, rfl, hat, hsingle⟩ | ⟨r, rfl⟩
  · cases o with
    | number n =>
      have hr : r = [] := by
        rw [ht] at h
        cases m with
        | false => exact (n.isValidVoltage_append hat).1.1 h
        | true => exact (n.isValidVoltage_append hat).2.1 h
      subst hr
      exact ⟨n, m, hsingle rfl, ht.trans (by rw [append_nil]; rfl)⟩
    | name a =>
      have halpha := a.isAlpha
      cases ha : a.text with
      | nil => rw [ha] at halpha; nomatch halpha
      | cons c s =>
        rw [ha] at halpha
        exact absurd (.inr halpha) (hhead c (s ++ r) (by show a.text ++ r = _; rw [ha]; rfl))
  · exact absurd (.inl rfl) (hhead _ _ rfl)

/-! ## Reading numbers -/

/-- The suffix of a number is not the one that a stream takes for an exponent. -/
def Operand.Readable : Operand → Prop
  | .number n => n.suffix ≠ some 'E'
  | .name _ => True

instance : DecidablePred Operand.Readable
  | .number n => inferInstanceAs (Decidable (n.suffix ≠ some 'E'))
  | .name _ => inferInstanceAs (Decidable True)

/-- A number is read as its value, with a minus sign or without. -/
theorem NumberLiteral.fromString_text (hn : n.suffix ≠ some 'E') :
    fromString n.text = .ok n.value ∧ fromString ('-' :: n.text) = .ok (-n.value) := by
  obtain ⟨integer, fraction, suffix, hi, hf, hx⟩ := n
  have hno : NoDecimal suffix.toList := by
    have hall : ∀ c ∈ suffixes, c ≠ 'E' → c.isDigit = false ∧ c ≠ '.' ∧ c ≠ 'e' ∧ c ≠ 'E' := Scan.forall_mem (by decide)
    intro c hc
    cases suffix with
    | none => nomatch hc
    | some d =>
      obtain rfl : d = c := some.inj hc
      exact hall d (hx d rfl) fun he => hn (congrArg some he)
  have hread := Scan.readNumber_decimal hi hf hno
  have hminus := Scan.readNumber_minus_decimal hi hf hno
  unfold fromString NumberLiteral.text NumberLiteral.value
  simp only [hread, hminus]
  cases suffix with
  | none => simp [siSuffix, pure, Except.pure]
  | some x =>
    have hspace : ∀ c ∈ suffixes, Scan.isSpace c = false ∧ (siSuffix [c]).isSome = true := Scan.forall_mem (by decide)
    obtain ⟨hspace, hsome⟩ := hspace x (hx x rfl)
    obtain ⟨factor, hfactor⟩ := isSome_iff_exists.1 hsome
    simp [hspace, hfactor, pure, Except.pure]

/-! ## The stack machines -/

theorem Plain.isOperator (ht : Plain t) : isOperator t = false := by
  have hall : ∀ c ∈ ['+', '-', '/', '*', '<', '>'], c ∈ operators := Scan.forall_mem (by decide)
  exact isAmong_eq_false fun c hc hop => ht.2 c hc (hall c hop)

theorem NumberLiteral.head?_isAlpha : n.text.head?.any Char.isAlpha = false := by
  cases hc : n.text.head? with
  | none => rfl
  | some c =>
    have hdigit : c.isDigit = true := n.integer_digits.head? hc
    rw [any_some, Bool.eq_false_iff]
    intro halpha
    rw [not_digit_of_isAlpha halpha] at hdigit
    nomatch hdigit

theorem NumberLiteral.isValidVoltage_text : isValidVoltage n.text = true ∧ isValidVoltage ('-' :: n.text) = true := by
  have hvalid := n.isValidVoltage_append (r := []) nofun
  rw [append_nil] at hvalid
  exact ⟨hvalid.1.2 rfl, hvalid.2.2 rfl⟩

theorem applyOperator_low {names : Text → Option ℚ} {o : LowOperator} {z : ℚ} (h : (rationals names).low o x y = some z) :
    applyOperator o.text x y = .ok z := by
  cases o <;> exact congrArg Except.ok (some.inj h)

theorem applyOperator_high {names : Text → Option ℚ} {o : HighOperator} {z : ℚ} (h : (rationals names).high o x y = some z) :
    applyOperator o.text x y = .ok z := by
  cases o with
  | times | lesser | greater => exact congrArg Except.ok (some.inj h)
  | divide =>
    by_cases hy : y = 0
    · simp [rationals, hy] at h
    · simp only [rationals, if_neg hy] at h
      have happly : applyOperator ['/'] x y = if y = 0 then .error .undefined else .ok (x / y) := rfl
      exact happly.trans ((if_neg hy).trans (congrArg Except.ok (some.inj h)))

/-- The number of the token in front of a leading minus sign. -/
def zeroLiteral : NumberLiteral where
  integer := ['0']
  fraction := none
  suffix := none
  integer_digits := ⟨by decide, Scan.forall_mem (by decide)⟩
  fraction_digits := nofun
  suffix_mem := nofun

theorem zeroLiteral_value : zeroLiteral.value = 0 := by
  simp [NumberLiteral.value, zeroLiteral, Scan.decimal, Scan.natOf]

/-- A number, with a minus sign or without, is no operator and no name, and is read as its value. -/
structure ReadsAs (token : Text) (v : ℚ) : Prop where
  isOperator : isOperator token = false
  isAlpha : token.head?.any Char.isAlpha = false
  isValidVoltage : isValidVoltage token = true
  fromString : fromString token = .ok v

theorem NumberLiteral.readsAs (hn : n.suffix ≠ some 'E') : ReadsAs n.text n.value ∧ ReadsAs ('-' :: n.text) (-n.value) := by
  have hread := n.fromString_text hn
  refine ⟨⟨n.plain.isOperator, n.head?_isAlpha, n.isValidVoltage_text.1, hread.1⟩, ?_, rfl, n.isValidVoltage_text.2, hread.2⟩
  cases ht : n.text with
  | nil => exact absurd ht n.plain.1
  | cons c s => rfl

theorem readsAs_zero : ReadsAs ['0'] 0 := by
  have hzero := (zeroLiteral.readsAs (by decide)).1
  rw [zeroLiteral_value] at hzero
  exact hzero

theorem LowOperator.isOperator (o : LowOperator) : isOperator o.text = true := by
  cases o <;> rfl

theorem HighOperator.isOperator (o : HighOperator) : Cvc.isOperator o.text = true := by
  cases o <;> rfl

section Resistance
variable {parameters : Text → Option Text} {eqn : Text}

theorem resistanceToken_number {token : Text} {v : ℚ} (h : ReadsAs token v) :
    resistanceToken parameters eqn stack token = .ok (v :: stack) := by
  unfold resistanceToken
  rw [h.isOperator, h.isAlpha, h.isValidVoltage, h.fromString]
  rfl

theorem resistanceToken_operator {token : Text} {z : ℚ} (htoken : isOperator token = true)
    (happly : applyOperator token x y = .ok z) : resistanceToken parameters eqn (y :: x :: stack) token = .ok (z :: stack) := by
  unfold resistanceToken
  rw [htoken]
  simp only [happly]
  rfl

theorem resistanceToken_name {m : MacroName} {v : ℚ} (hv : parameterOf parameters m.text = some v) :
    resistanceToken parameters eqn stack m.text = .ok (v :: stack) := by
  unfold resistanceToken resistanceName
  obtain ⟨text, htext, hv⟩ := bind_eq_some_iff.1 hv
  obtain ⟨x, hx, rfl⟩ := map_eq_some_iff.1 hv
  have hnew : CNormalValue.new text = .ok x := eq_ok_of_toOption hx
  have hop : isOperator m.text = false := (Operand.name m).plain.isOperator
  rw [hop, m.isAlpha, htext]
  simp only [hnew]
  rfl

/-- The loop of `CParameterMap::CalculateResistance` is a stack machine. -/
theorem resistance_runs :
    Infix.Expr.Runs spelling (rationals (parameterOf parameters)) Operand.Readable (resistanceToken parameters eqn) id 0 where
  operand := by
    intro stack o v ho hv
    cases o with
    | number n =>
      obtain rfl : n.value = v := some.inj hv
      exact ⟨_, resistanceToken_number (n.readsAs ho).1, rfl⟩
    | name m => exact ⟨_, resistanceToken_name hv, rfl⟩
  low := by
    rintro stack o x y z r hz rfl
    exact ⟨_, resistanceToken_operator o.isOperator (applyOperator_low hz), rfl⟩
  high := by
    rintro stack o x y z r hz rfl
    exact ⟨_, resistanceToken_operator o.isOperator (applyOperator_high hz), rfl⟩
  zero := ⟨_, resistanceToken_number readsAs_zero, rfl⟩
  minus := by
    rintro stack y z r hz rfl
    obtain rfl : -y = z := some.inj hz
    refine ⟨_, resistanceToken_operator rfl (z := -y) ?_, rfl⟩
    exact congrArg Except.ok (zero_sub y)

end Resistance

section Voltage
variable {env : VoltageEnv} {eqn : Text} {s : VoltageState}

theorem voltageToken_number {token : Text} {v : ℚ} (h : ReadsAs token v) :
    env.voltageToken eqn (stack, s) token = .ok (v :: stack, s) := by
  unfold VoltageEnv.voltageToken
  simp only [h.isOperator, h.isAlpha, h.isValidVoltage, h.fromString]
  rfl

theorem voltageToken_operator {token : Text} {z : ℚ} (htoken : isOperator token = true)
    (hx : x ≠ unknownToken) (hy : y ≠ unknownToken) (happly : applyOperator token x y = .ok z) :
    env.voltageToken eqn (y :: x :: stack, s) token = .ok (z :: stack, s) := by
  unfold VoltageEnv.voltageToken voltageOperator
  simp only [htoken, if_neg hx, if_neg hy, happly]
  rfl

theorem eq_some_of_avoiding {p : Prop} [Decidable p] {x : Option ℚ} {z : ℚ} (h : (if p then none else x) = some z) :
    ¬p ∧ x = some z := by
  split at h
  · nomatch h
  · exact ⟨‹_›, h⟩

theorem voltageToken_name {m : MacroName} {v : ℚ} (hv : voltageOf env.powers env.theType m.text = some v) :
    ∃ s', env.voltageToken eqn (stack, s) m.text = .ok (v :: stack, s') := by
  obtain ⟨power, hpower, hv⟩ := bind_eq_some_iff.1 hv
  obtain ⟨w, hw, hv⟩ := bind_eq_some_iff.1 hv
  obtain ⟨hknown, hv⟩ := eq_some_of_avoiding hv
  have hpush : power.push env.theType stack = v :: stack := by
    unfold CPower.push
    rw [hw]
    simp [if_neg hknown, some.inj hv]
  have hop : isOperator m.text = false := (Operand.name m).plain.isOperator
  unfold VoltageEnv.voltageToken VoltageEnv.voltageName
  simp only [hop, m.isAlpha, hpower, hpush]
  exact ⟨_, rfl⟩

/-- The loop of `CPowerPtrMap::CalculateVoltage` is a stack machine as long as no operator is applied to `UNKNOWN_TOKEN`. -/
theorem voltage_runs :
    Infix.Expr.Runs spelling (avoiding unknownToken (rationals (voltageOf env.powers env.theType))) Operand.Readable
      (env.voltageToken eqn) Prod.fst 0 where
  operand := by
    rintro ⟨stack, s⟩ o v ho hv
    cases o with
    | number n =>
      obtain rfl : n.value = v := some.inj hv
      exact ⟨_, voltageToken_number (n.readsAs ho).1, rfl⟩
    | name m =>
      obtain ⟨s', hs'⟩ := voltageToken_name hv
      exact ⟨_, hs', rfl⟩
  low := by
    rintro ⟨stack, s⟩ o x y z r hz rfl
    obtain ⟨hne, hz⟩ := eq_some_of_avoiding hz
    exact ⟨_, voltageToken_operator o.isOperator (fun h => hne (.inl h)) (fun h => hne (.inr h)) (applyOperator_low hz), rfl⟩
  high := by
    rintro ⟨stack, s⟩ o x y z r hz rfl
    obtain ⟨hne, hz⟩ := eq_some_of_avoiding hz
    exact ⟨_, voltageToken_operator o.isOperator (fun h => hne (.inl h)) (fun h => hne (.inr h)) (applyOperator_high hz), rfl⟩
  zero := by
    rintro ⟨stack, s⟩
    exact ⟨_, voltageToken_number readsAs_zero, rfl⟩
  minus := by
    rintro ⟨stack, s⟩ y z r hz rfl
    obtain ⟨hy, hz⟩ := eq_some_of_avoiding hz
    obtain rfl : -y = z := some.inj hz
    refine ⟨_, voltageToken_operator rfl (by decide +kernel) hy (z := -y) ?_, rfl⟩
    exact congrArg Except.ok (zero_sub y)

end Voltage

/-! ## Tokens for evaluation -/

/-- The tokens for the evaluation of an expression without redundant parentheses are its postfix form, but a number with a minus
sign is one token. -/
theorem tokenList_textOf {e : Expression .sum} (hr : e.redundant = false) : tokenList (textOf e) = .ok (e.rpn spelling) ∨
      ∃ n, Infix.Expr.Single (.number n) true e ∧ tokenList (textOf e) = .ok ['-' :: n.text] := by
  unfold tokenList
  split
  · rename_i hvalid
    obtain ⟨n, m, hsingle, htext⟩ := single_of_isValidVoltage hvalid
    cases m with
    | false =>
      left
      rw [htext, hsingle.rpn]
      rfl
    | true =>
      right
      exact ⟨n, hsingle, by rw [htext]; rfl⟩
  · exact .inl (postfixList_textOf hr)

/-- An evaluation that takes no closing parenthesis fails on an expression with redundant parentheses. -/
theorem not_ok_of_redundant {σ : Type} {e : Expression .sum} (hr : e.redundant = true) {step : σ → Text → Except Failure σ}
    (hclose : ∀ s, ∃ e, step s [')'] = .error e) {s s' : σ} {tokens : List Text} (htokens : tokenList (textOf e) = .ok tokens) :
    tokens.foldlM step s ≠ .ok s' := by
  have hmem : [')'] ∈ tokens := by
    unfold tokenList at htokens
    split at htokens
    · rename_i hvalid
      obtain ⟨n, m, hsingle, -⟩ := single_of_isValidVoltage hvalid
      rw [hsingle.redundant] at hr
      nomatch hr
    · exact close_mem_postfixList hr htokens
  clear htokens
  induction tokens generalizing s with
  | nil => nomatch hmem
  | cons t tokens ih =>
    intro h
    obtain ⟨s1, hs1, h⟩ := bind_eq_ok.1 h
    rcases mem_cons.1 hmem with rfl | hmem
    · obtain ⟨e, he⟩ := hclose s
      rw [he] at hs1
      nomatch hs1
    · exact ih hmem h

end Cvc
