import Cvc.ExpressionSyntax

/-!
# Postfix order

`ParseEquation` finds the tokens of a well-formed expression, and the loop of `postfix` over the tokens of an expression gives out
its postfix form, unless the expression has redundant parentheses: a closing parenthesis that finds an open one on top of the
stack is pushed, and is among the tokens in the end.
-/

namespace Cvc

open Infix.Expr List Except Option
open Infix (Level)

variable {l : Level}
variable {list stack p : List Text} {last t s : Text} {c : Char}

/-! ## Tokens -/

/-- A text of an operand: not empty, and without operators. -/
def Plain (t : Text) : Prop := t ≠ [] ∧ ∀ c ∈ t, c ∉ operators

theorem not_mem_operators_of_isDigit (hc : c.isDigit = true) : c ∉ operators := by
  intro hmem
  have hall : ∀ d ∈ operators, d.isDigit = false := Scan.forall_mem (by decide)
  rw [hall c hmem] at hc
  nomatch hc

theorem NumberLiteral.plain (n : NumberLiteral) : Plain n.text := by
  refine ⟨fun h => n.integer_digits.ne_nil (append_eq_nil_iff.1 h).1, fun c hc => ?_⟩
  rcases mem_append.1 hc with hc | hc
  · exact not_mem_operators_of_isDigit (n.integer_digits.isDigit c hc)
  rcases mem_append.1 hc with hc | hc
  · cases hf : n.fraction with
    | none => rw [hf] at hc; nomatch hc
    | some f =>
      rw [hf] at hc
      rcases mem_cons.1 hc with rfl | hc
      · decide
      · exact not_mem_operators_of_isDigit ((n.fraction_digits f hf).isDigit c hc)
  · have hall : ∀ d ∈ suffixes, d ∉ operators := Scan.forall_mem (by decide)
    exact hall c (n.suffix_mem c (mem_toList.1 hc))

theorem Operand.plain (o : Operand) : Plain o.text := by
  cases o with
  | number n => exact n.plain
  | name m =>
    refine ⟨fun h => ?_, m.not_mem_operators⟩
    have halpha := m.isAlpha
    rw [show m.text = [] from h] at halpha
    nomatch halpha

/-- A text is at its end or goes on with an operator. -/
def AtOperator (s : Text) : Prop := ∀ c ∈ s.head?, c ∈ operators

theorem atOperator_cons (hc : c ∈ operators) : AtOperator (c :: s) := fun _ hd => some.inj hd ▸ hc

/-- Enough rounds take all tokens. -/
theorem parseLoop_eq {n m : Nat} (hn : s.length ≤ n) (hm : s.length ≤ m) : parseLoop operators n s = parseLoop operators m s := by
  induction n generalizing s m with
  | zero =>
    obtain rfl := eq_nil_of_length_eq_zero (Nat.le_zero.1 hn)
    cases m <;> rfl
  | succ n ih =>
    cases s with
    | nil => cases m <;> rfl
    | cons c s =>
      obtain ⟨m, rfl⟩ : ∃ k, m = k + 1 := ⟨m - 1, by simp at hm; omega⟩
      simp only [length_cons, Nat.add_le_add_iff_right] at hn hm
      have hdrop : (s.dropWhile (· ∉ operators)).length ≤ s.length := (dropWhile_suffix _).length_le
      simp only [parseLoop]
      rw [ih hn hm, ih (hdrop.trans hn) (hdrop.trans hm)]

theorem parseEquation_cons (hc : c ∈ operators) (s : Text) :
    parseEquation (c :: s) operators = [c] :: parseEquation s operators := by
  simp [parseEquation, parseLoop, if_pos hc]

theorem parseEquation_plain (ht : Plain t) (hs : AtOperator s) :
    parseEquation (t ++ s) operators = t :: parseEquation s operators := by
  obtain ⟨hne, hall⟩ := ht
  cases t with
  | nil => exact absurd rfl hne
  | cons c t =>
    have hrest : ∀ d ∈ t, decide (d ∉ operators) = true := fun d hd => decide_eq_true (hall d (mem_cons_of_mem _ hd))
    simp only [parseEquation, cons_append, length_cons, parseLoop]
    rw [if_neg (hall c mem_cons_self), takeWhile_append_of_pos hrest, dropWhile_append_of_pos hrest,
      Scan.takeWhile_eq_nil fun c hc => by simpa using hs c hc, Scan.dropWhile_eq_self fun c hc => by simpa using hs c hc,
        append_nil,
      parseLoop_eq (by simp) le_rfl]

theorem LowOperator.text_mem (o : LowOperator) : ∃ c ∈ operators, o.text = [c] := by
  cases o <;> exact ⟨_, by decide, rfl⟩

theorem HighOperator.text_mem (o : HighOperator) : ∃ c ∈ operators, o.text = [c] := by
  cases o <;> exact ⟨_, by decide, rfl⟩

/-! ### The text of an expression -/

@[simp] theorem textOf_operand (o : Operand) : textOf (.operand o) = o.text := append_nil _

@[simp] theorem textOf_paren (e : Expression .sum) : textOf (.paren e) = '(' :: (textOf e ++ [')']) := by
  simp [textOf, tokens, spelling]

@[simp] theorem textOf_high (e : Expression .product) (o : HighOperator) (f : Expression .atom) :
    textOf (.high e o f) = textOf e ++ (o.text ++ textOf f) := by
  simp [textOf, tokens, spelling]

@[simp] theorem textOf_neg (e : Expression .product) : textOf (.neg e) = '-' :: textOf e := rfl

@[simp] theorem textOf_low (e : Expression .sum) (o : LowOperator) (f : Expression .product) :
    textOf (.low e o f) = textOf e ++ (o.text ++ textOf f) := by
  simp [textOf, tokens, spelling]

/-- The tokens of an expression are found in its text, up to where the text goes on with an operator. -/
theorem parseEquation_textOf_append (e : Expression l) (hs : AtOperator s) :
    parseEquation (textOf e ++ s) operators = e.tokens spelling ++ parseEquation s operators := by
  induction e generalizing s with
  | operand o =>
    rw [textOf_operand, parseEquation_plain o.plain hs]
    rfl
  | paren e ih =>
    rw [textOf_paren, cons_append, append_assoc, parseEquation_cons (by decide)]
    show _ :: parseEquation (textOf e ++ ')' :: s) operators = _
    rw [ih (atOperator_cons (by decide)), parseEquation_cons (by decide)]
    simp [tokens, spelling]
  | ofAtom e ih | ofProduct e ih => exact ih hs
  | neg e ih =>
    rw [textOf_neg, cons_append, parseEquation_cons (by decide), ih hs]
    rfl
  | high e o f ihe ihf | low e o f ihe ihf =>
    obtain ⟨c, hc, ho⟩ := o.text_mem
    simp only [textOf_high, textOf_low, ho, append_assoc]
    show parseEquation (textOf e ++ c :: (textOf f ++ s)) operators = _
    rw [ihe (atOperator_cons hc), parseEquation_cons hc, ihf hs]
    simp [tokens, spelling, ho]

/-- The tokens of an expression are found in its text. -/
theorem parseEquation_textOf (e : Expression l) : parseEquation (textOf e) operators = e.tokens spelling := by
  have hparse := parseEquation_textOf_append e (s := []) nofun
  rw [append_nil] at hparse
  exact hparse.trans (append_nil _)

/-! ## The loop on well-formed expressions -/

theorem isAmong_eq_false {set : List Char} (ht : ∀ c ∈ t, c ∉ set) : isAmong set t = false := by
  unfold isAmong
  split
  · exact decide_eq_false (ht _ mem_cons_self)
  · rfl

theorem postfixToken_plain (s : PostfixState) (ht : Plain t) :
    postfixToken s t = .ok ⟨s.myPostfixList ++ [t], s.myOperatorStack, t⟩ := by
  unfold postfixToken
  rw [isAmong_eq_false ht.2]
  rfl

theorem postfixToken_open (s : PostfixState) :
    postfixToken s ['('] = .ok ⟨s.myPostfixList, ['('] :: s.myOperatorStack, ['(']⟩ := by
  obtain ⟨list, stack, last⟩ := s
  cases stack with
  | nil => rfl
  | cons back stack =>
    show (if back = ['('] ∨ ['('] = ['('] then _ else _) = _
    rw [if_pos (.inr rfl)]
    rfl

/-- An operator on an empty stack, or on an open parenthesis, is pushed; a minus sign at the head of a sum has a zero before it.
-/
theorem postfixToken_push (ht : isAmong operators t = true) (hstack : ∀ back ∈ stack.head?, back = ['(']) :
    postfixToken ⟨list, stack, last⟩ t =
      .ok ⟨if t = ['-'] ∧ (last = [] ∨ last = ['(']) then list ++ [['0']] else list, t :: stack, t⟩ := by
  unfold postfixToken
  rw [ht]
  cases stack with
  | nil => rfl
  | cons back stack =>
    obtain rfl := hstack back rfl
    rfl

/-- An operator on another one: the operators that it does not bind tighter than are given out. -/
theorem postfixToken_cons {back : Text} (ht : isAmong operators t = true)
    (hopen : t ≠ ['(']) (hclose : t ≠ [')']) (hback : back ≠ ['(']) : postfixToken ⟨list, back :: stack, last⟩ t =
      if isHigh t = true ∧ isLow back = true then .ok ⟨list, t :: back :: stack, t⟩
      else if isLow t = true ∧ isHigh back = true then
        .ok ⟨list ++ (popHigher (back :: stack)).1, t :: (popHigher (back :: stack)).2, t⟩
      else .ok ⟨list ++ [back], t :: stack, t⟩ := by
  unfold postfixToken
  rw [ht]
  simp only [Bool.not_true, hback, hopen, hclose]
  rfl

/-- Operators of both levels are operators and no parentheses. -/
theorem LowOperator.spec (o : LowOperator) : isAmong operators o.text = true ∧ isLow o.text = true ∧ isHigh o.text = false ∧
    o.text ≠ ['('] ∧ o.text ≠ [')'] := by
  cases o <;> decide

theorem HighOperator.spec (o : HighOperator) : isAmong operators o.text = true ∧ isLow o.text = false ∧ isHigh o.text = true ∧
    o.text ≠ ['('] ∧ o.text ≠ [')'] ∧ o.text ≠ ['-'] := by
  cases o <;> decide

/-- The operators that wait after a product. -/
def HighPending (p : List Text) : Prop := p = [] ∨ ∃ o : HighOperator, p = [o.text]

/-- The operators that wait after a sum. -/
def LowPending (p : List Text) : Prop := ∃ q, HighPending q ∧ (p = q ∨ ∃ o : LowOperator, p = q ++ [o.text])

theorem pending_product (e : Expression .product) : HighPending (e.pending spelling) := by
  cases e with
  | ofAtom e => exact .inl (e.pending_atom spelling)
  | high e o f => exact .inr ⟨o, rfl⟩

theorem pending_sum (e : Expression .sum) : LowPending (e.pending spelling) := by
  cases e with
  | ofProduct e => exact ⟨_, pending_product e, .inl rfl⟩
  | neg e => exact ⟨_, pending_product e, .inr ⟨.minus, rfl⟩⟩
  | low e o f => exact ⟨_, pending_product f, .inr ⟨o, rfl⟩⟩

/-- An operator of a product takes the operators of the product before it from the stack. -/
theorem postfixToken_high (o : HighOperator) (hp : HighPending p)
    (hstack : ∀ back ∈ stack.head?, back = ['('] ∨ isLow back = true) :
    postfixToken ⟨list, p ++ stack, last⟩ o.text = .ok ⟨list ++ p, o.text :: stack, o.text⟩ := by
  obtain ⟨hop, hlow, hhigh, hopen, hclose, hminus⟩ := o.spec
  rcases hp with rfl | ⟨o', rfl⟩
  · rw [nil_append, append_nil]
    by_cases hpush : ∀ back ∈ stack.head?, back = ['(']
    · rw [postfixToken_push hop hpush, if_neg fun h => hminus h.1]
    cases stack with
    | nil => exact absurd nofun hpush
    | cons back stack =>
      have hback : back ≠ ['('] := fun h => hpush fun b hb => some.inj hb ▸ h
      have hlowBack := (hstack back rfl).resolve_left hback
      rw [postfixToken_cons hop hopen hclose hback, if_pos ⟨hhigh, hlowBack⟩]
  · obtain ⟨-, hlow', -, hopen', -⟩ := o'.spec
    show postfixToken ⟨list, o'.text :: stack, last⟩ o.text = _
    rw [postfixToken_cons hop hopen hclose hopen', hlow', hlow, if_neg (fun h => nomatch h.2), if_neg (fun h => nomatch h.1)]

theorem popHigher_high (ht : isHigh t = true) : popHigher (t :: stack) = (t :: (popHigher stack).1, (popHigher stack).2) := by
  unfold popHigher
  rw [takeWhile_cons_of_pos ht, dropWhile_cons_of_pos ht]
  cases stack.dropWhile isHigh with
  | nil => rfl
  | cons back rest =>
    simp only
    split <;> rfl

theorem popHigher_low (hlow : isLow t = true) (hhigh : isHigh t = false) : popHigher (t :: stack) = ([t], stack) := by
  unfold popHigher
  rw [takeWhile_cons_of_neg (by simp [hhigh]), dropWhile_cons_of_neg (by simp [hhigh])]
  exact if_pos hlow

theorem popHigher_open (hstack : ∀ back ∈ stack.head?, back = ['(']) : popHigher stack = ([], stack) := by
  cases stack with
  | nil => rfl
  | cons back stack =>
    obtain rfl := hstack back rfl
    rfl

/-- An operator of a sum takes the operators of the sum before it from the stack. -/
theorem postfixToken_low (o : LowOperator) (hp : LowPending p)
    (hstack : ∀ back ∈ stack.head?, back = ['(']) (hlast : last ≠ [] ∧ last ≠ ['(']) :
    postfixToken ⟨list, p ++ stack, last⟩ o.text = .ok ⟨list ++ p, o.text :: stack, o.text⟩ := by
  obtain ⟨hop, hlow, hhigh, hopen, hclose⟩ := o.spec
  have hnotHigh : ∀ back, ¬(isHigh o.text = true ∧ isLow back = true) := fun back h => by
    rw [hhigh] at h
    nomatch h.1
  obtain ⟨q, rfl | ⟨o1, rfl⟩, rfl | ⟨o2, rfl⟩⟩ := hp
  · rw [nil_append, append_nil, postfixToken_push hop hstack, if_neg fun h => h.2.elim hlast.1 hlast.2]
  · obtain ⟨-, hlow2, hhigh2, hopen2, -⟩ := o2.spec
    show postfixToken ⟨list, o2.text :: stack, last⟩ o.text = _
    rw [postfixToken_cons hop hopen hclose hopen2, if_neg (hnotHigh _), if_neg fun h => by rw [hhigh2] at h; nomatch h.2]
    rfl
  · obtain ⟨-, -, hhigh1, hopen1, -⟩ := o1.spec
    show postfixToken ⟨list, o1.text :: stack, last⟩ o.text = _
    rw [postfixToken_cons hop hopen hclose hopen1, if_neg (hnotHigh _), if_pos ⟨hlow, hhigh1⟩, popHigher_high hhigh1,
      popHigher_open hstack]
  · obtain ⟨-, -, hhigh1, hopen1, -⟩ := o1.spec
    obtain ⟨-, hlow2, hhigh2, -⟩ := o2.spec
    show postfixToken ⟨list, o1.text :: o2.text :: stack, last⟩ o.text = _
    rw [postfixToken_cons hop hopen hclose hopen1, if_neg (hnotHigh _), if_pos ⟨hlow, hhigh1⟩, popHigher_high hhigh1,
      popHigher_low hlow2 hhigh2]
    rfl

theorem LowPending.ne_open (hp : LowPending p) : ∀ t ∈ p, t ≠ ['('] := by
  obtain ⟨q, rfl | ⟨o1, rfl⟩, rfl | ⟨o2, rfl⟩⟩ := hp <;> simp [LowOperator.spec, HighOperator.spec]

theorem popToParenthesis_append (hp : ∀ t ∈ p, t ≠ ['(']) : popToParenthesis (p ++ ['('] :: stack) = .ok (p, stack) := by
  induction p with
  | nil => rfl
  | cons t p ih =>
    unfold popToParenthesis
    rw [cons_append]
    simp only
    rw [if_neg (hp t mem_cons_self), ih fun u hu => hp u (mem_cons_of_mem _ hu)]
    rfl

/-- A closing parenthesis takes the operators after the open one from the stack, if there are any. -/
theorem postfixToken_close (hp : LowPending p) (hne : p ≠ []) :
    postfixToken ⟨list, p ++ ['('] :: stack, last⟩ [')'] = .ok ⟨list ++ p, stack, [')']⟩ := by
  have hpop : popToParenthesis (p ++ ['('] :: stack) = .ok (p, stack) := popToParenthesis_append hp.ne_open
  cases p with
  | nil => exact absurd rfl hne
  | cons t p =>
    have ht : ¬(t = ['('] ∨ [')'] = ['(']) := fun h => h.elim (hp.ne_open t mem_cons_self) (by decide)
    show (if t = ['('] ∨ [')'] = ['('] then _ else if [')'] = [')'] then _ else _) = _
    rw [if_neg ht, if_pos rfl]
    show (popToParenthesis (t :: p ++ ['('] :: stack) >>= _) = _
    rw [hpop]
    rfl

/-! ### Expressions -/

/-- The operator stack and the last token before an expression of a level. -/
def Ready : Level → List Text → Text → Prop
  | .atom, _, _ => True
  | .product, stack, _ => ∀ back ∈ stack.head?, back = ['('] ∨ isLow back = true
  | .sum, stack, last => (∀ back ∈ stack.head?, back = ['(']) ∧ (last = [] ∨ last = ['('])

theorem pending_eq_nil_iff {e : Expression .sum} : e.pending spelling = [] ↔ e.isAtom = true := by
  cases e with
  | ofProduct e =>
    cases e with
    | ofAtom e => exact iff_of_true (e.pending_atom spelling) rfl
    | high e o f => exact iff_of_false (cons_ne_nil _ _) nofun
  | neg e | low e o f => exact iff_of_false (append_ne_nil_of_right_ne_nil _ (cons_ne_nil _ _)) nofun

theorem Plain.ne (ht : Plain t) : t ≠ [] ∧ t ≠ ['('] :=
  ⟨ht.1, fun h => ht.2 '(' (by rw [h]; exact mem_cons_self) (by decide)⟩

open Infix.Expr (foldlM_append_ok foldlM_singleton_ok)

/-- The loop over the tokens of an expression without redundant parentheses: what is given out of it and what waits on the stack.
-/
theorem foldlM_tokens (e : Expression l) (hr : e.redundant = false) {s : PostfixState}
    (hready : Ready l s.myOperatorStack s.myLastToken) : ∃ last, (e.tokens spelling).foldlM postfixToken s =
        .ok ⟨s.myPostfixList ++ e.emitted spelling, e.pending spelling ++ s.myOperatorStack, last⟩ ∧ last ≠ [] ∧
          last ≠ ['('] := by
  induction e generalizing s with
  | operand o => exact ⟨o.text, foldlM_singleton_ok (postfixToken_plain s o.plain), o.plain.ne⟩
  | paren e ih =>
    obtain ⟨hatom, hr⟩ := Bool.or_eq_false_iff.1 hr
    obtain ⟨last, hrun, -⟩ := ih hr (s := ⟨s.myPostfixList, ['('] :: s.myOperatorStack, ['(']⟩)
      ⟨fun _ hb => (some.inj hb).symm, .inr rfl⟩
    refine ⟨[')'], ?_, by decide, by decide⟩
    have hclose := @postfixToken_close (s.myPostfixList ++ e.emitted spelling) s.myOperatorStack _ last (pending_sum e)
      fun hnil => nomatch hatom.symm.trans (pending_eq_nil_iff.1 hnil)
    rw [append_assoc, e.emitted_append_pending] at hclose
    exact foldlM_append_ok (foldlM_singleton_ok (postfixToken_open s)) (foldlM_append_ok hrun (foldlM_singleton_ok hclose))
  | ofAtom e ih => exact ih hr trivial
  | high e o f ihe ihf =>
    obtain ⟨hre, hrf⟩ := Bool.or_eq_false_iff.1 hr
    obtain ⟨last, hrun, -⟩ := ihe hre hready
    have hop := @postfixToken_high (s.myPostfixList ++ e.emitted spelling) s.myOperatorStack _ last o (pending_product e) hready
    rw [append_assoc, e.emitted_append_pending] at hop
    obtain ⟨last, hrun', hlast⟩ := @ihf hrf ⟨s.myPostfixList ++ e.rpn spelling, o.text :: s.myOperatorStack, o.text⟩ trivial
    rw [f.emitted_atom, f.pending_atom] at hrun'
    refine ⟨last, ?_, hlast⟩
    have hall := foldlM_append_ok hrun (foldlM_append_ok (foldlM_singleton_ok hop) hrun')
    simpa [tokens, emitted, pending, spelling] using hall
  | ofProduct e ih => exact ih hr fun back hb => .inl (hready.1 back hb)
  | neg e ih =>
    have hop := @postfixToken_push s.myPostfixList s.myOperatorStack s.myLastToken ['-'] (by decide) hready.1
    rw [if_pos ⟨rfl, hready.2⟩] at hop
    obtain ⟨last, hrun, hlast⟩ := @ih hr ⟨s.myPostfixList ++ [['0']], ['-'] :: s.myOperatorStack, ['-']⟩
      fun back hb => .inr (by rw [← some.inj hb]; decide)
    refine ⟨last, ?_, hlast⟩
    have hall := foldlM_append_ok (foldlM_singleton_ok hop) hrun
    simpa [tokens, emitted, pending, spelling] using hall
  | low e o f ihe ihf =>
    obtain ⟨hre, hrf⟩ := Bool.or_eq_false_iff.1 hr
    obtain ⟨last, hrun, hlast⟩ := ihe hre hready
    have hop := @postfixToken_low (s.myPostfixList ++ e.emitted spelling) s.myOperatorStack _ last o
      (pending_sum e) hready.1 hlast
    rw [append_assoc, e.emitted_append_pending] at hop
    obtain ⟨last, hrun', hlast⟩ := @ihf hrf ⟨s.myPostfixList ++ e.rpn spelling, o.text :: s.myOperatorStack, o.text⟩
      fun back hb => .inr (by rw [← some.inj hb]; exact o.spec.2.1)
    refine ⟨last, ?_, hlast⟩
    have hall := foldlM_append_ok hrun (foldlM_append_ok (foldlM_singleton_ok hop) hrun')
    simpa [tokens, emitted, pending, spelling] using hall

/-- An expression without redundant parentheses is turned into its postfix form. -/
theorem postfixList_textOf {e : Expression .sum} (hr : e.redundant = false) : postfixList (textOf e) = .ok (e.rpn spelling) := by
  obtain ⟨last, hrun, -⟩ := @foldlM_tokens _ e hr {} ⟨nofun, .inl rfl⟩
  unfold postfixList
  rw [parseEquation_textOf, hrun]
  show ok (e.emitted spelling ++ (e.pending spelling ++ [])) = _
  rw [append_nil, e.emitted_append_pending]

/-! ## The loop on redundant parentheses -/

/-- A closing parenthesis is among the tokens given out or on the stack. -/
def PostfixState.HasClose (s : PostfixState) : Prop := [')'] ∈ s.myPostfixList ++ s.myOperatorStack

theorem mem_of_popToParenthesis {popped rest : List Text} (h : popToParenthesis stack = .ok (popped, rest))
    (ht : t ∈ stack) (hne : t ≠ ['(']) : t ∈ popped ++ rest := by
  induction stack generalizing popped with
  | nil => nomatch h
  | cons back stack ih =>
    unfold popToParenthesis at h
    split at h
    · rename_i hback
      obtain ⟨rfl, rfl⟩ := Prod.mk.inj (ok.inj h)
      exact (mem_cons.1 ht).resolve_left fun he => hne (he.trans hback)
    · obtain ⟨⟨below, rest'⟩, hbelow, h⟩ := bind_eq_ok.1 h
      obtain ⟨rfl, rfl⟩ := Prod.mk.inj (ok.inj h)
      rcases mem_cons.1 ht with rfl | ht
      · exact mem_cons_self
      · exact mem_cons_of_mem _ (ih hbelow ht)

theorem popHigher_append (stack : List Text) : (popHigher stack).1 ++ (popHigher stack).2 = stack := by
  have hsplit := takeWhile_append_dropWhile (p := isHigh) (l := stack)
  unfold popHigher
  cases hdrop : stack.dropWhile isHigh with
  | nil =>
    rw [hdrop] at hsplit
    exact hsplit
  | cons back rest =>
    rw [hdrop] at hsplit
    simp only
    split
    · simpa using hsplit
    · exact hsplit

/-- A round of the loop drops no token but open parentheses. -/
theorem mem_of_postfixToken {s s' : PostfixState} {u : Text} (h : postfixToken s t = .ok s')
    (hu : u ∈ s.myPostfixList ++ s.myOperatorStack) (hne : u ≠ ['(']) : u ∈ s'.myPostfixList ++ s'.myOperatorStack := by
  obtain ⟨list, stack, last⟩ := s
  simp only [mem_append] at hu ⊢
  unfold postfixToken at h
  split at h
  · obtain rfl := ok.inj h
    simp only [mem_append]
    tauto
  have hpushed : ∀ w : PostfixState, w.myOperatorStack = t :: stack →
      w.myPostfixList = list ++ [['0']] ∨ w.myPostfixList = list → u ∈ w.myPostfixList ∨ u ∈ w.myOperatorStack := by
    rintro ⟨list', stack', last'⟩ rfl (rfl | rfl)
    all_goals
      simp only [mem_append]
      tauto
  have hlist : ∀ c : Prop, [Decidable c] → (if c then list ++ [['0']] else list) = list ++ [['0']] ∨
      (if c then list ++ [['0']] else list) = list := fun c _ => by
    split
    · exact .inl rfl
    · exact .inr rfl
  simp only at h
  split at h
  · obtain rfl := ok.inj h
    exact hpushed _ rfl (hlist _)
  rename_i back stack
  split at h
  · obtain rfl := ok.inj h
    exact hpushed _ rfl (hlist _)
  split at h
  · obtain ⟨⟨popped, rest⟩, hpop, h⟩ := bind_eq_ok.1 h
    obtain rfl := ok.inj h
    have hmem := fun hu : u ∈ back :: stack => mem_append.1 (mem_of_popToParenthesis hpop hu hne)
    simp only [mem_append]
    tauto
  split at h
  · obtain rfl := ok.inj h
    tauto
  split at h
  · obtain rfl := ok.inj h
    have hmem := popHigher_append (back :: stack)
    rw [← hmem, mem_append] at hu
    simp only [mem_append]
    tauto
  · obtain rfl := ok.inj h
    simp only [mem_append, mem_cons, not_mem_nil] at hu ⊢
    tauto

theorem PostfixState.HasClose.foldlM {s s' : PostfixState} {tokens : List Text} (hs : s.HasClose)
    (h : tokens.foldlM postfixToken s = .ok s') : s'.HasClose := by
  induction tokens generalizing s with
  | nil => exact ok.inj h ▸ hs
  | cons t tokens ih =>
    obtain ⟨s1, hs1, h⟩ := bind_eq_ok.1 h
    exact ih (mem_of_postfixToken hs1 hs (by decide)) h

/-- Redundant parentheses leave a closing parenthesis among the tokens. -/
theorem hasClose_of_redundant (e : Expression l) (hr : e.redundant = true) {s s' : PostfixState}
    (h : (e.tokens spelling).foldlM postfixToken s = .ok s') : s'.HasClose := by
  induction e generalizing s s' with
  | operand o => nomatch hr
  | paren e ih =>
    obtain ⟨s1, hs1, h⟩ := bind_eq_ok.1 ((foldlM_cons ..).symm.trans h)
    rw [foldlM_append] at h
    obtain ⟨s2, hs2, h⟩ := bind_eq_ok.1 h
    rcases Bool.eq_false_or_eq_true e.redundant with hre | hre
    · exact (ih hre hs2).foldlM h
    -- nothing waits on the stack above the open parenthesis
    have hatom : e.isAtom = true := by simpa [redundant, hre] using hr
    obtain rfl := ok.inj (hs1.symm.trans (postfixToken_open s))
    obtain ⟨last, hrun, -⟩ := foldlM_tokens e hre (s := ⟨s.myPostfixList, ['('] :: s.myOperatorStack, ['(']⟩)
      ⟨fun _ hb => (some.inj hb).symm, .inr rfl⟩
    rw [pending_eq_nil_iff.2 hatom] at hrun
    obtain rfl := ok.inj (hs2.symm.trans hrun)
    have hpush := @postfixToken_push (s.myPostfixList ++ e.emitted spelling) (['('] :: s.myOperatorStack) last [')'] (by decide)
      fun _ hb => (some.inj hb).symm
    obtain rfl := ok.inj (h.symm.trans (foldlM_singleton_ok hpush))
    exact mem_append_right _ mem_cons_self
  | ofAtom e ih | ofProduct e ih => exact ih hr h
  | high e o f ihe ihf | low e o f ihe ihf =>
    rw [tokens, foldlM_append] at h
    obtain ⟨s1, hs1, h⟩ := bind_eq_ok.1 h
    rcases Bool.or_eq_true_iff.1 hr with hr | hr
    · exact (ihe hr hs1).foldlM h
    · obtain ⟨s2, -, h⟩ := bind_eq_ok.1 h
      exact ihf hr h
  | neg e ih =>
    obtain ⟨s1, -, h⟩ := bind_eq_ok.1 ((foldlM_cons ..).symm.trans h)
    exact ih hr h

/-- The tokens of an expression with redundant parentheses, in the order of evaluation, have a closing parenthesis. -/
theorem close_mem_postfixList {e : Expression .sum} (hr : e.redundant = true) {tokens : List Text}
    (h : postfixList (textOf e) = .ok tokens) : [')'] ∈ tokens := by
  unfold postfixList at h
  rw [parseEquation_textOf] at h
  obtain ⟨s, hs, h⟩ := bind_eq_ok.1 h
  exact ok.inj h ▸ hasClose_of_redundant e hr hs

end Cvc
