import Mathlib.Data.List.Basic

/-!
# Infix expressions and stack machines

Expressions with two levels of binary operators, both associating to the left, a minus sign at the head of a sum, and parentheses.
The type of an expression carries its level, so that every expression is spelled as one sequence of tokens and no other expression
is. Its postfix form is in two parts: what an operator stack has given out after the last token, and the operators that are still
on it (`emitted` and `pending`). A stack machine that runs the postfix form leaves the value of the expression on its stack.
-/

namespace Infix

/-- The levels of an expression. -/
inductive Level where
  | sum
  | product
  | atom
  deriving DecidableEq, Repr

/-- Expressions with operands `α`, operators `L` between the terms of a sum and operators `H` between the factors of a product. -/
inductive Expr (α L H : Type) : Level → Type where
  | operand (a : α) : Expr α L H .atom
  | paren (e : Expr α L H .sum) : Expr α L H .atom
  | ofAtom (e : Expr α L H .atom) : Expr α L H .product
  | high (e : Expr α L H .product) (o : H) (f : Expr α L H .atom) : Expr α L H .product
  | ofProduct (e : Expr α L H .product) : Expr α L H .sum
  | neg (e : Expr α L H .product) : Expr α L H .sum
  | low (e : Expr α L H .sum) (o : L) (f : Expr α L H .product) : Expr α L H .sum

/-- How expressions are spelled in tokens. -/
structure Spelling (α L H τ : Type) where
  operand : α → τ
  low : L → τ
  high : H → τ
  minus : τ
  zero : τ
  lparen : τ
  rparen : τ

/-- What expressions mean. -/
structure Meaning (α L H V : Type) where
  operand : α → Option V
  low : L → V → V → Option V
  high : H → V → V → Option V
  neg : V → Option V

namespace Expr

variable {α L H τ V σ ε : Type} {l : Level} {e : Expr α L H l} {a : α} {m : Bool} {step : σ → τ → Except ε σ}

/-- The operands of an expression, in order. -/
def operands {l : Level} : Expr α L H l → List α
  | .operand a => [a]
  | .paren e | .ofAtom e | .ofProduct e | .neg e => e.operands
  | .high e _ f | .low e _ f => e.operands ++ f.operands

/-- The tokens of an expression. -/
def tokens (sp : Spelling α L H τ) {l : Level} : Expr α L H l → List τ
  | .operand a => [sp.operand a]
  | .paren e => sp.lparen :: (e.tokens sp ++ [sp.rparen])
  | .ofAtom e | .ofProduct e => e.tokens sp
  | .high e o f => e.tokens sp ++ sp.high o :: f.tokens sp
  | .neg e => sp.minus :: e.tokens sp
  | .low e o f => e.tokens sp ++ sp.low o :: f.tokens sp

/-- A single operand, or an expression in parentheses. -/
def isAtom : Expr α L H .sum → Bool
  | .ofProduct (.ofAtom _) => true
  | _ => false

/-- Parentheses around a single operand or around parentheses are somewhere in the expression. -/
def redundant {l : Level} : Expr α L H l → Bool
  | .operand _ => false
  | .paren e => e.isAtom || e.redundant
  | .ofAtom e | .ofProduct e | .neg e => e.redundant
  | .high e _ f | .low e _ f => e.redundant || f.redundant

/-- The value of an expression, if it has one. -/
def value (M : Meaning α L H V) {l : Level} : Expr α L H l → Option V
  | .operand a => M.operand a
  | .paren e | .ofAtom e | .ofProduct e => e.value M
  | .high e o f => do M.high o (← e.value M) (← f.value M)
  | .neg e => do M.neg (← e.value M)
  | .low e o f => do M.low o (← e.value M) (← f.value M)

/-! ## The postfix form -/

/-- The postfix form of an expression. -/
def rpn (sp : Spelling α L H τ) {l : Level} : Expr α L H l → List τ
  | .operand a => [sp.operand a]
  | .paren e | .ofAtom e | .ofProduct e => e.rpn sp
  | .high e o f => e.rpn sp ++ (f.rpn sp ++ [sp.high o])
  | .neg e => sp.zero :: (e.rpn sp ++ [sp.minus])
  | .low e o f => e.rpn sp ++ (f.rpn sp ++ [sp.low o])

/-- The operators of an expression that wait for the next token, the last one first. -/
def pending (sp : Spelling α L H τ) {l : Level} : Expr α L H l → List τ
  | .operand _ | .paren _ => []
  | .ofAtom e | .ofProduct e => e.pending sp
  | .high _ o _ => [sp.high o]
  | .neg e => e.pending sp ++ [sp.minus]
  | .low _ o f => f.pending sp ++ [sp.low o]

/-- The postfix form of an expression without the operators that wait. -/
def emitted (sp : Spelling α L H τ) {l : Level} : Expr α L H l → List τ
  | .operand a => [sp.operand a]
  | .paren e => e.rpn sp
  | .ofAtom e | .ofProduct e => e.emitted sp
  | .high e _ f => e.rpn sp ++ f.rpn sp
  | .neg e => sp.zero :: e.emitted sp
  | .low e _ f => e.rpn sp ++ f.emitted sp

variable (sp : Spelling α L H τ)

theorem pending_atom (e : Expr α L H .atom) : e.pending sp = [] := by
  cases e <;> rfl

theorem emitted_append_pending (e : Expr α L H l) : e.emitted sp ++ e.pending sp = e.rpn sp := by
  induction e with
  | operand a => rfl
  | paren e => exact List.append_nil _
  | ofAtom e ih | ofProduct e ih => exact ih
  | high e o f => simp [emitted, pending, rpn]
  | neg e ih | low e o f _ ih => simp [emitted, pending, rpn, ← ih]

theorem emitted_atom (e : Expr α L H .atom) : e.emitted sp = e.rpn sp := by
  rw [← emitted_append_pending, pending_atom, List.append_nil]

/-! ## Single operands -/

/-- An expression is a single operand, with a minus sign before it or without. -/
inductive Single (a : α) : Bool → {l : Level} → Expr α L H l → Prop where
  | operand : Single a false (.operand a)
  | ofAtom {e : Expr α L H .atom} : Single a false e → Single a false (.ofAtom e)
  | ofProduct {e : Expr α L H .product} : Single a false e → Single a false (.ofProduct e)
  | neg {e : Expr α L H .product} : Single a false e → Single a true (.neg e)

theorem Single.redundant (h : Single a m e) : e.redundant = false := by
  induction h with
  | operand => rfl
  | ofAtom _ ih | ofProduct _ ih | neg _ ih => exact ih

theorem Single.operands (h : Single a m e) : e.operands = [a] := by
  induction h with
  | operand => rfl
  | ofAtom _ ih | ofProduct _ ih | neg _ ih => exact ih

theorem Single.rpn (h : Single a false e) : e.rpn sp = [sp.operand a] := by
  generalize hm : false = m at h
  induction h with
  | operand => rfl
  | ofAtom _ ih | ofProduct _ ih => exact ih rfl
  | neg _ ih => nomatch hm

theorem Single.value (M : Meaning α L H V) (h : Single a m e) :
    e.value M = if m then (M.operand a).bind M.neg else M.operand a := by
  induction h with
  | operand => rfl
  | ofAtom _ ih | ofProduct _ ih => exact ih
  | neg _ ih => exact congrArg (·.bind M.neg) ih

/-! ## Stack machines -/

/-- A machine whose steps on the tokens of a spelling do on its stack what they mean, for the operands of a set; `z₀` is what the
token that stands in front of a leading minus sign pushes. -/
structure Runs (sp : Spelling α L H τ) (M : Meaning α L H V) (P : α → Prop) (step : σ → τ → Except ε σ) (stack : σ → List V)
    (z₀ : V) : Prop where
  operand : ∀ {s a v}, P a → M.operand a = some v → ∃ s', step s (sp.operand a) = .ok s' ∧ stack s' = v :: stack s
  low : ∀ {s o x y z r}, M.low o x y = some z → stack s = y :: x :: r → ∃ s', step s (sp.low o) = .ok s' ∧ stack s' = z :: r
  high : ∀ {s o x y z r}, M.high o x y = some z → stack s = y :: x :: r → ∃ s', step s (sp.high o) = .ok s' ∧ stack s' = z :: r
  zero : ∀ {s}, ∃ s', step s sp.zero = .ok s' ∧ stack s' = z₀ :: stack s
  minus : ∀ {s y z r}, M.neg y = some z → stack s = y :: z₀ :: r → ∃ s', step s sp.minus = .ok s' ∧ stack s' = z :: r

theorem foldlM_append_ok {t u : List τ} {s s1 s2 : σ} (ht : t.foldlM step s = .ok s1)
    (hu : u.foldlM step s1 = .ok s2) : (t ++ u).foldlM step s = .ok s2 := by
  rw [List.foldlM_append, ht]
  exact hu

theorem foldlM_singleton_ok {t : τ} {s s' : σ} (h : step s t = .ok s') : [t].foldlM step s = .ok s' := by
  rw [List.foldlM_cons, h]
  rfl

/-- The postfix form of an expression with a value runs and pushes it. -/
theorem Runs.run {sp : Spelling α L H τ} {M : Meaning α L H V} {P : α → Prop} {stack : σ → List V}
    {z₀ : V} (h : Runs sp M P step stack z₀) (hP : ∀ a ∈ e.operands, P a) {v : V}
    (hv : e.value M = some v) (s : σ) : ∃ s', (e.rpn sp).foldlM step s = .ok s' ∧ stack s' = v :: stack s := by
  induction e generalizing s v with
  | operand a =>
    obtain ⟨s', hs', hstack⟩ := h.operand (hP a List.mem_cons_self) hv
    exact ⟨s', foldlM_singleton_ok hs', hstack⟩
  | paren e ih | ofAtom e ih | ofProduct e ih => exact ih hP hv s
  | neg e ih =>
    obtain ⟨y, hy, hv⟩ := Option.bind_eq_some_iff.1 hv
    obtain ⟨s1, hs1, hstack1⟩ := h.zero (s := s)
    obtain ⟨s2, hs2, hstack2⟩ := ih hP hy s1
    obtain ⟨s', hs', hstack⟩ := h.minus hv (hstack2.trans (by rw [hstack1]))
    exact ⟨s', foldlM_append_ok (foldlM_singleton_ok hs1) (foldlM_append_ok hs2 (foldlM_singleton_ok hs')), hstack⟩
  | low e o f ihe ihf | high e o f ihe ihf =>
    obtain ⟨x, hx, hv⟩ := Option.bind_eq_some_iff.1 hv
    obtain ⟨y, hy, hv⟩ := Option.bind_eq_some_iff.1 hv
    obtain ⟨s1, hs1, hstack1⟩ := ihe (fun a ha => hP a (List.mem_append_left _ ha)) hx s
    obtain ⟨s2, hs2, hstack2⟩ := ihf (fun a ha => hP a (List.mem_append_right _ ha)) hy s1
    have hstack2 := hstack2.trans (by rw [hstack1])
    obtain ⟨s', hs', hstack⟩ := by first | exact h.low hv hstack2 | exact h.high hv hstack2
    exact ⟨s', foldlM_append_ok hs1 (foldlM_append_ok hs2 (foldlM_singleton_ok hs')), hstack⟩

end Expr
end Infix
