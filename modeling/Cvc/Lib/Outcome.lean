import Mathlib.Data.List.Basic

/-!
# What a computation with failures ends with

`Outcome m P E` says that `m` returns a value with the property `P` or fails with a failure in `E`. It is computed along the
computation by the rules below; the one for a loop over a list carries an assertion about the part of the list that is done.
-/

/-- The computation returns a value with the property, or fails in an allowed way. -/
def Outcome {ε α : Type*} (m : Except ε α) (P : α → Prop) (E : ε → Prop) : Prop :=
  match m with
  | .ok a => P a
  | .error e => E e

namespace Outcome

universe u v

variable {ε : Type u} {α β σ : Type v} {m : Except ε α} {P P' : α → Prop} {E E' : ε → Prop}

theorem pure {a : α} (h : P a) : Outcome (Pure.pure a : Except ε α) P E := h

theorem throw {e : ε} (h : E e) : Outcome (MonadExcept.throw e : Except ε α) P E := h

theorem mono (h : Outcome m P E) (hP : ∀ a, P a → P' a) (hE : ∀ e, E e → E' e) : Outcome m P' E' := by
  cases m with
  | ok a => exact hP a h
  | error e => exact hE e h

theorem bind {f : α → Except ε β} {Q : β → Prop} (hm : Outcome m P E) (hf : ∀ a, P a → Outcome (f a) Q E) :
    Outcome (m >>= f) Q E := by
  cases m with
  | ok a => exact hf a hm
  | error e => exact hm

theorem ite {c : Prop} [Decidable c] {m' : Except ε α} (hm : c → Outcome m P E) (hm' : ¬c → Outcome m' P E) :
    Outcome (if c then m else m') P E := by
  split
  case isTrue h => exact hm h
  case isFalse h => exact hm' h

theorem of_ok {a : α} (h : Outcome m P E) (hm : m = .ok a) : P a := by
  rw [hm] at h
  exact h

theorem of_error {e : ε} (h : Outcome m P E) (hm : m = .error e) : E e := by
  rw [hm] at h
  exact h

/-- The value returned is that of the computation. -/
theorem with_eq (h : Outcome m P E) : Outcome m (fun a => m = .ok a ∧ P a) E := by
  cases m with
  | ok => exact ⟨rfl, h⟩
  | error => exact h

/-- A loop over a list, with an assertion about the part that is done. -/
theorem foldlM {step : σ → β → Except ε σ} {I : List β → σ → Prop} {l : List β} {s : σ} (hs : I [] s)
    (hstep : ∀ pre b post, l = pre ++ b :: post → ∀ s, I pre s → Outcome (step s b) (I (pre ++ [b])) E) :
    Outcome (l.foldlM step s) (I l) E := by
  suffices h : ∀ (post pre : List β) (s : σ), l = pre ++ post → I pre s → Outcome (post.foldlM step s)
    (I l) E from h l [] s rfl hs
  intro post
  induction post with
  | nil =>
    intro pre s hl hs
    rw [List.append_nil] at hl
    exact hl ▸ hs
  | cons b post ih =>
    intro pre s hl hs
    exact bind (hstep pre b post hl s hs) fun s' hs' => ih (pre ++ [b]) s' (by rw [hl]; simp) hs'

end Outcome
