import Cvc.Lib.Program

/-!
# Two programs in lockstep

`Lockstep R E m n s t` says that `m`, started in `s`, and `n`, started in `t`, end in the same way: both return, with values and
states that are related by `R`, or both fail, in states that are related by `E`. It is computed along the two programs by the
rules below.
-/

namespace Program

universe u

variable {ε ε' σ τ α β γ δ : Type u}

/-- Two programs return related values in related states, or both fail in related states. -/
def Lockstep (R : α → β → σ → τ → Prop) (E : σ → τ → Prop) (m : EStateM ε σ α) (n : EStateM ε' τ β) (s : σ) (t : τ) : Prop :=
  match m s, n t with
  | .ok a s', .ok b t' => R a b s' t'
  | .error _ s', .error _ t' => E s' t'
  | _, _ => False

namespace Lockstep

variable {R : α → β → σ → τ → Prop} {E : σ → τ → Prop} {s : σ} {t : τ} {f : γ → EStateM ε σ α} {g : δ → EStateM ε' τ β}

theorem pure {a : α} {b : β} (h : R a b s t) : Lockstep R E (Pure.pure a : EStateM ε σ α) (Pure.pure b : EStateM ε' τ β) s t := h

theorem read {f : σ → α} {g : τ → β} (h : R (f s) (g t) s t) :
    Lockstep R E (Program.read f : EStateM ε σ α) (Program.read g : EStateM ε' τ β) s t := h

theorem bind {S : γ → δ → σ → τ → Prop} {m : EStateM ε σ γ} {n : EStateM ε' τ δ}
    (h : Lockstep S E m n s t) (hf : ∀ c d s' t', S c d s' t' → Lockstep R E (f c) (g d) s' t') :
    Lockstep R E (m >>= f) (n >>= g) s t := by
  unfold Lockstep at h
  show Lockstep R E (EStateM.bind m f) (EStateM.bind n g) s t
  unfold Lockstep EStateM.bind
  cases hm : m s with
  | ok c s' =>
    cases hn : n t with
    | ok d t' =>
      rw [hm, hn] at h
      exact hf c d s' t' h
    | error e t' => simp [hm, hn] at h
  | error e s' =>
    cases hn : n t with
    | ok d t' => simp [hm, hn] at h
    | error e' t' =>
      rw [hm, hn] at h
      exact h

/-- Both programs begin with a read. -/
theorem read_bind {p : σ → γ} {q : τ → δ}
    (h : Lockstep R E (f (p s)) (g (q t)) s t) : Lockstep R E (Program.read p >>= f) (Program.read q >>= g) s t := h

theorem ite {b c : Prop} [Decidable b] [Decidable c] {m m' : EStateM ε σ α} {n n' : EStateM ε' τ β} (hbc : b ↔ c)
    (h : b → Lockstep R E m n s t) (h' : ¬ b → Lockstep R E m' n' s t) :
    Lockstep R E (if b then m else m') (if c then n else n') s t := by
  by_cases hb : b
  · rw [if_pos hb, if_pos (hbc.1 hb)]
    exact h hb
  · rw [if_neg hb, if_neg fun hc => hb (hbc.2 hc)]
    exact h' hb

end Lockstep

section Unit
variable {R : PUnit → PUnit → σ → τ → Prop} {E : σ → τ → Prop} {s : σ} {t : τ} {b c : Bool}

theorem Lockstep.update {f : σ → σ} {g : τ → τ} (h : R ⟨⟩ ⟨⟩ (f s) (g t)) :
    Lockstep R E (Program.update f : EStateM ε σ PUnit) (Program.update g : EStateM ε' τ PUnit) s t := h

theorem Lockstep.ensure {e : ε} {e' : ε'} (hbc : b = c) (h : R ⟨⟩ ⟨⟩ s t) (hE : E s t) :
    Lockstep R E (Program.ensure b e) (Program.ensure c e') s t := by
  subst hbc
  cases b with
  | true => exact h
  | false => exact hE

theorem Lockstep.when {m : EStateM ε σ PUnit} {n : EStateM ε' τ PUnit} (hbc : b = c)
    (h : b = true → Lockstep R E m n s t) (h' : R ⟨⟩ ⟨⟩ s t) : Lockstep R E (Program.when b m) (Program.when c n) s t := by
  subst hbc
  cases b with
  | true => exact h rfl
  | false => exact h'

end Unit
end Program
