import Mathlib.Data.List.Range

/-!
# Loops over ranges

The rules for a loop over `0 .. n-1`, up or down: an assertion indexed by the counter that every round carries on holds after the
loop, and if every round succeeds then the loop does.
-/

namespace Loop

variable {σ ε : Type*}

theorem exists_foldlM_range {step : σ → Nat → Except ε σ} {Inv : Nat → σ → Prop} {n : Nat}
    (hstep : ∀ i s, i < n → Inv i s → ∃ s', step s i = .ok s' ∧ Inv (i + 1) s') {s : σ} (hs : Inv 0 s) :
    ∃ s', (List.range n).foldlM step s = .ok s' ∧ Inv n s' := by
  induction n with
  | zero => exact ⟨s, rfl, hs⟩
  | succ n ih =>
    obtain ⟨s₁, hs₁, hinv⟩ := ih fun i s hi => hstep i s (by omega)
    obtain ⟨s₂, hs₂, hinv'⟩ := hstep n s₁ (by omega) hinv
    refine ⟨s₂, ?_, hinv'⟩
    rw [List.range_succ, List.foldlM_append, hs₁]
    show ([n] : List Nat).foldlM step s₁ = .ok s₂
    rw [List.foldlM_cons, hs₂]
    rfl

theorem foldl_range_reverse {step : σ → Nat → σ} {Inv : Nat → σ → Prop} {n : Nat}
    (hstep : ∀ i s, i < n → Inv (i + 1) s → Inv i (step s i)) {s : σ} (hs : Inv n s) :
      Inv 0 ((List.range n).reverse.foldl step s) := by
  induction n generalizing s with
  | zero => exact hs
  | succ n ih =>
    rw [List.range_succ, List.reverse_append]
    exact ih (fun i s hi => hstep i s (by omega)) (hstep n s (by omega) hs)

end Loop
