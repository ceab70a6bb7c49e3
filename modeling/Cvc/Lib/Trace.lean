import Mathlib.Data.List.Basic

/-!
# Sequences of calls

A component that serves calls one after the other: `step s a` is the state after the call `a`, or `none` if the call stops the
program. `Always` says that every call a sequence reaches is made in a state that allows it. An invariant of the calls carries
over to sequences of them, and `always_iff` names the call that is to blame.
-/

namespace Trace

variable {σ α : Type*} (step : σ → α → Option σ) (ok : σ → α → Prop)

/-- The state after a sequence of calls. -/
def run : σ → List α → Option σ
  | s, [] => some s
  | s, a :: l => (step s a).bind fun s' => run s' l

/-- Every call that is reached is allowed. -/
def Always : σ → List α → Prop
  | _, [] => True
  | s, a :: l => ok s a ∧ ∀ s', step s a = some s' → Always s' l

variable {step ok} {s s' : σ} {a : α} {l l' : List α}

theorem run_append : run step s (l ++ l') = (run step s l).bind fun s' => run step s' l' := by
  induction l generalizing s with
  | nil => rfl
  | cons a l ih =>
    simp only [run, List.cons_append]
    cases step s a with
    | none => rfl
    | some s1 => exact ih

theorem always_append : Always step ok s (l ++ l') ↔ Always step ok s l ∧ ∀ s', run step s l = some s' →
    Always step ok s' l' := by
  induction l generalizing s with
  | nil => simp [Always, run]
  | cons a l ih =>
    simp only [Always, run, List.cons_append, ih]
    cases hstep : step s a with
    | none => simp
    | some s1 => simp [and_assoc]

/-- A sequence is allowed exactly if each of its calls is, in the state in which it is reached. -/
theorem always_iff : Always step ok s l ↔ ∀ pre b post s', l = pre ++ b :: post → run step s pre = some s' → ok s' b := by
  constructor
  · rintro h pre b post s' rfl hrun
    exact ((always_append.1 h).2 s' hrun).1
  · intro h
    induction l generalizing s with
    | nil => trivial
    | cons a l ih =>
      refine ⟨h [] a l s rfl rfl, fun s1 hs1 => ih fun pre b post s' heq hrun => ?_⟩
      refine h (a :: pre) b post s' (by rw [heq]; rfl) ?_
      simpa [run, hs1] using hrun

/-- What every call of a sequence keeps, the sequence keeps. -/
theorem run_invariant {I : σ → Prop} (hstep : ∀ s s' a, a ∈ l → I s → step s a = some s' → I s') (hs : I s)
    (hrun : run step s l = some s') : I s' := by
  induction l generalizing s with
  | nil => exact Option.some.inj hrun ▸ hs
  | cons a l ih =>
    obtain ⟨s1, hs1, hrest⟩ := Option.bind_eq_some_iff.1 hrun
    exact ih (fun t t' b hb => hstep t t' b (List.mem_cons_of_mem a hb)) (hstep s s1 a List.mem_cons_self hs hs1) hrest

/-- If the calls keep an invariant under which they are allowed, the sequence is allowed. -/
theorem always_of_invariant {I : σ → Prop} (hok : ∀ s a, a ∈ l → I s → ok s a)
    (hstep : ∀ s s' a, a ∈ l → I s → step s a = some s' → I s') (hs : I s) : Always step ok s l := by
  refine always_iff.2 fun pre b post s' heq hrun => hok s' b (by simp [heq]) ?_
  exact run_invariant (fun t t' a ha => hstep t t' a (by simp [heq, ha])) hs hrun

end Trace
