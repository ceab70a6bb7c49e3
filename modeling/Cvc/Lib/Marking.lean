import Mathlib.Data.Finset.Card

/-!
# Marking by depth-first search

A search that marks elements and goes on from each new one. `Extends step R m m'` says what such a search does to the marks:
nothing is unmarked, only elements of `R` are marked, and every step from a new mark leads to a mark. A search that is made of
searches is one (`Extends.trans`, `foldlM_extends`). The elements that are left to mark (`left`) bound the depth of the recursion.
-/

namespace Marking

variable {α β ε : Type*} {step : α → α → Prop} {R R' : α → Prop} {m m' m'' : α → Bool} {U : Finset α} {x : α}

/-- The marks after a search. -/
structure Extends (step : α → α → Prop) (R : α → Prop) (m m' : α → Bool) : Prop where
  mono : ∀ x, m x = true → m' x = true
  sound : ∀ x, m' x = true → m x = true ∨ R x
  closed : ∀ x, m' x = true → m x = false → ∀ y, step x y → m' y = true

theorem Extends.refl (m : α → Bool) : Extends step R m m where
  mono _ h := h
  sound _ h := .inl h
  closed _ h h' := nomatch h.symm.trans h'

theorem Extends.trans (h : Extends step R m m') (h' : Extends step R m' m'') : Extends step R m m'' where
  mono x hx := h'.mono x (h.mono x hx)
  sound x hx := (h'.sound x hx).elim (h.sound x) .inr
  closed x hx hm y hy := by
    cases hx' : m' x with
    | true => exact h'.mono y (h.closed x hx' hm y hy)
    | false => exact h'.closed x hx hx' y hy

theorem Extends.weaken (h : Extends step R m m') (hR : ∀ x, R x → R' x) : Extends step R' m m' :=
  ⟨h.mono, fun x hx => (h.sound x hx).imp_right (hR x), h.closed⟩

/-- A loop of searches. What each of them leaves marked stays so. -/
theorem foldlM_extends {f : (α → Bool) → β → Except ε (α → Bool)} {I : (α → Bool) → Prop} {Q : β → (α → Bool) → Prop} {l : List β}
    (hI : ∀ m m', (∀ x, m x = true → m' x = true) → I m → I m') (hQ : ∀ b m m', (∀ x, m x = true → m' x = true) → Q b m → Q b m')
    (hf : ∀ b ∈ l, ∀ m, I m → ∃ m', f m b = .ok m' ∧ Extends step R m m' ∧ Q b m') (hm : I m) :
    ∃ m', l.foldlM f m = .ok m' ∧ Extends step R m m' ∧ ∀ b ∈ l, Q b m' := by
  induction l generalizing m with
  | nil => exact ⟨m, rfl, .refl m, nofun⟩
  | cons b l ih =>
    obtain ⟨m1, hrun1, hext1, hQ1⟩ := hf b List.mem_cons_self m hm
    obtain ⟨m2, hrun2, hext2, hQ2⟩ := ih (fun b hb => hf b (List.mem_cons_of_mem _ hb)) (hI m m1 hext1.mono hm)
    refine ⟨m2, ?_, hext1.trans hext2, fun b' hb' => ?_⟩
    · rw [List.foldlM_cons, hrun1]
      exact hrun2
    · rcases List.mem_cons.1 hb' with rfl | hb'
      · exact hQ _ _ _ hext2.mono hQ1
      · exact hQ2 b' hb'

/-- The number of elements that are not marked. -/
def left (U : Finset α) (m : α → Bool) : Nat := (U.filter fun x => m x = false).card

theorem left_le (U : Finset α) (m : α → Bool) : left U m ≤ U.card := Finset.card_filter_le _ _

theorem left_mono (h : ∀ x, m x = true → m' x = true) : left U m' ≤ left U m := by
  refine Finset.card_le_card fun x hx => ?_
  rw [Finset.mem_filter] at hx ⊢
  refine ⟨hx.1, ?_⟩
  by_contra hm
  have := h x (by simpa using hm)
  rw [hx.2] at this
  nomatch this

theorem left_lt (h : ∀ x, m x = true → m' x = true) (hx : x ∈ U) (hm : m x = false) (hm' : m' x = true) :
    left U m' < left U m := by
  refine Finset.card_lt_card ⟨fun y hy => ?_, fun hsub => ?_⟩
  · rw [Finset.mem_filter] at hy ⊢
    exact ⟨hy.1, Bool.eq_false_iff.2 fun hy' => nomatch hy.2.symm.trans (h y hy')⟩
  · have := hsub (Finset.mem_filter.2 ⟨hx, hm⟩)
    simp [hm'] at this

theorem left_update_lt [DecidableEq α] (hx : x ∈ U) (hm : m x = false) : left U (Function.update m x true) < left U m :=
  left_lt (fun y hy => by by_cases hyx : y = x <;> simp [hyx, hy]) hx hm (Function.update_self ..)

end Marking
