import Mathlib.Order.Nat

/-!
# Forests of descending links

A map of the natural numbers in which no number is linked to a greater one is a forest: following the links from a number goes
down to a root. Two numbers are in the same class when they have the same root, and linking one root to a smaller one merges the
two classes (`root_link`). If the classes are those that a relation generates, then after a link they are those that it generates
with one more pair (`root_eq_iff_link`).
-/

namespace DescendingForest

open Function

variable (parent : Nat → Nat)

/-- Go down the links for a number of rounds. -/
def rootLoop : Nat → Nat → Nat
  | 0, n => n
  | rounds + 1, n => if parent n < n then rootLoop rounds (parent n) else n

/-- The end of the links that go down from a number: there are at most as many as its value. -/
def root (n : Nat) : Nat := rootLoop parent n n

/-- No link goes up. -/
def Descends : Prop := ∀ n, parent n ≤ n

variable {parent}

theorem rootLoop_eq {rounds n : Nat} (h : n ≤ rounds) : rootLoop parent rounds n = root parent n := by
  unfold root
  induction n using Nat.strongRecOn generalizing rounds with
  | ind n ih =>
    cases n with
    | zero =>
      cases rounds with
      | zero => rfl
      | succ rounds => exact if_neg (Nat.not_lt_zero _)
    | succ n =>
      obtain ⟨rounds, rfl⟩ := Nat.exists_eq_add_of_le' (Nat.one_le_of_lt h)
      rw [rootLoop, rootLoop]
      split
      case isTrue hlt => exact (ih _ hlt (by omega)).trans (ih _ hlt (by omega)).symm
      case isFalse => rfl

theorem root_of_lt {n : Nat} (h : parent n < n) : root parent n = root parent (parent n) := by
  obtain ⟨k, rfl⟩ := Nat.exists_eq_add_of_le' (Nat.one_le_of_lt h)
  rw [root, rootLoop, if_pos h, rootLoop_eq (Nat.le_of_lt_succ h)]

theorem root_of_not_lt {n : Nat} (h : ¬parent n < n) : root parent n = n := by
  cases n with
  | zero => rfl
  | succ n => rw [root, rootLoop, if_neg h]

theorem root_of_eq {n : Nat} (h : parent n = n) : root parent n = n :=
  root_of_not_lt (by omega)

theorem root_le (n : Nat) : root parent n ≤ n := by
  induction n using Nat.strongRecOn with
  | ind n ih =>
    by_cases h : parent n < n
    · rw [root_of_lt h]
      exact (ih _ h).trans h.le
    · rw [root_of_not_lt h]

theorem Descends.parent_root (hparent : Descends parent) (n : Nat) : parent (root parent n) = root parent n := by
  induction n using Nat.strongRecOn with
  | ind n ih =>
    by_cases h : parent n < n
    · rw [root_of_lt h, ih _ h]
    · rw [root_of_not_lt h]
      exact le_antisymm (hparent n) (Nat.not_lt.1 h)

theorem Descends.root_root (hparent : Descends parent) (n : Nat) : root parent (root parent n) = root parent n :=
  root_of_eq (hparent.parent_root n)

/-- Only the links below a number decide where it leads. -/
theorem root_congr {parent' : Nat → Nat} {n : Nat} (h : ∀ m ≤ n, parent' m = parent m) : root parent' n = root parent n := by
  induction n using Nat.strongRecOn with
  | ind n ih =>
    by_cases hlt : parent n < n
    · have hlt' : parent' n < n := by rwa [h n le_rfl]
      rw [root_of_lt hlt, root_of_lt hlt', h n le_rfl, ih _ hlt fun m hm => h m (hm.trans hlt.le)]
    · have hlt' : ¬parent' n < n := by rwa [h n le_rfl]
      rw [root_of_not_lt hlt, root_of_not_lt hlt']

/-- A pair within a class generates no other classes. -/
theorem root_eq_iff_of_root_eq {r : Nat → Nat → Prop} (h : ∀ n m, root parent n = root parent m ↔ Relation.EqvGen r n m)
    {a b : Nat}
    (hab : root parent a = root parent b) (n m : Nat) :
    root parent n = root parent m ↔ Relation.EqvGen (fun x y => r x y ∨ x = a ∧ y = b) n m := by
  constructor
  · exact fun hroot => .mono (fun _ _ => .inl) _ _ ((h n m).1 hroot)
  · refine fun hgen => (eq_equivalence.comap (root parent)).eqvGen_iff.1 (.mono (fun x y hxy => ?_) n m hgen)
    rcases hxy with hxy | ⟨rfl, rfl⟩
    · exact (h x y).2 (.rel x y hxy)
    · exact hab

/-! ## Linking two roots -/

section
variable {lesser greater : Nat}

theorem Descends.link (hparent : Descends parent) (hlt : lesser < greater) : Descends (update parent greater lesser) := by
  intro n
  by_cases h : n = greater
  · rw [h, update_self]
    exact hlt.le
  · rw [update_of_ne h]
    exact hparent n

/-- Linking a root to a smaller one takes its class there, and no other. -/
theorem root_link (hlesser : parent lesser = lesser) (hgreater : parent greater = greater) (hlt : lesser < greater) (n : Nat) :
    root (update parent greater lesser) n = if root parent n = greater then lesser else root parent n := by
  induction n using Nat.strongRecOn with
  | ind n ih =>
    by_cases hn : n = greater
    · subst hn
      have hstep : update parent n lesser n < n := by rwa [update_self]
      rw [root_of_lt hstep, update_self, ih lesser hlt, root_of_eq hlesser, root_of_eq hgreater, if_neg hlt.ne, if_pos rfl]
    · have hsame : update parent greater lesser n = parent n := update_of_ne hn _ _
      by_cases h : parent n < n
      · rw [root_of_lt (by rwa [hsame]), hsame, ih _ h, root_of_lt h]
      · rw [root_of_not_lt (by rwa [hsame]), root_of_not_lt h, if_neg hn]

/-- The classes after a link are those generated by one more pair of numbers of the two classes. -/
theorem root_eq_iff_link {r : Nat → Nat → Prop} (h : ∀ n m, root parent n = root parent m ↔ Relation.EqvGen r n m)
    (hparent : Descends parent) {a b : Nat} (hlt : lesser < greater)
    (hab : (root parent a = lesser ∧ root parent b = greater) ∨ (root parent a = greater ∧ root parent b = lesser)) (n m : Nat) :
    root (update parent greater lesser) n = root (update parent greater lesser) m ↔
      Relation.EqvGen (fun x y => r x y ∨ x = a ∧ y = b) n m := by
  have hroots : parent lesser = lesser ∧ parent greater = greater := by
    rcases hab with ⟨rfl, rfl⟩ | ⟨rfl, rfl⟩
    · exact ⟨hparent.parent_root _, hparent.parent_root _⟩
    · exact ⟨hparent.parent_root _, hparent.parent_root _⟩
  have hlink := root_link hroots.1 hroots.2 hlt
  have hmono : ∀ {x y}, root parent x = root parent y → Relation.EqvGen (fun x y => r x y ∨ x = a ∧ y = b) x y :=
    fun hxy => .mono (fun _ _ => .inl) _ _ ((h _ _).1 hxy)
  constructor
  · -- the new pair connects every number of the greater class with every number of the lesser one
    have hacross : ∀ {x y}, root parent x = greater → root parent y = lesser →
        Relation.EqvGen (fun x y => r x y ∨ x = a ∧ y = b) x y := by
      intro x y hx hy
      rcases hab with ⟨ha, hb⟩ | ⟨ha, hb⟩
      · exact (hmono (hx.trans hb.symm)).trans _ _ _ (((Relation.EqvGen.rel _ _ (.inr ⟨rfl, rfl⟩)).symm _ _).trans _ _ _
          (hmono (ha.trans hy.symm)))
      · exact (hmono (hx.trans ha.symm)).trans _ _ _ ((Relation.EqvGen.rel _ _ (.inr ⟨rfl, rfl⟩)).trans _ _ _
          (hmono (hb.trans hy.symm)))
    rw [hlink, hlink]
    split <;> split
    case isTrue.isTrue hn hm => exact fun _ => hmono (hn.trans hm.symm)
    case isTrue.isFalse hn hm => exact fun hroot => hacross hn hroot.symm
    case isFalse.isTrue hn hm => exact fun hroot => (hacross hm hroot).symm _ _
    case isFalse.isFalse => exact hmono
  · refine fun hgen => (eq_equivalence.comap (root (update parent greater lesser))).eqvGen_iff.1
      (.mono (fun x y hxy => ?_) n m hgen)
    show root _ x = root _ y
    rw [hlink, hlink]
    rcases hxy with hxy | ⟨rfl, rfl⟩
    · rw [(h x y).2 (.rel x y hxy)]
    · rcases hab with ⟨ha, hb⟩ | ⟨ha, hb⟩
      · rw [ha, hb, if_pos rfl, if_neg hlt.ne]
      · rw [ha, hb, if_pos rfl, if_neg hlt.ne]

end
end DescendingForest
