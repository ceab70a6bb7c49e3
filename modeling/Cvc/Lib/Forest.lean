import Mathlib.Algebra.BigOperators.Group.List.Basic
import Mathlib.Algebra.GroupWithZero.Nat

/-!
# Forests of pointers

A table of links `next : α → α` in which a node that links to itself is a root. `Chain next a p` says that following the
links from `a` visits the nodes of `p`, in order, and stops at a root. The statements below say what re-pointing one node does
to the chains of the others: a chain that does not pass through the node keeps its nodes, and when no other node links to it
no other chain passes through it. A chain that does pass through it goes on along the chain of the node it points to now, which
must not come back to it (`Chain.update`); with weights on the links, no chain gets heavier if that of the node does not.
-/

namespace Forest

open List Function

variable {α : Type*} {next : α → α} {a b : α} {p q : List α}

/-- Following `next` from `a` visits exactly the nodes of the list, in order; the last one is a root. -/
inductive Chain (next : α → α) : α → List α → Prop where
  | root {a : α} (h : next a = a) : Chain next a [a]
  | link {a : α} {p : List α} (h : next a ≠ a) (hp : Chain next (next a) p) : Chain next a (a :: p)

/-- Some other node links to `a`. -/
def LedTo (next : α → α) (a : α) : Prop := ∃ b, b ≠ a ∧ next b = a

theorem Chain.ne_nil (h : Chain next a p) : p ≠ [] := by
  cases h <;> simp

theorem Chain.head_mem (h : Chain next a p) : a ∈ p := by
  cases h <;> simp

/-- A chain is a root, or a node before the chain of the node it links to. -/
theorem Chain.eq_or (h : Chain next a p) : next a = a ∧ p = [a] ∨ next a ≠ a ∧ ∃ q, p = a :: q ∧ Chain next (next a) q := by
  cases h with
  | root h => exact .inl ⟨h, rfl⟩
  | link h hp => exact .inr ⟨h, _, rfl, hp⟩

/-- A node has one chain. -/
theorem Chain.unique (hp : Chain next a p) (hq : Chain next a q) : p = q := by
  induction hp generalizing q with
  | root h =>
    cases hq with
    | root _ => rfl
    | link h' _ => exact absurd h h'
  | link h _ ih =>
    cases hq with
    | root h' => exact absurd h' h
    | link _ hq' => rw [ih hq']

/-- Every node of a chain but the first is linked to by another node. -/
theorem Chain.ledTo_of_mem (h : Chain next a p) (hb : b ∈ p) (hne : b ≠ a) : LedTo next b := by
  induction h with
  | root _ =>
    rw [mem_singleton] at hb
    exact absurd hb hne
  | @link a p h hp ih =>
    rcases mem_cons.1 hb with hb | hb
    · exact absurd hb hne
    · by_cases hn : b = next a
      · exact ⟨a, hne.symm, hn.symm⟩
      · exact ih hb hn

/-- The chain from any node of a chain is the rest of it. -/
theorem Chain.tail_of_mem (h : Chain next a p) (hb : b ∈ p) : ∃ q, q <:+ p ∧ Chain next b q := by
  induction h with
  | @root a h =>
    rw [mem_singleton] at hb
    subst hb
    exact ⟨[b], suffix_refl _, .root h⟩
  | @link a p h hp ih =>
    rcases mem_cons.1 hb with rfl | hb
    · exact ⟨b :: p, suffix_refl _, .link h hp⟩
    · obtain ⟨q, hq, hc⟩ := ih hb
      exact ⟨q, hq.trans (suffix_cons a p), hc⟩

/-- A chain through nodes whose links two tables agree on is a chain of both tables. -/
theorem Chain.congr {next' : α → α} (h : Chain next a p) (he : ∀ b ∈ p, next' b = next b) : Chain next' a p := by
  induction h with
  | @root a h =>
    have ha := he a (mem_singleton_self a)
    exact .root (ha.trans h)
  | @link a p h hp ih =>
    have ha := he a mem_cons_self
    have hrest := ih fun b hb => he b (mem_cons_of_mem a hb)
    exact .link (by rw [ha]; exact h) (by rw [ha]; exact hrest)

/-- A chain does not come back to its first node. -/
theorem Chain.not_mem_of_link (h : next a ≠ a) (hp : Chain next (next a) p) : a ∉ p := by
  intro ha
  obtain ⟨q, hq, hc⟩ := hp.tail_of_mem ha
  have heq : q = a :: p := hc.unique (.link h hp)
  have hle := hq.length_le
  rw [heq, length_cons] at hle
  omega

/-- The chain of a node on a chain has the same end. -/
theorem Chain.getLast?_of_mem (hp : Chain next a p) (hb : b ∈ p) (hq : Chain next b q) : q.getLast? = p.getLast? := by
  obtain ⟨q', ⟨r, hr⟩, hc⟩ := hp.tail_of_mem hb
  obtain rfl := hq.unique hc
  rw [← hr, getLast?_append_of_ne_nil _ hq.ne_nil]

/-- The chain of a node on a chain weighs at most as much. -/
theorem Chain.sum_le_of_mem (hp : Chain next a p) (hb : b ∈ p) (hq : Chain next b q) (w : α → Nat) :
    (q.map w).sum ≤ (p.map w).sum := by
  obtain ⟨q', ⟨r, hr⟩, hc⟩ := hp.tail_of_mem hb
  obtain rfl := hq.unique hc
  rw [← hr, map_append, sum_append]
  omega

section Redirect
variable [DecidableEq α] {next : α → α} {a b n f : α} {p q : List α}

/-- A path whose part after `a` is replaced by `q`. -/
def redirect (a : α) (q : List α) : List α → List α
  | [] => []
  | x :: p => if x = a then a :: q else x :: redirect a q p

theorem mem_redirect {x : α} (hx : x ∈ redirect a q p) : x ∈ p ∨ x ∈ q := by
  induction p with
  | nil => cases hx
  | cons y p ih =>
    unfold redirect at hx
    split at hx
    · rename_i hya
      rcases mem_cons.1 hx with rfl | hx
      · exact .inl (hya ▸ mem_cons_self)
      · exact .inr hx
    · rcases mem_cons.1 hx with rfl | hx
      · exact .inl mem_cons_self
      · exact (ih hx).imp_left (mem_cons_of_mem y)

theorem getLast?_redirect (hp : p.getLast? = some f) (hq : a ∈ p → q.getLast? = some f) : (redirect a q p).getLast? = some f := by
  induction p with
  | nil => exact hp
  | cons x p ih =>
    unfold redirect
    split
    · rename_i hxa
      have hlast := hq (hxa ▸ mem_cons_self)
      have hne : q ≠ [] := by
        rintro rfl
        cases hlast
      rw [← singleton_append, getLast?_append_of_ne_nil _ hne]
      exact hlast
    · rename_i hxa
      cases p with
      | nil => exact hp
      | cons y p =>
        have hrest := ih (by simpa using hp) fun ha => hq (mem_cons_of_mem x ha)
        have hne : redirect a q (y :: p) ≠ [] := by
          intro hnil
          rw [hnil] at hrest
          cases hrest
        rw [← singleton_append, getLast?_append_of_ne_nil _ hne]
        exact hrest

/-- After `a` is pointed at a node whose chain does not pass through `a`, every chain goes on along it behind `a`. -/
theorem Chain.update (hp : Chain next n p) (hq : Chain next b q) (ha : a ∉ q) : Chain (update next a b) n (redirect a q p) := by
  have hqa : Chain (Function.update next a b) b q :=
    hq.congr fun x hx => update_of_ne (fun h : x = a => ha (h ▸ hx)) _ _
  have hba : Function.update next a b a ≠ a := by
    rw [update_self]
    exact fun h => ha (h ▸ hq.head_mem)
  induction hp with
  | @root n h =>
    unfold redirect
    split
    · rename_i hna
      subst hna
      exact Chain.link hba (by rwa [Function.update_self])
    · rename_i hna
      exact .root (by rwa [update_of_ne hna])
  | @link n p h hp ih =>
    unfold redirect
    split
    · rename_i hna
      subst hna
      exact Chain.link hba (by rwa [Function.update_self])
    · rename_i hna
      exact .link (by rwa [update_of_ne hna]) (by rwa [update_of_ne hna])

/-- If the chain of `a` gets no heavier, no chain does. -/
theorem Chain.sum_redirect_le {w w' : α → Nat} {r : List α} (hp : Chain next n p) (hr : Chain next a r)
    (hw : ∀ x, x ≠ a → w' x = w x) (hle : w' a + (q.map w').sum ≤ (r.map w).sum) :
      ((redirect a q p).map w').sum ≤ (p.map w).sum := by
  induction hp with
  | @root n h =>
    unfold redirect
    split
    · rename_i hna
      subst hna
      rw [hr.unique (.root h)] at hle
      simpa using hle
    · rename_i hna
      simp [redirect, hw n hna]
  | @link n p h hp ih =>
    unfold redirect
    split
    · rename_i hna
      subst hna
      rw [hr.unique (.link h hp)] at hle
      simpa using hle
    · rename_i hna
      simpa [hw n hna] using ih

end Redirect
end Forest
