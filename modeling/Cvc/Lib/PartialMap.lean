import Mathlib.Algebra.Group.Nat.Even
import Mathlib.Data.Finset.Card

/-!
# Graphs of partial maps

A partial map `next : α → Option α` is a graph in which every node has at most one edge out. `steps` follows it for a number of
edges, and a `Path` goes along edges in either direction. Two nodes that a path connects have walks that meet (`Path.meet`), so if
every cycle is even the graph has two colours (`exists_coloring`).

`sampledWalk` follows the map from a node and remembers every `period`-th node: it stops at a node with no edge and at a node it
remembers. On a finite set of nodes it always stops (`exists_sampledWalk`), however long the cycles are.
-/

namespace PartialMap

open List Nat Option

variable {α : Type*} (next : α → Option α)

/-- The node a number of edges further. -/
def steps : Nat → α → Option α
  | 0, x => some x
  | k + 1, x => (next x).bind (steps k)

/-- A path along the edges, in either direction, with its length. -/
inductive Path : α → α → Nat → Prop where
  | refl (x : α) : Path x x 0
  | forth {x y z : α} {k : Nat} : Path x y k → next y = some z → Path x z (k + 1)
  | back {x y z : α} {k : Nat} : Path x y k → next z = some y → Path x z (k + 1)

/-- Every cycle has an even number of edges. -/
def NoOddCycle : Prop := ∀ x k, steps next k x = some x → Even k

section
variable {next} {x y z : α} {k i j l : Nat}

theorem steps_add (i j : Nat) (x : α) : steps next (i + j) x = (steps next i x).bind (steps next j) := by
  induction i generalizing x with
  | zero => rw [zero_add]; rfl
  | succ i ih =>
    rw [succ_add, steps, steps]
    cases next x with
    | none => rfl
    | some y => exact ih y

theorem steps_succ_of_next (h : next x = some y) (k : Nat) : steps next (k + 1) x = steps next k y := by
  rw [steps, h]
  rfl

theorem steps_succ_eq_some : steps next (k + 1) x = some z ↔ ∃ y, next x = some y ∧ steps next k y = some z := bind_eq_some_iff

theorem steps_succ_of_steps (h : steps next i x = some y) (hz : next y = some z) : steps next (i + 1) x = some z := by
  rw [steps_add, h]
  show steps next 1 y = some z
  rw [steps_succ_of_next hz]
  rfl

/-- A node that has no edge, or only one to itself, leads nowhere else. -/
theorem eq_of_steps (hx : next x = none ∨ next x = some x) (h : steps next k x = some y) : y = x := by
  induction k with
  | zero => exact (some.inj h).symm
  | succ k ih =>
    rcases hx with hx | hx
    · rw [steps, hx] at h
      exact nomatch h
    · rw [steps_succ_of_next hx] at h
      exact ih h

theorem steps_eq_none_of_le (hi : steps next i x = none) (hij : i ≤ j) : steps next j x = none := by
  obtain ⟨k, rfl⟩ := Nat.exists_eq_add_of_le hij
  rw [steps_add, hi]
  rfl

/-- The walk between two visits of a node is a cycle. -/
theorem steps_sub_of_steps (hi : steps next i x = some y) (hj : steps next j x = some y) (hij : i ≤ j) :
    steps next (j - i) y = some y := by
  have := @steps_add _ next i (j - i) x
  rwa [Nat.add_sub_cancel' hij, hi, hj, eq_comm] at this

theorem Path.trans (h : Path next x y k) (h' : Path next y z l) : Path next x z (k + l) := by
  induction h' with
  | refl => exact h
  | forth _ hz ih => exact .forth ih hz
  | back _ hz ih => exact .back ih hz

theorem Path.symm (h : Path next x y k) : Path next y x k := by
  induction h with
  | refl => exact .refl _
  | @forth y z k _ hz ih =>
    have := (Path.back (.refl z) hz).trans ih
    rwa [add_comm 1 k] at this
  | @back y z k _ hz ih =>
    have := (Path.forth (.refl z) hz).trans ih
    rwa [add_comm 1 k] at this

theorem Path.of_steps (h : steps next k x = some y) : Path next x y k := by
  induction k generalizing x with
  | zero => exact some.inj h ▸ .refl x
  | succ k ih =>
    obtain ⟨z, hx, h⟩ := steps_succ_eq_some.1 h
    have := (Path.forth (.refl x) hx).trans (ih h)
    rwa [add_comm] at this

/-- The walks from two connected nodes meet, and the lengths to the meeting node have the parity of the path. -/
theorem Path.meet (h : Path next x y k) : ∃ i j w, steps next i x = some w ∧ steps next j y = some w ∧ Even (i + j + k) := by
  induction h with
  | refl => exact ⟨0, 0, _, rfl, rfl, even_iff.2 rfl⟩
  | @forth y z k _ hz ih =>
    obtain ⟨i, j, w, hi, hj, heven⟩ := ih
    cases j with
    | zero =>
      refine ⟨i + 1, 0, z, steps_succ_of_steps hi (some.inj hj ▸ hz), rfl, ?_⟩
      rw [even_iff] at *
      omega
    | succ j =>
      rw [steps_succ_of_next hz] at hj
      refine ⟨i, j, w, hi, hj, ?_⟩
      rw [even_iff] at *
      omega
  | back _ hz ih =>
    obtain ⟨i, j, w, hi, hj, heven⟩ := ih
    refine ⟨i, j + 1, w, hi, (steps_succ_of_next hz j).trans hj, ?_⟩
    rw [even_iff] at *
    omega

/-! ## Two colours -/

section
variable (hnext : NoOddCycle next)
include hnext

/-- A closed path has an even length if every cycle has. -/
theorem NoOddCycle.even_of_closed (h : Path next x x k) : Even k := by
  obtain ⟨i, j, w, hi, hj, heven⟩ := h.meet
  rcases le_total i j with hij | hij
  · have hcycle : Even (j - i) := hnext w _ (steps_sub_of_steps hi hj hij)
    rw [even_iff] at *
    omega
  · have hcycle : Even (i - j) := hnext w _ (steps_sub_of_steps hj hi hij)
    rw [even_iff] at *
    omega

/-- Two paths between the same nodes have lengths of the same parity. -/
theorem NoOddCycle.even_iff (h : Path next x y k) (h' : Path next x y l) : Even k ↔ Even l := by
  have := hnext.even_of_closed (h.trans h'.symm)
  rw [Nat.even_iff] at *
  rw [Nat.even_iff]
  omega

/-- Two walks from a node to a node have lengths of the same parity. -/
theorem NoOddCycle.even_iff_of_steps (hi : steps next i x = some y)
    (hj : steps next j x = some y) : Even i ↔ Even j := hnext.even_iff (.of_steps hi) (.of_steps hj)

/-- A walk that has come back to a node has passed every node further on, after a number of edges of the same parity. -/
theorem NoOddCycle.exists_lt_of_repeat (hj : steps next j x = some y)
    (hi : steps next i x = some y) (hij : j < i) (hk : steps next k x = some z) :
    ∃ k' < i, steps next k' x = some z ∧ (Even k' ↔ Even k) := by
  induction k using Nat.strongRecOn with
  | _ k ih =>
    by_cases hlt : k < i
    · exact ⟨k, hlt, hk, .rfl⟩
    -- one cycle less
    have hless : steps next (j + (k - i)) x = some z := by
      rw [steps_add, hj, ← hi, ← steps_add, Nat.add_sub_cancel' (Nat.le_of_not_lt hlt), hk]
    obtain ⟨k', hk', hsteps, heven⟩ := ih (j + (k - i)) (by omega) hless
    exact ⟨k', hk', hsteps, hnext.even_iff_of_steps hsteps hk⟩

end

/-- A walk on a finite set of nodes ends or comes back, after an even number of edges both times. -/
theorem exists_repeat {nodes : Finset α} (hclosed : ∀ x ∈ nodes, ∀ y, next x = some y → y ∈ nodes) (hx : x ∈ nodes) :
    ∃ i, steps next i x = none ∨ ∃ j < i, Even j ∧ ∃ y, steps next j x = some y ∧ steps next i x = some y := by
  by_contra hnone
  push Not at hnone
  have hmem : ∀ i y, steps next i x = some y → y ∈ nodes := by
    intro i
    induction i with
    | zero =>
      intro y hy
      exact some.inj hy ▸ hx
    | succ i ih =>
      intro y hy
      obtain ⟨z, hz⟩ := ne_none_iff_exists'.1 (hnone i).1
      rw [steps_add, hz] at hy
      refine hclosed z (ih z hz) y ?_
      simpa [steps] using hy
  choose node hnode using fun i => ne_none_iff_exists'.1 (hnone i).1
  obtain ⟨i, _, j, _, hne, heq⟩ := Finset.exists_ne_map_eq_of_card_lt_of_maps_to (s := Finset.range (nodes.card + 1)) (t := nodes)
    (by simp) (f := fun i => node (2 * i)) fun i _ => hmem _ _ (hnode (2 * i))
  have hcontra : ∀ i j, i < j → node (2 * i) ≠ node (2 * j) := by
    intro i j hij heq
    refine (hnone (2 * j)).2 (2 * i) (by omega) ⟨i, Nat.two_mul i⟩ _ (hnode (2 * i)) ?_
    rw [heq]
    exact hnode (2 * j)
  rcases lt_or_gt_of_ne hne with h | h
  · exact hcontra i j h heq
  · exact hcontra j i h heq.symm

/-- The nodes of a graph without odd cycles have two colours such that every edge has both. -/
theorem exists_coloring (hnext : NoOddCycle next) : ∃ color : α → Bool, ∀ x y, next x = some y → color x = !color y := by
  classical
  let connected : Setoid α :=
    { r := fun x y => ∃ k, Path next x y k
      iseqv :=
        { refl := fun x => ⟨0, .refl x⟩
          symm := fun ⟨k, h⟩ => ⟨k, h.symm⟩
          trans := fun ⟨k, h⟩ ⟨l, h'⟩ => ⟨k + l, h.trans h'⟩ } }
  let center (x : α) : α := (Quotient.mk connected x).out
  have hcenter : ∀ x, ∃ k, Path next (center x) x k := fun x => Quotient.mk_out (s := connected) x
  choose distance hdistance using hcenter
  refine ⟨fun x => decide (Even (distance x)), fun x y hxy => ?_⟩
  have hsame : center x = center y :=
    congrArg Quotient.out (Quotient.sound (s := connected) ⟨1, .forth (.refl x) hxy⟩)
  have hy := hdistance y
  rw [← hsame] at hy
  have hiff := hnext.even_iff (.forth (hdistance x) hxy) hy
  rw [even_add_one] at hiff
  by_cases heven : Even (distance y)
  · simp [heven, hiff.2 heven]
  · simp [heven, not_not.1 (mt hiff.1 heven)]

/-- A graph with two such colours has no odd cycle. -/
theorem noOddCycle_of_coloring {color : α → Bool} (hcolor : ∀ x y, next x = some y → color x = !color y) : NoOddCycle next := by
  have hsteps : ∀ k x y, steps next k x = some y → (color x = color y ↔ Even k) := by
    intro k
    induction k with
    | zero =>
      intro x y h
      cases h
      simp
    | succ k ih =>
      intro x y h
      obtain ⟨z, hz, h⟩ := steps_succ_eq_some.1 h
      rw [hcolor x z hz, even_add_one, ← ih z y h]
      cases color z <;> cases color y <;> simp
  exact fun x k h => (hsteps k x x h).1 rfl

/-! ## Graphs without cycles -/

/-- No node is further on from itself. -/
def Acyclic (next : α → Option α) : Prop := ∀ x k, steps next (k + 1) x ≠ some x

theorem Acyclic.noOddCycle (h : Acyclic next) : NoOddCycle next := by
  intro x k hk
  cases k with
  | zero => exact even_iff.2 rfl
  | succ k => exact absurd hk (h x k)

/-- The end of the walk from a node, and its distance, are unique. -/
theorem steps_end_unique {r r' : α} (hi : steps next i x = some r) (hj : steps next j x = some r') (hr : next r = none)
    (hr' : next r' = none) : i = j ∧ r = r' := by
  induction i generalizing x j with
  | zero =>
    cases hi
    cases j with
    | zero =>
      cases hj
      exact ⟨rfl, rfl⟩
    | succ j =>
      rw [steps, hr] at hj
      exact nomatch hj
  | succ i ih =>
    obtain ⟨y, hy, hi⟩ := steps_succ_eq_some.1 hi
    cases j with
    | zero =>
      cases hj
      exact nomatch hr' ▸ hy
    | succ j =>
      rw [steps_succ_of_next hy] at hj
      obtain ⟨rfl, rfl⟩ := ih hi hj
      exact ⟨rfl, rfl⟩

end

/-! ## Walks -/

/-- What a walk is: the nodes passed are linked in order, and it stops at a node without an edge or at one it has seen. -/
inductive Walk : List α → α → List α → α → Prop where
  | root {seen : List α} {x : α} (h : next x = none) : Walk seen x [] x
  | seen {seen : List α} {x : α} (h : x ∈ seen) : Walk seen x [] x
  | step {seen seen' : List α} {x y z : α} {passed : List α} (hsub : seen' ⊆ x :: seen) (hy : next x = some y)
      (h : Walk seen' y passed z) : Walk seen x (x :: passed) z

section
variable {next} {passed seen : List α} {x z w y : α}

section
variable (h : Walk next seen x passed z)
include h

theorem Walk.exists_steps : steps next passed.length x = some z := by
  induction h with
  | root | seen => rfl
  | step _ hy _ ih => exact (steps_succ_of_next hy _).trans ih

/-- The node where a walk stops is further on from every node it passes. -/
theorem Walk.exists_steps_of_mem (hw : w ∈ passed) : ∃ k, steps next (k + 1) w = some z := by
  induction h with
  | root | seen => exact nomatch hw
  | step hsub hy h ih =>
    rcases mem_cons.1 hw with rfl | hw
    · exact ⟨_, (Walk.step hsub hy h).exists_steps⟩
    · exact ih hw

theorem Walk.exists_next (hw : w ∈ passed) : ∃ y, next w = some y := by
  induction h with
  | root | seen => exact nomatch hw
  | step _ hy _ ih =>
    rcases mem_cons.1 hw with rfl | hw
    · exact ⟨_, hy⟩
    · exact ih hw

/-- A walk that passes a node arrives by an edge. -/
theorem Walk.exists_last (hw : w ∈ passed) : ∃ y, next y = some z := by
  induction h generalizing w with
  | root | seen => exact nomatch hw
  | step _ hy h ih =>
    cases h with
    | root | seen => exact ⟨_, hy⟩
    | step => exact ih mem_cons_self

theorem Walk.stop : next z = none ∨ z ∈ seen ∨ z ∈ passed := by
  induction h with
  | root h => exact .inl h
  | seen h => exact .inr (.inl h)
  | step hsub _ _ ih =>
    rcases ih with h | h | h
    · exact .inl h
    · rcases mem_cons.1 (hsub h) with rfl | h
      · exact .inr (.inr mem_cons_self)
      · exact .inr (.inl h)
    · exact .inr (.inr (mem_cons_of_mem _ h))

/-- An edge from a node that a walk passes leads to another one or to where it stops. -/
theorem Walk.next_mem (hw : w ∈ passed) (hy : next w = some y) : y ∈ passed ∨ y = z := by
  induction h with
  | root | seen => exact nomatch hw
  | step _ hx h ih =>
    rcases mem_cons.1 hw with rfl | hw
    · rw [hx] at hy
      cases hy
      cases h with
      | root | seen => exact .inr rfl
      | step => exact .inl (mem_cons_of_mem _ mem_cons_self)
    · exact (ih hw).imp_left (mem_cons_of_mem _)

end

/-- A walk that remembered nothing at first passes every node further on, or stops there. -/
theorem Walk.mem_of_steps (h : Walk next [] x passed z) {k : Nat} (hy : steps next k x = some y) : y ∈ passed ∨ y = z := by
  have hclosed : ∀ w, w ∈ passed ∨ w = z → ∀ v, next w = some v → v ∈ passed ∨ v = z := by
    rintro w (hw | rfl) v hv
    · exact h.next_mem hw hv
    · rcases h.stop with hnone | hseen | hpassed
      · exact nomatch hnone ▸ hv
      · exact nomatch hseen
      · exact h.next_mem hpassed hv
  have hstart : x ∈ passed ∨ x = z := by
    cases h with
    | root | seen => exact .inr rfl
    | step => exact .inl mem_cons_self
  clear h
  induction k generalizing x with
  | zero => exact some.inj hy ▸ hstart
  | succ k ih =>
    obtain ⟨v, hx, hy⟩ := steps_succ_eq_some.1 hy
    exact ih hy (hclosed x hstart v hx)

end

/-! ## Sampled walks -/

section
variable [DecidableEq α] (period : Nat) {x : α} {fuel count : Nat} {seen : List α} {nodes : Finset α}

/-- Follow the map from a node and remember every `period`-th node; the nodes passed and the node where the walk stops, if it
stops within the given number of edges. -/
def sampledWalk : Nat → List α → Nat → α → Option (List α × α)
  | fuel, seen, count, x =>
    match next x with
    | none => some ([], x)
    | some y =>
      if x ∈ seen then some ([], x)
      else
        match fuel with
        | 0 => none
        | fuel + 1 =>
          (sampledWalk fuel (if count % period = 0 then x :: seen else seen) (count + 1) y).map fun walk => (x :: walk.1, walk.2)

variable {next period}

theorem sampledWalk_stop (h : next x = none ∨ x ∈ seen) : sampledWalk next period fuel seen count x = some ([], x) := by
  unfold sampledWalk
  cases hy : next x with
  | none => rfl
  | some y => exact if_pos (h.resolve_left (by simp [hy]))

theorem stops_or_goes (next : α → Option α) (seen : List α) (x : α) : (next x = none ∨ x ∈ seen) ∨
    ∃ y, next x = some y ∧ x ∉ seen := by
  cases next x with
  | none => exact .inl (.inl rfl)
  | some y => exact (Decidable.em (x ∈ seen)).imp .inr fun h => ⟨y, rfl, h⟩

theorem sampledWalk_succ {y : α} (hy : next x = some y) (hx : x ∉ seen) : sampledWalk next period (fuel + 1) seen count x =
      (sampledWalk next period fuel (if count % period = 0 then x :: seen else seen) (count + 1) y).map
        fun walk => (x :: walk.1, walk.2) := by
  rw [sampledWalk]
  simp only [hy, hx, if_false]

theorem walk_of_sampledWalk {z : α} {passed : List α}
    (h : sampledWalk next period fuel seen count x = some (passed, z)) : Walk next seen x passed z := by
  induction fuel generalizing seen count x passed
  all_goals
    rcases stops_or_goes next seen x with hstop | ⟨y, hy, hx⟩
    · rw [sampledWalk_stop hstop] at h
      cases h
      exact hstop.elim .root .seen
  · rw [sampledWalk] at h
    simp [hy, hx] at h
  rename_i fuel ih
  rw [sampledWalk_succ hy hx, map_eq_some_iff] at h
  obtain ⟨⟨passed', z'⟩, hwalk, heq⟩ := h
  cases heq
  refine .step ?_ hy (ih hwalk)
  split
  · exact .refl _
  · exact subset_cons_self _ _

theorem length_lt_card (hnodup : seen.Nodup) (hseen : ∀ y ∈ seen, y ∈ nodes)
    (hx : x ∈ nodes) (hmem : x ∉ seen) : seen.length < nodes.card := by
  have hsub : (x :: seen).toFinset ⊆ nodes := by
    intro w hw
    rcases mem_cons.1 (mem_toFinset.1 hw) with rfl | hw
    · exact hx
    · exact hseen w hw
  have := Finset.card_le_card hsub
  rwa [toFinset_card_of_nodup (nodup_cons.2 ⟨hmem, hnodup⟩)] at this

/-- The edges left before the next node is remembered. -/
theorem gap_succ (hperiod : 0 < period) (h : count % period ≠ 0) :
    (period - (count + 1) % period) % period + 1 = (period - count % period) % period := by
  have hlt := mod_lt count hperiod
  rw [mod_eq_of_lt (by omega : period - count % period < period), add_mod]
  by_cases hlast : count % period + 1 = period
  · by_cases hone : period = 1
    · omega
    · rw [mod_eq_of_lt (by omega : 1 < period), hlast, mod_self, Nat.sub_zero, mod_self]
      omega
  · rw [mod_eq_of_lt (by omega : 1 < period), mod_eq_of_lt (by omega : count % period + 1 < period), mod_eq_of_lt (by omega)]
    omega

/-- A walk on a finite set of nodes stops: each period remembers one more node. -/
theorem exists_sampledWalk (hperiod : 0 < period) (hclosed : ∀ x ∈ nodes, ∀ y, next x = some y → y ∈ nodes) (hx : x ∈ nodes)
    (hnodup : seen.Nodup) (hseen : ∀ y ∈ seen, y ∈ nodes)
    (hfuel : (nodes.card - seen.length) * period + (period - count % period) % period ≤ fuel) :
    ∃ walk, sampledWalk next period fuel seen count x = some walk := by
  induction fuel generalizing seen count x
  all_goals
    rcases stops_or_goes next seen x with hstop | ⟨y, hy, hmem⟩
    · exact ⟨_, sampledWalk_stop hstop⟩
    have hlt := length_lt_card hnodup hseen hx hmem
  · have : 0 < (nodes.card - seen.length) * period := Nat.mul_pos (by omega) hperiod
    omega
  rename_i fuel ih
  rw [sampledWalk_succ hy hmem]
  by_cases hcount : count % period = 0
  · rw [if_pos hcount]
    have hmul : (nodes.card - seen.length) * period = (nodes.card - (seen.length + 1)) * period + period := by
      rw [show nodes.card - seen.length = nodes.card - (seen.length + 1) + 1 by omega, succ_mul]
    have hmod := mod_lt (period - (count + 1) % period) hperiod
    obtain ⟨walk, hwalk⟩ := @ih y (count + 1) (x :: seen) (hclosed x hx y hy) (nodup_cons.2 ⟨hmem, hnodup⟩)
      (forall_mem_cons.2 ⟨hx, hseen⟩) (by rw [length_cons]; omega)
    exact ⟨_, by rw [hwalk]; rfl⟩
  · rw [if_neg hcount]
    have hgap := gap_succ hperiod hcount
    obtain ⟨walk, hwalk⟩ := @ih y (count + 1) seen (hclosed x hx y hy) hnodup hseen (by omega)
    exact ⟨_, by rw [hwalk]; rfl⟩

/-- A walk that remembers nothing at first stops within a period for each node. -/
theorem exists_sampledWalk_nil (hperiod : 0 < period)
    (hclosed : ∀ x ∈ nodes, ∀ y, next x = some y → y ∈ nodes) (hfuel : nodes.card * period ≤ fuel)
    (hx : x ∈ nodes) : ∃ walk, sampledWalk next period fuel [] 0 x = some walk := by
  refine exists_sampledWalk hperiod hclosed hx nodup_nil nofun ?_
  rwa [length_nil, Nat.sub_zero, zero_mod, Nat.sub_zero, mod_self, add_zero]

/-- Without cycles every walk on a finite set of nodes ends at a node without an edge. -/
theorem Acyclic.exists_end (hnext : Acyclic next) (hclosed : ∀ x ∈ nodes, ∀ y, next x = some y → y ∈ nodes) (hx : x ∈ nodes) :
    ∃ k r, steps next k x = some r ∧ next r = none := by
  obtain ⟨⟨passed, r⟩, h⟩ := exists_sampledWalk_nil (by decide : 0 < 1) hclosed le_rfl hx
  have hwalk := walk_of_sampledWalk h
  refine ⟨passed.length, r, hwalk.exists_steps, ?_⟩
  rcases hwalk.stop with hr | hr | hr
  · exact hr
  · exact nomatch hr
  · obtain ⟨k, hk⟩ := hwalk.exists_steps_of_mem hr
    exact absurd hk (hnext r k)

end
end PartialMap
