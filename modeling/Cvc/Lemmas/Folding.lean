import Mathlib.Data.List.GetD
import Mathlib.Data.List.Induction
import Mathlib.Data.List.Nodup
import Mathlib.Data.List.Pairwise
import Cvc.Folding

/-!
# Visiting and folding the instance tree

The nodes are visited with a stack of nodes to come (`Visiting`), and a node that is visited is folded or kept (`Folds`). What one
visit leaves is said here once, in terms of the tree alone.
-/

namespace Cvc

open List

namespace Hierarchy

variable (h : Hierarchy) {p : List Nat} {name i lim : Nat} {d : CDevice} {tbl : FoldTable}

/-! ## Circuits -/

section
variable (hd : d ∈ (h.circuit name).subcircuitPtrV)
include hd

/-- A circuit with a subcircuit call is in the map. -/
theorem circuit_mem : h.circuitNameMap name = some (h.circuit name) := by
  cases hc : h.circuitNameMap name with
  | none => simp [Library.circuit, hc] at hd
  | some c => rw [Library.circuit_eq hc]

theorem rank_master_lt : h.rank d.masterName < h.rank name := h.rank_lt name _ (h.circuit_mem hd) d hd

/-- So is the circuit of the call. -/
theorem master_mem : h.circuitNameMap d.masterName = some (h.circuit d.masterName) := by
  obtain ⟨m, hm⟩ := Option.isSome_iff_exists.1 (h.master_found name _ (h.circuit_mem hd) d hd)
  rw [hm, Library.circuit_eq hm]

theorem signals_length : d.signalIdV.length = (h.circuit d.masterName).portCount :=
  h.ports_eq name _ (h.circuit_mem hd) d hd _ (h.master_mem hd)

end

theorem circuit_wellFormed (name : Nat) : (h.circuit name).WellFormed := by
  cases hc : h.circuitNameMap name with
  | none =>
    have : h.circuit name = {} := by simp [Library.circuit, hc]
    rw [this]
    exact ⟨Nat.le_refl 0, by simp, by simp⟩
  | some c =>
    rw [Library.circuit_eq hc]
    exact h.wellFormed name c hc

theorem callOf_mem (hi : i < h.width p) : h.callOf i p ∈ (h.circuitAt p).subcircuitPtrV := by
  unfold callOf
  rw [getD_eq_getElem _ _ hi]
  exact getElem_mem hi

/-- The circuit that a call makes an instance of is one of the hierarchy. -/
theorem masterOf_found (hp : h.IsNode p) : (h.circuitNameMap (h.masterOf p)).isSome := by
  cases p with
  | nil => exact h.top_found
  | cons i p => exact h.master_found _ _ (h.circuit_mem (h.callOf_mem hp.2)) _ (h.callOf_mem hp.2)

theorem masterOf_cons (i : Nat) (p : List Nat) : h.masterOf (i :: p) = (h.callOf i p).masterName := rfl

theorem rank_cons_lt (hi : i < h.width p) : h.rank (h.masterOf (i :: p)) < h.rank (h.masterOf p) :=
  h.rank_master_lt (h.callOf_mem hi)

/-- The circuit of a node below another one has a smaller rank. -/
theorem rank_lt_of_suffix {r : List Nat} (hp : h.IsNode p) (hr : r <:+ p) (hne : r ≠ p) :
    h.rank (h.masterOf p) < h.rank (h.masterOf r) := by
  induction p with
  | nil => exact absurd (suffix_nil.1 hr) hne
  | cons i p ih =>
    rcases suffix_cons_iff.1 hr with he | hr
    · exact absurd he hne
    · have hlt := h.rank_cons_lt hp.2
      rcases eq_or_ne r p with rfl | hne
      · exact hlt
      · exact Nat.lt_trans hlt (ih hp.1 hr hne)

/-! ## Visits -/

/-- The instances inside a node. -/
def children (p : List Nat) : List (List Nat) := (List.range (h.width p)).map (· :: p)

theorem mem_children {x : List Nat} : x ∈ h.children p ↔ ∃ i < h.width p, x = i :: p := by
  simp [children, eq_comm]

/-- The nodes `vis` have been visited and the nodes `pend` are to come. Nodes are visited before those inside them, and the
parents of the nodes to come are the open instances, innermost first. -/
structure Visiting (vis pend : List (List Nat)) : Prop where
  nodup : (vis ++ pend).Nodup
  root : [] ∈ vis
  child : ∀ p ∈ vis, ∀ i < h.width p, i :: p ∈ vis ++ pend
  parent : ∀ i p, i :: p ∈ vis ++ pend → p ∈ vis ∧ i < h.width p
  stack : pend.Pairwise fun x y => y.tail <:+ x.tail

namespace Visiting

variable {h} {vis rest pend : List (List Nat)} {p : List Nat} {x : List Nat}

theorem isNode (hv : h.Visiting vis pend) (hx : x ∈ vis ++ pend) : h.IsNode x := by
  induction x with
  | nil => trivial
  | cons i x ih =>
    obtain ⟨hm, hi⟩ := hv.parent i x hx
    exact ⟨ih (mem_append_left _ hm), hi⟩

section
variable (hv : h.Visiting vis (p :: rest))
include hv

theorem not_mem : p ∉ vis := by
  intro hp
  exact disjoint_of_nodup_append hv.nodup hp mem_cons_self

/-- The next node has a parent that has been visited. -/
theorem head_cons : ∃ i q, p = i :: q ∧ q ∈ vis ∧ i < h.width q := by
  cases p with
  | nil => exact absurd hv.root hv.not_mem
  | cons i q =>
    obtain ⟨hq, hi⟩ := hv.parent i q (by simp)
    exact ⟨i, q, rfl, hq, hi⟩

/-- The instances inside the next node are not known yet. -/
theorem children_not_mem (hx : x ∈ h.children p) : x ∉ vis ++ p :: rest := by
  obtain ⟨i, _, rfl⟩ := (h.mem_children).1 hx
  intro hm
  exact hv.not_mem (hv.parent i p hm).1

end

theorem nodup_children (p : List Nat) : (h.children p).Nodup := (nodup_range).map fun _ _ hij => (cons.inj hij).1

theorem children_stack (p : List Nat) : (h.children p).Pairwise fun x y => y.tail <:+ x.tail :=
  pairwise_map.2 (pairwise_of_forall fun _ _ => suffix_refl p)

theorem start : h.Visiting [[]] (h.children []) := by
  refine ⟨?_, by simp, ?_, ?_, children_stack []⟩
  · exact nodup_cons.2 ⟨by simp [children], nodup_children []⟩
  · intro p hp i hi
    obtain rfl := mem_singleton.1 hp
    exact mem_append_right _ ((h.mem_children).2 ⟨i, hi, rfl⟩)
  · intro i p hx
    rcases mem_append.1 hx with hx | hx
    · simp at hx
    · obtain ⟨j, hj, he⟩ := (h.mem_children).1 hx
      obtain ⟨rfl, rfl⟩ := cons.inj he
      exact ⟨by simp, hj⟩

theorem perm_visit (vis rest : List (List Nat)) (p : List Nat) :
    ((vis ++ [p]) ++ (h.children p ++ rest)).Perm ((vis ++ p :: rest) ++ h.children p) := by
  have : ((vis ++ [p]) ++ (h.children p ++ rest)).Perm ((vis ++ [p]) ++ (rest ++ h.children p)) :=
    (perm_append_comm).append_left _
  simpa using this

/-- A visit moves the next node to the visited ones and puts the instances inside it before the others. -/
theorem visit (hv : h.Visiting vis (p :: rest)) : h.Visiting (vis ++ [p]) (h.children p ++ rest) := by
  have hassoc : ∀ x, x ∈ (vis ++ [p]) ++ (h.children p ++ rest) ↔ x ∈ vis ++ p :: rest ∨ x ∈ h.children p := by
    intro x
    simp only [mem_append, mem_cons]
    tauto
  have hstack := pairwise_cons.1 hv.stack
  refine ⟨?_, by simp [hv.root], ?_, ?_, ?_⟩
  · refine (perm_visit ..).nodup_iff.2 (nodup_append.2 ⟨hv.nodup, ?_, ?_⟩)
    · exact nodup_children p
    · rintro x hx y hy rfl
      exact hv.children_not_mem hy hx
  · intro q hq i hi
    rw [hassoc]
    rcases mem_append.1 hq with hq | hq
    · exact .inl (hv.child q hq i hi)
    · obtain rfl := mem_singleton.1 hq
      exact .inr ((h.mem_children).2 ⟨i, hi, rfl⟩)
  · intro i q hx
    rcases (hassoc _).1 hx with hx | hx
    · obtain ⟨hq, hi⟩ := hv.parent i q hx
      exact ⟨mem_append_left _ hq, hi⟩
    · obtain ⟨j, hj, he⟩ := (h.mem_children).1 hx
      obtain ⟨rfl, rfl⟩ := cons.inj he
      exact ⟨by simp, hj⟩
  · refine pairwise_append.2 ⟨children_stack p, hstack.2, fun x hx y hy => ?_⟩
    obtain ⟨i, _, rfl⟩ := (h.mem_children).1 hx
    exact (hstack.1 y hy).trans (tail_suffix p)

/-- An instance inside a visited node of the circuit of the next node's parent is visited, unless it is inside that parent. -/
theorem child_visited {i j : Nat} {q t : List Nat} (hv : h.Visiting vis ((i :: q) :: rest)) (ht : t ∈ vis)
    (hm : h.masterOf t = h.masterOf q) (hne : t ≠ q) (hj : j < h.width t) : j :: t ∈ vis := by
  rcases mem_append.1 (hv.child t ht j hj) with hvis | hpend
  · exact hvis
  -- otherwise the node is open, so it is above the parent and has a circuit of larger rank
  exfalso
  have hsuf : t <:+ q := by
    rcases mem_cons.1 hpend with he | hrest
    · exact absurd (cons.inj he).2 hne
    · exact (pairwise_cons.1 hv.stack).1 _ hrest
  have hq : h.IsNode q := hv.isNode (mem_append_left _ (hv.parent i q (by simp)).1)
  have := h.rank_lt_of_suffix hq hsuf hne
  rw [hm] at this
  exact Nat.lt_irrefl _ this

/-- When no node is to come, every node of the tree has been visited. -/
theorem mem_iff (hv : h.Visiting vis []) : x ∈ vis ↔ h.IsNode x := by
  constructor
  · intro hx
    exact hv.isNode (mem_append_left _ hx)
  · intro hx
    induction x with
    | nil => exact hv.root
    | cons i x ih => simpa using hv.child x (ih hx.1) i hx.2

end Visiting

/-! ## The fold table -/

namespace FoldTable

variable {tbl : FoldTable} {p q : List Nat} {x : Option (List Nat)}

theorem lookup_of_not_mem (hp : p ∉ tbl.map Prod.fst) : tbl.lookup p = none := by
  rw [lookup_eq_none_iff]
  intro e he
  simp only [bne_iff_ne]
  rintro rfl
  exact hp (mem_map_of_mem he)

/-- A new entry of the table. -/
theorem image_concat (hp : p ∉ tbl.map Prod.fst) (q : List Nat) :
    image (tbl ++ [(p, x)]) q = if q = p then x else tbl.image q := by
  have happ : (tbl ++ [(p, x)]).lookup q = (tbl.lookup q).or (if q == p then some x else none) := by
    rw [lookup_append]
    simp only [lookup_cons]
    cases q == p <;> rfl
  unfold image
  rw [happ]
  rcases eq_or_ne q p with rfl | hne
  · simp [lookup_of_not_mem hp]
  · simp [hne]

theorem kept_concat_none : kept (tbl ++ [(p, none)]) = tbl.kept ++ [p] := by
  simp [kept]

theorem kept_concat_some {t : List Nat} : kept (tbl ++ [(p, some t)]) = tbl.kept := by
  simp [kept]

/-- The nodes kept are those of the table that are not folded. -/
theorem mem_kept (hnd : (tbl.map Prod.fst).Nodup) : p ∈ tbl.kept ↔ p ∈ tbl.map Prod.fst ∧ tbl.image p = none := by
  induction tbl using reverseRecOn with
  | nil => simp [kept]
  | append_singleton tbl e ih =>
    obtain ⟨q, x⟩ := e
    rw [map_append, nodup_append] at hnd
    have hq : q ∉ tbl.map Prod.fst := fun hm => hnd.2.2 q hm q (by simp) rfl
    rw [image_concat hq]
    rcases eq_or_ne p q with rfl | hne <;> cases x <;> simp [kept_concat_none, kept_concat_some, *]

end FoldTable

/-- The table holds the folding of the visited nodes. -/
structure Folds (theLimit : Nat) (vis : List (List Nat)) (tbl : FoldTable) : Prop where
  paths : tbl.map Prod.fst = vis
  root : tbl.image [] = none
  image_mem : ∀ p t, tbl.image p = some t → p ∈ vis ∧ t ∈ vis ∧ h.masterOf t = h.masterOf p ∧ t ≠ p
  nested : ∀ i p t, i :: p ∈ vis → tbl.image p = some t → tbl.image (i :: p) = some (i :: t)
  direct : ∀ i p t, tbl.image p = none → tbl.image (i :: p) = some t →
    tbl.image t = none ∧ h.samePorts (i :: p) t = true ∧ (h.circuitAt (i :: p)).portCount ≤ theLimit

theorem samePorts_iff {q : List Nat} : h.samePorts p q = true ↔
    h.masterOf p = h.masterOf q ∧ ∀ k < (h.circuitAt p).portCount, h.netOf p k = h.netOf q k := by
  simp [samePorts]

theorem imageOf_of_folded {t : List Nat} (ht : tbl.image p = some t) : h.imageOf lim tbl (i :: p) = some (i :: t) := by
  simp [imageOf, ht]

theorem imageOf_of_kept (ht : tbl.image p = none) : h.imageOf lim tbl (i :: p) =
      if (h.circuitAt (i :: p)).portCount ≤ lim then tbl.kept.find? (h.samePorts (i :: p)) else none := by
  simp [imageOf, ht]

namespace Folds

variable {h} {lim : Nat} {vis rest : List (List Nat)} {tbl : FoldTable} {p : List Nat}

theorem start : h.Folds lim [[]] [([], none)] := by
  have himg : ∀ p, FoldTable.image [([], none)] p = none := by
    intro p
    cases p <;> rfl
  refine ⟨rfl, himg _, ?_, ?_, ?_⟩ <;> simp [himg]

section
variable (hf : h.Folds lim vis tbl)
include hf

theorem image_concat_self (hp : p ∉ vis) (t : Option (List Nat)) : FoldTable.image (tbl ++ [(p, t)]) p = t := by
  rw [FoldTable.image_concat (hf.paths ▸ hp), if_pos rfl]

theorem image_concat_of_mem (hp : p ∉ vis) (t : Option (List Nat)) {x : List Nat} (hx : x ∈ vis) :
    FoldTable.image (tbl ++ [(p, t)]) x = tbl.image x := by
  rw [FoldTable.image_concat (hf.paths ▸ hp), if_neg]
  rintro rfl
  exact hp hx

theorem mem_kept (hnd : vis.Nodup) : p ∈ tbl.kept ↔ p ∈ vis ∧ tbl.image p = none := by
  rw [FoldTable.mem_kept (hf.paths ▸ hnd), hf.paths]

/-- The parent of a kept node is kept. -/
theorem kept_sublist : tbl.kept.Sublist vis := by
  rw [← hf.paths]
  exact (filter_sublist).map _

theorem image_parent {i : Nat} (hp : i :: p ∈ vis) (hk : tbl.image (i :: p) = none) : tbl.image p = none := by
  cases ht : tbl.image p with
  | none => rfl
  | some t =>
    rw [hf.nested i p t hp ht] at hk
    nomatch hk

/-- A visit folds the next node. -/
theorem visit (hv : h.Visiting vis (p :: rest)) : h.Folds lim (vis ++ [p]) (tbl ++ [(p, h.imageOf lim tbl p)]) := by
  obtain ⟨i, q, rfl, hq, hi⟩ := hv.head_cons
  have hvnd : vis.Nodup := (nodup_append.1 hv.nodup).1
  have hnew : i :: q ∉ tbl.map Prod.fst := hf.paths ▸ hv.not_mem
  have himg : ∀ x, FoldTable.image (tbl ++ [(i :: q, h.imageOf lim tbl (i :: q))]) x =
      if x = i :: q then h.imageOf lim tbl (i :: q) else tbl.image x := fun x => FoldTable.image_concat hnew x
  have hold := fun x (hx : x ∈ vis) => hf.image_concat_of_mem hv.not_mem (h.imageOf lim tbl (i :: q)) hx
  -- what the next node is folded onto
  have hnext : ∀ t, h.imageOf lim tbl (i :: q) = some t → t ∈ vis ∧ h.masterOf t = h.masterOf (i :: q) ∧
      (tbl.image q = none → tbl.image t = none ∧ h.samePorts (i :: q) t = true ∧ (h.circuitAt (i :: q)).portCount ≤ lim) := by
    intro t ht
    cases hqi : tbl.image q with
    | some t' =>
      rw [h.imageOf_of_folded hqi] at ht
      obtain rfl := Option.some.inj ht
      obtain ⟨_, ht', hm, hne⟩ := hf.image_mem q t' hqi
      have hwidth : i < h.width t' := by
        unfold width circuitAt at hi ⊢
        rwa [hm]
      refine ⟨hv.child_visited ht' hm hne hwidth, ?_, nofun⟩
      unfold masterOf
      rw [hm]
    | none =>
      rw [h.imageOf_of_kept hqi] at ht
      split at ht
      · rename_i hlim
        obtain ⟨ht', hs⟩ := (hf.mem_kept hvnd).1 (mem_of_find?_eq_some ht)
        have hsame := find?_some ht
        exact ⟨ht', ((h.samePorts_iff).1 hsame).1.symm, fun _ => ⟨hs, hsame, hlim⟩⟩
      · nomatch ht
  refine ⟨by simp [hf.paths], ?_, ?_, ?_, ?_⟩
  · rw [hold _ hv.root]
    exact hf.root
  · intro p t ht
    rw [himg] at ht
    split at ht
    · rename_i he
      obtain ⟨htv, hm, _⟩ := hnext t ht
      refine ⟨by simp [he], mem_append_left _ htv, he ▸ hm, ?_⟩
      rintro rfl
      exact hv.not_mem (he ▸ htv)
    · obtain ⟨hpv, htv, hm, hne⟩ := hf.image_mem p t ht
      exact ⟨mem_append_left _ hpv, mem_append_left _ htv, hm, hne⟩
  · intro j p t hp ht
    have hpv : p ∈ vis := by
      refine (hv.parent j p ?_).1
      rw [append_cons]
      exact mem_append_left _ hp
    rw [hold p hpv] at ht
    rw [himg]
    split
    · rename_i he
      obtain ⟨rfl, rfl⟩ := cons.inj he
      exact h.imageOf_of_folded ht
    · rename_i hne
      refine hf.nested j p t ?_ ht
      rcases mem_append.1 hp with hp | hp
      · exact hp
      · exact absurd (mem_singleton.1 hp) hne
  · intro j p t hp ht
    rw [himg (j :: p)] at ht
    split at ht
    · rename_i he
      obtain ⟨rfl, rfl⟩ := cons.inj he
      obtain ⟨htv, _, hd⟩ := hnext t ht
      rw [hold _ hq] at hp
      rw [hold t htv]
      exact hd hp
    · have hmem := hf.image_mem _ _ ht
      have hpv : p ∈ vis := (hv.parent j p (mem_append_left _ hmem.1)).1
      rw [hold p hpv] at hp
      rw [hold t hmem.2.1]
      exact hf.direct j p t hp ht

end
end Folds
end Hierarchy
end Cvc
