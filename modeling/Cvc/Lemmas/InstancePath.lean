import Cvc.PathNodes

/-!
# Searches in the flat form

The searches of `FindInstanceIds` against the instance tree: a list of instance ids shows a set of nodes (`Shows`), and a search
in the current instances shows the nodes inside them whose calls pass its test (`inside`).
-/

namespace Cvc

open List

variable {s : InstanceSearch}

namespace Hierarchy

variable (h : Hierarchy) {p q : List Nat}

/-- The database is the flat form of the hierarchy, with no other instances; it lists the instances of every circuit, and every
non-parallel instance has a net of the database for each signal. -/
structure ListedForm (db : CCvcDb) (id : List Nat → Nat) : Prop extends h.FlatForm db id where
  lists : ∀ c x, x ∈ db.instanceIdV c ↔ ∃ p, h.IsNode p ∧ h.masterOf p = c ∧ id p = x
  no_other : ∀ x, db.subcircuitCount ≤ x → db.instancePtrV x = none
  signal_net : ∀ p I, h.NonParallel db id p I → ∀ k < h.signals p, ∃ n < db.netCount, I.localToGlobalNetIdV[k]? = some n

/-- The list has the ids of the nodes of a set. -/
def Shows (id : List Nat → Nat) (S : Set (List Nat)) (list : List Nat) : Prop := ∀ x, x ∈ list ↔ ∃ p ∈ S, id p = x

variable {h} {theLimit : Nat} {counts : Nat → CircuitCounts} {db : CCvcDb} {id : List Nat →
    Nat} {S : Set (List Nat)} {list : List Nat}

theorem exists_listedForm (hlink : h.linkTop = .ok counts) (hok : h.assignTopGlobalIDs theLimit counts = .ok db) :
    ∃ id, h.ListedForm db id := by
  obtain ⟨N, vis, pend, tbl, hcalls, hR, -⟩ := running_of_reaches (E := fun _ _ _ _ => True) (counted_of_linkTop hlink) trivial
    (fun _ _ _ _ => trivial) (reaches_of_assignTop hok)
  obtain rfl := map_eq_nil_iff.1 hcalls.symm
  have hF := hR.toFlat
  refine ⟨N.id, hF.flatForm, ?_, ?_, ?_⟩
  · intro c x
    rw [hF.insts.lists]
    simp only [mem_map, mem_filter, beq_iff_eq]
    constructor
    · rintro ⟨p, ⟨hp, hc⟩, hx⟩
      exact ⟨p, hF.visiting.mem_iff.1 hp, hc, hx⟩
    · rintro ⟨p, hp, hc, hx⟩
      exact ⟨p, ⟨hF.visiting.mem_iff.2 hp, hc⟩, hx⟩
  · intro x hx
    refine hF.insts.not_made x fun hmem => ?_
    obtain ⟨p, hp, rfl⟩ := mem_map.1 hmem
    exact absurd (hF.flatForm.id_lt p (hF.visiting.mem_iff.1 hp)) (Nat.not_lt.2 hx)
  · intro p I hp k hk
    obtain ⟨hpv, hI, himage, -⟩ := hF.nonParallel_iff.1 hp
    obtain ⟨-, hkept, -, hin⟩ := netOf_mem_block (N := N) hF.folds hF.visiting hpv himage hk
    refine ⟨h.netId N (h.netOf p k), ?_, ?_⟩
    · rw [hF.nets.netCount]
      exact hF.nets.nets.lt_length hkept hin
    · rw [(hF.nets.kept p hpv I hI himage).2.2, netMap, getElem?_map, getElem?_range hk]
      rfl

/-- The top has the id 0. -/
theorem FlatForm.id_root (hf : h.FlatForm db id) : id [] = 0 := by
  obtain ⟨p, hp, h0⟩ := hf.id_surj 0 (Nat.zero_lt_of_lt (hf.id_lt [] trivial))
  cases p with
  | nil => exact h0
  | cons i p =>
    have := hf.parent_lt i p hp
    omega

/-! ## Nodes -/

theorem IsNode.of_suffix (hp : h.IsNode p) (hq : q <:+ p) : h.IsNode q := by
  induction p with
  | nil =>
    obtain rfl := suffix_nil.1 hq
    exact hp
  | cons i p ih =>
    rcases suffix_cons_iff.1 hq with rfl | hq
    · exact hp
    · exact ih hp.1 hq

theorem isNode_of_mem_inside {test : CDevice → Prop} (hq : q ∈ h.inside db id test S) : h.IsNode q := by
  obtain ⟨i, p, I, rfl, -, hp, hi, -⟩ := hq
  exact ⟨hp.1, hi⟩

theorem isName_masterOf (hp : h.IsNode p) : h.IsName (h.masterOf p) := .circuit (h.masterOf_found hp)

theorem isName_call {i : Nat} (hi : i < h.width p) : h.IsName (h.callOf i p).name :=
  .subcircuit (h.circuit_mem (h.callOf_mem hi)) (h.callOf_mem hi)

/-! ## Lists of instances -/

theorem Shows.ne_nil_iff (hS : Shows id S list) : list ≠ [] ↔ S.Nonempty := by
  constructor
  · intro hne
    obtain ⟨x, hx⟩ := exists_mem_of_ne_nil _ hne
    obtain ⟨p, hp, -⟩ := (hS x).1 hx
    exact ⟨p, hp⟩
  · rintro ⟨p, hp⟩
    exact ne_nil_of_mem ((hS (id p)).2 ⟨p, hp, rfl⟩)

theorem Shows.eq_nil_iff (hS : Shows id S list) : list = [] ↔ S = ∅ := by
  rw [← not_iff_not, ← ne_eq, hS.ne_nil_iff, Set.nonempty_iff_ne_empty]

/-- A search in an instance finds the instances in it that pass the test. -/
theorem matchingSubcircuits_spec (hf : h.FlatForm db id) (test : CDevice → Bool) (hp : h.IsNode p) :
    ∃ found, h.matchingSubcircuits db test (id p) = .ok found ∧ Shows id (h.inside db id (test · = true) {p}) found := by
  obtain ⟨I, hI, hmaster, -, hchild⟩ := hf.instance_eq p hp
  unfold matchingSubcircuits
  simp only [hI]
  cases hpar : I.isParallelInstance with
  | true =>
    refine ⟨[], rfl, fun x => ⟨nofun, ?_⟩⟩
    rintro ⟨_, ⟨i, p', J, rfl, rfl, ⟨-, hJ, hnp⟩, -⟩, -⟩
    rw [← Option.some.inj (hI.symm.trans hJ), hpar] at hnp
    nomatch hnp
  | false =>
    refine ⟨_, rfl, fun x => ?_⟩
    simp only [mem_map, mem_filter, Prod.exists, hmaster]
    constructor
    · rintro ⟨d, i, ⟨hd, ht⟩, rfl⟩
      have hget := mem_zipIdx_iff_getElem?.mp hd
      obtain ⟨hi, -⟩ := List.getElem?_eq_some_iff.1 hget
      have hcall : h.callOf i p = d := by
        simp [callOf, circuitAt, hget]
      exact ⟨i :: p, ⟨i, p, I, rfl, rfl, ⟨hp, hI, hpar⟩, hi, hcall ▸ ht⟩, hchild i hi⟩
    · rintro ⟨_, ⟨i, p', J, rfl, rfl, -, hi, ht⟩, rfl⟩
      refine ⟨h.callOf i p', i, ⟨mem_zipIdx_iff_getElem?.mpr ?_, ht⟩, (hchild i hi).symm⟩
      have hi' : i < (h.circuit (h.masterOf p')).subcircuitPtrV.length := hi
      simp [callOf, circuitAt, hi']

/-- The rounds of a search in the instances that a list shows. -/
theorem Shows.foldlM {f : List Nat → Nat → Except SearchStop (List Nat)} {P : List Nat → Nat → Prop} (hS : Shows id S list)
    (hf : h.FlatForm db id) (hnode : ∀ p ∈ S, h.IsNode p)
    (hstep : ∀ p, h.IsNode p → ∀ acc, ∃ acc', f acc (id p) = .ok acc' ∧ ∀ x, x ∈ acc' ↔ x ∈ acc ∨ P p x) :
    ∃ found, list.foldlM f [] = .ok found ∧ ∀ x, x ∈ found ↔ ∃ p ∈ S, P p x := by
  have hgen : ∀ (l acc : List Nat), (∀ x ∈ l, ∃ p ∈ S, id p = x) →
      ∃ found, l.foldlM f acc = .ok found ∧ ∀ x, x ∈ found ↔ x ∈ acc ∨ ∃ p ∈ S, id p ∈ l ∧ P p x := by
    intro l
    induction l with
    | nil => exact fun acc _ => ⟨acc, rfl, by simp⟩
    | cons y l ih =>
      intro acc hl
      obtain ⟨⟨p, hp, rfl⟩, htail⟩ := forall_mem_cons.1 hl
      obtain ⟨acc', hacc, hmem⟩ := hstep p (hnode p hp) acc
      obtain ⟨found, hfound, hall⟩ := ih acc' htail
      refine ⟨found, by rw [foldlM_cons, hacc]; exact hfound, fun x => ?_⟩
      rw [hall, hmem, or_assoc]
      refine or_congr_right ⟨?_, ?_⟩
      · rintro (hP | ⟨p', hp', hin, hP⟩)
        · exact ⟨p, hp, mem_cons_self, hP⟩
        · exact ⟨p', hp', mem_cons_of_mem _ hin, hP⟩
      · rintro ⟨p', hp', hin, hP⟩
        rcases mem_cons.1 hin with heq | hin
        · exact .inl (hf.id_inj p' p (hnode p' hp') (hnode p hp) heq ▸ hP)
        · exact .inr ⟨p', hp', hin, hP⟩
  obtain ⟨found, hfound, hmem⟩ := hgen list [] fun x hx => (hS x).1 hx
  refine ⟨found, hfound, fun x => (hmem x).trans ⟨?_, ?_⟩⟩
  · rintro (hx | ⟨p, hp, -, hP⟩)
    · nomatch hx
    · exact ⟨p, hp, hP⟩
  · rintro ⟨p, hp, hP⟩
    exact .inr ⟨p, hp, (hS _).2 ⟨p, hp, rfl⟩, hP⟩

/-- A search in the current instances finds the instances in them that pass the test. -/
theorem localSearch_spec (hf : h.FlatForm db id) (test : CDevice → Bool) (hnode : ∀ p ∈ S, h.IsNode p) (hS : Shows id S list) :
    ∃ found, h.localSearch db test list = .ok found ∧ Shows id (h.inside db id (test · = true) S) found := by
  obtain ⟨found, hfound, hmem⟩ := hS.foldlM (P := fun p x => ∃ q ∈ h.inside db id (test · = true) {p}, id q = x) hf hnode
    (f := fun acc x => do
      let found ← h.matchingSubcircuits db test x
      pure (found.reverse ++ acc)) fun p hp acc => by
    obtain ⟨here, hhere, hshow⟩ := matchingSubcircuits_spec hf test hp
    refine ⟨here.reverse ++ acc, by rw [hhere]; rfl, fun x => ?_⟩
    rw [mem_append, mem_reverse, or_comm, hshow x]
  refine ⟨found, hfound, fun x => (hmem x).trans ⟨?_, ?_⟩⟩
  · rintro ⟨p, hp, _, ⟨i, _, I, rfl, rfl, hnp, hi, ht⟩, hq⟩
    exact ⟨_, ⟨i, _, I, rfl, hp, hnp, hi, ht⟩, hq⟩
  · rintro ⟨_, ⟨i, p, I, rfl, hp, hnp, hi, ht⟩, hq⟩
    exact ⟨p, hp, _, ⟨i, p, I, rfl, rfl, hnp, hi, ht⟩, hq⟩

theorem shows_of_known (hlist : ∀ x ∈ list, ∃ p, h.IsNode p ∧ id p = x) : Shows id {p | h.IsNode p ∧ id p ∈ list} list := by
  intro x
  constructor
  · intro hx
    obtain ⟨p, hp, rfl⟩ := hlist x hx
    exact ⟨p, ⟨hp, hx⟩, rfl⟩
  · rintro ⟨p, ⟨-, hx⟩, rfl⟩
    exact hx

/-- A search in instances of the tree finds instances of the tree. -/
theorem localSearch_known (hf : h.FlatForm db id) (test : CDevice → Bool) (hlist : ∀ x ∈ list, ∃ p, h.IsNode p ∧ id p = x) :
    ∃ found, h.localSearch db test list = .ok found ∧ ∀ x ∈ found, ∃ p, h.IsNode p ∧ id p = x := by
  obtain ⟨found, hfound, hshow⟩ := localSearch_spec hf test (fun p hp => hp.1) (shows_of_known hlist)
  refine ⟨found, hfound, fun x hx => ?_⟩
  obtain ⟨q, hq, he⟩ := (hshow x).1 hx
  exact ⟨q, isNode_of_mem_inside hq, he⟩

/-! ## Instances in a parent -/

theorem suffix_tail_iff (hne : q ≠ p) : q <:+ p.tail ↔ q <:+ p := by
  cases p with
  | nil => simp
  | cons i p => simp [suffix_cons_iff, hne]

section
variable (hf : h.FlatForm db id)
include hf

/-- The walk up from an instance finds a parent other than the top exactly when the instance is below it. -/
theorem climbsTo_eq (hp : h.IsNode p) (hq : h.IsNode q) (hroot : id q ≠ 0) {rounds : Nat}
    (hrounds : p.length ≤ rounds) : db.climbsTo (id q) rounds (id p) = .ok (decide (q <:+ p.tail)) := by
  induction p generalizing rounds with
  | nil =>
    obtain ⟨I, hI, -, hparent, -⟩ := hf.instance_eq [] hp
    have hq' : ¬ q <:+ [] := by
      intro hs
      rw [suffix_nil.1 hs, hf.id_root] at hroot
      exact hroot rfl
    unfold CCvcDb.climbsTo
    have h0 : I.parentId = 0 := hparent.trans hf.id_root
    have hd : decide (q <:+ ([] : List Nat).tail) = false := decide_eq_false hq'
    simp only [CCvcDb.instancePtr, hI, hd, bind, Except.bind, if_pos h0]
    rfl
  | cons i p ih =>
    obtain ⟨I, hI, -, hparent, -⟩ := hf.instance_eq (i :: p) hp
    obtain ⟨rounds, rfl⟩ : ∃ n, rounds = n + 1 := ⟨rounds - 1, by simp at hrounds; omega⟩
    have hrec : db.climbsTo (id q) rounds (id p) = .ok (decide (q <:+ p.tail)) := ih hp.1 (by simpa using hrounds)
    have hself : id p = id q ↔ q = p := ⟨fun he => (hf.id_inj p q hp.1 hq he).symm, fun he => he ▸ rfl⟩
    unfold CCvcDb.climbsTo
    simp only [CCvcDb.instancePtr, hI, hparent, tail_cons, bind, Except.bind, pure, Except.pure]
    by_cases h0 : id p = 0
    · have hnil : p = [] := hf.id_inj p [] hp.1 trivial (h0.trans hf.id_root.symm)
      have hne : ¬ q <:+ p := by
        rw [hnil]
        intro hs
        rw [suffix_nil.1 hs, hf.id_root] at hroot
        exact hroot rfl
      simp [h0, hne]
    · rw [if_neg h0]
      by_cases he : q = p
      · simp [he]
      · rw [if_neg fun hid => he (hself.1 hid), hrec]
        exact congrArg Except.ok (decide_eq_decide.2 (suffix_tail_iff he))

/-- A node is not deeper than there are instances. -/
theorem FlatForm.length_lt (hp : h.IsNode p) : p.length < db.subcircuitCount := by
  have hle : p.length ≤ id p := by
    induction p with
    | nil => exact Nat.zero_le _
    | cons i p ih =>
      have h1 := ih hp.1
      have h2 := hf.parent_lt i p hp
      simp only [length_cons]
      omega
  exact Nat.lt_of_le_of_lt hle (hf.id_lt p hp)

/-- An instance is in another one exactly when its node is below. -/
theorem isSubcircuitOf_eq (hp : h.IsNode p) (hq : h.IsNode q) : db.isSubcircuitOf (id p) (id q) = .ok (decide (q <:+ p)) := by
  unfold CCvcDb.isSubcircuitOf
  by_cases h0 : id q = 0
  · have hnil : q = [] := hf.id_inj q [] hq trivial (h0.trans hf.id_root.symm)
    simp [hnil, hf.id_root, pure, Except.pure]
  rw [if_neg h0]
  by_cases he : id p = id q
  · obtain rfl := hf.id_inj p q hp hq he
    simp [pure, Except.pure]
  obtain ⟨I, hI, -, hparent, -⟩ := hf.instance_eq p hp
  have hclimb := climbsTo_eq hf hp hq h0 (Nat.le_of_lt (hf.length_lt hp))
  have htail := suffix_tail_iff fun hqp : q = p => he (hqp ▸ rfl)
  rw [if_neg he, hclimb]
  simp only [CCvcDb.instancePtr, hI, hparent, bind, Except.bind, pure, Except.pure, htail]
  by_cases hpq : id p.tail = id q
  · have hpt : p.tail = q := hf.id_inj _ _ (hp.of_suffix (tail_suffix p)) hq hpq
    simp [← hpt, tail_suffix p]
  · rw [if_neg hpq]

/-- The instances of a list that are in a parent. -/
theorem instancesIn_spec (hq : h.IsNode q) (hnode : ∀ p ∈ S, h.IsNode p)
    (hS : Shows id S list) : ∃ found, db.instancesIn (id q) list = .ok found ∧ Shows id {p | p ∈ S ∧ q <:+ p} found := by
  refine (hS.foldlM (P := fun p x => q <:+ p ∧ id p = x) hf hnode fun p hp acc => ?_).imp fun found h =>
    ⟨h.1, fun x => (h.2 x).trans (by simp [and_assoc])⟩
  refine ⟨if q <:+ p then id p :: acc else acc, by simp [isSubcircuitOf_eq hf hp hq, pure, Except.pure], fun x => ?_⟩
  split <;> simp [*, or_comm, eq_comm]

end
end Hierarchy

/-! ## Searches end -/

open Hierarchy

variable {h : Hierarchy} {names : CCircuitPtrList h} {regex : Text → Option (Text → Bool)} {db : CCvcDb} {id : List Nat → Nat}

/-- A search ends with instances of the tree, or with one of the exceptions that are caught. -/
inductive Ended (h : Hierarchy) (id : List Nat → Nat) : Except SearchStop InstanceSearch → Prop
  | ok {s : InstanceSearch} (known : ∀ x ∈ s.mySearchInstanceIdList, ∃ p, h.IsNode p ∧ id p = x) : Ended h id (.ok s)
  | outOfRange : Ended h id (.error .outOfRange)
  | regexError : Ended h id (.error .regexError)

section
variable (names) (hf : h.ListedForm db id)
include names hf

theorem findCircuit_ended (hier component : Text) (hs : ∀ x ∈ s.mySearchInstanceIdList, ∃ p, h.IsNode p ∧ id p = x) :
    Ended h id (names.findCircuit regex db hier s component) := by
  have hlists : ∀ c, ∀ x ∈ db.instanceIdV c, ∃ p, h.IsNode p ∧ id p = x := by
    intro c x hx
    obtain ⟨p, hp, -, he⟩ := (hf.lists c x).1 hx
    exact ⟨p, hp, he⟩
  unfold CCircuitPtrList.findCircuit
  split
  · exact .outOfRange
  simp only
  split
  · exact .regexError
  rename_i m _
  split
  · unfold CCircuitPtrList.globalSearch
    split
    · exact .outOfRange
    rename_i found hfound
    refine .ok fun x hx => ?_
    split at hfound
    · obtain rfl := Option.some.inj hfound
      exact hlists _ x (mem_reverse.1 hx)
    simp only at hfound
    split at hfound
    · nomatch hfound
    · obtain rfl := Option.some.inj hfound
      obtain ⟨c, -, hc⟩ := mem_flatMap.1 (mem_reverse.1 hx)
      exact hlists c x hc
  · obtain ⟨found, hfound, hknown⟩ := localSearch_known hf.toFlatForm (fun d => names.nameMatches _ m d.masterName) hs
    rw [hfound]
    simp only [bind, Except.bind]
    split
    · exact .outOfRange
    · exact .ok hknown

theorem findInstance_ended (component : Text) (hs : ∀ x ∈ s.mySearchInstanceIdList, ∃ p, h.IsNode p ∧ id p = x) :
    Ended h id (names.findInstance regex db s component) := by
  unfold CCircuitPtrList.findInstance
  split
  · exact .outOfRange
  simp only
  split
  · exact .regexError
  rename_i m _
  obtain ⟨found, hfound, hknown⟩ := localSearch_known hf.toFlatForm (fun d => names.nameMatches _ m d.name) hs
  rw [hfound]
  simp only [bind, Except.bind]
  split
  · exact .ok hs
  · exact .ok hknown

theorem findComponents_ended (hier : Text) (components : List Text)
    (hs : ∀ x ∈ s.mySearchInstanceIdList, ∃ p, h.IsNode p ∧ id p = x) :
    Ended h id (components.foldlM (names.findComponent regex db hier) s) := by
  induction components generalizing s with
  | nil => exact .ok hs
  | cons c cs ih =>
    have hstep : Ended h id (names.findComponent regex db hier s c) := by
      unfold CCircuitPtrList.findComponent
      split
      · refine .ok fun x hx => ?_
        rcases mem_cons.1 hx with rfl | hx
        · exact ⟨[], trivial, hf.id_root⟩
        · exact hs x hx
      · split
        · exact findCircuit_ended names hf hier c hs
        · exact findInstance_ended names hf c hs
    rw [foldlM_cons]
    generalize names.findComponent regex db hier s c = r at hstep
    cases hstep with
    | ok hknown => exact ih hknown
    | outOfRange => exact .outOfRange
    | regexError => exact .regexError

end

/-- `FindInstanceIds` returns for every text, and what it returns are instances of the tree. -/
theorem findInstanceIds_known (names : CCircuitPtrList h) (regex : Text → Option (Text → Bool)) (hf : h.ListedForm db id)
    (hier : Text) {q : List Nat} (hq : h.IsNode q) :
    ∃ list, names.findInstanceIds regex db hier (id q) = .ok list ∧ ∀ x ∈ list, ∃ p, h.IsNode p ∧ id p = x := by
  have hend : Ended h id ((splitHierarchy hier).foldlM (names.findComponent regex db hier) {}) :=
    findComponents_ended names hf hier _ nofun
  unfold CCircuitPtrList.findInstanceIds
  generalize (splitHierarchy hier).foldlM (names.findComponent regex db hier) {} = r at hend
  have hnil : ∀ x ∈ ([] : List Nat), ∃ p, h.IsNode p ∧ id p = x := nofun
  cases hend with
  | outOfRange | regexError => exact ⟨[], rfl, hnil⟩
  | @ok s hknown =>
    by_cases h0 : id q = 0
    · refine ⟨if s.myUnmatchedInstance ≠ [] then [] else s.mySearchInstanceIdList, ?_, ?_⟩
      · simp [h0, bind, Except.bind, pure, Except.pure]
      · split
        · exact hnil
        · exact hknown
    · obtain ⟨found, hfound, hshow⟩ := instancesIn_spec hf.toFlatForm hq (fun p hp => hp.1) (shows_of_known hknown)
      refine ⟨if s.myUnmatchedInstance ≠ [] then [] else found, ?_, ?_⟩
      · simp [h0, hfound, bind, Except.bind, pure, Except.pure]
      · split
        · exact hnil
        · intro x hx
          obtain ⟨p, ⟨⟨hp, -⟩, -⟩, he⟩ := (hshow x).1 hx
          exact ⟨p, hp, he⟩

end Cvc
