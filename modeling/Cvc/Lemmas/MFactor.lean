import Mathlib.Algebra.BigOperators.Group.List.Lemmas
import Mathlib.Algebra.Order.BigOperators.Group.List
import Mathlib.Algebra.Order.Ring.Nat
import Cvc.Lemmas.ParallelWords

/-!
# Factors and ids at the end of the run

The multiplication factors of the kept nodes, how they sum up to the nodes of a circuit, and the ids of the folded ones along the
run.
-/

namespace Cvc

open List

/-! ## Sums over classes -/

/-- The elements of a list are counted once in the classes of a function. -/
theorem sum_countP_eq_length {α β : Type} [DecidableEq β] {l : List β} (hl : l.Nodup) (f : α → β) (zs : List α)
    (hf : ∀ z ∈ zs, f z ∈ l) : (l.map fun x => zs.countP fun z => decide (f z = x)).sum = zs.length := by
  induction zs with
  | nil => simp
  | cons z zs ih =>
    have hone : (l.map fun x => if decide (f z = x) then 1 else 0).sum = 1 := by
      rw [sum_map_eq_nsmul_single (f z) _ fun x hx _ => if_neg (by simpa using hx.symm),
        count_eq_one_of_mem hl (hf z mem_cons_self), decide_eq_true rfl]
      rfl
    simp only [countP_cons, sum_map_add, length_cons]
    rw [ih fun z hz => hf z (mem_cons_of_mem _ hz), hone]

/-- A sum of terms that are at most those of another sum is the same exactly when all terms are. -/
theorem sum_map_eq_iff {α : Type} {f g : α → Nat} {l : List α} (hle : ∀ x ∈ l, f x ≤ g x) :
    (l.map f).sum = (l.map g).sum ↔ ∀ x ∈ l, f x = g x := by
  induction l with
  | nil => simp
  | cons x l ih =>
    have hx := hle x mem_cons_self
    have ih := ih fun y hy => hle y (mem_cons_of_mem _ hy)
    have hsum : (l.map f).sum ≤ (l.map g).sum := sum_le_sum fun y hy => hle y (mem_cons_of_mem _ hy)
    rw [forall_mem_cons, ← ih, map_cons, map_cons, sum_cons, sum_cons]
    omega

/-- The instances of a circuit that are not parallel. -/
def CCvcDb.nonParallelIds (db : CCvcDb) (name : Nat) : List Nat :=
  (db.instanceIdV name).filter fun id => (db.instancePtrV id).any fun I => !I.isParallelInstance

/-- Following `parallelInstanceId` from an instance, any number of times. -/
def CCvcDb.Leads (db : CCvcDb) : Nat → Nat → Prop :=
  Relation.ReflTransGen fun x y => ∃ I, db.instancePtrV x = some I ∧ I.isParallelInstance = true ∧ I.parallelInstance = y

/-- The parallel instances of a database keep their `parallelInstanceId` in another one. -/
def CCvcDb.KeepsIds (db db' : CCvcDb) : Prop :=
  ∀ x I, db.instancePtrV x = some I → I.isParallelInstance = true →
    ∃ I', db'.instancePtrV x = some I' ∧ I'.isParallelInstance = true ∧ I'.parallelInstance = I.parallelInstance

namespace Hierarchy

variable {h : Hierarchy} {theLimit lim : Nat} {counts : Nat → CircuitCounts} {N : Numbering} {vis pend rest : List (List Nat)}
  {tbl : FoldTable} {db db' : CCvcDb} {p q t y : List Nat} {i : Nat}

/-- Every circuit of the tree has a signal. -/
theorem signals_pos (hsig : ∀ name c, h.circuitNameMap name = some c → c.localSignalIdMap ≠ []) (hp : h.IsNode p) :
    0 < h.signals p := by
  obtain ⟨c, hc⟩ := Option.isSome_iff_exists.1 (h.masterOf_found hp)
  unfold signals circuitAt
  rw [Library.circuit_eq hc]
  exact length_pos_iff.2 (hsig _ c hc)

/-! ## The factors -/

variable (h theLimit) in
/-- The multiplication factor of a kept node. -/
def mFactorOf (tbl : FoldTable) (p : List Nat) : Nat := max 1 (h.startCount theLimit p + tbl.countFor p)

theorem calculateMFactor_eq (hF : h.Flat lim counts N vis pend tbl db) (hw : h.Words lim N vis tbl db) (hp : p ∈ vis)
    (hk : tbl.image p = none) (hs : 0 < h.signals p) : db.calculateMFactor (N.id p) = .ok (h.mFactorOf lim tbl p) := by
  obtain ⟨I, hI, -⟩ := hF.insts.made p hp
  have hword := hw.kept p hp hk
  unfold CCvcDb.words at hword
  rw [hI] at hword
  have hpar := hF.nets.isParallelInstance hp hI hs
  rw [hk] at hpar
  have hcalc : db.calculateMFactor (N.id p) = .ok (if I.parallelInstance > 1 then I.parallelInstance else 1) := by
    unfold CCvcDb.calculateMFactor CCvcDb.instancePtr
    rw [hI]
    show (if I.isParallelInstance = true then Except.ok 0 else if I.parallelInstance > 1 then .ok _ else .ok 1) = _
    rw [if_neg (by rw [hpar]; exact Bool.false_ne_true)]
    split <;> rfl
  rw [hcalc]
  unfold mFactorOf
  rw [← Option.some.inj hword]
  congr 1
  split <;> omega

/-- The nodes of a circuit that are kept. -/
def keptOf (h : Hierarchy) (vis : List (List Nat)) (tbl : FoldTable) (name : Nat) : List (List Nat) :=
  (vis.filter fun p => h.masterOf p == name).filter fun p => (tbl.image p).isNone

theorem mem_keptOf {name : Nat} : p ∈ h.keptOf vis tbl name ↔ p ∈ vis ∧ h.masterOf p = name ∧ tbl.image p = none := by
  unfold keptOf
  rw [mem_filter, mem_filter, beq_iff_eq, Option.isNone_iff_eq_none, and_assoc]

theorem nonParallelIds_eq (hF : h.Flat lim counts N vis pend tbl db) (hs : ∀ p ∈ vis, 0 < h.signals p) (name : Nat) :
    db.nonParallelIds name = (h.keptOf vis tbl name).map N.id := by
  unfold CCvcDb.nonParallelIds keptOf
  rw [hF.insts.lists, filter_map]
  congr 1
  refine filter_congr fun p hp => ?_
  have hp := (mem_filter.1 hp).1
  obtain ⟨I, hI, -⟩ := hF.insts.made p hp
  simp only [Function.comp, hI, Option.any_some, hF.nets.isParallelInstance hp hI (hs p hp)]
  cases tbl.image p <;> rfl

theorem mapM_calculateMFactor (hF : h.Flat lim counts N vis pend tbl db) (hw : h.Words lim N vis tbl db)
    (hs : ∀ p ∈ vis, 0 < h.signals p) (name : Nat) :
    (db.nonParallelIds name).mapM db.calculateMFactor = .ok ((h.keptOf vis tbl name).map (h.mFactorOf lim tbl)) := by
  rw [nonParallelIds_eq hF hs, mapM_map]
  refine mapM_ok fun p hp => ?_
  obtain ⟨hp, hk⟩ := mem_filter.1 hp
  have hp := (mem_filter.1 hp).1
  exact calculateMFactor_eq hF hw hp (Option.isNone_iff_eq_none.1 hk) (hs p hp)

/-- The nodes of a circuit are those that are kept and those that are counted for them. -/
theorem sum_countFor (hf : h.Folds lim vis tbl) (hnd : vis.Nodup) (hs : ∀ x ∈ vis, h.settles tbl x = true) (name : Nat) :
    ((h.keptOf vis tbl name).map fun p => 1 + tbl.countFor p).sum = (vis.filter fun p => h.masterOf p == name).length := by
  have hfiber : ∀ p ∈ h.keptOf vis tbl name, tbl.countFor p =
      ((vis.filter fun p => h.masterOf p == name).filter fun p => (tbl.image p).isSome).countP fun z =>
        decide (tbl.target z = p) := by
    intro p hp
    unfold FoldTable.countFor
    rw [hf.paths, countP_filter, countP_filter]
    refine countP_congr fun z hz => ?_
    simp only [Bool.and_eq_true, beq_iff_eq, decide_eq_true_eq]
    constructor
    · rintro ⟨hsome, rfl⟩
      exact ⟨⟨rfl, hsome⟩, (hf.target_spec hz (hs z hz)).2.2.symm.trans (mem_keptOf.1 hp).2.1⟩
    · rintro ⟨⟨he, hsome⟩, -⟩
      exact ⟨hsome, he⟩
  have hsum := sum_countP_eq_length (l := h.keptOf vis tbl name) ((hnd.filter _).filter _) tbl.target
    ((vis.filter fun p => h.masterOf p == name).filter fun p => (tbl.image p).isSome) (by
      intro z hz
      obtain ⟨hz, -⟩ := mem_filter.1 hz
      obtain ⟨hz, hm⟩ := mem_filter.1 hz
      obtain ⟨h1, h2, h3⟩ := hf.target_spec hz (hs z hz)
      exact mem_keptOf.2 ⟨h1, h3.trans (beq_iff_eq.1 hm), h2⟩)
  rw [sum_map_add, map_congr_left hfiber, hsum, map_const', sum_replicate_nat, mul_one]
  have hsplit := length_eq_countP_add_countP (fun p => (tbl.image p).isNone) (l := vis.filter fun p => h.masterOf p == name)
  rw [countP_eq_length_filter, countP_eq_length_filter] at hsplit
  rw [hsplit]
  congr 2
  refine filter_congr fun p _ => ?_
  cases tbl.image p <;> rfl

/-- The factors sum up to the number of instances exactly when every folded node has few enough ports. -/
theorem sum_mFactorOf_iff (hf : h.Folds lim vis tbl) (hv : h.Visiting vis pend) (hs : ∀ x ∈ vis, h.settles tbl x = true) :
    (∀ name, ((h.keptOf vis tbl name).map (h.mFactorOf lim tbl)).sum = (vis.filter fun p => h.masterOf p == name).length) ↔
      ∀ x ∈ vis, tbl.image x ≠ none → (h.circuitAt x).portCount ≤ lim := by
  have hnd : vis.Nodup := (nodup_append.1 hv.nodup).1
  have hstart : ∀ p, h.startCount lim p ≤ 1 := by
    intro p
    unfold startCount
    split
    · omega
    · split <;> omega
  have hle : ∀ p, h.mFactorOf lim tbl p ≤ 1 + tbl.countFor p := by
    intro p
    have := hstart p
    unfold mFactorOf
    omega
  have hcircuit : ∀ {x y}, h.masterOf x = h.masterOf y → h.circuitAt x = h.circuitAt y := by
    intro x y hm
    unfold circuitAt
    rw [hm]
  have hpos : ∀ {p}, tbl.countFor p ≠ 0 ↔ ∃ x ∈ vis, tbl.image x ≠ none ∧ tbl.target x = p := by
    intro p
    unfold FoldTable.countFor
    rw [← Nat.pos_iff_ne_zero, countP_pos_iff, hf.paths]
    simp [Option.isSome_iff_ne_none]
  have hterm : (∀ name, ((h.keptOf vis tbl name).map (h.mFactorOf lim tbl)).sum =
    (vis.filter fun p => h.masterOf p == name).length) ↔
      ∀ p ∈ vis, tbl.image p = none → h.mFactorOf lim tbl p = 1 + tbl.countFor p := by
    simp only [← sum_countFor hf hnd hs, sum_map_eq_iff fun x _ => hle x, mem_keptOf]
    exact ⟨fun hall p hp hk => hall _ p ⟨hp, rfl, hk⟩, fun hall name p hp => hall p hp.1 hp.2.2⟩
  rw [hterm]
  constructor
  · intro hall x hx hne
    obtain ⟨htv, htk, htm⟩ := hf.target_spec hx (hs x hx)
    have hc := hpos.2 ⟨x, hx, hne, rfl⟩
    have hm := hall _ htv htk
    unfold mFactorOf at hm
    have hone : h.startCount lim (tbl.target x) = 1 := by
      omega
    unfold startCount at hone
    split at hone
    · nomatch hone
    next i p heq =>
    split at hone
    · next hports =>
      rw [hcircuit htm.symm, heq]
      exact hports
    · nomatch hone
  · intro hall p hp hk
    unfold mFactorOf
    by_cases hc : tbl.countFor p = 0
    · have := hstart p
      omega
    obtain ⟨x, hx, hne, rfl⟩ := hpos.1 hc
    have htm := (hf.target_spec hx (hs x hx)).2.2
    have hports := hall x hx hne
    have hone : h.startCount lim (tbl.target x) = 1 := by
      cases htx : tbl.target x with
      | nil =>
        -- no other node is an instance of the top circuit
        have hxne : [] ≠ x := by
          rintro rfl
          exact hne hf.root
        have hlt := h.rank_lt_of_suffix (hv.isNode (mem_append_left _ hx)) nil_suffix hxne
        rw [← htm, htx] at hlt
        exact absurd hlt (Nat.lt_irrefl _)
      | cons i p =>
        rw [← hcircuit htm, htx] at hports
        exact if_pos hports
    omega

/-! ## The ids -/

/-- The parallel instances are those of the folded nodes. -/
theorem parallel_iff (hF : h.Flat lim counts N vis pend tbl db) (hs : ∀ p ∈ vis, 0 < h.signals p) {x : Nat} {I : CInstance}
    (hI : db.instancePtrV x = some I) :
    ∃ p ∈ vis, N.id p = x ∧ I.masterName = h.masterOf p ∧ I.isParallelInstance = (tbl.image p).isSome := by
  have hx : x ∈ vis.map N.id := by
    by_contra hx
    rw [hF.insts.not_made x hx] at hI
    nomatch hI
  obtain ⟨p, hp, rfl⟩ := mem_map.1 hx
  obtain ⟨I', hI', hm, -⟩ := hF.insts.made p hp
  obtain rfl := Option.some.inj (hI.symm.trans hI')
  exact ⟨p, hp, rfl, hm, hF.nets.isParallelInstance hp hI (hs p hp)⟩

section
variable (hw : h.Words lim N vis tbl db)
include hw

/-- The ids of a folded node lead to the kept node it is counted for. -/
theorem Words.leads (hF : h.Flat lim counts N vis pend tbl db) (hp : p ∈ vis) : db.Leads (N.id p) (N.id (tbl.target p)) := by
  cases ht : tbl.image p with
  | none =>
    rw [target_of_kept ht]
    exact .refl
  | some t =>
    have hlink := hw.link hF hp ht
    cases ht' : tbl.image t with
    | none =>
      rw [target_of_folded ht ht']
      exact .single hlink
    | some t' =>
      rw [target_of_folded_twice ht ht']
      exact .head hlink (.single (hw.link hF (hF.folds.image_mem p t ht).2.1 ht'))

/-- A visit keeps the ids, if the words are right before and after it. -/
theorem Words.keepsIds (hF : h.Flat lim counts N vis (p :: rest) tbl db)
    (hw' : h.Words lim (Flat.next N db p) (vis ++ [p]) (h.visitTable lim tbl p) db')
    (hF' : h.Flat lim counts (Flat.next N db p) (vis ++ [p]) pend (h.visitTable lim tbl p) db')
    (hs : ∀ p ∈ vis, 0 < h.signals p) : db.KeepsIds db' := by
  intro x I hI hpar
  obtain ⟨z, hz, rfl, -, hzi⟩ := parallel_iff hF hs hI
  rw [hpar] at hzi
  obtain ⟨t, ht⟩ := Option.isSome_iff_exists.1 hzi.symm
  obtain ⟨I1, hI1, -, hid⟩ := hw.link hF hz ht
  obtain rfl := Option.some.inj (hI.symm.trans hI1)
  have hkeep := hF.next_id.2
  obtain ⟨I', hI', hpar', hid'⟩ := hw'.link hF' (mem_append_left _ hz) ((image_visitTable_of_mem hF hz).trans ht)
  rw [hkeep z hz] at hI'
  rw [hkeep t (hF.folds.image_mem z t ht).2.1] at hid'
  exact ⟨I', hI', hpar', hid'.trans hid.symm⟩

/-- A visit of a node that is folded onto a node that does not settle changes an id. -/
theorem Words.not_keepsIds (hF : h.Flat lim counts N vis ((i :: q) :: rest) tbl db)
    (hc : h.Counted counts) (hq : tbl.image q = some t) (ht : tbl.image (i :: t) = some y) (hy : tbl.image y ≠ none)
    {calls : List InstanceCall} (hok : h.visitInstance lim counts db (h.callAt N tbl (i :: q)) = .ok (db', calls)) :
    ¬ db.KeepsIds db' := by
  intro hkeep
  obtain ⟨y', hy'⟩ := Option.ne_none_iff_exists'.1 hy
  have hyv := (hF.folds.image_mem _ y ht).2.1
  obtain ⟨db1, calls1, hok1, hwords⟩ := hw.foldInParallel hF hc hq hyv (.inr ht)
  obtain ⟨rfl, -⟩ := Prod.mk.inj (Except.ok.inj (hok.symm.trans hok1))
  obtain ⟨I, hI, hpar, hid⟩ := hw.link hF hyv hy'
  obtain ⟨I', hI', -, hid'⟩ := hkeep _ I hI hpar
  have hword : db'.words (N.id y) = some (N.id y' + 1) := by
    rw [hwords, bump_id hF hyv hyv, if_pos rfl, Function.update_of_ne (hF.id_ne hyv), words_newInstance hF hyv,
      hw.folded y hyv y' hy']
    rfl
  unfold CCvcDb.words at hword
  rw [hI'] at hword
  have := Option.some.inj hword
  omega

end

/-- A node that has a signal and does not settle is inside a folded one, and folded in three steps or more. -/
theorem Flat.of_not_settles (hF : h.Flat lim counts N vis (p :: rest) tbl db) (hsig : 0 < h.signals p)
    (hs : h.settles (h.visitTable lim tbl p) p ≠ true) :
    ∃ i q t y, p = i :: q ∧ tbl.image q = some t ∧ tbl.image (i :: t) = some y ∧ tbl.image y ≠ none := by
  obtain ⟨i, q, rfl, hqv, -⟩ := hF.visiting.head_cons
  have hf : h.Folds lim (vis ++ [i :: q]) (h.visitTable lim tbl (i :: q)) := hF.folds.visit hF.visiting
  have himg := image_visitTable_self hF
  refine ⟨i, q, ?_⟩
  unfold settles at hs
  cases hp : FoldTable.image (h.visitTable lim tbl (i :: q)) (i :: q) with
  | none => simp [hp] at hs
  | some t0 =>
    have hne := (hf.image_mem _ _ hp).2.2.2
    have ht0 : t0 ∈ vis := (mem_append.1 (hf.image_mem _ _ hp).2.1).resolve_right fun hm =>
      hne (mem_singleton.1 hm)
    simp only [hp, image_visitTable_of_mem hF ht0] at hs
    cases hq : tbl.image q with
    | none =>
      have hk := (hf.direct i q t0 ((image_visitTable_of_mem hF hqv).trans hq) hp).1
      rw [image_visitTable_of_mem hF ht0] at hk
      simp [hk, hq, image_visitTable_of_mem hF hqv] at hs
    | some t =>
      rw [himg, h.imageOf_of_folded hq] at hp
      obtain rfl := Option.some.inj hp
      cases ht : tbl.image (i :: t) with
      | none => simp [ht, hsig] at hs
      | some y =>
        have hyv := (hF.folds.image_mem _ _ ht).2.1
        simp only [ht, image_visitTable_of_mem hF hyv] at hs
        refine ⟨t, y, rfl, rfl, ht, fun hn => ?_⟩
        rw [hn] at hs
        exact hs rfl

/-- Every state that is reached has its words, if no visit changes an id. -/
theorem words_of_keepsIds (hc : h.Counted counts) (hsig : ∀ p, h.IsNode p → 0 < h.signals p)
    (hkeep : ∀ s s', h.Reaches lim counts (h.topCalls, h.topInstance) s → h.VisitStep lim counts s s' → s.2.KeepsIds s'.2)
    {s : FlattenState} (hr : h.Reaches lim counts (h.topCalls, h.topInstance) s) :
    ∃ N vis pend tbl, s.1 = pend.map (h.callAt N tbl) ∧ h.Running lim counts N vis pend tbl s.2 ∧
      h.Words lim N vis tbl s.2 ∧ ∀ x ∈ vis, h.settles tbl x = true := by
  refine running_of_reaches (E := fun N vis tbl db => h.Words lim N vis tbl db ∧ ∀ x ∈ vis, h.settles tbl x = true) hc
    ⟨.start, fun x hx => ?_⟩ ?_ hr
  · obtain rfl := mem_singleton.1 hx
    rfl
  intro N vis p rest tbl db db' calls hR ⟨hw, hs⟩ hreach hok
  have hsp : h.settles (h.visitTable lim tbl p) p = true := by
    by_contra hne
    obtain ⟨i, q, t, y, rfl, hq, ht, hy⟩ := hR.toFlat.of_not_settles (hsig p (hR.visiting.isNode (by simp))) hne
    exact hw.not_keepsIds hR.toFlat hc hq ht hy hok (hkeep _ _ hreach (.visit hok))
  obtain ⟨db1, calls1, hok1, hw'⟩ := hw.visit hR.toFlat hc hs hsp
  obtain ⟨rfl, -⟩ := Prod.mk.inj (Except.ok.inj (hok.symm.trans hok1))
  refine ⟨hw', fun x hx => ?_⟩
  rcases mem_append.1 hx with hx | hx
  · rw [hR.folds.settles_eq hR.visiting (fun z hz => image_visitTable_of_mem hR.toFlat hz) hx]
    exact hs x hx
  · obtain rfl := mem_singleton.1 hx
    exact hsp

/-- The visits keep the ids, if every node settles. -/
theorem keepsIds_of_settles (hc : h.Counted counts) (hsig : ∀ p, h.IsNode p → 0 < h.signals p)
    (hs : ∀ x ∈ h.nodes, h.settles (h.folding lim) x = true) {s s' : FlattenState}
    (hr : h.Reaches lim counts (h.topCalls, h.topInstance) s) (hr' : h.Reaches lim counts s s') : s.2.KeepsIds s'.2 := by
  induction hr' with
  | refl => exact fun x I hI hpar => ⟨I, hI, hpar, rfl⟩
  | tail hr' hstep ih =>
    obtain ⟨N, vis, pend, tbl, hcalls, hR, hw⟩ := words_of_reaches hc hs (hr.trans hr')
    cases hstep with
    | visit hok =>
      cases pend with
      | nil => nomatch hcalls
      | cons p rest =>
        obtain ⟨rfl, rfl⟩ := cons.inj hcalls
        obtain ⟨db1, calls1, hok1, hw'⟩ := hR.visit_settles hw hc hs
        obtain ⟨rfl, -⟩ := Prod.mk.inj (Except.ok.inj (hok.symm.trans hok1))
        have hstep := hw.keepsIds hR.toFlat hw' (hR.visit hc hok).1.toFlat
          fun p hp => hsig p (hR.visiting.isNode (mem_append_left _ hp))
        intro x I hI hpar
        obtain ⟨I1, hI1, hpar1, hid1⟩ := ih x I hI hpar
        obtain ⟨I2, hI2, hpar2, hid2⟩ := hstep x I1 hI1 hpar1
        exact ⟨I2, hI2, hpar2, hid2.trans hid1⟩

end Hierarchy
end Cvc
