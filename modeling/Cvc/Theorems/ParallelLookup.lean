import Cvc.Theorems.Flattening

/-!
# The lookup of parallel instances

What `FindParallelInstance` returns in each of its calls during flattening, against the history of the run: the instances whose
own lookup returned themselves have been registered. At any time the hash chains of a circuit hold the registered instances of
that circuit and nothing else, and a lookup finds a registered instance with the same nets at its ports if there is one.
-/

namespace Cvc

open LinkedList List

namespace Hierarchy

section Statement
variable (h : Hierarchy) (theLimit : Nat) (counts : Nat → CircuitCounts)
variable (db : CCvcDb) (call : InstanceCall)

/-- The nets at the ports of the instance that a visit calls `FindParallelInstance` for, by the net map of its parent. There is no
call inside a parallel instance, and none for more ports than the limit. -/
def lookupPorts : Option (List Nat) :=
  match (newInstance db call).instancePtrV call.theParentId with
  | none => none
  | some parent =>
    if call.isParallel = false ∧ call.theSubcircuit.signalIdV.length ≤ theLimit then
      some (call.theSubcircuit.portNets (h.circuit call.theSubcircuit.masterName).portCount parent.localToGlobalNetIdV)
    else none

/-- `FindParallelInstance` as a visit calls it. -/
def lookup (portNets : List Nat) : Except Failure (Nat × CCvcDb) :=
  (newInstance db call).findParallelInstance call.theSubcircuit.masterName
    (counts call.theSubcircuit.masterName).instanceCount call.theInstanceId portNets

/-- The instance that a visit registers: its own, when the lookup returns that. -/
def registers : List Nat :=
  match h.lookupPorts theLimit db call with
  | none => []
  | some portNets =>
    match lookup counts db call portNets with
    | .ok (x, _) => if x = call.theInstanceId then [x] else []
    | .error _ => []

/-- The states of the run, with the instances that have been registered. -/
inductive Registered : FlattenState → List Nat → Prop
  | start : Registered (h.topCalls, h.topInstance) []
  | visit {db db' : CCvcDb} {call : InstanceCall} {calls rest : List InstanceCall} {reg : List Nat}
      (before : Registered (call :: rest, db) reg) (ok : h.visitInstance theLimit counts db call = .ok (db', calls)) :
      Registered (calls ++ rest, db') (reg ++ h.registers theLimit counts db call)

/-- The instance is of the circuit and has the nets at its ports. -/
def HasPorts (name : Nat) (portNets : List Nat) (x : Nat) : Prop :=
  ∃ I, db.instancePtrV x = some I ∧ I.masterName = name ∧ I.localToGlobalNetIdV.take portNets.length = portNets

/-- The instance is kept: it has a net for every signal of its circuit. -/
def Kept (x : Nat) : Prop :=
  ∃ I, db.instancePtrV x = some I ∧ I.localToGlobalNetIdV.length = (h.circuit I.masterName).localSignalIdMap.length ∧
    (I.isParallelInstance = true → (h.circuit I.masterName).localSignalIdMap = [])

/-- The chains of a circuit, one for each key: each leads through different instances to the mark at its end, all of them are
registered instances of the circuit, and each of those is on one chain. -/
structure Chains (db : CCvcDb) (reg : List Nat) (name : Nat) (chain : Nat → List Nat) : Prop where
  linked : ∀ key < (counts name).instanceCount,
    Linked unknownDevice db.nextHashed (db.instanceHashIdV name key) (chain key)
  nodup : ∀ key, (chain key).Nodup
  mem : ∀ key, ∀ x ∈ chain key, x ∈ reg ∧ (db.instancePtrV x).map CInstance.masterName = some name
  once : ∀ x ∈ reg, (db.instancePtrV x).map CInstance.masterName = some name →
    ∃! key, key < (counts name).instanceCount ∧ x ∈ chain key

end Statement

variable {h : Hierarchy} {theLimit lim : Nat} {counts : Nat → CircuitCounts} {N : Numbering} {vis pend rest : List (List Nat)}
  {tbl : FoldTable} {db db' : CCvcDb} {p q : List Nat} {i : Nat}

/-- Every state that flattening reaches has its registered instances. -/
theorem exists_registered {s : FlattenState} (hr : h.Reaches lim counts (h.topCalls, h.topInstance) s) :
    ∃ reg, h.Registered lim counts s reg := by
  induction hr with
  | refl => exact ⟨_, .start⟩
  | tail _ hstep ih =>
    obtain ⟨reg, hreg⟩ := ih
    cases hstep with
    | visit ok => exact ⟨_, .visit hreg ok⟩

/-! ## The lookups of the run -/

variable (h theLimit) in
/-- The nodes that are registered: those that are kept, but the top and those over the port limit. -/
def registeredNodes (tbl : FoldTable) : List (List Nat) :=
  tbl.kept.filter fun p => p != [] && decide ((h.circuitAt p).portCount ≤ theLimit)

theorem mem_registeredNodes : p ∈ h.registeredNodes lim tbl ↔ p ∈ tbl.kept ∧ p ≠ [] ∧ (h.circuitAt p).portCount ≤ lim := by
  simp [registeredNodes]

theorem registeredNodes_concat_none (hp : p ≠ []) : h.registeredNodes lim (tbl ++ [(p, none)]) =
    h.registeredNodes lim tbl ++ if (h.circuitAt p).portCount ≤ lim then [p] else [] := by
  unfold registeredNodes
  rw [FoldTable.kept_concat_none, filter_append]
  split <;> simp [*]

theorem lookupPorts_eq (hF : h.Flat lim counts N vis ((i :: q) :: rest) tbl db) (hc : h.Counted counts) :
    h.lookupPorts lim db (h.callAt N tbl (i :: q)) =
      if tbl.image q = none ∧ (h.circuitAt (i :: q)).portCount ≤ lim then some (h.portIds (Flat.next N db (i :: q)) (i :: q))
      else none := by
  obtain ⟨-, hi⟩ := hF.visiting.parent i q (by simp)
  obtain ⟨parent, hparent, -, hlocal⟩ := hF.parent hc
  have hlen : (h.callAt N tbl (i :: q)).theSubcircuit.signalIdV.length = (h.circuitAt (i :: q)).portCount :=
    h.signals_length (h.callOf_mem hi)
  have hpar : (h.callAt N tbl (i :: q)).isParallel = false ↔ tbl.image q = none := by simp [callAt]
  unfold lookupPorts
  rw [show (newInstance db (h.callAt N tbl (i :: q))).instancePtrV (h.callAt N tbl (i :: q)).theParentId = some parent from
    CCvcDb.instancePtr_eq_ok.1 hparent]
  simp only [hlen, hpar]
  split
  · rename_i hq
    rw [hlocal hq.1]
    exact congrArg some (portNets_callOf hi)
  · rfl

/-- A lookup returns the instance that the node is folded onto, or registers the node. -/
theorem lookup_eq (hF : h.Flat lim counts N vis ((i :: q) :: rest) tbl db) (hc : h.Counted counts)
    (hq : tbl.image q = none) (hlim : (h.circuitAt (i :: q)).portCount ≤ lim) :
    match h.imageOf lim tbl (i :: q) with
    | some t => t ∈ h.registeredNodes lim tbl ∧ h.samePorts (i :: q) t = true ∧
        lookup counts db (h.callAt N tbl (i :: q)) (h.portIds (Flat.next N db (i :: q)) (i :: q)) =
          .ok (N.id t, newInstance db (h.callAt N tbl (i :: q)))
    | none => (∀ t ∈ tbl.kept, h.samePorts (i :: q) t = false) ∧ ∃ db',
        lookup counts db (h.callAt N tbl (i :: q)) (h.portIds (Flat.next N db (i :: q)) (i :: q)) = .ok (N.id (i :: q), db') ∧
        (newInstance db (h.callAt N tbl (i :: q))).SameShape db' ∧
        h.Hashes lim counts (Flat.next N db (i :: q)) (tbl ++ [(i :: q, none)]) db' := by
  have hm := hF.made hc
  have hnode : h.IsNode (i :: q) := hF.visiting.isNode (by simp)
  have hids : ∀ x ∈ vis ++ (i :: q) :: rest, (Flat.next N db (i :: q)).id x = N.id x := fun x hx => visit_id hF.visiting hx
  have hfind := hm.findParallelInstance hq hlim (hc.pos hnode) (hc.le_unknown _)
  have hchain := find_hashed hm hlim
  rw [hids _ (by simp)] at hfind
  rw [h.imageOf_of_kept hq, if_pos hlim]
  cases hf : tbl.kept.find? (h.samePorts (i :: q)) with
  | some t =>
    rw [hf] at hchain
    simp only [hf] at hfind
    obtain ⟨htk, hroot, -, htl⟩ := mem_of_hashed (mem_of_find?_eq_some hchain)
    rw [hids t (mem_append_left _ (hm.mem_kept.1 htk).1)] at hfind
    exact ⟨mem_registeredNodes.2 ⟨htk, hroot, htl⟩, find?_some hf, hfind⟩
  | none =>
    rw [hf] at hfind
    obtain ⟨db', hcode, hsame, hhash⟩ := hfind
    refine ⟨fun t ht => ?_, db', hcode, hsame.toSameShape, hhash⟩
    simpa using find?_eq_none.1 hf t ht

theorem registers_eq (hF : h.Flat lim counts N vis (p :: rest) tbl db) (hc : h.Counted counts) :
    h.registers lim counts db (h.callAt N tbl p) =
      if h.imageOf lim tbl p = none ∧ (h.circuitAt p).portCount ≤ lim then [N.id p] else [] := by
  obtain ⟨i, q, rfl, -, -⟩ := hF.visiting.head_cons
  unfold registers
  rw [lookupPorts_eq hF hc]
  rcases Nat.lt_or_ge lim (h.circuitAt (i :: q)).portCount with hover | hlim
  · simp [Nat.not_le.2 hover]
  cases hq : tbl.image q with
  | some t => simp [h.imageOf_of_folded hq]
  | none =>
    have hlook := lookup_eq hF hc hq hlim
    cases himg : h.imageOf lim tbl (i :: q) with
    | some t =>
      rw [himg] at hlook
      obtain ⟨ht, -, hcode⟩ := hlook
      have htv := (hF.folds.mem_kept (nodup_append.1 hF.visiting.nodup).1).1 (mem_registeredNodes.1 ht).1
      have hne : N.id t ≠ (h.callAt N tbl (i :: q)).theInstanceId := hF.ids.id_ne hF.visiting htv.1
      simp [hlim, hcode, hne]
    | none =>
      rw [himg] at hlook
      obtain ⟨-, db', hcode, -, -⟩ := hlook
      have hself : N.id (i :: q) = (h.callAt N tbl (i :: q)).theInstanceId := rfl
      simp [hlim, hcode, ← hself]

/-- A visit adds the node that it registers. -/
theorem registeredNodes_visit (hF : h.Flat lim counts N vis (p :: rest) tbl db) :
    (h.registeredNodes lim (h.visitTable lim tbl p)).map (Flat.next N db p).id = (h.registeredNodes lim tbl).map N.id ++
        if h.imageOf lim tbl p = none ∧ (h.circuitAt p).portCount ≤ lim then [N.id p] else [] := by
  have hids : ∀ x ∈ vis ++ p :: rest, (Flat.next N db p).id x = N.id x := fun x hx => visit_id hF.visiting hx
  have hold : (h.registeredNodes lim tbl).map (Flat.next N db p).id = (h.registeredNodes lim tbl).map N.id := by
    refine map_congr_left fun x hx => hids x (mem_append_left _ ?_)
    exact ((hF.folds.mem_kept (nodup_append.1 hF.visiting.nodup).1).1 (mem_registeredNodes.1 hx).1).1
  obtain ⟨i, q, rfl, -, -⟩ := hF.visiting.head_cons
  unfold visitTable
  cases himg : h.imageOf lim tbl (i :: q) with
  | some t =>
    have : h.registeredNodes lim (tbl ++ [(i :: q, some t)]) = h.registeredNodes lim tbl := by
      unfold registeredNodes
      rw [FoldTable.kept_concat_some]
    simp [this, hold]
  | none =>
    rw [registeredNodes_concat_none (cons_ne_nil i q), map_append, hold]
    split <;> simp_all

/-- The registered instances are those of the registered nodes. -/
theorem Registered.running (hc : h.Counted counts) {s : FlattenState} {reg : List Nat}
    (hr : h.Registered lim counts s reg) : ∃ N vis pend tbl, s.1 = pend.map (h.callAt N tbl) ∧
      h.Running lim counts N vis pend tbl s.2 ∧ reg = (h.registeredNodes lim tbl).map N.id := by
  induction hr with
  | start => exact ⟨_, _, _, _, topCalls_eq, .start, rfl⟩
  | visit _ hok ih =>
    obtain ⟨N, vis, pend, tbl, hs, hR, rfl⟩ := ih
    cases pend with
    | nil => nomatch hs
    | cons p rest =>
      obtain ⟨rfl, rfl⟩ := cons.inj hs
      obtain ⟨hR', hcalls⟩ := hR.visit hc hok
      refine ⟨_, _, _, _, hcalls, hR', ?_⟩
      rw [registers_eq hR.toFlat hc]
      exact (registeredNodes_visit hR.toFlat).symm

/-! ## The chains -/

/-- The chains hold the instances of the registered nodes. -/
theorem Hashes.chains (hh : h.Hashes lim counts N tbl db) (hc : h.Counted counts) (hin : h.Insts N vis db)
    (hnode : ∀ x ∈ vis, h.IsNode x) (hk : ∀ x ∈ tbl.kept, x ∈ vis) (hnd : tbl.kept.Nodup)
    (hinj : ∀ x ∈ vis, ∀ y ∈ vis, N.id x = N.id y → x = y) (name : Nat) :
      Chains counts db ((h.registeredNodes lim tbl).map N.id) name
      fun key => (h.hashed N lim counts tbl name key).map N.id := by
  have hmaster : ∀ x ∈ vis, (db.instancePtrV (N.id x)).map CInstance.masterName = some (h.masterOf x) := by
    intro x hx
    obtain ⟨I, hI, hm, -⟩ := hin.made x hx
    rw [hI, Option.map_some, hm]
  refine ⟨fun key _ => hh name key, ?_, ?_, ?_⟩
  · intro key
    refine (hnd.filter _).map_on fun x hx y hy he => ?_
    exact hinj x (hk x (mem_filter.1 hx).1) y (hk y (mem_filter.1 hy).1) he
  · intro key y hy
    obtain ⟨x, hx, rfl⟩ := mem_map.1 hy
    obtain ⟨hxk, hroot, hm, hlim⟩ := mem_of_hashed hx
    refine ⟨mem_map_of_mem (mem_registeredNodes.2 ⟨hxk, hroot, hlim⟩), ?_⟩
    rw [hmaster x (hk x hxk), hm]
  · intro y hy hname
    obtain ⟨x, hx, rfl⟩ := mem_map.1 hy
    obtain ⟨hxk, hroot, hlim⟩ := mem_registeredNodes.1 hx
    rw [hmaster x (hk x hxk)] at hname
    obtain rfl := Option.some.inj hname
    refine ⟨makePortHash (h.portIds N x) (counts (h.masterOf x)).instanceCount, ⟨Nat.mod_lt _ (hc.pos (hnode x (hk x hxk))), ?_⟩,
      ?_⟩
    · refine mem_map_of_mem (mem_filter.2 ⟨hxk, ?_⟩)
      simp [hroot, hlim]
    · rintro key ⟨-, hkey⟩
      obtain ⟨z, hz, he⟩ := mem_map.1 hkey
      obtain ⟨hzk, hz⟩ := mem_filter.1 hz
      obtain rfl := hinj z (hk z hzk) x (hk x hxk) he
      simp only [Bool.and_eq_true, beq_iff_eq] at hz
      exact hz.2.symm

/-- The instance of a kept node is kept. -/
theorem Flat.kept (hF : h.Flat lim counts N vis pend tbl db) (hp : p ∈ vis) (hk : tbl.image p = none) : h.Kept db (N.id p) := by
  obtain ⟨I, hI, hmaster, -⟩ := hF.insts.made p hp
  have hlen : I.localToGlobalNetIdV.length = (h.circuit I.masterName).localSignalIdMap.length := by
    rw [(hF.nets.kept p hp I hI hk).2.2, hmaster]
    simp [netMap, signals, circuitAt]
  refine ⟨I, hI, hlen, fun hpar => ?_⟩
  have hnil : I.localToGlobalNetIdV = [] := by simpa [CInstance.isParallelInstance] using hpar
  rw [hnil] at hlen
  exact length_eq_zero_iff.1 hlen.symm

/-! ## The nets at the ports -/

theorem portsMatch_iff_take {I : CInstance} {portNets : List Nat} (hle : portNets.length ≤ I.localToGlobalNetIdV.length) :
    I.portsMatch portNets = true ↔ I.localToGlobalNetIdV.take portNets.length = portNets := by
  unfold CInstance.portsMatch
  simp only [all_eq_true, mem_range, beq_iff_eq]
  constructor
  · intro hall
    refine ext_getElem (by simp [hle]) fun k h1 h2 => ?_
    have := hall k h2
    rw [getD_eq_getElem _ _ h2, getD_eq_getElem _ _ (by omega)] at this
    rw [getElem_take, this]
  · intro htake k hk
    have hget : I.localToGlobalNetIdV[k]? = portNets[k]? := by rw [← getElem?_take_of_lt hk, htake]
    rw [getD_eq_getElem?_getD, getD_eq_getElem?_getD, hget]

/-- The instance of a kept node has the nets of the next node at its ports exactly when both nodes have the same. -/
theorem hasPorts_iff (hF : h.Flat lim counts N vis ((i :: q) :: rest) tbl db) (hc : h.Counted counts)
    (hq : tbl.image q = none) {x : List Nat} (hx : x ∈ vis) (hxk : tbl.image x = none) :
    HasPorts db (h.masterOf (i :: q)) (h.portIds (Flat.next N db (i :: q)) (i :: q)) (N.id x) ↔
      h.samePorts (i :: q) x = true := by
  have hm := hF.made hc
  obtain ⟨hqv, hi⟩ := hF.visiting.parent i q (by simp)
  have hvis : ∀ y ∈ vis, y ∈ vis ++ [i :: q] := fun y hy => mem_append_left _ hy
  obtain ⟨I, hI, hmaster, -⟩ := hF.insts.made x hx
  have hmap : I.localToGlobalNetIdV = h.netMap (Flat.next N db (i :: q)) x := by
    rw [(hF.nets.kept x hx I hI hxk).2.2]
    exact (visit_netMap hF.visiting hx).symm
  have hmatch : h.masterOf x = h.masterOf (i :: q) → (I.localToGlobalNetIdV.take
      (h.portIds (Flat.next N db (i :: q)) (i :: q)).length = h.portIds (Flat.next N db (i :: q)) (i :: q) ↔
        h.samePorts (i :: q) x = true) := by
    intro he
    have hle : (h.portIds (Flat.next N db (i :: q)) (i :: q)).length ≤ I.localToGlobalNetIdV.length := by
      have := h.portCount_le_signals x
      rw [show h.circuitAt x = h.circuitAt (i :: q) by unfold circuitAt; rw [he]] at this
      rw [hmap]
      simpa [portIds, netMap] using this
    rw [← portsMatch_iff_take hle, portsMatch_iff hm.nets hm.folds hm.visiting
      (fun y hy z hz => hm.inj y (hvis y hy) z (hvis z hz)) hi hqv hq hx hxk he hmap]
  constructor
  · rintro ⟨J, hJ, hname, htake⟩
    obtain rfl := Option.some.inj (hI.symm.trans hJ)
    exact (hmatch (hmaster.symm.trans hname)).1 htake
  · intro hs
    have he := ((h.samePorts_iff).1 hs).1.symm
    exact ⟨I, hI, hmaster.trans he, (hmatch he).2 hs⟩

/-! ## Every call -/

theorem lookup_spec (hF : h.Flat lim counts N vis ((i :: q) :: rest) tbl db) (hc : h.Counted counts)
    (hq : tbl.image q = none) (hlim : (h.circuitAt (i :: q)).portCount ≤ lim) :
    ∃ x db', lookup counts db (h.callAt N tbl (i :: q)) (h.portIds (Flat.next N db (i :: q)) (i :: q)) = .ok (x, db') ∧
      (x ∈ (h.registeredNodes lim tbl).map N.id ↔ ∃ y ∈ (h.registeredNodes lim tbl).map N.id,
        HasPorts db (h.masterOf (i :: q)) (h.portIds (Flat.next N db (i :: q)) (i :: q)) y) ∧
      (x ∈ (h.registeredNodes lim tbl).map N.id → HasPorts db (h.masterOf (i :: q))
        (h.portIds (Flat.next N db (i :: q)) (i :: q)) x ∧
          db' = newInstance db (h.callAt N tbl (i :: q))) ∧ (x ∉ (h.registeredNodes lim tbl).map N.id → x = N.id (i :: q) ∧
        ∀ name, ∃ chain, Chains counts db' ((h.registeredNodes lim tbl).map N.id ++ [x]) name chain) := by
  have hm := hF.made hc
  have hreg : ∀ x ∈ h.registeredNodes lim tbl, x ∈ vis ∧ tbl.image x = none :=
    fun x hx => hm.mem_kept.1 (mem_registeredNodes.1 hx).1
  have hlook := lookup_eq hF hc hq hlim
  cases himg : h.imageOf lim tbl (i :: q) with
  | some t =>
    rw [himg] at hlook
    obtain ⟨ht, hsame, hcode⟩ := hlook
    have hmem := mem_map_of_mem (f := N.id) ht
    have hhas := (hasPorts_iff hF hc hq (hreg t ht).1 (hreg t ht).2).2 hsame
    exact ⟨_, _, hcode, ⟨fun _ => ⟨_, hmem, hhas⟩, fun _ => hmem⟩, fun _ => ⟨hhas, rfl⟩, fun hn => absurd hmem hn⟩
  | none =>
    rw [himg] at hlook
    obtain ⟨hnone, db', hcode, hshape, hhash⟩ := hlook
    have hnot : N.id (i :: q) ∉ (h.registeredNodes lim tbl).map N.id := by
      intro hx
      obtain ⟨x, hx, he⟩ := mem_map.1 hx
      exact hF.ids.id_ne hF.visiting (hreg x hx).1 he
    refine ⟨_, _, hcode, ⟨fun hx => absurd hx hnot, ?_⟩, fun hx => absurd hx hnot, fun _ => ⟨rfl, fun name => ?_⟩⟩
    · rintro ⟨y, hy, hhas⟩
      obtain ⟨x, hx, rfl⟩ := mem_map.1 hy
      have hsame := (hasPorts_iff hF hc hq (hreg x hx).1 (hreg x hx).2).1 hhas
      rw [hnone x (mem_registeredNodes.1 hx).1] at hsame
      nomatch hsame
    · have hvisit := registeredNodes_visit (h := h) hF
      unfold visitTable at hvisit
      rw [himg, if_pos ⟨rfl, hlim⟩] at hvisit
      rw [← hvisit]
      have hfolds := hF.folds.visit hF.visiting
      have hvis := hF.visiting.visit
      rw [himg] at hfolds
      exact ⟨_, hhash.chains hc (hm.insts.congr hshape) (fun x hx => hvis.isNode (mem_append_left _ hx))
        (fun x hx => hfolds.kept_sublist.subset hx) ((nodup_append.1 hvis.nodup).1.sublist hfolds.kept_sublist) hm.inj name⟩

/-- At any state of the run the registered instances are kept and the chains hold them. If the next visit calls
`FindParallelInstance`, it returns a registered instance of the circuit with the same nets at its ports exactly when there is one,
and otherwise its own, which is then on its chain. -/
theorem findParallelInstance_spec (h : Hierarchy) (theLimit : Nat) (counts : Nat → CircuitCounts)
    (hlink : h.linkTop = .ok counts) (s : FlattenState) (reg : List Nat) (hr : h.Registered theLimit counts s reg) :
    (∀ x ∈ reg, h.Kept s.2 x) ∧ (∀ name, ∃ chain, Chains counts s.2 reg name chain) ∧
    ∀ call rest portNets, s.1 = call :: rest → h.lookupPorts theLimit s.2 call = some portNets →
      ∃ x db', lookup counts s.2 call portNets = .ok (x, db') ∧
        (x ∈ reg ↔ ∃ y ∈ reg, HasPorts s.2 call.theSubcircuit.masterName portNets y) ∧
        (x ∈ reg → HasPorts s.2 call.theSubcircuit.masterName portNets x ∧ db' = newInstance s.2 call) ∧
        (x ∉ reg → x = call.theInstanceId ∧ ∀ name, ∃ chain, Chains counts db' (reg ++ [x]) name chain) := by
  have hc := counted_of_linkTop hlink
  obtain ⟨N, vis, pend, tbl, hcalls, hR, rfl⟩ := hr.running hc
  obtain ⟨calls, db⟩ := s
  have hnd : vis.Nodup := (nodup_append.1 hR.visiting.nodup).1
  have hkept : ∀ x ∈ tbl.kept, x ∈ vis ∧ tbl.image x = none := fun x hx => (hR.folds.mem_kept hnd).1 hx
  have hknd : tbl.kept.Nodup := hnd.sublist hR.folds.kept_sublist
  refine ⟨?_, fun name => ⟨_, hR.hashes.chains hc hR.insts (fun x hx => hR.visiting.isNode (mem_append_left _ hx))
    (fun x hx => (hkept x hx).1) hknd
    (fun x hx y hy => hR.ids.inj (mem_append_left _ hx) (mem_append_left _ hy)) name⟩, ?_⟩
  · intro y hy
    obtain ⟨x, hx, rfl⟩ := mem_map.1 hy
    obtain ⟨hxv, hxk⟩ := hkept x (mem_registeredNodes.1 hx).1
    exact hR.toFlat.kept hxv hxk
  · rintro call rest portNets rfl hports
    cases pend with
    | nil => nomatch hcalls
    | cons p rest =>
      obtain ⟨rfl, rfl⟩ := cons.inj hcalls
      obtain ⟨i, q, rfl, -, -⟩ := hR.visiting.head_cons
      have hp := lookupPorts_eq hR.toFlat hc
      split at hp
      · rename_i hcond
        obtain rfl := Option.some.inj (hports.symm.trans hp)
        exact lookup_spec hR.toFlat hc hcond.1 hcond.2
      · nomatch hports.symm.trans hp

theorem twins_lookup : ∃ counts db reg, twins.linkTop = .ok counts ∧ twins.assignTopGlobalIDs 10 counts = .ok db ∧
    twins.Registered 10 counts ([], db) reg ∧ (∀ x ∈ reg, twins.Kept db x) ∧ (∀ name, ∃ chain, Chains counts db reg name chain) ∧
    ∃ x db', lookup counts twins.topInstance ⟨1, ⟨0, [0], 1⟩, 0, false⟩ [0] = .ok (x, db') ∧ x = 1 ∧
      ∀ name, ∃ chain, Chains counts db' [1] name chain := by
  obtain ⟨counts, db, hlink, hok, -⟩ := twins.exists_flat 10 (fun _ => True) (by decide +kernel)
  obtain ⟨reg, hreg⟩ := exists_registered (reaches_of_assignTop hok)
  obtain ⟨hkept, hchains, -⟩ := findParallelInstance_spec twins 10 counts hlink _ _ hreg
  obtain ⟨-, -, hcall⟩ := findParallelInstance_spec twins 10 counts hlink _ _ .start
  obtain ⟨x, db', hcode, -, -, hown⟩ := hcall ⟨1, ⟨0, [0], 1⟩, 0, false⟩ [⟨2, ⟨1, [0], 1⟩, 0, false⟩] [0] (by decide) (by decide)
  obtain ⟨rfl, hnew⟩ := hown not_mem_nil
  exact ⟨counts, db, reg, hlink, hok, hreg, hkept, hchains, 1, db', hcode, rfl, hnew⟩

end Hierarchy
end Cvc
