import Cvc.Lemmas.InstancePath
import Cvc.NameLookup

/-!
# Lookup of names and parallel instances

`FindNet` and `FindDevice` test whether the instance they start from is parallel, and read the net map and the devices of the
instance they find. A name that leads from an instance that is kept into one that is folded reads a map that is empty, or devices
that were not numbered.
-/

namespace Cvc

open CCircuitPtrList List Option

/-- The instance at an id looks parallel. -/
def CCvcDb.Folded (db : CCvcDb) (x : Nat) : Prop := ∃ I, db.instancePtrV x = some I ∧ I.isParallelInstance = true

/-- What `PrintParallelInstance` names as the instance that an instance is merged with is an instance. -/
def CCvcDb.MergedKnown (db : CCvcDb) (x : Nat) : Prop := ∃ w < db.subcircuitCount, db.mergedWith db.subcircuitCount x = .ok w

namespace Hierarchy

variable (h : Hierarchy) {name : Text} {r : List Nat} {w : HierarchyWalk}

/-- The full name of a node. -/
def nodeName : List Nat → Text
  | [] => []
  | i :: p => nodeName p ++ hierarchyDelimiter :: h.chars (h.callOf i p).name

/-- What is left of a name that is looked up from a node, behind the name of the node it leads to. -/
def restName (s r : List Nat) (theName : Text) : Option Text :=
  let initial := if theName.head? = some hierarchyDelimiter then 0 else (h.nodeName s).length + 1
  if initial ≤ (h.nodeName r).length + 1 ∧ (h.nodeName r).length + 1 - initial ≤ theName.length then
    some (theName.drop ((h.nodeName r).length + 1 - initial))
  else none

/-- The place of the signal of a name in the circuit of a node. -/
def signalNamed (names : CCircuitPtrList h) (r : List Nat) (rest : Option Text) : Option Nat :=
  (rest.bind names.getTextAddress).bind fun text => (h.circuitAt r).localSignalIdMap.findIdx? (· == text)

/-- The place of the device of a name in the circuit of a node. -/
def deviceNamed (names : CCircuitPtrList h) (r : List Nat) (rest : Option Text) : Option Nat :=
  (rest.bind names.getTextAddress).bind fun text => (h.circuitAt r).devicePtrV.findIdx? fun d => d.name == text

variable {h} {db : CCvcDb} {id : List Nat → Nat} {names : CCircuitPtrList h} {p s : List Nat}

theorem not_folded_iff {I : CInstance} (hp : h.IsNode p) (hI : db.instancePtrV (id p) = some I) :
    ¬ db.Folded (id p) ↔ h.NonParallel db id p I := by
  simp [CCvcDb.Folded, NonParallel, hp, hI]

/-! ## Names of instances -/

theorem hierarchyNameUpTo_node (hf : h.FlatForm db id) (hp : h.IsNode p) {rounds : Nat} (hrounds : p.length ≤ rounds) :
    h.hierarchyNameUpTo db rounds (id p) = .ok (h.nodeName p) := by
  induction p generalizing rounds with
  | nil =>
    unfold hierarchyNameUpTo
    rw [if_pos hf.id_root]
    rfl
  | cons i p ih =>
    obtain ⟨I, hI, -, hparent, -⟩ := hf.instance_eq (i :: p) hp
    obtain ⟨J, hJ, hmaster, -, hchild⟩ := hf.instance_eq p hp.1
    obtain ⟨rounds, rfl⟩ : ∃ n, rounds = n + 1 := ⟨rounds - 1, by simp at hrounds; omega⟩
    have hne : id (i :: p) ≠ 0 := by
      have := hf.parent_lt i p hp
      omega
    have hoffset : id (i :: p) - J.firstSubcircuitId = i := by
      rw [hchild i hp.2]
      omega
    have hcall : (h.circuit J.masterName).subcircuitPtrV[i]? = some (h.callOf i p) := by
      have hi : i < (h.circuit (h.masterOf p)).subcircuitPtrV.length := hp.2
      rw [hmaster, getElem?_eq_getElem hi]
      simp [callOf, circuitAt, hi]
    have hrec : h.hierarchyNameUpTo db rounds (id p) = .ok (h.nodeName p) := ih hp.1 (by simpa using hrounds)
    have hparent' : I.parentId = id p := hparent
    unfold hierarchyNameUpTo
    simp only [hne, CCvcDb.instancePtr, hI, hparent', hJ, hoffset, hcall, hrec, bind, Except.bind]
    rfl

/-- The name of the instance at a node is that of the node. -/
theorem hierarchyName_node (hf : h.FlatForm db id) (hp : h.IsNode p) : h.hierarchyName db (id p) = .ok (h.nodeName p) :=
  hierarchyNameUpTo_node hf hp (Nat.le_of_lt (hf.length_lt hp))

/-- Exactly the instances have names. -/
theorem hierarchyName_returns_iff (hf : h.ListedForm db id) {x : Nat} : (∃ t, h.hierarchyName db x = .ok t) ↔
    x < db.subcircuitCount := by
  constructor
  · rintro ⟨t, ht⟩
    by_contra hge
    have hnone := hf.no_other x (by omega)
    have hpos : 0 < db.subcircuitCount := Nat.zero_lt_of_lt (hf.id_lt [] trivial)
    obtain ⟨n, hn⟩ : ∃ n, db.subcircuitCount = n + 1 := ⟨db.subcircuitCount - 1, by omega⟩
    have hx : x ≠ 0 := by omega
    unfold hierarchyName at ht
    rw [hn] at ht
    unfold hierarchyNameUpTo at ht
    simp only [hx, CCvcDb.instancePtr, hnone, bind] at ht
    cases ht
  · intro hx
    obtain ⟨p, hp, rfl⟩ := hf.id_surj x hx
    exact ⟨_, hierarchyName_node hf.toFlatForm hp⟩

/-- An instance is reported as parallel exactly when it is merged with an instance. -/
theorem printParallelInstance_returns_iff (hf : h.ListedForm db id) (hp : h.IsNode p) :
    h.printParallelInstance db (id p) = .ok () ↔ db.MergedKnown (id p) := by
  unfold printParallelInstance CCvcDb.MergedKnown
  simp only [hierarchyName_node hf.toFlatForm hp, bind, Except.bind]
  cases hmerged : db.mergedWith db.subcircuitCount (id p) with
  | error e =>
    simp
  | ok w =>
    have hname := hierarchyName_returns_iff hf (x := w)
    cases ht : h.hierarchyName db w with
    | error e =>
      simp only [ht, reduceCtorEq, exists_false, false_iff] at hname
      simp [ht, hname]
    | ok t =>
      have hw : w < db.subcircuitCount := hname.1 ⟨t, ht⟩
      simp [ht, hw, pure, Except.pure]

/-! ## The walk down -/

section
variable (names) (hf : h.FlatForm db id)
include names hf

/-- A round of the walk leads from an instance to an instance. -/
theorem walkDown_known (hw : ∃ p, h.IsNode p ∧ id p = w.theCurrentInstanceId) (name : Text) :
    ∃ w', names.walkDown db w name = .ok w' ∧ ∃ p, h.IsNode p ∧ id p = w'.theCurrentInstanceId := by
  obtain ⟨p, hp, hid⟩ := hw
  obtain ⟨I, hI, hmaster, hparent, hchild⟩ := hf.instance_eq p hp
  unfold walkDown
  simp only [CCvcDb.instancePtr, ← hid, hI, bind, Except.bind]
  generalize (if w.myUnmatchedHierarchy = [] then _ else _) = myInstanceName
  split
  · exact ⟨_, rfl, p.tail, hp.of_suffix (tail_suffix p), hparent.symm⟩
  split
  · rename_i k hk
    obtain ⟨a, -, hfind⟩ := bind_eq_some_iff.1 hk
    have hlt : k < h.width p := by
      have := (findIdx?_eq_some_iff_findIdx_eq.1 hfind).1
      rwa [hmaster] at this
    exact ⟨_, rfl, k :: p, ⟨hp, hlt⟩, hchild k hlt⟩
  · exact ⟨_, rfl, p, hp, rfl⟩

theorem foldlM_walkDown_known (path : List Text) (hw : ∃ p, h.IsNode p ∧ id p = w.theCurrentInstanceId) :
    ∃ w', path.foldlM (names.walkDown db) w = .ok w' ∧ ∃ p, h.IsNode p ∧ id p = w'.theCurrentInstanceId := by
  induction path generalizing w with
  | nil => exact ⟨w, rfl, hw⟩
  | cons name path ih =>
    obtain ⟨w1, hstep, hw1⟩ := walkDown_known names hf hw name
    rw [foldlM_cons, hstep]
    exact ih hw1

/-- A name leads to an instance. -/
theorem resolvedInstance_known (hs : h.IsNode s) (name : Text) : ∃ r, h.IsNode r ∧
    names.resolvedInstance db (id s) name = .ok (id r) := by
  have hwalk : ∀ x, (∃ p, h.IsNode p ∧ id p = x) → ∀ path, ∃ r, h.IsNode r ∧ names.findHierarchy db x path = .ok (id r) := by
    intro x hx path
    have hroot : ∃ p, h.IsNode p ∧ id p = 0 := ⟨[], trivial, hf.id_root⟩
    unfold findHierarchy
    split
    rename_i x' path' heq
    have hx' : ∃ p, h.IsNode p ∧ id p = x' := by
      split at heq
      · exact (Prod.mk.inj heq).1 ▸ hroot
      · exact (Prod.mk.inj heq).1 ▸ hx
    obtain ⟨w, hw, r, hr, hid⟩ := foldlM_walkDown_known names hf (hierarchyNames path') (w := ⟨x', []⟩) hx'
    refine ⟨r, hr, ?_⟩
    rw [hw, hid]
    rfl
  unfold resolvedInstance
  split
  · exact hwalk 0 ⟨[], trivial, hf.id_root⟩ _
  · exact hwalk (id s) ⟨s, hs, rfl⟩ _

end

/-! ## Lookups -/

/-- The lookup from a folded instance gives up. -/
theorem locate_folded (hf : h.FlatForm db id) (hs : h.IsNode s) (hfold : db.Folded (id s)) :
    names.locate db (id s) name = (do h.printParallelInstance db (id s); pure .parallel) := by
  obtain ⟨I, hI, hpar⟩ := hfold
  obtain ⟨r, -, hres⟩ := resolvedInstance_known names hf hs name
  unfold locate
  by_cases habs : name.head? = some hierarchyDelimiter
  · simp only [habs, if_true, hres, CCvcDb.instancePtr, hI, hpar, bind, Except.bind, pure, Except.pure]
  · simp only [habs, if_false, hres, CCvcDb.instancePtr, hI, hpar, hierarchyName_node hf hs, bind, Except.bind, pure, Functor.map,
      Except.map, if_true]

/-- The lookup from an instance that is kept finds the instance that the name leads to, and the rest of the name. -/
theorem locate_kept (hf : h.FlatForm db id) (hs : h.IsNode s) (hkept : ¬ db.Folded (id s))
    (hr : h.IsNode r) (hres : names.resolvedInstance db (id s) name = .ok (id r)) :
    names.locate db (id s) name = .ok (.found (id r) (h.restName s r name)) := by
  obtain ⟨I, hI, -⟩ := hf.instance_eq s hs
  have hnp := ((not_folded_iff hs hI).1 hkept).2.2
  unfold locate restName
  by_cases habs : name.head? = some hierarchyDelimiter
  · simp only [habs, if_true, hres, CCvcDb.instancePtr, hI, hnp, hierarchyName_node hf hr, bind, Except.bind, pure, Except.pure,
      Functor.map, Except.map, length_append, length_singleton, length_nil, Bool.false_eq_true, if_false]
    split <;> rfl
  · simp only [habs, if_false, hres, CCvcDb.instancePtr, hI, hnp, hierarchyName_node hf hs, hierarchyName_node hf hr, bind,
      Except.bind, pure, Functor.map, Except.map, length_append, length_singleton, Bool.false_eq_true]
    split <;> rfl

/-- `FindNet` returns the mark of no net, or a net of an instance that is kept. -/
def NetSafe (names : CCircuitPtrList h) (db : CCvcDb) (id : List Nat → Nat) (s r : List Nat) (theName : Text) : Prop :=
  ∃ n, names.findNet db (id s) theName = .ok n ∧ (n = unknownNet ∨ ¬ db.Folded (id r) ∧ n < db.netCount)

/-- `FindDevice` returns the mark of no device, or a device of an instance that is kept. -/
def DeviceSafe (names : CCircuitPtrList h) (db : CCvcDb) (id : List Nat → Nat) (s r : List Nat) (theName : Text) : Prop :=
  ∃ n, names.findDevice db (id s) theName = .ok n ∧ (n = unknownDevice ∨ ¬ db.Folded (id r) ∧ n < db.deviceCount)

section
variable (hf : h.ListedForm db id) (hs : h.IsNode s) (hkept : ¬ db.Folded (id s)) (hr : h.IsNode r)
  (hres : names.resolvedInstance db (id s) name = .ok (id r))
include hf hs hkept hr hres

section
variable {J : CInstance} (hJ : db.instancePtrV (id r) = some J) (hmaster : J.masterName = h.masterOf r)
include hJ hmaster

theorem findNet_kept :
    names.findNet db (id s) name = match h.signalNamed names r (h.restName s r name) with
      | none => .ok unknownNet
      | some k => match J.localToGlobalNetIdV[k]? with
        | none => .error .undefined
        | some n => .ok n := by
  unfold findNet
  rw [locate_kept hf.toFlatForm hs hkept hr hres]
  simp only [bind, Except.bind, CCvcDb.instancePtr, hJ, hmaster]
  rfl

theorem findDevice_kept :
    names.findDevice db (id s) name = match h.deviceNamed names r (h.restName s r name) with
      | none => .ok unknownDevice
      | some k => .ok (J.firstDeviceId + k) := by
  unfold findDevice
  rw [locate_kept hf.toFlatForm hs hkept hr hres]
  simp only [bind, Except.bind, CCvcDb.instancePtr, hJ, hmaster, hierarchyName_node hf.toFlatForm hr]
  rfl

end

/-- Lookups of nets from an instance that is kept. -/
theorem netSafe_kept : NetSafe names db id s r name ↔ ¬ db.Folded (id r) ∨
    h.signalNamed names r (h.restName s r name) = none := by
  obtain ⟨J, hJ, hmaster, -⟩ := hf.instance_eq r hr
  unfold NetSafe
  rw [findNet_kept hf hs hkept hr hres hJ hmaster]
  cases hname : h.signalNamed names r (h.restName s r name) with
  | none => simp
  | some k =>
    simp only [reduceCtorEq, or_false]
    constructor
    · rintro ⟨n, hn, -⟩ ⟨K, hK, hpar⟩
      obtain rfl := some.inj (hJ.symm.trans hK)
      have hnil : J.localToGlobalNetIdV = [] := isEmpty_iff.1 hpar
      rw [hnil] at hn
      cases hn
    · intro hnot
      obtain ⟨a, -, hidx⟩ := bind_eq_some_iff.1 hname
      have hlt : k < h.signals r := (findIdx?_eq_some_iff_findIdx_eq.1 hidx).1
      obtain ⟨n, hn, hget⟩ := hf.signal_net r J ((not_folded_iff hr hJ).1 hnot) k hlt
      rw [hget]
      exact ⟨n, rfl, .inr ⟨hnot, hn⟩⟩

/-- Lookups of devices from an instance that is kept. -/
theorem deviceSafe_kept :
    DeviceSafe names db id s r name ↔ ¬ db.Folded (id r) ∨ ∀ k, h.deviceNamed names r (h.restName s r name) = some k →
      ∀ I, db.instancePtrV (id r) = some I → I.firstDeviceId + k = unknownDevice := by
  obtain ⟨J, hJ, hmaster, -⟩ := hf.instance_eq r hr
  unfold DeviceSafe
  rw [findDevice_kept hf hs hkept hr hres hJ hmaster]
  cases hname : h.deviceNamed names r (h.restName s r name) with
  | none => simp
  | some k =>
    constructor
    · rintro ⟨n, hn, hmark | ⟨hnot, -⟩⟩
      · refine .inr fun k' hk' I hI => ?_
        obtain rfl := some.inj hk'
        obtain rfl := some.inj (hJ.symm.trans hI)
        exact (Except.ok.inj hn).trans hmark
      · exact .inl hnot
    · rintro (hnot | hmark)
      · obtain ⟨a, -, hidx⟩ := bind_eq_some_iff.1 hname
        have hlt : k < (h.circuitAt r).devicePtrV.length := (findIdx?_eq_some_iff_findIdx_eq.1 hidx).1
        refine ⟨_, rfl, .inr ⟨hnot, hf.devices.inside r J _ ((not_folded_iff hr hJ).1 hnot) (by omega) ?_⟩⟩
        exact Nat.add_lt_add_left hlt _
      · exact ⟨_, rfl, .inl (hmark k rfl J hJ)⟩

end

/-- Every name leads to an instance. A lookup from a folded instance is safe exactly when the instance it is merged with is known;
a lookup from an instance that is kept is safe exactly when the name leads to one that is kept as well, or the rest of the name is
not that of a signal, respectively not that of a device, unless its index after the unassigned `firstDeviceId` happens to be
`UNKNOWN_DEVICE`. -/
theorem nameLookup_safe_iff (h : Hierarchy) (theLimit : Nat) (counts : Nat → CircuitCounts) (db : CCvcDb)
    (hlink : h.linkTop = .ok counts) (hok : h.assignTopGlobalIDs theLimit counts = .ok db) :
    ∃ id, h.FlatForm db id ∧ ∀ (names : CCircuitPtrList h) (s : List Nat) (theName : Text), h.IsNode s →
      ∃ r, h.IsNode r ∧ names.resolvedInstance db (id s) theName = .ok (id r) ∧
        (NetSafe names db id s r theName ↔ db.Folded (id s) ∧ db.MergedKnown (id s) ∨
          ¬ db.Folded (id s) ∧ (¬ db.Folded (id r) ∨ h.signalNamed names r (h.restName s r theName) = none)) ∧
        (DeviceSafe names db id s r theName ↔ db.Folded (id s) ∧ db.MergedKnown (id s) ∨
          ¬ db.Folded (id s) ∧ (¬ db.Folded (id r) ∨ ∀ k, h.deviceNamed names r (h.restName s r theName) = some k →
            ∀ I, db.instancePtrV (id r) = some I → I.firstDeviceId + k = unknownDevice)) := by
  obtain ⟨id, hf⟩ := exists_listedForm hlink hok
  refine ⟨id, hf.toFlatForm, fun names s theName hs => ?_⟩
  obtain ⟨r, hr, hres⟩ := resolvedInstance_known names hf.toFlatForm hs theName
  refine ⟨r, hr, hres, ?_⟩
  by_cases hfold : db.Folded (id s)
  · simp only [hfold, true_and, not_true_eq_false, false_and, or_false]
    rw [← printParallelInstance_returns_iff hf hs]
    unfold NetSafe DeviceSafe findNet findDevice
    rw [locate_folded hf.toFlatForm hs hfold]
    cases hprint : h.printParallelInstance db (id s) with
    | error e => simp [bind, Except.bind]
    | ok u => simp [bind, Except.bind, pure, Except.pure]
  · simp only [hfold, false_and, not_false_eq_true, true_and, false_or]
    exact ⟨netSafe_kept hf hs hfold hr hres, deviceSafe_kept hf hs hfold hr hres⟩

/-- Two instances of a circuit with a device, on one net: the second one is folded onto the first. -/
def mergedPair : Hierarchy :=
  ofCircuits [
    { portCount := 1, localSignalIdMap := [0], devicePtrV := [⟨2, [0], 0⟩] },
    { localSignalIdMap := [0], subcircuitPtrV := [⟨0, [0], 0⟩, ⟨1, [0], 0⟩] }] (by decide) (by decide) (by decide)

/-- The names of `mergedPair`. -/
def mergedPairNames : CCircuitPtrList mergedPair := .ofRange 3 (fun _ => isName_lt (fun _ => rfl) (by decide)) (by decide +kernel)

/-- The lookups of `/0/0` and `/0/2` from the top, in the instance that is kept. -/
theorem mergedPair_safe : ∃ counts db, mergedPair.linkTop = .ok counts ∧ mergedPair.assignTopGlobalIDs 10 counts = .ok db ∧
    ∃ id, mergedPair.FlatForm db id ∧ NetSafe mergedPairNames db id [] [0] "/0/0".toList ∧
      DeviceSafe mergedPairNames db id [] [0] "/0/2".toList := by
  obtain ⟨counts, db, hlink, hdb, hx, hy, htop, hinner⟩ := mergedPair.exists_flat 10
    (fun db => (mergedPairNames.resolvedInstance db 0 "/0/0".toList).toOption = some 1 ∧
      (mergedPairNames.resolvedInstance db 0 "/0/2".toList).toOption = some 1 ∧
      (db.instancePtrV 0).map (fun I => (I.isParallelInstance, I.firstSubcircuitId)) = some (false, 1) ∧
      (db.instancePtrV 1).map CInstance.isParallelInstance = some false) (by decide +kernel)
  obtain ⟨id, hf, hall⟩ := nameLookup_safe_iff mergedPair 10 counts db hlink hdb
  obtain ⟨r, hr, hres, hnet, -⟩ := hall mergedPairNames [] "/0/0".toList trivial
  obtain ⟨r', hr', hres', -, hdev⟩ := hall mergedPairNames [] "/0/2".toList trivial
  have hx := Except.ok.inj (hres.symm.trans (eq_ok_of_toOption hx))
  have hy := Except.ok.inj (hres'.symm.trans (eq_ok_of_toOption hy))
  obtain ⟨I, hI, htop⟩ := map_eq_some_iff.1 htop
  obtain ⟨hnp, hfirst⟩ := Prod.mk.inj htop
  obtain ⟨J, hJ, hnp'⟩ := map_eq_some_iff.1 hinner
  obtain ⟨K, hK, -, -, hchild⟩ := hf.instance_eq [] trivial
  rw [hf.id_root, hI] at hK
  have hzero : id [0] = 1 := by
    rw [hchild 0 (by decide), ← some.inj hK, hfirst]
  have hnode : mergedPair.IsNode [0] := ⟨trivial, by decide⟩
  obtain rfl : r = [0] := hf.id_inj r [0] hr hnode (hx.trans hzero.symm)
  obtain rfl : r' = [0] := hf.id_inj r' [0] hr' hnode (hy.trans hzero.symm)
  have hroot : mergedPair.IsNode [] := trivial
  have hkept : ¬ db.Folded (id []) := (not_folded_iff hroot (hf.id_root.symm ▸ hI)).2 ⟨hroot, hf.id_root.symm ▸ hI, hnp⟩
  have hkept' : ¬ db.Folded (id [0]) := (not_folded_iff hnode (hzero.symm ▸ hJ)).2 ⟨hnode, hzero.symm ▸ hJ, hnp'⟩
  exact ⟨counts, db, hlink, hdb, id, hf, hnet.2 (.inr ⟨hkept, .inl hkept'⟩), hdev.2 (.inr ⟨hkept, .inl hkept'⟩)⟩

/-- From the top, the net `/1/0` is read from the empty map of the folded instance, and the device `/1/2` is the first of the
database. -/
theorem mergedPair_not_safe : ∃ counts db, mergedPair.linkTop = .ok counts ∧ mergedPair.assignTopGlobalIDs 10 counts = .ok db ∧
    db.Folded 2 ∧ mergedPairNames.resolvedInstance db 0 "/1/0".toList = .ok 2 ∧
    mergedPairNames.resolvedInstance db 0 "/1/2".toList = .ok 2 ∧
    mergedPairNames.findNet db 0 "/1/0".toList = .error .undefined ∧
    mergedPairNames.findDevice db 0 "/1/2".toList = .ok 0 := by
  obtain ⟨counts, db, hlink, hdb, hres, hres', hpar, hnet, hdev⟩ := mergedPair.exists_flat 10
    (fun db => (mergedPairNames.resolvedInstance db 0 "/1/0".toList).toOption = some 2 ∧
      (mergedPairNames.resolvedInstance db 0 "/1/2".toList).toOption = some 2 ∧
      (db.instancePtrV 2).map CInstance.isParallelInstance = some true ∧
      failureOf (mergedPairNames.findNet db 0 "/1/0".toList) = some .undefined ∧
      (mergedPairNames.findDevice db 0 "/1/2".toList).toOption = some 0) (by decide +kernel)
  exact ⟨counts, db, hlink, hdb, map_eq_some_iff.1 hpar, eq_ok_of_toOption hres, eq_ok_of_toOption hres',
    eq_error_of_failureOf hnet, eq_ok_of_toOption hdev⟩

end Hierarchy
end Cvc
