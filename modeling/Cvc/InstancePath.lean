import Cvc.Instance

/-!
# Instance paths

`CCvcDb::FindInstanceIds` and `CCvcDb::SplitHierarchy`: the instances that a text names. The components of the text are searched
one after the other, from a list of current instances: an empty component stands for the top, `*(CELL)` for the instances of a
circuit (all of them while no instance is current, then those in the current instances), and every other component for the
instances of that name in the current ones. A component without an instance is not an error yet: it may be the first part of a
name with a delimiter in it, so it is put in front of the next component.

The names of a netlist are interned (`CFixedText`), so a name that is searched for is compared by its address; only a text that is
not interned is matched as a pattern. The hierarchy delimiter is the default one. The pattern that `FuzzyFilter` and `std::regex`
make of a text is a parameter: the texts it matches, or nothing where `std::regex` throws. Messages are left out.
-/

namespace Cvc

/-- `HIERARCHY_DELIMITER`. -/
def hierarchyDelimiter : Char := '/'

namespace Hierarchy

variable (h : Hierarchy)

/-- The characters of a name. -/
def chars (name : Nat) : Text := (h.text name).toList

/-- The names of a hierarchy: of its circuits and of the signals, devices and subcircuit calls in them. -/
inductive IsName : Nat → Prop
  | circuit {name : Nat} (found : (h.circuitNameMap name).isSome) : IsName name
  | signal {name s : Nat} {c : CCircuit} (found : h.circuitNameMap name = some c) (mem : s ∈ c.localSignalIdMap) : IsName s
  | device {name : Nat} {c : CCircuit} {d : CDevice} (found : h.circuitNameMap name = some c) (mem : d ∈ c.devicePtrV) :
      IsName d.name
  | subcircuit {name : Nat} {c : CCircuit} {d : CDevice} (found : h.circuitNameMap name = some c)
      (mem : d ∈ c.subcircuitPtrV) : IsName d.name

variable {h} in
/-- The names of a hierarchy whose circuits are those of a list are below a bound when those of the circuits are. -/
theorem isName_lt {cs : List CCircuit} (hmap : ∀ name, h.circuitNameMap name = cs[name]?) {bound : Nat}
    (hlt : cs.length ≤ bound ∧ ∀ c ∈ cs, (∀ s ∈ c.localSignalIdMap, s < bound) ∧ (∀ d ∈ c.devicePtrV, d.name < bound) ∧
      ∀ d ∈ c.subcircuitPtrV, d.name < bound) {a : Nat} (ha : h.IsName a) : a < bound := by
  have hmem : ∀ {name : Nat} {c : CCircuit}, h.circuitNameMap name = some c → c ∈ cs :=
    fun hc => List.mem_of_getElem? ((hmap _).symm.trans hc)
  cases ha with
  | circuit found =>
    obtain ⟨c, hc⟩ := Option.isSome_iff_exists.1 found
    obtain ⟨hn, -⟩ := List.getElem?_eq_some_iff.1 ((hmap a).symm.trans hc)
    omega
  | signal found mem => exact (hlt.2 _ (hmem found)).1 _ mem
  | device found mem => exact (hlt.2 _ (hmem found)).2.1 _ mem
  | subcircuit found mem => exact (hlt.2 _ (hmem found)).2.2 _ mem

end Hierarchy

/-- `CCircuitPtrList`: the circuits in the order in which they were read, and `cdlText`, in which all their names are interned. -/
structure CCircuitPtrList (h : Hierarchy) where
  fixedTextToAddressMap : Text → Option Nat
  circuits : List Nat
  chars_of_address : ∀ t a, fixedTextToAddressMap t = some a → h.chars a = t
  address_of_name : ∀ a, h.IsName a → fixedTextToAddressMap (h.chars a) = some a
  mem_circuits : ∀ a, a ∈ circuits ↔ (h.circuitNameMap a).isSome

/-- `CFixedText::GetTextAddress`: nothing where it throws. -/
def CCircuitPtrList.getTextAddress {h : Hierarchy} (names : CCircuitPtrList h) (theKeyText : Text) : Option Nat :=
  names.fixedTextToAddressMap theKeyText

/-- The circuits of a hierarchy whose names are the numbers below a bound. -/
def CCircuitPtrList.ofRange {h : Hierarchy} (bound : Nat) (name_lt : ∀ a, h.IsName a → a < bound)
    (chars_inj : ∀ a < bound, ∀ b < bound, h.chars a = h.chars b → a = b) : CCircuitPtrList h where
  fixedTextToAddressMap t := (List.range bound).find? fun a => h.chars a == t
  circuits := (List.range bound).filter fun a => (h.circuitNameMap a).isSome
  chars_of_address t a ha := by
    have := List.find?_some ha
    simpa using this
  address_of_name a ha := by
    cases hfind : (List.range bound).find? fun b => h.chars b == h.chars a with
    | none =>
      have := List.find?_eq_none.1 hfind a (List.mem_range.2 (name_lt a ha))
      simp at this
    | some b =>
      have hb := List.mem_range.1 (List.mem_of_find?_eq_some hfind)
      have he := List.find?_some hfind
      rw [chars_inj b hb a (name_lt a ha) (by simpa using he)]
  mem_circuits a := by
    rw [List.mem_filter, List.mem_range]
    exact ⟨And.right, fun hc => ⟨name_lt a (.circuit hc), hc⟩⟩

/-- `CCvcDb::SplitHierarchy`. -/
def splitHierarchy : Text → List Text
  | [] => [[]]
  | c :: rest =>
    if c = hierarchyDelimiter then [] :: rest.splitOn hierarchyDelimiter else (c :: rest).splitOn hierarchyDelimiter

/-- The loop of `CCvcDb::IsSubcircuitOf`, with the rounds that its assertion allows. -/
def CCvcDb.climbsTo (db : CCvcDb) (theParentId : Nat) : Nat → Nat → Except Failure Bool
  | rounds, theInstanceId => do
    let myInstance ← db.instancePtr theInstanceId
    if myInstance.parentId = 0 then pure false
    else
      match rounds with
      | 0 => throw .assertion
      | rounds + 1 =>
        if myInstance.parentId = theParentId then pure true else db.climbsTo theParentId rounds myInstance.parentId

/-- `CCvcDb::IsSubcircuitOf`. -/
def CCvcDb.isSubcircuitOf (db : CCvcDb) (theInstanceId theParentId : Nat) : Except Failure Bool := do
  if theParentId = 0 then pure true
  else if theInstanceId = theParentId then pure true
  else
    let myInstance ← db.instancePtr theInstanceId
    if myInstance.parentId = theParentId then pure true
    else db.climbsTo theParentId db.subcircuitCount theInstanceId

/-- How a search stops: by one of the two exceptions that `FindInstanceIds` catches, or by a failure that it does not catch. -/
inductive SearchStop where
  | outOfRange
  | regexError
  | failure (e : Failure)
  deriving DecidableEq, Repr

/-- The variables of the loop of `CCvcDb::FindInstanceIds`. -/
structure InstanceSearch where
  mySearchInstanceIdList : List Nat := []
  myUnmatchedInstance : Text := []
  deriving DecidableEq, Repr

/-- A component is a circuit search: it begins with `*(` and ends with `)`. -/
def isCircuitSearch (component : Text) : Bool := component.take 2 == ['*', '('] && component.getLast? == some ')'

section
variable {h : Hierarchy} (names : CCircuitPtrList h) (regex : Text → Option (Text → Bool)) (db : CCvcDb)

/-- An exact match of a name with an interned text, a match with the pattern for any other text. -/
def CCircuitPtrList.nameMatches (myName : Text) (mySearchPattern : Text → Bool) (name : Nat) : Bool :=
  match names.getTextAddress myName with
  | some myText => name == myText
  | none => mySearchPattern (h.chars name)

variable (h) in
/-- The instances inside an instance whose calls pass a test; none in a parallel instance. -/
def Hierarchy.matchingSubcircuits (test : CDevice → Bool) (theInstanceId : Nat) : Except SearchStop (List Nat) :=
  match db.instancePtrV theInstanceId with
  | none => throw (.failure .undefined)
  | some myInstance =>
    if myInstance.isParallelInstance then pure []
    else pure (((h.circuit myInstance.masterName).subcircuitPtrV.zipIdx.filter fun e => test e.1).map fun e =>
      myInstance.firstSubcircuitId + e.2)

variable (h) in
/-- The search in the current instances, each instance found pushed to the front of the new list. -/
def Hierarchy.localSearch (test : CDevice → Bool) (mySearchInstanceIdList : List Nat) : Except SearchStop (List Nat) :=
  mySearchInstanceIdList.foldlM (fun myNewSearchList id => do
    let found ← h.matchingSubcircuits db test id
    pure (found.reverse ++ myNewSearchList)) []

/-- The search for all instances of a circuit; nothing where it is not found. -/
def CCircuitPtrList.globalSearch (myCellName : Text) (mySearchPattern : Text → Bool) : Option (List Nat) :=
  match (names.getTextAddress myCellName).filter fun myCellText => (h.circuitNameMap myCellText).isSome with
  | some myCellText => some (db.instanceIdV myCellText).reverse
  | none =>
    let myFound := (names.circuits.filter fun circuit => mySearchPattern (h.chars circuit)).flatMap db.instanceIdV
    if myFound = [] then none else some myFound.reverse

/-- The part of the loop of `CCvcDb::FindInstanceIds` for a circuit search. The name of the circuit is taken from the text of
the whole path. -/
def CCircuitPtrList.findCircuit (theHierarchy : Text) (s : InstanceSearch) (component : Text) :
    Except SearchStop InstanceSearch :=
  -- no circuit searches with pending hierarchy
  if s.myUnmatchedInstance ≠ [] then throw .outOfRange
  else
    let myCellName := (theHierarchy.drop 2).take (component.length - 3)
    match regex myCellName with
    | none => throw .regexError
    | some mySearchPattern =>
      if s.mySearchInstanceIdList = [] then
        match names.globalSearch db myCellName mySearchPattern with
        | none => throw .outOfRange
        | some found => pure { s with mySearchInstanceIdList := found }
      else do
        let found ← h.localSearch db (fun d => names.nameMatches myCellName mySearchPattern d.masterName)
          s.mySearchInstanceIdList
        if found = [] then throw .outOfRange
        pure { s with mySearchInstanceIdList := found }

/-- The part of the loop of `CCvcDb::FindInstanceIds` for an instance search. -/
def CCircuitPtrList.findInstance (s : InstanceSearch) (component : Text) : Except SearchStop InstanceSearch :=
  -- no relative path searches
  if s.mySearchInstanceIdList = [] then throw .outOfRange
  else
    let myInstanceName :=
      if s.myUnmatchedInstance = [] then component else s.myUnmatchedInstance ++ hierarchyDelimiter :: component
    match regex myInstanceName with
    | none => throw .regexError
    | some mySearchPattern => do
      let found ← h.localSearch db (fun d => names.nameMatches myInstanceName mySearchPattern d.name) s.mySearchInstanceIdList
      if found = [] then pure { s with myUnmatchedInstance := myInstanceName }
      else pure { mySearchInstanceIdList := found }

/-- One round of the loop of `CCvcDb::FindInstanceIds`. -/
def CCircuitPtrList.findComponent (theHierarchy : Text) (s : InstanceSearch) (component : Text) :
    Except SearchStop InstanceSearch :=
  if component = [] then pure { s with mySearchInstanceIdList := 0 :: s.mySearchInstanceIdList }
  else if isCircuitSearch component then names.findCircuit regex db theHierarchy s component
  else names.findInstance regex db s component

/-- The instances of a list that are in a parent, each pushed to the front. -/
def CCvcDb.instancesIn (theParent : Nat) (mySearchInstanceIdList : List Nat) : Except SearchStop (List Nat) :=
  mySearchInstanceIdList.foldlM (fun myNewSearchList id =>
    match db.isSubcircuitOf id theParent with
    | .error e => throw (.failure e)
    | .ok inside => pure (if inside then id :: myNewSearchList else myNewSearchList)) []

/-- `CCvcDb::FindInstanceIds`. -/
def CCircuitPtrList.findInstanceIds (theHierarchy : Text) (theParent : Nat) : Except Failure (List Nat) :=
  let search : Except SearchStop InstanceSearch := do
    let s ← (splitHierarchy theHierarchy).foldlM (names.findComponent regex db theHierarchy) {}
    if theParent = 0 then pure s
    else
      let found ← db.instancesIn theParent s.mySearchInstanceIdList
      pure { s with mySearchInstanceIdList := found }
  match search with
  -- not a complete match
  | .ok s => pure (if s.myUnmatchedInstance ≠ [] then [] else s.mySearchInstanceIdList)
  | .error (.failure e) => throw e
  | .error _ => pure []

end
end Cvc
