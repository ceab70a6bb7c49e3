import Cvc.InstancePath

/-!
# Lookup of nets and devices by name

`CCvcDb::FindNet` and `CCvcDb::FindDevice` with the functions they use: `FindHierarchy` walks down from an instance along the
names in a path, as far as there are such instances, `HierarchyName` is the way back, and `PrintParallelInstance` reports an
instance that is folded. The rest of the name, behind the name of the instance found, is that of a signal or device of its
circuit.

The hierarchy delimiter is the default one. Of what is printed, only the lookups it makes are kept.
-/

namespace Cvc

section
variable {h : Hierarchy} (names : CCircuitPtrList h) (db : CCvcDb)

variable (h) in
/-- `CCvcDb::HierarchyName` without circuit names, along at most the given number of parents. -/
def Hierarchy.hierarchyNameUpTo : Nat → Nat → Except Failure Text
  | rounds, theInstanceId =>
    if theInstanceId = 0 then pure []
    else
      match rounds with
      | 0 => throw .endless
      | rounds + 1 => do
        let myInstance ← db.instancePtr theInstanceId
        let myParent ← db.instancePtr myInstance.parentId
        let mySubcircuitOffset := theInstanceId - myParent.firstSubcircuitId
        match (h.circuit myParent.masterName).subcircuitPtrV[mySubcircuitOffset]? with
        | none => throw .undefined
        | some mySubcircuit => do
          let myParentName ← hierarchyNameUpTo rounds myInstance.parentId
          pure (myParentName ++ hierarchyDelimiter :: h.chars mySubcircuit.name)

variable (h) in
/-- `CCvcDb::HierarchyName`. -/
def Hierarchy.hierarchyName (theInstanceId : Nat) : Except Failure Text := h.hierarchyNameUpTo db db.subcircuitCount theInstanceId

/-- The id that `CCvcDb::PrintParallelInstance` prints the name of: the one an instance is merged with, or that of the first
instance around it that has one or is not parallel. -/
def CCvcDb.mergedWith (db : CCvcDb) : Nat → Nat → Except Failure Nat
  | rounds, theInstanceId => do
    let myInstance ← db.instancePtr theInstanceId
    if myInstance.isParallelInstance ∧ myInstance.parallelInstance = 0 then
      match rounds with
      | 0 => throw .endless
      | rounds + 1 => db.mergedWith rounds myInstance.parentId
    else pure myInstance.parallelInstance

variable (h) in
/-- `CCvcDb::PrintParallelInstance`. -/
def Hierarchy.printParallelInstance (theInstanceId : Nat) : Except Failure Unit := do
  let _ ← h.hierarchyName db theInstanceId
  let myMergedId ← db.mergedWith db.subcircuitCount theInstanceId
  let _ ← h.hierarchyName db myMergedId
  pure ()

/-- The names in a path: the first one may be empty, runs of delimiters between the others are one. -/
def hierarchyNames (theHierarchy : Text) : List Text :=
  match theHierarchy.splitOn hierarchyDelimiter with
  | [] => []
  | first :: rest => first :: rest.filter (· ≠ [])

/-- The variables of the loop of `CCvcDb::FindHierarchy`. -/
structure HierarchyWalk where
  theCurrentInstanceId : Nat
  myUnmatchedHierarchy : Text := []

/-- One round of the loop of `CCvcDb::FindHierarchy`. A name without an instance is put in front of the next one. -/
def CCircuitPtrList.walkDown (w : HierarchyWalk) (name : Text) : Except Failure HierarchyWalk := do
  let myInstanceName := name.takeWhile (· ≠ '(')
  let myInstanceName :=
    if w.myUnmatchedHierarchy = [] then myInstanceName else w.myUnmatchedHierarchy ++ hierarchyDelimiter :: myInstanceName
  let myInstance ← db.instancePtr w.theCurrentInstanceId
  if myInstanceName = ['.', '.'] then pure { theCurrentInstanceId := myInstance.parentId }
  else
    match (names.getTextAddress myInstanceName).bind fun text =>
        (h.circuit myInstance.masterName).subcircuitPtrV.findIdx? fun d => d.name == text with
    | some myLocalInstanceId => pure { theCurrentInstanceId := myInstance.firstSubcircuitId + myLocalInstanceId }
    | none => pure { w with myUnmatchedHierarchy := myInstanceName }

/-- `CCvcDb::FindHierarchy`, with partial matches allowed. -/
def CCircuitPtrList.findHierarchy (theCurrentInstanceId : Nat) (theHierarchy : Text) : Except Failure Nat := do
  let (theCurrentInstanceId, theHierarchy) :=
    if theHierarchy.head? = some hierarchyDelimiter then (0, theHierarchy.tail) else (theCurrentInstanceId, theHierarchy)
  let w ← (hierarchyNames theHierarchy).foldlM (names.walkDown db) { theCurrentInstanceId := theCurrentInstanceId }
  pure w.theCurrentInstanceId

/-- The text before the last delimiter. -/
def searchHierarchy (theName : Text) : Text :=
  ((theName.reverse.dropWhile (· ≠ hierarchyDelimiter)).drop 1).reverse

/-- The instance that a name leads to, from an instance or, with a delimiter in front, from the top. -/
def CCircuitPtrList.resolvedInstance (theCurrentInstanceId : Nat) (theName : Text) : Except Failure Nat :=
  names.findHierarchy db (if theName.head? = some hierarchyDelimiter then 0 else theCurrentInstanceId) (searchHierarchy theName)

/-- Where a name leads: the search is given up at a parallel instance, or an instance is found and the rest of the name, if it is
long enough. -/
inductive Located where
  | parallel
  | found (myCurrentInstanceId : Nat) (rest : Option Text)
  deriving DecidableEq, Repr

/-- The part that `CCvcDb::FindNet` and `CCvcDb::FindDevice` share. The instance that is tested is the one the search starts at.
-/
def CCircuitPtrList.locate (theCurrentInstanceId : Nat) (theName : Text) : Except Failure Located := do
  let myInitialHierarchy ←
    if theName.head? = some hierarchyDelimiter then pure []
    else (· ++ [hierarchyDelimiter]) <$> h.hierarchyName db theCurrentInstanceId
  let myCurrentInstanceId ← names.resolvedInstance db theCurrentInstanceId theName
  let myStart ← db.instancePtr theCurrentInstanceId
  if myStart.isParallelInstance then do
    h.printParallelInstance db theCurrentInstanceId
    pure .parallel
  else do
    let myParentName ← (· ++ [hierarchyDelimiter]) <$> h.hierarchyName db myCurrentInstanceId
    -- the difference of the lengths is unsigned
    if myInitialHierarchy.length ≤ myParentName.length ∧ myParentName.length - myInitialHierarchy.length ≤ theName.length then
      pure (.found myCurrentInstanceId (some (theName.drop (myParentName.length - myInitialHierarchy.length))))
    else pure (.found myCurrentInstanceId none)

/-- `CCvcDb::FindNet`. -/
def CCircuitPtrList.findNet (theCurrentInstanceId : Nat) (theNetName : Text) : Except Failure Nat := do
  match ← names.locate db theCurrentInstanceId theNetName with
  | .parallel => pure unknownNet
  | .found myCurrentInstanceId rest =>
    let myInstance ← db.instancePtr myCurrentInstanceId
    match (rest.bind names.getTextAddress).bind fun text =>
        (h.circuit myInstance.masterName).localSignalIdMap.findIdx? (· == text) with
    | none => pure unknownNet
    | some signal =>
      match myInstance.localToGlobalNetIdV[signal]? with
      | none => throw .undefined
      | some myNetId => pure myNetId

/-- `CCvcDb::FindDevice`. -/
def CCircuitPtrList.findDevice (theCurrentInstanceId : Nat) (theDeviceName : Text) : Except Failure Nat := do
  match ← names.locate db theCurrentInstanceId theDeviceName with
  | .parallel => pure unknownDevice
  | .found myCurrentInstanceId rest =>
    let myInstance ← db.instancePtr myCurrentInstanceId
    match (rest.bind names.getTextAddress).bind fun text =>
        (h.circuit myInstance.masterName).devicePtrV.findIdx? fun d => d.name == text with
    | none => do
      let _ ← h.hierarchyName db myCurrentInstanceId
      pure unknownDevice
    | some myLocalDeviceId => pure (myInstance.firstDeviceId + myLocalDeviceId)

end
end Cvc
