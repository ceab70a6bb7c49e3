import Mathlib.Data.Finset.Lattice.Lemmas
import Cvc.Expression
import Cvc.InstancePath

/-!
# Nets of a signal

`CCvcDb::FindUniqueNetIds` and `CCvcDb::ExpandBusNet`: the nets that a power signal names. The text up to a delimiter names
instances, tried from the last delimiter on, the rest a signal of their circuits. A bus stands for its bits; each bit is looked up
in all the instances, by its name if that is interned and as a pattern otherwise. A signal without a hierarchy names ports of the
top, one with a hierarchy does not.

The net ids are a set, and whether a message was printed is kept. `myUnmatchedInstance` is never written, so it is left out, as is
the warning about parallel instances.
-/

namespace Cvc

/-- `INT_MAX`. -/
def intMax : Int := 2 ^ 31 - 1

/-- `INT_MIN`. -/
def intMin : Int := -2 ^ 31

/-- `from_string`, for an `int`. A number out of range is cut to the range, and no suffix is read after it. -/
def fromStringInt (s : Text) : Except Failure Int :=
  match Scan.readInt s with
  | none => pure 0
  | some (result, rest) =>
    if intMax < result then pure intMax
    else if result < intMin then pure intMin
    else
      match (rest.dropWhile Scan.isSpace).takeWhile (!Scan.isSpace ·) with
      | [] => pure result
      | mySuffix =>
        match siSuffix mySuffix with
        | none => .error .outOfRange
        | some factor =>
          let scaled : Int := (result * factor).num.tdiv (result * factor).den
          if intMin ≤ scaled ∧ scaled ≤ intMax then pure scaled else .error .undefined

/-- The text between two places; up to the end where the second is not behind the first. -/
def textBetween (t : Text) (first second : Nat) : Text :=
  if first < second then (t.drop (first + 1)).take (second - first - 1) else t.drop (first + 1)

/-- The place of the bracket a bus begins with, and the bracket it ends with. -/
def busBrackets (theBusName : Text) : Option Nat × Char :=
  match theBusName.idxOf? '<' with
  | some myBusBegin => (some myBusBegin, '>')
  | none =>
    match theBusName.idxOf? '[' with
    | some myBusBegin => (some myBusBegin, ']')
    | none =>
      match theBusName.idxOf? '(' with
      | some myBusBegin => (some myBusBegin, ')')
      | none => (theBusName.idxOf? '\x7b', '\x7d')

/-- The numbers from the least to the largest of two. -/
def busIndices (myFirstBusIndex myLastBusIndex : Int) : List Int :=
  (List.range (max myFirstBusIndex myLastBusIndex - min myFirstBusIndex myLastBusIndex + 1).toNat).map fun (n : Nat) =>
    min myFirstBusIndex myLastBusIndex + (n : Int)

/-- `CCvcDb::ExpandBusNet`. -/
def expandBusNet (theBusName : Text) : Except Failure (List Text) :=
  let (myBusBegin, myBusTerminator) := busBrackets theBusName
  match myBusBegin, theBusName.idxOf? ':', theBusName.idxOf? myBusTerminator with
  | some myBusBegin, some myBusDelimiter, some myBusEnd => do
    let myFirstBusIndex ← fromStringInt (textBetween theBusName myBusBegin myBusDelimiter)
    let myLastBusIndex ← fromStringInt (textBetween theBusName myBusDelimiter myBusEnd)
    -- the index of the loop goes past the last one
    if max myFirstBusIndex myLastBusIndex = intMax then throw .undefined
    let myNetList := (busIndices myFirstBusIndex myLastBusIndex).map fun myBusIndex =>
      theBusName.take (myBusBegin + 1) ++ (toString myBusIndex).toList ++ theBusName.drop myBusEnd
    pure (if myFirstBusIndex < myLastBusIndex then myNetList else myNetList.reverse)
  | _, _, _ => pure [theBusName]

/-- The net ids of a signal, and whether an error was reported. -/
structure UniqueNets where
  nets : Finset Nat := ∅
  errorReported : Bool := false

section
variable {h : Hierarchy} (names : CCircuitPtrList h) (regex : Text → Option (Text → Bool)) (db : CCvcDb)

/-- The places of the delimiters in a text, from the last one on. -/
def delimiters (t : Text) : List Nat := ((List.range t.length).filter fun i => t[i]? == some hierarchyDelimiter).reverse

/-- The loop that looks for the instances of a power signal: the instances and the name of the signal in them. -/
def CCircuitPtrList.splitSignalAt (thePowerSignal : Text) (theParent : Nat) : List Nat → Except Failure (List Nat × Text)
  | [] => do
    let mySearchInstanceIdList ← names.findInstanceIds regex db [] theParent
    pure (mySearchInstanceIdList, thePowerSignal)
  | mySearchEnd :: rest => do
    let myInstanceName := thePowerSignal.take mySearchEnd
    let mySearchInstanceIdList ← names.findInstanceIds regex db myInstanceName theParent
    if mySearchInstanceIdList = [] ∧ myInstanceName ≠ [] then splitSignalAt thePowerSignal theParent rest
    else pure (mySearchInstanceIdList, thePowerSignal.drop (mySearchEnd + 1))

/-- The instances of a power signal and the name of the signal in them. -/
def CCircuitPtrList.splitSignal (thePowerSignal : Text) (theParent : Nat) : Except Failure (List Nat × Text) :=
  names.splitSignalAt regex db thePowerSignal theParent (delimiters thePowerSignal)

variable (h) in
/-- A net of the top belongs to a port exactly when ports are looked for. -/
def Hierarchy.topPortMatches (myCheckTopPort : Bool) (theInstanceId myNetId : Nat) : Bool :=
  if theInstanceId = 0 then myCheckTopPort == decide (myNetId < (h.circuit h.topBlock).portCount) else true

/-- The net of a signal of an instance. -/
def CInstance.globalNet (myInstance : CInstance) (signal : Nat) : Except SearchStop Nat :=
  match myInstance.localToGlobalNetIdV[signal]? with
  | none => throw (.failure .undefined)
  | some myNetId => pure myNetId

/-- The nets of a bit in an instance, none in a parallel one. A map has one signal of a name. -/
def CCircuitPtrList.netsInInstance (myCheckTopPort : Bool) (myNetName : Text) (mySearchPattern : Text → Bool)
    (theInstanceId : Nat) :
    Except SearchStop (List Nat) :=
  match db.instancePtrV theInstanceId with
  | none => throw (.failure .undefined)
  | some myInstance =>
    if myInstance.isParallelInstance then pure []
    else do
      let signals := (h.circuit myInstance.masterName).localSignalIdMap.zipIdx.filter fun e =>
        names.nameMatches myNetName mySearchPattern e.1
      let nets ← signals.mapM fun e => myInstance.globalNet e.2
      pure (nets.filter (h.topPortMatches myCheckTopPort theInstanceId))

/-- The round of the loop over the bits: the nets of a bit in all instances. One found flag is kept for all bits. -/
def CCircuitPtrList.findBit (myCheckTopPort : Bool) (mySearchInstanceIdList : List Nat)
    (s : Finset Nat × Bool) (myNetName : Text) :
    Except SearchStop (Finset Nat × Bool) :=
  match regex myNetName with
  | none => throw .regexError
  | some mySearchPattern => do
    let nets ← mySearchInstanceIdList.mapM (names.netsInInstance db myCheckTopPort myNetName mySearchPattern)
    let myFoundNetMatch := s.2 || nets.flatten ≠ []
    if !myFoundNetMatch then throw .outOfRange
    pure (s.1 ∪ nets.flatten.toFinset, myFoundNetMatch)

/-- The block of `CCvcDb::FindUniqueNetIds` that looks up the signal in the instances. -/
def CCircuitPtrList.findSignal (myCheckTopPort : Bool) (mySearchInstanceIdList : List Nat) (mySignalName : Text) :
    Except SearchStop (Finset Nat) := do
  let myNetNameList ← match expandBusNet mySignalName with
    | .ok myNetNameList => pure myNetNameList
    | .error .outOfRange => throw .outOfRange
    | .error e => throw (.failure e)
  let (myNetIdSet, myFoundNetMatch) ← myNetNameList.foldlM (names.findBit regex db myCheckTopPort mySearchInstanceIdList)
    (∅, false)
  if !myFoundNetMatch then throw .outOfRange
  pure myNetIdSet

/-- `CCvcDb::FindUniqueNetIds`. -/
def CCircuitPtrList.findUniqueNetIds (thePowerSignal : Text) (theParent : Nat) : Except Failure UniqueNets := do
  let (mySearchInstanceIdList, mySignalName) ← names.splitSignal regex db thePowerSignal theParent
  match names.findSignal regex db (mySignalName == thePowerSignal) mySearchInstanceIdList mySignalName with
  | .ok myNetIdSet => pure { nets := myNetIdSet }
  | .error (.failure e) => throw e
  | .error _ => pure { errorReported := true }

end
end Cvc
