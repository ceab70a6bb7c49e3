import Cvc.Types
import Cvc.Lib.SortedMap

/-!
# Event queues

`CEventQueue.cc`: the devices waiting to be processed, by event key. A queue has a main and a delay part, each a map from keys to
lists of devices. The lists are threaded through one array with an entry per device (`queueArray`): a queued device holds the
next device of its list, the last one itself, a device that is not queued `UNKNOWN_DEVICE`; a list is its first and last device
and its size. The maps are walked from the least key, so they are lists of entries in increasing order of the key.

The queue array is a function of the device with its size. `printCounter`, which decides when a progress line is printed, and
`requeueCount` and `queueStart`, which no function below reads, are left out.
-/

namespace Cvc

/-- `eventQueue_t`. -/
inductive EventQueueType where
  | simQueue | maxQueue | minQueue
  deriving DecidableEq, Repr

/-- `queuePosition_t`. -/
inductive QueuePosition where
  | queueHiz | skipQueue | mosDiode | mainBack | delayFront | delayBack
  deriving DecidableEq, Repr

/-- `CEventList`: the first and the last device of a list, and its size. -/
structure CEventList where
  first : Nat := unknownDevice
  second : Nat := unknownDevice
  eventListSize : Nat := 0
  deriving DecidableEq, Repr

namespace CEventList

/-- `CEventList::push_back`, with the queue array it writes. -/
def pushBack (queueArray : Nat → Nat) (l : CEventList) (theDevice : Nat) : Except Failure ((Nat → Nat) × CEventList) :=
  if queueArray theDevice ≠ unknownDevice then .error (.eQueueError (toString theDevice))
  else
    let queueArray := Function.update queueArray theDevice theDevice
    if l.first = unknownDevice then
      if l.second = unknownDevice then .ok (queueArray, ⟨theDevice, theDevice, l.eventListSize + 1⟩) else .error .assertion
    else
      if l.second ≠ unknownDevice then
        .ok (Function.update queueArray l.second theDevice, ⟨l.first, theDevice, l.eventListSize + 1⟩)
      else .error .assertion

/-- `CEventList::push_front`, with the queue array it writes. -/
def pushFront (queueArray : Nat → Nat) (l : CEventList) (theDevice : Nat) : Except Failure ((Nat → Nat) × CEventList) :=
  if queueArray theDevice ≠ unknownDevice then .error (.eQueueError (toString theDevice))
  else if l.first = unknownDevice then
    if l.second = unknownDevice then
      .ok (Function.update queueArray theDevice theDevice, ⟨theDevice, theDevice, l.eventListSize + 1⟩)
    else .error .assertion
  else
    if l.second ≠ unknownDevice then
      .ok (Function.update queueArray theDevice l.first, ⟨theDevice, l.second, l.eventListSize + 1⟩)
    else .error .assertion

/-- `CEventList::pop_front`: the device, the queue array and the list it leaves. -/
def popFront (queueArray : Nat → Nat) (l : CEventList) : Except Failure (Nat × (Nat → Nat) × CEventList) :=
  if l.first = unknownDevice then .error (.eQueueError "empty queue")
  else
    let myDevice := l.first
    let (first, second) :=
      -- last element in queue
      if l.first = queueArray l.first then (unknownDevice, unknownDevice) else (queueArray l.first, l.second)
    .ok (myDevice, Function.update queueArray myDevice unknownDevice, ⟨first, second, l.eventListSize - 1⟩)

/-- `CEventList::empty`. -/
def empty (l : CEventList) : Bool := l.first == unknownDevice

end CEventList

/-- `CEventSubQueue`: the lists by key. -/
abbrev CEventSubQueue := List (Int × CEventList)

/-- `CEventSubQueue::operator[]`: the list of a key, a new one when the key is not stored. -/
def CEventSubQueue.operatorIndex (q : CEventSubQueue) (theEventKey : Int) : CEventList :=
  (SortedMap.find theEventKey q).getD {}

/-- The two parts of an event queue. -/
inductive QueuePart where
  | main | delay
  deriving DecidableEq, Repr

/-- `CEventQueue`. -/
structure CEventQueue where
  queueType : EventQueueType
  queueSize : Nat
  queueArray : Nat → Nat
  mainQueue : CEventSubQueue
  delayQueue : CEventSubQueue
  enqueueCount : Nat
  dequeueCount : Nat

namespace CEventQueue

variable (q : CEventQueue)

/-- One of the two parts. -/
def part : QueuePart → CEventSubQueue
  | .main => q.mainQueue
  | .delay => q.delayQueue

/-- Write one of the two parts. -/
def setPart : QueuePart → CEventSubQueue → CEventQueue
  | .main, m => { q with mainQueue := m }
  | .delay, m => { q with delayQueue := m }

/-- `CEventQueue::ResetQueue`: the array is emptied and the counts start again; the maps are left as they are. -/
def resetQueue (theDeviceCount : Nat) : CEventQueue :=
  { q with queueSize := theDeviceCount, queueArray := fun _ => unknownDevice, enqueueCount := 0, dequeueCount := 0 }

/-- `CEventQueue::IsNextMainQueue`. -/
def isNextMainQueue : Bool :=
  match q.mainQueue, q.delayQueue with
  | [], _ => false
  | _ :: _, [] => true
  | (mainKey, _) :: _, (delayKey, _) :: _ =>
    -- for the sim queue the main part always has priority; otherwise it has if its key is not later
    q.queueType == .simQueue || decide (mainKey ≤ delayKey)

/-- The key an event is stored under: the keys of the max queue are negated, so that the largest comes first. -/
def storedKey (theEventKey : Int) : Int := if q.queueType = .maxQueue then -theEventKey else theEventKey

/-- A push on the list of a key of one part, and the count of the event. -/
def pushOn (s : QueuePart) (theEventKey : Int) (push : (Nat → Nat) → CEventList → Nat → Except Failure ((Nat → Nat) × CEventList))
    (theDeviceIndex : Nat) :
    Except Failure CEventQueue := do
  let (queueArray, l) ← push q.queueArray (CEventSubQueue.operatorIndex (q.part s) theEventKey) theDeviceIndex
  .ok { (q.setPart s (SortedMap.put theEventKey l (q.part s))) with
    queueArray := queueArray, enqueueCount := q.enqueueCount + 1 }

/-- `CEventQueue::AddEvent`. -/
def addEvent (theEventKey : Int) (theDeviceIndex : Nat) (theQueuePosition : QueuePosition) : Except Failure CEventQueue :=
  let theEventKey := q.storedKey theEventKey
  match theQueuePosition with
  | .queueHiz | .mosDiode => q.pushOn .main theEventKey CEventList.pushFront theDeviceIndex
  | .mainBack => q.pushOn .main theEventKey CEventList.pushBack theDeviceIndex
  | .delayFront => q.pushOn .delay theEventKey CEventList.pushFront theDeviceIndex
  | .delayBack => q.pushOn .delay theEventKey CEventList.pushBack theDeviceIndex
  | .skipQueue => .error (.eFatalError "invalid queue delay -2")

/-- `CEventQueue::GetMainEvent` and `CEventQueue::GetDelayEvent`: the front device of the first list of a part; a list that is
left empty is erased. -/
def getPartEvent (s : QueuePart) : Except Failure (Nat × CEventQueue) :=
  match q.part s with
  | [] => .error .undefined
  | (key, l) :: rest => do
    let (myDeviceIndex, queueArray, l) ← l.popFront q.queueArray
    .ok (myDeviceIndex, { (q.setPart s (if l.empty then rest else (key, l) :: rest)) with
      queueArray := queueArray, dequeueCount := q.dequeueCount + 1 })

/-- `CEventQueue::GetMainEvent`. -/
def getMainEvent : Except Failure (Nat × CEventQueue) := q.getPartEvent .main

/-- `CEventQueue::GetDelayEvent`. -/
def getDelayEvent : Except Failure (Nat × CEventQueue) := q.getPartEvent .delay

/-- `CEventQueue::GetEvent`. -/
def getEvent : Except Failure (Nat × CEventQueue) :=
  if q.isNextMainQueue then q.getMainEvent else q.getDelayEvent

end CEventQueue
end Cvc
