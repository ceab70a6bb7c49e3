import Mathlib.Order.Bounds.Basic
import Cvc.Lemmas.EventQueue

/-!
# The event queue is a pair of maps of deques

The abstract queue has a deque of devices for every key of its main and its delay part. An event goes to an end of the deque of
its key; the next event is the front device of the least key that has one, of the main part if its key is not later than that of
the delay part, and for the sim queue always of the main part when that has one. `CEventQueue` refines it: through every run of
legal additions and removals it returns the same devices, and its maps, lists, links and counts describe the deques.
-/

namespace Cvc

open LinkTable SortedMap List

/-- The abstract queue: the devices waiting in each part under each stored key, front first. -/
abbrev Deques := QueuePart → Int → List Nat

namespace Deques

/-- No device waits. -/
def empty : Deques := fun _ _ => []

variable (a : Deques) (s : QueuePart)

/-- Replace the deque of a key. -/
def set (k : Int) (xs : List Nat) : Deques :=
  fun s' k' => if s' = s ∧ k' = k then xs else a s' k'

/-- The device waits somewhere. -/
def Queued (d : Nat) : Prop := ∃ s k, d ∈ a s k

/-- The key an event is ordered by. -/
def orderKey : EventQueueType → Int → Int
  | .maxQueue, k => -k
  | _, k => k

/-- An event is added to an end of the deque of its key. -/
def add (t : EventQueueType) (key : Int) (d : Nat) (pos : QueuePosition) : Deques :=
  let k := orderKey t key
  match pos with
  | .queueHiz | .mosDiode => a.set .main k (d :: a .main k)
  | .mainBack => a.set .main k (a .main k ++ [d])
  | .delayFront => a.set .delay k (d :: a .delay k)
  | .delayBack => a.set .delay k (a .delay k ++ [d])
  | .skipQueue => a

/-- The keys of a part that have a device. -/
def keys : Set Int := {k | a s k ≠ []}

/-- The next device, and the queue without it. -/
inductive Get (t : EventQueueType) (a : Deques) : Nat → Deques → Prop
  | main {k : Int} {d : Nat} {xs : List Nat} (least : IsLeast (a.keys .main) k) (front : a .main k = d :: xs)
      (first : t = .simQueue ∨ k ∈ lowerBounds (a.keys .delay)) : Get t a d (a.set .main k xs)
  | delay {k : Int} {d : Nat} {xs : List Nat} (least : IsLeast (a.keys .delay) k) (front : a .delay k = d :: xs)
      (first : a.keys .main = ∅ ∨ t ≠ .simQueue ∧ ∀ k' ∈ a.keys .main, k < k') : Get t a d (a.set .delay k xs)

@[simp] theorem set_self (k : Int) (xs : List Nat) : a.set s k xs s k = xs := by
  simp [set]

theorem set_of_ne {s s' : QueuePart} {k k' : Int} (h : ¬ (s' = s ∧ k' = k)) (xs : List Nat) : a.set s k xs s' k' = a s' k' :=
    if_neg h

theorem mem_set {s s' : QueuePart} {k k' : Int} {xs : List Nat} {x : Nat} :
    x ∈ a.set s k xs s' k' ↔ s' = s ∧ k' = k ∧ x ∈ xs ∨ ¬ (s' = s ∧ k' = k) ∧ x ∈ a s' k' := by
  unfold set
  split <;> simp_all

/-- The next device is determined. -/
theorem Get.unique {t : EventQueueType} {a a₁ a2 : Deques} {d1 d2 : Nat} (h1 : Get t a d1 a₁) (h2 : Get t a d2 a2) :
    d1 = d2 ∧ a₁ = a2 := by
  have same : ∀ {s k k' d d' xs xs'}, IsLeast (a.keys s) k → IsLeast (a.keys s) k' → a s k = d :: xs → a s k' = d' :: xs' →
      d = d' ∧ a.set s k xs = a.set s k' xs' := by
    intro s k k' d d' xs xs' hk hk' he he'
    obtain rfl := hk.unique hk'
    rw [he] at he'
    obtain ⟨rfl, rfl⟩ := cons.inj he'
    exact ⟨rfl, rfl⟩
  -- the main part comes first for one and the delay part for the other
  have clash : ∀ {k k'}, IsLeast (a.keys .main) k → (t = .simQueue ∨ k ∈ lowerBounds (a.keys .delay)) →
      IsLeast (a.keys .delay) k' → ¬ (a.keys .main = ∅ ∨ t ≠ .simQueue ∧ ∀ j ∈ a.keys .main, k' < j) := by
    intro k k' hk hfirst hk' hlast
    rcases hlast with hnone | ⟨hsim, hlt⟩
    · exact Set.notMem_empty k (hnone ▸ hk.1)
    · rcases hfirst with h | h
      · exact hsim h
      · exact absurd (hlt k hk.1) (not_lt.2 (h hk'.1))
  cases h1 with
  | main l1 f1 o1 =>
    cases h2 with
    | main l2 f2 o2 => exact same l1 l2 f1 f2
    | delay l2 f2 o2 => exact absurd o2 (clash l1 o1 l2)
  | delay l1 f1 o1 =>
    cases h2 with
    | main l2 f2 o2 => exact absurd o1 (clash l2 o2 l1)
    | delay l2 f2 o2 => exact same l1 l2 f1 f2

end Deques

/-! ## Runs -/

/-- An operation on the queue. -/
inductive EventOp where
  | add (theEventKey : Int) (theDeviceIndex : Nat) (theQueuePosition : QueuePosition)
  | get

namespace EventOp

/-- A run of the queue: the devices it returned, in order, and the queue it leaves. -/
def runOps (q : CEventQueue) : List EventOp → Except Failure (List Nat × CEventQueue)
  | [] => .ok ([], q)
  | .add key d pos :: ops => do
    let q ← q.addEvent key d pos
    runOps q ops
  | .get :: ops => do
    let (d, q) ← q.getEvent
    let (ds, q) ← runOps q ops
    .ok (d :: ds, q)

/-- A run of the abstract queue. -/
inductive Run (t : EventQueueType) : Deques → List EventOp → List Nat → Deques → Prop
  | nil (a : Deques) : Run t a [] [] a
  | add {a a' : Deques} {key : Int} {d : Nat} {pos : QueuePosition} {ops : List EventOp} {ds : List Nat}
      (rest : Run t (a.add t key d pos) ops ds a') : Run t a (.add key d pos :: ops) ds a'
  | get {a a₁ a' : Deques} {d : Nat} {ops : List EventOp} {ds : List Nat} (next : Deques.Get t a d a₁)
      (rest : Run t a₁ ops ds a') : Run t a (.get :: ops) (d :: ds) a'

/-- The operations are legal in turn: an added device is one of the `n` devices, does not wait already and has a position in the
queue, and a device is taken only when one waits. -/
def Legal (t : EventQueueType) (n : Nat) : Deques → List EventOp → Prop
  | _, [] => True
  | a, .add key d pos :: ops => d < n ∧ ¬ a.Queued d ∧ pos ≠ .skipQueue ∧ Legal t n (a.add t key d pos) ops
  | a, .get :: ops => (∃ d, a.Queued d) ∧ ∀ d a', Deques.Get t a d a' → Legal t n a' ops

theorem Run.unique {t : EventQueueType} {a a₁ a2 : Deques} {ops : List EventOp} {ds1 ds2 : List Nat}
    (h1 : Run t a ops ds1 a₁) (h2 : Run t a ops ds2 a2) : ds1 = ds2 ∧ a₁ = a2 := by
  induction h1 generalizing ds2 a2 with
  | nil => cases h2; exact ⟨rfl, rfl⟩
  | add _ ih =>
    cases h2 with
    | add rest => exact ih rest
  | get next _ ih =>
    cases h2 with
    | get next' rest' =>
      obtain ⟨rfl, rfl⟩ := next.unique next'
      obtain ⟨rfl, rfl⟩ := ih rest'
      exact ⟨rfl, rfl⟩

end EventOp

namespace CEventQueue

variable {q : CEventQueue} {a : Deques} {s : QueuePart} {k : Int} {d : Nat} {l l' : CEventList} {rest : CEventSubQueue}
  {arr' : Nat → Nat} {push : (Nat → Nat) → CEventList → Nat → Except Failure ((Nat → Nat) × CEventList)} {xs : List Nat}

/-- The devices whose entry of the queue array is taken. -/
def queued (q : CEventQueue) : Finset Nat := (Finset.range q.queueSize).filter (fun d => q.queueArray d ≠ unknownDevice)

/-- The queue stores the deques `a`.
* The maps hold exactly the deques that have a device, each as an event list with its ends and length, threaded through the array
  with its last device linked to itself.
* Every device waits at most once, over both parts, and its entry of the array is free exactly when it does not wait.
* The counts differ by the number of waiting devices. -/
structure Refines (q : CEventQueue) (a : Deques) : Prop where
  size_le : q.queueSize ≤ unknownDevice
  sorted : ∀ s, SortedMap.Sorted (q.part s)
  stored : ∀ s k l, SortedMap.find k (q.part s) = some l → a s k ≠ [] ∧ l.Holds q.queueArray (a s k)
  absent : ∀ s k, SortedMap.find k (q.part s) = none → a s k = []
  nodup : ∀ s k, (a s k).Nodup
  once : ∀ d s k s' k', d ∈ a s k → d ∈ a s' k' → s' = s ∧ k' = k
  lt_size : ∀ d s k, d ∈ a s k → d < q.queueSize
  free_iff : ∀ d < q.queueSize, q.queueArray d = unknownDevice ↔ ¬ a.Queued d
  counts : q.enqueueCount = q.dequeueCount + q.queued.card

/-- What an operation writes: the map of one part and the array. -/
structure Writes (q q' : CEventQueue) (s : QueuePart) (m : CEventSubQueue) (arr : Nat → Nat) : Prop where
  part_self : q'.part s = m
  part_of_ne : ∀ s', s' ≠ s → q'.part s' = q.part s'
  array_eq : q'.queueArray = arr
  size_eq : q'.queueSize = q.queueSize
  type_eq : q'.queueType = q.queueType

theorem writes_setPart (q : CEventQueue) (s : QueuePart) (m : CEventSubQueue) (arr : Nat → Nat) (enq deq : Nat) :
    Writes q { (q.setPart s m) with queueArray := arr, enqueueCount := enq, dequeueCount := deq } s m arr := by
  cases s with
  | main =>
    refine ⟨rfl, ?_, rfl, rfl, rfl⟩
    rintro ⟨⟩ hs
    · exact absurd rfl hs
    · rfl
  | delay =>
    refine ⟨rfl, ?_, rfl, rfl, rfl⟩
    rintro ⟨⟩ hs
    · rfl
    · exact absurd rfl hs

/-- A push that succeeds writes the list of the key and counts the event. -/
theorem pushOn_writes (hok : push q.queueArray (CEventSubQueue.operatorIndex (q.part s) k) d = .ok (arr', l')) :
    ∃ q', q.pushOn s k push d = .ok q' ∧ Writes q q' s (put k l' (q.part s)) arr' ∧
      q'.enqueueCount = q.enqueueCount + 1 ∧ q'.dequeueCount = q.dequeueCount := by
  refine ⟨_, ?_, writes_setPart q s _ arr' (q.enqueueCount + 1) q.dequeueCount, rfl, rfl⟩
  unfold CEventQueue.pushOn
  rw [hok]
  cases s <;> rfl

/-- A removal that succeeds writes the list it leaves, or erases it, and counts the event. -/
theorem getPartEvent_writes (hq : q.part s = (k, l) :: rest) (hpop : l.popFront q.queueArray = .ok (d, arr', l')) :
    ∃ q', q.getPartEvent s = .ok (d, q') ∧ Writes q q' s (if l'.empty then rest else (k, l') :: rest) arr' ∧
      q'.enqueueCount = q.enqueueCount ∧ q'.dequeueCount = q.dequeueCount + 1 := by
  refine ⟨_, ?_, writes_setPart q s _ arr' q.enqueueCount (q.dequeueCount + 1), rfl, rfl⟩
  unfold CEventQueue.getPartEvent
  simp only [hq, hpop]
  cases s <;> rfl

/-- What the list of one key becomes: the map `m` has the list `xs` for the key and the other lists as they were, and the array
changes only at the device and the devices of the old list. -/
structure Rewrites (q : CEventQueue) (a : Deques) (s : QueuePart) (k : Int) (m : CEventSubQueue) (arr : Nat → Nat)
    (xs : List Nat) (d : Nat) : Prop where
  sorted : SortedMap.Sorted m
  stored : ∀ l, SortedMap.find k m = some l → xs ≠ [] ∧ l.Holds arr xs
  absent : SortedMap.find k m = none → xs = []
  other_key : ∀ k', k' ≠ k → SortedMap.find k' m = SortedMap.find k' (q.part s)
  kept : ∀ x, x ≠ d → x ∉ a s k → arr x = q.queueArray x
  known : ∀ x, x = d ∨ x ∈ a s k → (arr x = unknownDevice ↔ x ∉ xs)
  nodup : xs.Nodup
  mem : ∀ x ∈ xs, x = d ∨ x ∈ a s k

section
variable (h : q.Refines a)
include h

section
variable {m : CEventSubQueue} {arr : Nat → Nat} (hr : Rewrites q a s k m arr xs d) (hd : ∀ s' k', d ∈ a s' k' → s' = s ∧ k' = k)
include hr hd

omit hr in
/-- The devices of the other deques are not the ones whose entries change. -/
theorem Refines.apart {s' : QueuePart} {k' : Int} {x : Nat} (hne : ¬ (s' = s ∧ k' = k)) (hx : x ∈ a s' k') :
    ¬ (x = d ∨ x ∈ a s k) := by
  rintro (rfl | hx')
  · exact hne (hd s' k' hx)
  · exact hne (h.once x s k s' k' hx' hx)

theorem Refines.once_set (x : Nat) (s₁ : QueuePart) (k₁ : Int) (s₂ : QueuePart) (k₂ : Int) (h₁ : x ∈ a.set s k xs s₁ k₁)
    (h₂ : x ∈ a.set s k xs s₂ k₂) : s₂ = s₁ ∧ k₂ = k₁ := by
  rcases a.mem_set.1 h₁ with ⟨rfl, rfl, hx₁⟩ | ⟨hne₁, hx₁⟩
  · rcases a.mem_set.1 h₂ with ⟨rfl, rfl, _⟩ | ⟨hne₂, hx₂⟩
    · exact ⟨rfl, rfl⟩
    · exact absurd (hr.mem x hx₁) (h.apart hd hne₂ hx₂)
  · rcases a.mem_set.1 h₂ with ⟨rfl, rfl, hx₂⟩ | ⟨_, hx₂⟩
    · exact absurd (hr.mem x hx₂) (h.apart hd hne₁ hx₁)
    · exact h.once x s₁ k₁ s₂ k₂ hx₁ hx₂

theorem Refines.free_set_iff (x : Nat) (hx : x < q.queueSize) : arr x = unknownDevice ↔ ¬ (a.set s k xs).Queued x := by
  rcases Classical.em (x = d ∨ x ∈ a s k) with hin | hout
  · rw [hr.known x hin, not_iff_not]
    refine ⟨fun hxs => ⟨s, k, by simpa using hxs⟩, ?_⟩
    rintro ⟨s', k', hm⟩
    rcases a.mem_set.1 hm with ⟨_, _, hm⟩ | ⟨hne, hm⟩
    · exact hm
    · exact absurd hin (h.apart hd hne hm)
  · obtain ⟨hxd, hxs⟩ := not_or.1 hout
    rw [hr.kept x hxd hxs, h.free_iff x hx, not_iff_not]
    constructor
    · rintro ⟨s', k', hm⟩
      refine ⟨s', k', a.mem_set.2 (.inr ⟨?_, hm⟩)⟩
      rintro ⟨rfl, rfl⟩
      exact hxs hm
    · rintro ⟨s', k', hm⟩
      rcases a.mem_set.1 hm with ⟨_, _, hm⟩ | ⟨_, hm⟩
      · exact absurd (hr.mem x hm) hout
      · exact ⟨s', k', hm⟩

end

/-- An operation on the list of one key changes the deque of that key. -/
theorem Refines.rewrite {q' : CEventQueue} {m : CEventSubQueue} {arr : Nat → Nat} (hw : Writes q q' s m arr)
    (hr : Rewrites q a s k m arr xs d) (hlt : d < q.queueSize) (hd : ∀ s' k', d ∈ a s' k' → s' = s ∧ k' = k)
    (hcount : q'.enqueueCount = q'.dequeueCount + q'.queued.card) : q'.Refines (a.set s k xs) := by
  -- the key that changes, and the others
  have hat : ∀ s' k', (s' = s ∧ k' = k ∧ find k' (q'.part s') = find k m ∧ a.set s k xs s' k' = xs) ∨
      ¬ (s' = s ∧ k' = k) ∧ find k' (q'.part s') = find k' (q.part s') ∧ a.set s k xs s' k' = a s' k' := by
    intro s' k'
    by_cases he : s' = s ∧ k' = k
    · obtain ⟨rfl, rfl⟩ := he
      exact .inl ⟨rfl, rfl, by rw [hw.part_self], Deques.set_self ..⟩
    refine .inr ⟨he, ?_, Deques.set_of_ne a he xs⟩
    rcases eq_or_ne s' s with rfl | hs
    · rw [hw.part_self]
      exact hr.other_key k' fun hk => he ⟨rfl, hk⟩
    · rw [hw.part_of_ne s' hs]
  refine ⟨hw.size_eq ▸ h.size_le, ?_, ?_, ?_, ?_, h.once_set hr hd, ?_, ?_, hcount⟩
  · intro s'
    rcases eq_or_ne s' s with rfl | hs
    · rw [hw.part_self]
      exact hr.sorted
    · rw [hw.part_of_ne s' hs]
      exact h.sorted s'
  · intro s' k' l hl
    rcases hat s' k' with ⟨-, -, hfind, ha⟩ | ⟨hne, hfind, ha⟩ <;> rw [ha, hw.array_eq] <;> rw [hfind] at hl
    · exact hr.stored l hl
    · obtain ⟨hnil, hh⟩ := h.stored s' k' l hl
      exact ⟨hnil, hh.congr fun x hx => hr.kept x (not_or.1 (h.apart hd hne hx)).1 (not_or.1 (h.apart hd hne hx)).2⟩
  · intro s' k' hl
    rcases hat s' k' with ⟨-, -, hfind, ha⟩ | ⟨-, hfind, ha⟩ <;> rw [ha] <;> rw [hfind] at hl
    · exact hr.absent hl
    · exact h.absent s' k' hl
  · intro s' k'
    rcases hat s' k' with ⟨-, -, -, ha⟩ | ⟨-, -, ha⟩ <;> rw [ha]
    · exact hr.nodup
    · exact h.nodup s' k'
  · intro x s' k' hx
    rw [hw.size_eq]
    rcases a.mem_set.1 hx with ⟨_, _, hx⟩ | ⟨_, hx⟩
    · rcases hr.mem x hx with rfl | hx
      · exact hlt
      · exact h.lt_size x s k hx
    · exact h.lt_size x s' k' hx
  · rw [hw.size_eq, hw.array_eq]
    exact h.free_set_iff hr hd

/-- The devices of a deque are device ids with a taken entry. -/
theorem Refines.known {x : Nat} (hx : x ∈ a s k) : x ≠ unknownDevice ∧ q.queueArray x ≠ unknownDevice := by
  have hlt := h.lt_size x s k hx
  have hle := h.size_le
  exact ⟨by omega, fun hfree => (h.free_iff x hlt).1 hfree ⟨s, k, hx⟩⟩

/-- The list that `operator[]` finds or makes is the deque of the key. -/
theorem Refines.operatorIndex (s : QueuePart) (k : Int) :
    (CEventSubQueue.operatorIndex (q.part s) k).Holds q.queueArray (a s k) := by
  unfold CEventSubQueue.operatorIndex
  cases hf : find k (q.part s) with
  | none =>
    rw [h.absent s k hf]
    exact .nil _
  | some l => exact (h.stored s k l hf).2

/-- A push of a device that does not wait, on either end, changes the deque of its key. -/
theorem Refines.pushOn (hlt : d < q.queueSize) (hd : ¬ a.Queued d) (hperm : xs.Perm (d :: a s k))
    (hpush : ∃ arr' l', push q.queueArray (CEventSubQueue.operatorIndex (q.part s) k) d = .ok (arr', l') ∧
      l'.Holds arr' xs ∧ CEventList.Pushed q.queueArray arr' (a s k) d) :
    ∃ q', q.pushOn s k push d = .ok q' ∧ q'.Refines (a.set s k xs) ∧ q'.queueType = q.queueType ∧ q'.queueSize = q.queueSize := by
  obtain ⟨arr', l', hok, hholds, hpushed⟩ := hpush
  have hdx : d ∉ a s k := fun hm => hd ⟨s, k, hm⟩
  have hfree : q.queueArray d = unknownDevice := (h.free_iff d hlt).2 hd
  have hmem : ∀ x, x ∈ xs ↔ x = d ∨ x ∈ a s k := fun x => by rw [hperm.mem_iff, mem_cons]
  obtain ⟨q', hrun, hw, henq, hdeq⟩ := pushOn_writes hok
  refine ⟨q', hrun, ?_, hw.type_eq, hw.size_eq⟩
  refine h.rewrite hw (d := d) ⟨(h.sorted s).put k l', ?_, ?_, ?_, hpushed.kept, ?_, ?_, fun x hx => (hmem x).1 hx⟩ hlt
    (fun s' k' hm => absurd ⟨s', k', hm⟩ hd) ?_
  · intro l hl
    rw [find_put_self] at hl
    obtain rfl := Option.some.inj hl
    exact ⟨ne_nil_of_mem ((hmem d).2 (.inl rfl)), hholds⟩
  · intro hl
    rw [find_put_self] at hl
    nomatch hl
  · intro k' hk
    exact find_put_of_ne hk _ _
  · intro x hx
    refine iff_of_false ?_ (not_not.2 ((hmem x).2 hx))
    rcases hx with rfl | hx
    · exact hpushed.taken
    · exact hpushed.known x hx
  · exact hperm.nodup_iff.2 (nodup_cons.2 ⟨hdx, h.nodup s k⟩)
  have hq : q'.queued = insert d q.queued := by
    ext x
    simp only [queued, hw.size_eq, hw.array_eq, Finset.mem_filter, Finset.mem_range, Finset.mem_insert]
    rcases eq_or_ne x d with rfl | hxd
    · exact iff_of_true ⟨hlt, hpushed.taken⟩ (.inl rfl)
    · rcases Classical.em (x ∈ a s k) with hx | hx
      · simp [hxd, hpushed.known x hx, (h.known hx).2]
      · simp [hxd, hpushed.kept x hxd hx]
  have hcard := h.counts
  rw [hq, Finset.card_insert_of_notMem (by simp [queued, hfree]), henq, hdeq]
  omega

/-- `AddEvent` of a device that does not wait adds it to the abstract queue. -/
theorem Refines.addEvent {pos : QueuePosition} (hlt : d < q.queueSize) (hd : ¬ a.Queued d) (hpos : pos ≠ .skipQueue) (key : Int) :
    ∃ q', q.addEvent key d pos = .ok q' ∧ q'.Refines (a.add q.queueType key d pos) ∧ q'.queueType = q.queueType ∧
      q'.queueSize = q.queueSize := by
  have hkey : Deques.orderKey q.queueType key = q.storedKey key := by
    unfold Deques.orderKey storedKey
    cases q.queueType <;> rfl
  have hne : d ≠ unknownDevice := by
    have hle := h.size_le
    omega
  have hfree : q.queueArray d = unknownDevice := (h.free_iff d hlt).2 hd
  have front : ∀ s, _ := fun s => h.pushOn hlt hd (.refl (d :: a s (q.storedKey key)))
    ((h.operatorIndex s (q.storedKey key)).pushFront (fun x hx => h.known hx) hne hfree)
  have back : ∀ s, _ := fun s => h.pushOn hlt hd (perm_append_singleton d (a s (q.storedKey key)))
    ((h.operatorIndex s (q.storedKey key)).pushBack (h.nodup s _) (fun x hx => h.known hx) hne hfree)
  unfold CEventQueue.addEvent Deques.add
  rw [hkey]
  cases pos with
  | queueHiz | mosDiode => exact front .main
  | mainBack => exact back .main
  | delayFront => exact front .delay
  | delayBack => exact back .delay
  | skipQueue => exact absurd rfl hpos

/-- The key of the first entry of a map is the least key of the part. -/
theorem Refines.isLeast (hq : q.part s = (k, l) :: rest) : IsLeast (a.keys s) k := by
  have hf : find k (q.part s) = some l := by rw [hq, find_cons_self]
  refine ⟨(h.stored s k l hf).1, ?_⟩
  intro k' hk'
  cases hf' : find k' (q.part s) with
  | none => exact absurd (h.absent s k' hf') hk'
  | some l' =>
    rw [hq] at hf'
    exact (hq ▸ h.sorted s).head_le hf'

/-- The part whose map is empty has no key. -/
theorem Refines.keys_eq_empty (hq : q.part s = []) : a.keys s = ∅ := by
  refine Set.eq_empty_iff_forall_notMem.2 fun k hk => hk (h.absent s k ?_)
  rw [hq, find_nil]

/-- `GetMainEvent` and `GetDelayEvent` take the front device of the least key of the part. -/
theorem Refines.getPartEvent (hq : q.part s = (k, l) :: rest) :
    ∃ d xs q', a s k = d :: xs ∧ q.getPartEvent s = .ok (d, q') ∧ q'.Refines (a.set s k xs) ∧ q'.queueType = q.queueType ∧
      q'.queueSize = q.queueSize := by
  have hf : find k (q.part s) = some l := by rw [hq, find_cons_self]
  have hsorted : SortedMap.Sorted ((k, l) :: rest) := hq ▸ h.sorted s
  obtain ⟨hnil, hholds⟩ := h.stored s k l hf
  obtain ⟨d, xs, hxs⟩ := exists_cons_of_ne_nil hnil
  have hnd : (d :: xs).Nodup := hxs ▸ h.nodup s k
  have hdxs : d ∉ xs := (nodup_cons.1 hnd).1
  have hin : ∀ x ∈ d :: xs, x ∈ a s k := fun x hx => hxs ▸ hx
  rw [hxs] at hholds
  obtain ⟨l', hpop, hholds'⟩ := hholds.popFront hnd fun x hx => (h.known (hin x hx)).1
  have hempty := hholds'.empty_iff fun x hx => (h.known (hin x (mem_cons_of_mem _ hx))).1
  have hlt := h.lt_size d s k (hin d mem_cons_self)
  obtain ⟨q', hrun, hw, henq, hdeq⟩ := getPartEvent_writes hq hpop
  refine ⟨d, xs, q', hxs, hrun, ?_, hw.type_eq, hw.size_eq⟩
  refine h.rewrite hw (d := d) ⟨?_, ?_, ?_, ?_, ?_, ?_, (nodup_cons.1 hnd).2, ?_⟩ hlt
    (fun s' k' hm => h.once d s k s' k' (hin d mem_cons_self) hm) ?_
  · split
    · exact hsorted.tail
    · exact hsorted.setHead l'
  · intro l1 hl
    split at hl
    · rw [hsorted.find_tail_head] at hl
      nomatch hl
    · rename_i he
      rw [find_cons_self] at hl
      obtain rfl := Option.some.inj hl
      exact ⟨fun hx => he (hempty.2 hx), hholds'⟩
  · intro hl
    split at hl
    · rename_i he
      exact hempty.1 he
    · rw [find_cons_self] at hl
      nomatch hl
  · intro k' hk
    rw [hq, find_cons_of_ne hk]
    split
    · rfl
    · rw [find_cons_of_ne hk]
  · intro x hxd _
    exact Function.update_of_ne hxd _ _
  · intro x hx
    rcases eq_or_ne x d with rfl | hxd
    · exact iff_of_true (Function.update_self ..) hdxs
    rw [Function.update_of_ne hxd]
    have hx' : x ∈ a s k := hx.resolve_left hxd
    refine iff_of_false (h.known hx').2 (not_not.2 ?_)
    rw [hxs] at hx'
    exact (mem_cons.1 hx').resolve_left hxd
  · intro x hx
    exact .inr (hin x (mem_cons_of_mem _ hx))
  · have hq' : q'.queued = q.queued.erase d := by
      ext x
      simp only [queued, hw.size_eq, hw.array_eq, Finset.mem_filter]
      rcases eq_or_ne x d with rfl | hxd
      · simp
      · simp [hxd]
    have hmem : d ∈ q.queued := by simpa [queued, hlt] using (h.known (hin d mem_cons_self)).2
    have hcard := Finset.card_erase_add_one hmem
    have hcounts := h.counts
    rw [hq', henq, hdeq]
    omega

/-- `GetEvent` takes the next device of the abstract queue. -/
theorem Refines.getEvent (hne : ∃ d, a.Queued d) :
    ∃ d a' q', q.getEvent = .ok (d, q') ∧ Deques.Get q.queueType a d a' ∧ q'.Refines a' ∧ q'.queueType = q.queueType ∧
      q'.queueSize = q.queueSize := by
  unfold CEventQueue.getEvent isNextMainQueue
  cases hm : q.mainQueue with
  | nil =>
    have hmain := h.keys_eq_empty (s := .main) hm
    cases hd : q.delayQueue with
    | nil =>
      obtain ⟨d, s, k, hx⟩ := hne
      have hdelay := h.keys_eq_empty (s := .delay) hd
      have hk : k ∈ a.keys s := ne_nil_of_mem hx
      cases s with
      | main => exact absurd hk (hmain ▸ Set.notMem_empty k)
      | delay => exact absurd hk (hdelay ▸ Set.notMem_empty k)
    | cons e rest =>
      obtain ⟨d, xs, q', hxs, hget, hrest⟩ := h.getPartEvent (s := .delay) (k := e.1) (l := e.2) hd
      exact ⟨d, _, q', hget, .delay (h.isLeast (s := .delay) hd) hxs (.inl hmain), hrest⟩
  | cons e rest =>
    have hleast := h.isLeast (s := .main) (k := e.1) (l := e.2) hm
    obtain ⟨d, xs, q', hxs, hget, hrest⟩ := h.getPartEvent (s := .main) (k := e.1) (l := e.2) hm
    cases hd : q.delayQueue with
    | nil =>
      have hdelay := h.keys_eq_empty (s := .delay) hd
      refine ⟨d, _, q', hget, .main hleast hxs (.inr ?_), hrest⟩
      rw [hdelay]
      exact fun k hk => absurd hk (Set.notMem_empty k)
    | cons e' rest' =>
      have hleast' := h.isLeast (s := .delay) (k := e'.1) (l := e'.2) hd
      simp only [Bool.or_eq_true, beq_iff_eq, decide_eq_true_eq]
      split
      · rename_i hfirst
        exact ⟨d, _, q', hget, .main hleast hxs (hfirst.imp_right fun hle k hk => hle.trans (hleast'.2 hk)), hrest⟩
      rename_i hfirst
      obtain ⟨hsim, hlt⟩ := not_or.1 hfirst
      obtain ⟨d', xs', q'', hxs', hget', hrest'⟩ := h.getPartEvent (s := .delay) (k := e'.1) (l := e'.2) hd
      refine ⟨d', _, q'', hget', .delay hleast' hxs' (.inr ⟨hsim, ?_⟩), hrest'⟩
      intro k hk
      exact lt_of_lt_of_le (not_le.1 hlt) (hleast.2 hk)

end

/-- A queue with empty maps that has been reset stores no device. -/
theorem refines_resetQueue {n : Nat} (hmain : q.mainQueue = []) (hdelay : q.delayQueue = [])
    (hn : n ≤ unknownDevice) : (q.resetQueue n).Refines Deques.empty := by
  have hpart : ∀ s, (q.resetQueue n).part s = [] := by
    rintro ⟨⟩
    · exact hmain
    · exact hdelay
  refine ⟨hn, ?_, ?_, fun _ _ _ => rfl, fun _ _ => nodup_nil, nofun, nofun, fun d _ => iff_of_true rfl nofun, ?_⟩
  · intro s
    rw [hpart]
    exact .nil
  · intro s k l hl
    rw [hpart] at hl
    nomatch hl
  · simp [queued, resetQueue]

/-- A legal run of the queue is a run of the abstract queue that returns the same devices. -/
theorem Refines.runOps (h : q.Refines a) {ops : List EventOp} (hops : EventOp.Legal q.queueType q.queueSize a ops) :
    ∃ ds q' a', EventOp.runOps q ops = .ok (ds, q') ∧ EventOp.Run q.queueType a ops ds a' ∧ q'.Refines a' := by
  induction ops generalizing q a with
  | nil => exact ⟨[], q, a, rfl, .nil a, h⟩
  | cons op ops ih =>
    cases op with
    | add key d pos =>
      obtain ⟨hlt, hd, hpos, hrest⟩ := hops
      obtain ⟨q1, hadd, h1, htype, hsize⟩ := h.addEvent hlt hd hpos key
      obtain ⟨ds, q', a', hrun, habs, h'⟩ := ih h1 (by rwa [htype, hsize])
      refine ⟨ds, q', a', ?_, .add (htype ▸ habs), h'⟩
      simp only [EventOp.runOps, hadd]
      exact hrun
    | get =>
      obtain ⟨hne, hrest⟩ := hops
      obtain ⟨d, a₁, q1, hget, hnext, h1, htype, hsize⟩ := h.getEvent hne
      obtain ⟨ds, q', a', hrun, habs, h'⟩ := ih h1 (by rw [htype, hsize]; exact hrest d a₁ hnext)
      refine ⟨d :: ds, q', a', ?_, .get hnext (htype ▸ habs), h'⟩
      simp only [EventOp.runOps, hget]
      change (EventOp.runOps q1 ops >>= fun r => _) = _
      rw [hrun]
      rfl

end CEventQueue

/-- Every legal run from a reset queue without events succeeds. It returns the devices that the one run of the abstract queue
returns, and the queue it leaves stores the deques that run leaves. -/
theorem eventQueue_refines_deques (q : CEventQueue) (theDeviceCount : Nat) (hcount : theDeviceCount ≤ unknownDevice)
    (hempty : q.mainQueue = [] ∧ q.delayQueue = []) (ops : List EventOp)
    (hops : EventOp.Legal q.queueType theDeviceCount Deques.empty ops) :
    ∃ ds q' a, EventOp.runOps (q.resetQueue theDeviceCount) ops = .ok (ds, q') ∧
      (∀ ds' a', EventOp.Run q.queueType Deques.empty ops ds' a' ↔ ds' = ds ∧ a' = a) ∧ q'.Refines a := by
  obtain ⟨ds, q', a, hrun, habs, h⟩ := (CEventQueue.refines_resetQueue hempty.1 hempty.2 hcount).runOps hops
  refine ⟨ds, q', a, hrun, fun ds' a' => ⟨fun h' => h'.unique habs, ?_⟩, h⟩
  rintro ⟨rfl, rfl⟩
  exact habs

/-- Three devices in both parts of a max queue, and the removal of the one with the largest key. -/
theorem eventQueue_refines_deques_three :
    ∃ ds q' a, EventOp.runOps (CEventQueue.resetQueue ⟨.maxQueue, 0, fun _ => 0, [], [], 0, 0⟩ 3)
        [.add 5 0 .mainBack, .add 7 1 .delayFront, .add 5 2 .mosDiode, .get] = .ok (ds, q') ∧
      (∀ ds' a', EventOp.Run .maxQueue Deques.empty [.add 5 0 .mainBack, .add 7 1 .delayFront, .add 5 2 .mosDiode, .get]
        ds' a' ↔ ds' = ds ∧ a' = a) ∧ q'.Refines a := by
  refine eventQueue_refines_deques ⟨.maxQueue, 0, fun _ => 0, [], [], 0, 0⟩ 3 (by decide) ⟨rfl, rfl⟩ _ ?_
  refine ⟨by decide, ?_, by decide, by decide, ?_, by decide, by decide, ?_, by decide, ?_, fun _ _ _ => trivial⟩
  · simp [Deques.Queued, Deques.empty]
  · simp [Deques.Queued, Deques.add, Deques.set, Deques.empty]
  · simp only [Deques.Queued, Deques.add, Deques.set, Deques.empty, not_exists]
    intro s k
    split
    · simp
    · split <;> simp
  · exact ⟨2, .main, -5, by simp [Deques.add, Deques.orderKey]⟩

end Cvc
