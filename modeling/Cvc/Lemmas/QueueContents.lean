import Mathlib.Data.List.Iterate
import Cvc.Propagation
import Cvc.Theorems.EventQueueRefinement

/-!
# What is in a queue

`CEventQueue.contents` reads the devices of a queue from its maps and its array. `CEventQueue.Shows` says the same from the side
of the devices: which of them wait, and under which stored key. It is all that the propagations depend on, so each operation is
described once by the keys it leaves.
-/

namespace Cvc

open LinkTable List Finset

/-- The devices of an event list, along the links of the array. -/
def CEventList.devices (queueArray : Nat → Nat) (l : CEventList) : List Nat := List.iterate queueArray l.first l.eventListSize

/-- The devices of a queue, list by list. -/
def CEventQueue.contents (q : CEventQueue) : List Nat :=
  (q.mainQueue ++ q.delayQueue).flatMap fun entry => entry.2.devices q.queueArray

theorem CEventList.Holds.devices_eq {arr : Nat → Nat} {l : CEventList} {xs : List Nat} (h : l.Holds arr xs) :
    l.devices arr = xs := by
  unfold CEventList.devices
  rw [h.first_eq, h.size_eq, ← headD_eq_head?_getD]
  exact h.threaded.iterate_eq _

namespace Deques

variable {t : EventQueueType} {d : Nat}

/-- An added device waits under the key of its event; the others are as before. -/
theorem mem_add {a : Deques} {key : Int} {pos : QueuePosition} (hpos : pos ≠ .skipQueue) (d' : Nat)
    (k : Int) : (∃ s, d' ∈ a.add t key d pos s k) ↔ (∃ s, d' ∈ a s k) ∨ d' = d ∧ k = orderKey t key := by
  have mem_set : ∀ s xs, (∀ x, x ∈ xs ↔ x = d ∨ x ∈ a s (orderKey t key)) →
      ((∃ s', d' ∈ a.set s (orderKey t key) xs s' k) ↔ (∃ s', d' ∈ a s' k) ∨ d' = d ∧ k = orderKey t key) := by
    intro s xs hxs
    constructor
    · rintro ⟨s', hd⟩
      rcases Classical.em (s' = s ∧ k = orderKey t key) with ⟨rfl, rfl⟩ | hne
      · rw [set_self, hxs] at hd
        exact hd.elim (fun hd => .inr ⟨hd, rfl⟩) fun hd => .inl ⟨s', hd⟩
      · exact .inl ⟨s', by rwa [set_of_ne a hne] at hd⟩
    · rintro (⟨s', hd⟩ | ⟨rfl, rfl⟩)
      · refine ⟨s', ?_⟩
        rcases Classical.em (s' = s ∧ k = orderKey t key) with ⟨rfl, rfl⟩ | hne
        · rw [set_self, hxs]
          exact .inr hd
        · rwa [set_of_ne a hne]
      · exact ⟨s, by rw [set_self, hxs]; exact .inl rfl⟩
  cases pos with
  | skipQueue => exact absurd rfl hpos
  | queueHiz | mosDiode | delayFront => exact mem_set _ _ fun x => mem_cons
  | mainBack | delayBack => exact mem_set _ _ fun x => by simp [or_comm]

/-- The next device is the first one of a deque; in the min and the max queue no device waits under an earlier key. -/
theorem Get.front {a a' : Deques} (h : Get t a d a') :
    ∃ s k xs, a s k = d :: xs ∧ a' = a.set s k xs ∧ (t ≠ .simQueue → ∀ s' k', a s' k' ≠ [] → k ≤ k') := by
  cases h with
  | @main k _ xs least front first =>
    refine ⟨.main, k, xs, front, rfl, fun ht s' k' hk => ?_⟩
    cases s' with
    | main => exact least.2 hk
    | delay => exact first.resolve_left ht hk
  | @delay k _ xs least front first =>
    refine ⟨.delay, k, xs, front, rfl, fun ht s' k' hk => ?_⟩
    cases s' with
    | main =>
      rcases first with hnone | ⟨_, hlt⟩
      · exact absurd hk (Set.eq_empty_iff_forall_notMem.1 hnone k')
      · exact (hlt k' hk).le
    | delay => exact least.2 hk

end Deques

namespace CEventQueue

/-! ## The contents and the deques -/

namespace Refines

variable {q : CEventQueue} {a : Deques}

theorem devices_eq (h : q.Refines a) {s : QueuePart} {k : Int} {l : CEventList} (hm : (k, l) ∈ q.part s) :
    l.devices q.queueArray = a s k :=
  (h.stored s k l ((h.sorted s).find_of_mem hm)).2.devices_eq

/-- The devices of one part. -/
theorem mem_part (h : q.Refines a) (s : QueuePart) (d : Nat) :
    d ∈ (q.part s).flatMap (fun entry => entry.2.devices q.queueArray) ↔ ∃ k, d ∈ a s k := by
  rw [mem_flatMap]
  constructor
  · rintro ⟨⟨k, l⟩, hm, hd⟩
    exact ⟨k, h.devices_eq hm ▸ hd⟩
  · rintro ⟨k, hd⟩
    cases hf : SortedMap.find k (q.part s) with
    | none => exact absurd hd (h.absent s k hf ▸ not_mem_nil)
    | some l =>
      have hm := SortedMap.mem_of_find hf
      exact ⟨(k, l), hm, h.devices_eq hm ▸ hd⟩

theorem nodup_part (h : q.Refines a) (s : QueuePart) : ((q.part s).flatMap fun entry => entry.2.devices q.queueArray).Nodup := by
  refine nodup_flatMap.2 ⟨?_, ?_⟩
  · rintro ⟨k, l⟩ hm
    rw [h.devices_eq hm]
    exact h.nodup s k
  · refine (h.sorted s).imp_of_mem ?_
    rintro ⟨k, l⟩ ⟨k', l'⟩ hm hm' hlt d hd hd'
    have hk : d ∈ a s k := h.devices_eq hm ▸ hd
    have hk' : d ∈ a s k' := h.devices_eq hm' ▸ hd'
    exact hlt.ne (h.once d s k' s k hk' hk).2

theorem contents_eq (q : CEventQueue) : q.contents = (q.part .main).flatMap (fun entry => entry.2.devices q.queueArray) ++
      (q.part .delay).flatMap fun entry => entry.2.devices q.queueArray := flatMap_append

theorem mem_contents (h : q.Refines a) (d : Nat) : d ∈ q.contents ↔ a.Queued d := by
  rw [contents_eq, mem_append, h.mem_part, h.mem_part]
  constructor
  · rintro (⟨k, hd⟩ | ⟨k, hd⟩)
    · exact ⟨.main, k, hd⟩
    · exact ⟨.delay, k, hd⟩
  · rintro ⟨s, k, hd⟩
    cases s with
    | main => exact .inl ⟨k, hd⟩
    | delay => exact .inr ⟨k, hd⟩

/-- No device is in a queue twice. -/
theorem nodup_contents (h : q.Refines a) : q.contents.Nodup := by
  rw [contents_eq]
  refine nodup_append'.2 ⟨h.nodup_part .main, h.nodup_part .delay, ?_⟩
  intro d hd hd'
  obtain ⟨k, hd⟩ := (h.mem_part .main d).1 hd
  obtain ⟨k', hd'⟩ := (h.mem_part .delay d).1 hd'
  exact QueuePart.noConfusion (h.once d .main k .delay k' hd hd').1

end Refines

/-! ## The keys of the devices -/

/-- The queue holds exactly the devices that have a key, each under its stored key. -/
def Shows (q : CEventQueue) (e : Nat → Option Int) : Prop := ∃ a, q.Refines a ∧ ∀ d k, e d = some k ↔ ∃ s, d ∈ a s k

namespace Shows

variable {q : CEventQueue} {e : Nat → Option Int} {d : Nat} {k : Int} {q' : CEventQueue}

/-- A device with a key is in the queue once, and one without a key is not. -/
theorem count_contents (h : q.Shows e) (d : Nat) : q.contents.count d = if (e d).isSome then 1 else 0 := by
  obtain ⟨a, ha, he⟩ := h
  cases hd : e d with
  | some k =>
    obtain ⟨s, hs⟩ := (he d k).1 hd
    exact count_eq_one_of_mem ha.nodup_contents ((ha.mem_contents d).2 ⟨s, k, hs⟩)
  | none =>
    refine count_eq_zero.2 fun hm => ?_
    obtain ⟨s, k, hs⟩ := (ha.mem_contents d).1 hm
    rw [(he d k).2 ⟨s, hs⟩] at hd
    nomatch hd

theorem mem_contents (h : q.Shows e) (d : Nat) : d ∈ q.contents ↔ (e d).isSome = true := by
  rw [← count_pos_iff, h.count_contents]
  split <;> simp_all

theorem lt_size (h : q.Shows e) (hd : e d = some k) : d < q.queueSize := by
  obtain ⟨a, ha, he⟩ := h
  obtain ⟨s, hs⟩ := (he d k).1 hd
  exact ha.lt_size d s k hs

/-- `AddEvent` of a device that has no key gives it the key of the event. -/
theorem addEvent (h : q.Shows e) (hlt : d < q.queueSize) (hd : e d = none) {pos : QueuePosition} (hpos : pos ≠ .skipQueue)
    (key : Int) : ∃ q', q.addEvent key d pos = .ok q' ∧ q'.Shows (Function.update e d (some (q.storedKey key))) ∧
      q'.queueType = q.queueType ∧ q'.queueSize = q.queueSize := by
  obtain ⟨a, ha, he⟩ := h
  have hfree : ¬ a.Queued d := by
    rintro ⟨s, k, hs⟩
    rw [(he d k).2 ⟨s, hs⟩] at hd
    nomatch hd
  have hkey : Deques.orderKey q.queueType key = q.storedKey key := by
    unfold Deques.orderKey storedKey
    cases q.queueType <;> rfl
  obtain ⟨q', hadd, ha', htype, hsize⟩ := ha.addEvent hlt hfree hpos key
  refine ⟨q', hadd, ⟨_, ha', fun d' k => ?_⟩, htype, hsize⟩
  rw [Deques.mem_add hpos, ← he, hkey]
  rcases eq_or_ne d' d with rfl | hne
  · simp [hd, eq_comm]
  · simp [hne]

/-- `GetEvent` takes a device with a key, which it loses; in the min and the max queue no key is earlier. -/
theorem getEvent (h : q.Shows e) (hne : ∃ d k, e d = some k) :
    ∃ d k q', q.getEvent = .ok (d, q') ∧ e d = some k ∧ q'.Shows (Function.update e d none) ∧ q'.queueType = q.queueType ∧
      q'.queueSize = q.queueSize ∧ (q.queueType ≠ .simQueue → ∀ d' k', e d' = some k' → k ≤ k') := by
  obtain ⟨a, ha, he⟩ := h
  obtain ⟨d0, k0, hd0⟩ := hne
  obtain ⟨s0, hs0⟩ := (he d0 k0).1 hd0
  obtain ⟨d, a', q', hget, hnext, ha', htype, hsize⟩ := ha.getEvent ⟨d0, s0, k0, hs0⟩
  obtain ⟨s, k, xs, hfront, rfl, hleast⟩ := hnext.front
  have hmem : d ∈ a s k := hfront ▸ mem_cons_self
  have hnodup : d ∉ xs := (nodup_cons.1 (hfront ▸ ha.nodup s k)).1
  refine ⟨d, k, q', hget, (he d k).2 ⟨s, hmem⟩, ⟨_, ha', fun d' k' => ?_⟩, htype, hsize, fun ht d' k' hd' => ?_⟩
  · constructor
    · intro hd'
      rcases eq_or_ne d' d with rfl | hne
      · simp at hd'
      rw [Function.update_of_ne hne, he] at hd'
      obtain ⟨s', hs'⟩ := hd'
      refine ⟨s', ?_⟩
      rcases Classical.em (s' = s ∧ k' = k) with ⟨rfl, rfl⟩ | hother
      · rw [hfront] at hs'
        rw [Deques.set_self]
        exact (mem_cons.1 hs').resolve_left hne
      · rwa [Deques.set_of_ne a hother]
    · rintro ⟨s', hs'⟩
      rcases Classical.em (s' = s ∧ k' = k) with ⟨rfl, rfl⟩ | hother
      · rw [Deques.set_self] at hs'
        have hne : d' ≠ d := fun heq => hnodup (heq ▸ hs')
        rw [Function.update_of_ne hne, he]
        exact ⟨s', hfront ▸ mem_cons_of_mem _ hs'⟩
      · rw [Deques.set_of_ne a hother] at hs'
        have hne : d' ≠ d := fun heq => hother (ha.once d s k s' k' hmem (heq ▸ hs'))
        rw [Function.update_of_ne hne, he]
        exact ⟨s', hs'⟩
  · obtain ⟨s', hs'⟩ := (he d' k').1 hd'
    exact hleast ht s' k' (ne_nil_of_mem hs')

/-- The maps of a queue without devices are empty. -/
theorem part_eq_nil (h : q.Shows fun _ => none) (s : QueuePart) : q.part s = [] := by
  obtain ⟨a, ha, he⟩ := h
  cases hq : q.part s with
  | nil => rfl
  | cons entry rest =>
    obtain ⟨k, l⟩ := entry
    have hk := (ha.isLeast hq).1
    obtain ⟨d, hd⟩ := exists_mem_of_ne_nil _ hk
    exact nomatch (he d k).2 ⟨s, hd⟩

/-- `GetEvent` of a queue without devices is undefined. -/
theorem getEvent_of_empty (h : q.Shows fun _ => none) : q.getEvent = .error .undefined := by
  have hmain : q.mainQueue = [] := h.part_eq_nil .main
  have hdelay : q.delayQueue = [] := h.part_eq_nil .delay
  simp [CEventQueue.getEvent, isNextMainQueue, hmain, getDelayEvent, getPartEvent, part, hdelay]

section
variable (h : q.Shows e)
include h

theorem mem_queued (d : Nat) : d ∈ q.queued ↔ (e d).isSome = true := by
  obtain ⟨a, ha, he⟩ := h
  unfold queued
  rw [Finset.mem_filter, Finset.mem_range]
  constructor
  · rintro ⟨hlt, hd⟩
    obtain ⟨s, k, hs⟩ : a.Queued d := Classical.not_not.1 fun hn => hd ((ha.free_iff d hlt).2 hn)
    rw [(he d k).2 ⟨s, hs⟩]
    rfl
  · intro hd
    obtain ⟨k, hk⟩ := Option.isSome_iff_exists.1 hd
    obtain ⟨s, hs⟩ := (he d k).1 hk
    exact ⟨ha.lt_size d s k hs, (ha.known hs).2⟩

/-- The size counts the devices in the queue, which are less than the marks of the 32-bit numbers. -/
theorem size_eq : q.size = q.queued.card := by
  obtain ⟨a, ha, _⟩ := h
  have hcard : q.queued.card ≤ q.queueSize := (card_filter_le _ _).trans (card_range _).le
  have hbound := ha.size_le
  have hcounts := ha.counts
  unfold size uint32
  unfold unknownDevice uint32Max at hbound
  rw [Nat.mod_eq_of_lt] <;> omega

theorem size_le : q.size ≤ q.queueSize :=
  h.size_eq.trans_le ((card_filter_le _ _).trans (card_range _).le)

theorem size_eq_zero_iff : q.size = 0 ↔ ∀ d, e d = none := by
  rw [h.size_eq, card_eq_zero, eq_empty_iff_forall_notMem]
  exact forall_congr' fun d => by rw [h.mem_queued, Option.isSome_iff_ne_none, Classical.not_not]

/-- A device that gets a key adds one to the size. -/
theorem size_addEvent (hd : e d = none) (h' : q'.Shows (Function.update e d (some k))) : q'.size = q.size + 1 := by
  have hqueued : q'.queued = insert d q.queued := by
    ext d'
    rw [mem_insert, h'.mem_queued, h.mem_queued]
    rcases eq_or_ne d' d with rfl | hne
    · simp
    · simp [hne]
  have hnew : d ∉ q.queued := by
    rw [h.mem_queued, hd]
    exact Bool.false_ne_true
  rw [h'.size_eq, h.size_eq, hqueued, card_insert_of_notMem hnew]

/-- A device that loses its key takes one from the size. -/
theorem size_getEvent (hd : e d = some k) (h' : q'.Shows (Function.update e d none)) : q'.size + 1 = q.size := by
  have hqueued : q'.queued = q.queued.erase d := by
    ext d'
    rw [mem_erase, h'.mem_queued, h.mem_queued]
    rcases eq_or_ne d' d with rfl | hne
    · simp
    · simp [hne]
  have hmem : d ∈ q.queued := by
    rw [h.mem_queued, hd]
    rfl
  rw [h'.size_eq, h.size_eq, hqueued, card_erase_add_one hmem]

/-- `QueueTime` of a started min or max queue is the key of its next device. -/
theorem queueTime_eq (hd : e d = some k) (hleast : ∀ d' k', e d' = some k' → k ≤ k')
    (hmax : ∀ d' k', e d' = some k' → k' ≤ maxEventTime) : q.queueTime true = q.storedKey k := by
  obtain ⟨a, ha, he⟩ := h
  have first : ∀ s, CEventSubQueue.queueTime (q.part s) = maxEventTime ∧ (∀ k', a s k' = []) ∨
      ∃ d', e d' = some (CEventSubQueue.queueTime (q.part s)) ∧ ∀ k', a s k' ≠ [] → CEventSubQueue.queueTime (q.part s) ≤ k' := by
    intro s
    cases hq : q.part s with
    | nil =>
      have hempty := ha.keys_eq_empty hq
      exact .inl ⟨rfl, fun k' => Classical.not_not.1 fun hk' => absurd hk' (Set.eq_empty_iff_forall_notMem.1 hempty k')⟩
    | cons entry rest =>
      obtain ⟨k', l⟩ := entry
      have hl := ha.isLeast hq
      obtain ⟨d', hd'⟩ := exists_mem_of_ne_nil _ hl.1
      exact .inr ⟨d', (he d' k').2 ⟨s, hd'⟩, fun k1 hk1 => hl.2 hk1⟩
  -- both parts start at the key or later, and one of them at it
  have below : ∀ s, k ≤ CEventSubQueue.queueTime (q.part s) := by
    intro s
    rcases first s with ⟨htime, _⟩ | ⟨d', hd', _⟩
    · rw [htime]
      exact hmax d k hd
    · exact hleast d' _ hd'
  obtain ⟨s, hs⟩ := (he d k).1 hd
  have hat : CEventSubQueue.queueTime (q.part s) ≤ k := by
    rcases first s with ⟨_, hnone⟩ | ⟨_, _, hle⟩
    · exact absurd (hnone k) (ne_nil_of_mem hs)
    · exact hle k (ne_nil_of_mem hs)
  have hmin : min (CEventSubQueue.queueTime q.mainQueue) (CEventSubQueue.queueTime q.delayQueue) = k := by
    have hmain : k ≤ CEventSubQueue.queueTime q.mainQueue := below .main
    have hdelay : k ≤ CEventSubQueue.queueTime q.delayQueue := below .delay
    cases s with
    | main => exact le_antisymm ((min_le_left _ _).trans hat) (le_min hmain hdelay)
    | delay => exact le_antisymm ((min_le_right _ _).trans hat) (le_min hmain hdelay)
  have hnonempty : (q.mainQueue.isEmpty && q.delayQueue.isEmpty) = false := by
    cases s with
    | main =>
      cases hq : q.mainQueue with
      | nil => exact absurd hs (ha.absent .main k (by rw [part, hq]; rfl) ▸ not_mem_nil)
      | cons => rfl
    | delay =>
      cases hq : q.delayQueue with
      | nil => exact absurd hs (ha.absent .delay k (by rw [part, hq]; rfl) ▸ not_mem_nil)
      | cons => simp
  simp [CEventQueue.queueTime, hnonempty, hmin]

end
end Shows

/-- A queue with empty maps shows no device after a reset. -/
theorem shows_resetQueue {q : CEventQueue} {n : Nat} (hmain : q.mainQueue = []) (hdelay : q.delayQueue = [])
    (hn : n ≤ unknownDevice) :
    (q.resetQueue n).Shows fun _ => none :=
  ⟨.empty, refines_resetQueue hmain hdelay hn, fun _ _ => ⟨nofun, fun ⟨_, h⟩ => absurd h not_mem_nil⟩⟩

end CEventQueue
end Cvc
