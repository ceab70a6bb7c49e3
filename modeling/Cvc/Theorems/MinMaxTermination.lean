import Mathlib.Algebra.Order.BigOperators.Group.Finset
import Cvc.Theorems.PendingBits

/-!
# The min/max propagation ends

A device that is taken from a queue becomes inactive, leaves the queue, or goes back to it under a later key. While it becomes
inactive it may bring any number of devices into both queues, but it stays inactive, and the keys of the min and the max queue are
bounded. So a number that counts the active devices first and the distance of the waiting keys from the bound second goes down in
every round of the main loop of `SetInitialMinMaxPower`, on either pass, whatever the nets, the devices and the powers are.
-/

namespace Cvc

open Program DeviceState PropagationState Finset

/-! ## The potential -/

/-- The places of `n` devices in the min and the max queue. -/
def places (n : Nat) : Finset (EventQueueType × Nat) := {.minQueue, .maxQueue} ×ˢ Finset.range n

theorem mem_places {n : Nat} {q : EventQueueType} {d : Nat} (hq : q ≠ .simQueue) (hd : d < n) : (q, d) ∈ places n := by
  unfold places
  rw [mem_product]
  refine ⟨?_, mem_range.2 hd⟩
  cases q with
  | simQueue => exact absurd rfl hq
  | minQueue => simp
  | maxQueue => simp

theorem ne_simQueue_of_mem_places {n : Nat} {place : EventQueueType × Nat} (h : place ∈ places n) : place.1 ≠ .simQueue := by
  rintro hq
  have := (mem_product.1 h).1
  rw [hq] at this
  simp at this

theorem card_places (n : Nat) : (places n).card = 2 * n := by
  unfold places
  rw [card_product, card_range]
  rfl

/-- The most that an event weighs. -/
def maxWeight : Nat := 2 * keyBound.toNat + 1

/-- What an event weighs: the number of keys from its own to the bound. -/
def eventWeight : Option Int → Nat
  | none => 0
  | some k => (keyBound - k).toNat + 1

theorem eventWeight_lt {k k' : Int} (h : k < k') (hk' : IsKey keyBound k') : eventWeight (some k') < eventWeight (some k) := by
  unfold IsKey at hk'
  simp only [eventWeight]
  omega

theorem eventWeight_le {k : Option Int} (hk : ∀ k', k = some k' → IsKey keyBound k') : eventWeight k ≤ maxWeight := by
  cases k with
  | none => exact Nat.zero_le _
  | some k =>
    have := hk k rfl
    unfold IsKey at this
    simp only [eventWeight, maxWeight]
    omega

/-- The weight of all events in the min and the max queue. -/
def Keys.weight (n : Nat) (e : Keys) : Nat := ∑ place ∈ places n, eventWeight (e place.1 place.2)

/-- The places at which a device is active. -/
def DeviceState.activePlaces (n : Nat) (s : DeviceState) : Finset (EventQueueType × Nat) :=
  (places n).filter fun place => s.inactive place.1 place.2 = false

/-- The active places first, the weight of the events second. -/
def potential (n : Nat) (s : DeviceState) (e : Keys) : Nat := (s.activePlaces n).card * (2 * n * maxWeight + 1) + e.weight n

section Potential
variable {n : Nat} {s s' : DeviceState} {e e' : Keys} {q : EventQueueType} {d : Nat}

theorem Keys.weight_set (hq : q ≠ .simQueue) (hd : d < n) (k : Option Int) :
    (e.set q d k).weight n + eventWeight (e q d) = e.weight n + eventWeight k := by
  have hmem := mem_places hq hd
  have hrest : ∑ place ∈ (places n).erase (q, d), eventWeight (e.set q d k place.1 place.2) =
      ∑ place ∈ (places n).erase (q, d), eventWeight (e place.1 place.2) := by
    refine sum_congr rfl fun place hplace => ?_
    have hne : ¬ (place.1 = q ∧ place.2 = d) := fun h => (mem_erase.1 hplace).1 (Prod.ext h.1 h.2)
    rw [Keys.set_of_ne e hne]
  unfold Keys.weight
  rw [← add_sum_erase _ _ hmem, ← add_sum_erase (places n) (fun place => eventWeight (e place.1 place.2)) hmem,
    hrest, Keys.set_self]
  dsimp only
  omega

theorem DeviceState.Tracks.weight_le (h : s.Tracks n e) : e.weight n ≤ 2 * n * maxWeight := by
  have hle := sum_le_card_nsmul (places n) (fun place => eventWeight (e place.1 place.2)) maxWeight fun place hplace =>
    eventWeight_le (h.bounded place.1 place.2 (ne_simQueue_of_mem_places hplace))
  rwa [card_places, Nat.nsmul_eq_mul] at hle

theorem potential_le (h : s.Tracks n e) : potential n s e ≤ 2 * n * (2 * n * maxWeight + 1) + 2 * n * maxWeight := by
  have hcard : (s.activePlaces n).card ≤ 2 * n := (card_filter_le _ _).trans (card_places n).le
  exact Nat.add_le_add (Nat.mul_le_mul_right _ hcard) h.weight_le

/-- With the same active devices, lighter events give a smaller potential. -/
theorem potential_lt_of_weight (hinactive : ∀ q d, s'.inactive q d = s.inactive q d) (hweight : e'.weight n < e.weight n) :
    potential n s' e' < potential n s e := by
  have hsame : s'.activePlaces n = s.activePlaces n := by
    unfold DeviceState.activePlaces
    simp only [hinactive]
  unfold potential
  rw [hsame]
  omega

/-- A device that becomes inactive lowers the potential, whatever enters the queues. -/
theorem potential_lt_of_inactive (h' : s'.Tracks n e') (hinactive : ∀ q d, s.inactive q d = true → s'.inactive q d = true)
    (hq : q ≠ .simQueue) (hd : d < n) (hactive : s.inactive q d = false) (hgone : s'.inactive q d = true) :
    potential n s' e' < potential n s e := by
  have hlt : (s'.activePlaces n).card < (s.activePlaces n).card := by
    refine card_lt_card ⟨fun place hplace => ?_, fun hsub => ?_⟩
    · obtain ⟨hmem, hplace⟩ := mem_filter.1 hplace
      refine mem_filter.2 ⟨hmem, Bool.eq_false_iff.2 fun hi => ?_⟩
      exact Bool.noConfusion (hplace.symm.trans (hinactive _ _ hi))
    · have := (mem_filter.1 (hsub (mem_filter.2 ⟨mem_places hq hd, hactive⟩))).2
      exact Bool.noConfusion (this.symm.trans hgone)
  have hle := h'.weight_le
  calc potential n s' e' ≤ (s'.activePlaces n).card * (2 * n * maxWeight + 1) + 2 * n * maxWeight := Nat.add_le_add_left hle _
    _ < ((s'.activePlaces n).card + 1) * (2 * n * maxWeight + 1) := by rw [Nat.add_mul]; omega
    _ ≤ (s.activePlaces n).card * (2 * n * maxWeight + 1) := Nat.mul_le_mul_right _ hlt
    _ ≤ potential n s e := Nat.le_add_right _ _

end Potential

namespace FlatCircuit

variable {c : FlatCircuit} {s : PropagationState} {q : EventQueueType} {e : Keys}

theorem orderKey_orderKey (q : EventQueueType) (k : Int) : Deques.orderKey q (Deques.orderKey q k) = k := by
  cases q <;> simp [Deques.orderKey]

/-- `QueueTime` is the key of the device that is taken next. -/
theorem queueTime_of_least (he : s.devices.Tracks c.deviceCount e) (hq : q ≠ .simQueue) (hstart : s.devices.queueStart q = true)
    {d : Nat} {k : Int} (hd : e q d = some k) (hleast : ∀ d' k', e q d' = some k' → k ≤ k') :
    Deques.orderKey q ((s.devices.queue q).queueTime (s.devices.queueStart q)) = k := by
  have hmax : ∀ d' k', e q d' = some k' → k' ≤ maxEventTime := fun d' k' hd' =>
    (he.bounded q d' hq k' hd').2.trans (by decide)
  rw [hstart, (he.shows q).queueTime_eq hd hleast hmax, he.storedKey_eq, orderKey_orderKey]

/-- Processing one device lowers the potential. -/
theorem wp_propagateMinMaxVoltages_lt (he : s.devices.Tracks c.deviceCount e) (hs : s.Running c.deviceCount false)
    (hq : q ≠ .simQueue) (hstart : s.devices.queueStart q = true) : wp (c.propagateMinMaxVoltages q)
      (fun _ s' => s'.Tracked c.deviceCount ∧ PropagationState.Continues false s s' ∧
        ∃ e', s'.devices.Tracks c.deviceCount e' ∧ potential c.deviceCount s'.devices e' < potential c.deviceCount s.devices e)
      (FailsRegularly c.deviceCount) s := by
  have hgroup : (q == .simQueue) = false := beq_eq_false_iff_ne.2 hq
  refine wp_bind.2 (wp_read.2 (wp_bind.2 (wp_getEvent he (fun d k ev hd hleast htracks => ?_) fun _ => ?_)))
  swap
  · exact ⟨hs.1.call he rfl, nofun, nofun⟩
  have hlt : d < c.deviceCount := he.lt hd
  have hkey := queueTime_of_least he hq hstart hd (hleast hq)
  let s1 : PropagationState :=
    { s with devices := (s.devices.setQueue q ev).withPending q d false, calls := s.devices :: s.calls }
  have hs1 : s1.Tracked c.deviceCount := hs.1.call htracks rfl
  have hcont : PropagationState.Continues false s s1 := hgroup ▸ .queued s.devices q d false ev
  have hinactive : ∀ q' d', s1.devices.inactive q' d' = s.devices.inactive q' d' := fun _ _ => inactive_withPending ..
  -- the device has left the q, under no key or under a later one
  have lighter : ∀ k', (∀ k'', k' = some k'' → k < k'' ∧ IsKey keyBound k'') →
      (e.set q d k').weight c.deviceCount < e.weight c.deviceCount := by
    intro k' hk'
    have hset := Keys.weight_set (e := e) hq hlt k'
    rw [hd] at hset
    have hless : eventWeight k' < eventWeight (some k) := by
      cases k' with
      | none => exact Nat.succ_pos _
      | some k'' => exact eventWeight_lt (hk' k'' rfl).1 (hk' k'' rfl).2
    omega
  have hdropped : ∀ devices : DeviceState, devices = s1.devices →
      ∃ e', devices.Tracks c.deviceCount e' ∧ potential c.deviceCount devices e' < potential c.deviceCount s.devices e := by
    rintro _ rfl
    exact ⟨_, htracks, potential_lt_of_weight hinactive (lighter none nofun)⟩
  refine wp_bind.2 ?_
  show wp (read PropagationState.devices >>= _) _ _ s1
  refine wp_bind.2 (wp_read.2 (wp_when (fun hactive => ?_) fun _ => ⟨hs1, hcont, hdropped _ rfl⟩))
  have hc1 : s1.devices.conflict = none := hs.2.1
  refine (wp_propagateMinMaxDevice htracks hs1 hlt (pending_withPending_self ..) hc1 hq _).imp fun _ s' h => ?_
  obtain ⟨hs', hR, houtcome⟩ := h
  rw [hgroup] at hR
  refine ⟨hs', .trans hcont hR, ?_⟩
  cases houtcome with
  | inactive hgone =>
    obtain ⟨e', he'⟩ := hs'.1
    refine ⟨e', he', potential_lt_of_inactive he' (fun q' d' hi => ?_) hq hlt ?_ hgone⟩
    · exact hR.inactive _ _ ((hinactive q' d').trans hi)
    · rw [← hinactive]
      simpa using hactive
  | dropped hsame => exact hdropped _ hsame
  | requeued k' hlater htracks' hsame =>
    rw [hkey] at hlater
    have hset : (e.set q d none).set q d (some k') = e.set q d (some k') := by
      unfold Keys.set
      simp
    rw [hset] at htracks'
    have hbound := htracks'.bounded q d hq k' (Keys.set_self ..)
    refine ⟨_, htracks', potential_lt_of_weight (fun q' d' => (hsame q' d').trans (hinactive q' d')) ?_⟩
    exact lighter (some k') fun _ hk => Option.some.inj hk ▸ ⟨hlater, hbound⟩

/-- The main loop ends within as many rounds as the potential allows. -/
theorem wp_minMaxLoop_finishes (rounds : Nat) (l : MinMaxLoop) (he : s.devices.Tracks c.deviceCount e)
    (hs : s.Running c.deviceCount false) (hstart : ∀ q, q ≠ .simQueue → s.devices.queueStart q = true)
    (hrounds : potential c.deviceCount s.devices e < rounds) :
    Leaves Failure.IsRegular (fun _ => True) (minMaxLoop c.propagateMinMaxVoltages rounds l) s := by
  induction rounds generalizing l s e with
  | zero => exact absurd hrounds (Nat.not_lt_zero _)
  | succ rounds ih =>
    refine wp_ite (fun _ => ⟨trivial, hs.1.2⟩) fun _ => wp_bind.2 ?_
    have hround := wp_minMaxRound (c := c) (s := s) (A := Failure.IsRegular) (fun _ h => h) l hs.1.2 fun q hq =>
      (wp_propagateMinMaxVoltages_lt he hs hq (hstart q hq)).mono (fun _ _ h => h) fun _ _ h => h.within fun _ h => h
    refine hround.imp fun l' s' h => ?_
    obtain ⟨⟨hs', hR, e', he', hless⟩, _⟩ := h
    exact ih l' he' ⟨hs', .continues hR hs.2⟩ (fun q hq => hR.started q (hstart q hq)) (by omega)

end FlatCircuit

/-- A number of rounds in which every min/max propagation of `n` devices ends. -/
def minMaxRounds (n : Nat) : Nat := 2 * n * (2 * n * maxWeight + 1) + 2 * n * maxWeight + 1

/-- The main loop of `SetInitialMinMaxPower` ends. For every circuit, on either pass and whatever is known about the nets, from
every state in which no device waits, the loop takes at most a number of rounds that depends only on the number of devices, unless
the program is aborted on the way. -/
theorem minMaxPropagation_finishes (n : Nat) (s : PropagationState) (idle : s.devices.Idle n)
    (calls : s.calls = []) (c : FlatCircuit)
    (count : c.deviceCount = n) (rounds : Nat) (hrounds : minMaxRounds n ≤ rounds) (s' : PropagationState) :
    c.resetMinMaxPower rounds s ≠ .error .endless s' := by
  have hcalls : ∀ call ∈ s.calls, call.Agrees := by
    rw [calls]
    exact nofun
  intro hfail
  have h : FlatCircuit.Leaves Failure.IsRegular (fun _ => True) (c.resetMinMaxPower rounds) s := by
    refine FlatCircuit.leaves_resetMinMaxPower (fun _ h => h) idle hcalls count fun s1 hs1 hstart => ?_
    subst count
    obtain ⟨e, he⟩ := hs1.1.1
    exact FlatCircuit.wp_minMaxLoop_finishes rounds _ he hs1 hstart
      (Nat.lt_of_lt_of_le (Nat.lt_succ_of_le (potential_le he)) hrounds)
  exact (h.of_error hfail).2.1 rfl

/-- The propagation of the diode circuit is not cut short. -/
theorem minMaxPropagation_finishes_diode : ¬ ∃ s', diodeCircuit.resetMinMaxPower (minMaxRounds 2) diodeState =
    .error .endless s' := by
  rintro ⟨s', hendless⟩
  exact minMaxPropagation_finishes 2 diodeState (DeviceState.idle_reset 2) rfl diodeCircuit rfl _ le_rfl s' hendless

end Cvc
