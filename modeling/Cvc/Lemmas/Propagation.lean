import Cvc.Lemmas.DeviceTracking

/-!
# What the functions of a propagation keep

One lemma for each function of a propagation: from a state whose devices are tracked it leads to such a state, with no device
active that was not, and it fails neither with an error of a queue nor by going on for ever. What it returns is stated where a
caller needs it.
-/

namespace Cvc

open Program DeviceState Bool

/-- A failure that is neither an error of a queue nor a loop that goes on. -/
def Failure.IsRegular (e : Failure) : Prop := e ≠ .endless ∧ ∀ message, e ≠ .eQueueError message

theorem NetFailure.isRegular_toFailure (e : NetFailure) : e.toFailure.IsRegular := by
  cases e <;> exact ⟨nofun, nofun⟩

namespace PropagationState

/-- The devices are tracked, and the pending bits agreed with the queues at every call so far. -/
def Tracked (n : Nat) (s : PropagationState) : Prop := (∃ e, s.devices.Tracks n e) ∧ ∀ call ∈ s.calls, call.Agrees

/-- The devices of a call are recorded. -/
theorem Tracked.call {n : Nat} {s s' : PropagationState} (h : s.Tracked n) {e : Keys} (hd : s'.devices.Tracks n e)
    (hc : s'.calls = s.devices :: s.calls) : s'.Tracked n := by
  obtain ⟨⟨_, hs⟩, hcalls⟩ := h
  refine ⟨⟨e, hd⟩, fun call hcall => ?_⟩
  rw [hc] at hcall
  rcases List.mem_cons.1 hcall with rfl | hcall
  · exact hs.agrees
  · exact hcalls call hcall

/-- A failure that has nothing to do with the queues. -/
def FailsRegularly (n : Nat) (e : Failure) (s : PropagationState) : Prop := s.Tracked n ∧ e.IsRegular

/-- A later state of a propagation. -/
def Continues (sim : Bool) (s s' : PropagationState) : Prop := DeviceState.Continues sim s.devices s'.devices

instance (sim : Bool) : IsPreorder PropagationState (Continues sim) where
  refl s := DeviceState.Continues.refl sim s.devices
  trans _ _ _ h h' := DeviceState.Continues.trans h h'

end PropagationState

open PropagationState

/-- From the state the function goes on with tracked devices and returns a value with the property. -/
abbrev StepsAt {α : Type} (n : Nat) (sim : Bool) (m : DbM α) (P : α → Prop) (s : PropagationState) : Prop :=
  KeepsAt (Tracked n) (PropagationState.Continues sim) (FailsRegularly n) m P s

/-- The same from every state with tracked devices. -/
abbrev Steps {α : Type} (n : Nat) (sim : Bool) (m : DbM α) (P : α → Prop) : Prop :=
  Keeps (Tracked n) (PropagationState.Continues sim) (FailsRegularly n) m P

/-- The same, with a property of the state that the function leads to. -/
abbrev GoesTo {α : Type} (n : Nat) (sim : Bool) (m : DbM α) (R : α → PropagationState → Prop) (s : PropagationState) : Prop :=
  wp m (fun a s' => s'.Tracked n ∧ PropagationState.Continues sim s s' ∧ R a s') (FailsRegularly n) s

section Actions
variable {α β : Type} {n : Nat} {sim : Bool} {P : α → Prop} {s : PropagationState} {q : EventQueueType} {d : Nat}

/-- A function on nets leaves the devices alone. -/
theorem steps_onNets {m : NetM α} (hm : Returns m P) : Steps n sim (onNets m) P := fun s hs =>
  wp_zoom.2 ((hm s.nets).mono (fun _ _ hP => ⟨hs, .refl sim s.devices, hP⟩) fun e _ _ => ⟨hs, e.isRegular_toFailure⟩)

theorem steps_onNets_of_forall (m : NetM α) : Steps n sim (onNets m) fun _ => True := steps_onNets .trivial

/-- What follows a function on nets starts with the same devices. -/
theorem wp_onNets_bind {m : NetM β} {R : β → Prop} {f : β → DbM α} {Q : α → PropagationState → Prop} (hs : s.Tracked n)
    (hm : Returns m R) (hf : ∀ b nets, R b → wp (f b) Q (FailsRegularly n) { s with nets := nets }) :
    wp (onNets m >>= f) Q (FailsRegularly n) s :=
  wp_bind.2 (wp_zoom.2 ((hm s.nets).mono hf fun e _ _ => ⟨hs, e.isRegular_toFailure⟩))

theorem stepsAt_onNets_bind {m : NetM β} {Q : β → Prop} {f : β → DbM α} (hs : s.Tracked n) (hm : Returns m Q)
    (hf : ∀ b s', Q b → s'.Tracked n → s'.devices = s.devices → StepsAt n sim (f b) P s') : StepsAt n sim (onNets m >>= f) P s :=
  wp_onNets_bind hs hm fun b nets hb => KeepsAt.wp_of (hf b { s with nets := nets } hb hs rfl) (.refl sim s.devices)

theorem steps_setInactive : Steps n sim (setInactive q d) fun _ => True := fun s hs =>
  ⟨⟨hs.1.imp fun _ he => he.withInactive q d, hs.2⟩, .withInactive s.devices q d sim, trivial⟩

theorem steps_startQueues (queues : List EventQueueType) : Steps n sim (startQueues queues) fun _ => True := fun _ hs =>
  ⟨⟨hs.1.imp fun _ he => ⟨he.shows, he.type_eq, he.size_eq, he.waits, he.conflict_pending, he.bounded⟩, hs.2⟩,
    ⟨rfl, fun _ h => or_eq_true_iff.2 (.inr h), fun _ _ h => h, fun _ _ => ⟨rfl, fun _ => rfl⟩⟩, trivial⟩

/-- A device that is not pending enters a queue and gets its pending bit. -/
theorem wp_addEvent {e : Keys} {Q : Unit → PropagationState → Prop} {E : Failure → PropagationState →
    Prop} (h : s.devices.Tracks n e)
    (hd : d < n) (hp : s.devices.pending q d = false) {pos : QueuePosition} (hpos : pos ≠ .skipQueue) {key : Int}
    (hkey : q ≠ .simQueue → IsKey keyBound key)
    (hQ : ∀ ev, ((s.devices.setQueue q ev).withPending q d true).Tracks n (e.set q d (some (Deques.orderKey q key))) →
      Q ⟨⟩ { s with devices := s.devices.setQueue q ev, calls := s.devices :: s.calls }) :
    wp (addEvent q key d pos) Q E s := by
  obtain ⟨ev, hadd, htracks⟩ := h.addEvent hd hp hpos hkey
  have := hQ ev htracks
  unfold wp addEvent
  rwa [hadd]

theorem stepsAt_addEvent_bind {f : Unit → DbM α} (hs : s.Tracked n) (hd : d < n) (hp : s.devices.pending q d = false)
    {pos : QueuePosition} (hpos : pos ≠ .skipQueue) {key : Int} (hkey : q ≠ .simQueue → IsKey keyBound key)
    (hf : Steps n (q == .simQueue) (f ⟨⟩) P) :
    StepsAt n (q == .simQueue) (addEvent q key d pos >>= fun _ => setPending q d true >>= f) P s := by
  obtain ⟨e, he⟩ := hs.1
  refine wp_bind.2 (wp_addEvent he hd hp hpos hkey fun ev hq => ?_)
  let s' : PropagationState :=
    { s with devices := (s.devices.setQueue q ev).withPending q d true, calls := s.devices :: s.calls }
  show wp (f ⟨⟩) _ _ s'
  exact KeepsAt.wp_of (hf s' (hs.call hq rfl)) (.queued s.devices q d true ev)

/-- The next device of a queue leaves it and loses its pending bit. -/
theorem wp_getEvent {e : Keys} {Q : Nat → PropagationState → Prop} {E : Failure → PropagationState →
    Prop} (h : s.devices.Tracks n e)
    (hQ : ∀ d k ev, e q d = some k → (q ≠ .simQueue → ∀ d' k', e q d' = some k' → k ≤ k') →
      ((s.devices.setQueue q ev).withPending q d false).Tracks n (e.set q d none) →
      Q d { s with devices := s.devices.setQueue q ev, calls := s.devices :: s.calls })
    (hE : (∀ d, e q d = none) → E .undefined { s with calls := s.devices :: s.calls }) : wp (getEvent q) Q E s := by
  unfold wp getEvent
  by_cases hne : ∃ d k, e q d = some k
  · obtain ⟨d, k, ev, hget, hd, hleast, htracks⟩ := h.getEvent hne
    rw [hget]
    exact hQ d k ev hd hleast htracks
  · have hnone : ∀ d, e q d = none := fun d => Option.eq_none_iff_forall_ne_some.2 fun k hk => hne ⟨d, k, hk⟩
    have hempty : (s.devices.queue q).Shows fun _ => none := funext hnone ▸ h.shows q
    rw [hempty.getEvent_of_empty]
    exact hE hnone

/-- What follows the removal of a device starts with the device in no queue. -/
theorem stepsAt_getEvent_bind {f : Nat → Unit → DbM α} (hs : s.Tracked n)
    (hf : ∀ d s', d < n → s'.Tracked n → s'.devices.pending q d = false → s'.devices.conflict = s.devices.conflict →
      StepsAt n (q == .simQueue) (f d ⟨⟩) P s') :
    StepsAt n (q == .simQueue) (getEvent q >>= fun d => setPending q d false >>= f d) P s := by
  obtain ⟨e, he⟩ := hs.1
  refine wp_bind.2 (wp_getEvent he (fun d k ev hd _ hq => ?_) fun _ => ?_)
  · let s' : PropagationState :=
      { s with devices := (s.devices.setQueue q ev).withPending q d false, calls := s.devices :: s.calls }
    show wp (f d ⟨⟩) _ _ s'
    exact KeepsAt.wp_of (hf d s' (he.lt hd) (hs.call hq rfl) (pending_withPending_self ..) rfl) (.queued s.devices q d false ev)
  · exact ⟨hs.call he rfl, nofun, nofun⟩

end Actions

namespace FlatCircuit

variable {c : FlatCircuit} {sim : Bool} {q : EventQueueType} {d : Nat} {t : CConnection} {key : Int} {s : PropagationState}

/-! ## Devices that enter a queue -/

theorem defaultQueuePosition_ne_skipQueue (flag : Bool) (q : EventQueueType) : defaultQueuePosition flag q ≠ .skipQueue := by
  unfold defaultQueuePosition
  split <;> exact nofun

theorem stepsAt_isIrrelevantNets_bind {n : Nat} {α : Type} {P : α → Prop} {f : Bool → DbM α} {v : Int} {status : QueueStatus}
    (hs : s.Tracked n) (hf : ∀ b s', s'.Tracked n → s'.devices = s.devices → StepsAt n sim (f b) P s') :
    StepsAt n sim (c.isIrrelevantNets q d t v status >>= f) P s := by
  refine wp_bind.2 (wp_bind.2 (wp_read.2 (wp_zoom_of_forall (fun b nets => ?_) fun e _ => ?_)))
  · exact KeepsAt.wp_of (hf b { s with nets := nets } hs rfl) (.refl sim s.devices)
  · exact ⟨hs, e.isRegular_toFailure⟩

/-- The key of an event: that of the device, but for the sim queue. -/
theorem stepsAt_enqueueTime_bind {n : Nat} {α : Type} {P : α → Prop} {f : Int → DbM α} (hs : s.Tracked n)
    (hkey : q ≠ .simQueue → IsKey keyBound key)
    (hf : ∀ k s', (q ≠ .simQueue → IsKey keyBound k) → s'.Tracked n → s'.devices = s.devices → StepsAt n sim (f k) P s') :
    StepsAt n sim (enqueueTime q t key >>= f) P s := by
  unfold enqueueTime
  split
  case isTrue hq => exact stepsAt_onNets_bind hs .trivial fun k s' _ hs' hdev => hf k s' (fun h => absurd hq h) hs' hdev
  case isFalse => exact hf key s hkey hs rfl

theorem stepsAt_enqueueActiveDevice (hs : s.Tracked c.deviceCount) (hd : d < c.deviceCount) (hp : s.devices.pending q d = false)
    (hkey : q ≠ .simQueue → IsKey (2 ^ 16) key) :
    StepsAt c.deviceCount (q == .simQueue) (c.enqueueActiveDevice q key d) (fun _ => True) s := by
  refine stepsAt_onNets_bind hs (c.returns_mapDeviceNets q d) fun t s1 ht hs1 h1 => ?_
  refine stepsAt_isIrrelevantNets_bind hs1 fun irrelevant s2 hs2 h2 => ?_
  refine .ite (fun _ => steps_setInactive _ hs2) fun _ => .ite (fun _ => .pure hs2 trivial) fun _ => ?_
  refine stepsAt_onNets_bind hs2 (returns_enqueueKey d ht hkey) fun r s3 hr hs3 h3 => ?_
  obtain ⟨k, pos, calculation⟩ := r
  refine .ite (fun _ => .pure hs3 trivial) fun hskip => ?_
  have hp3 : s3.devices.pending q d = false := by rwa [h3, h2, h1]
  refine stepsAt_enqueueTime_bind hs3 hr fun k' s' hk' hs' hdev => ?_
  refine stepsAt_addEvent_bind hs' hd (hdev ▸ hp3)
    (fun hpos => hskip (.inl hpos)) hk' (.seq (.read fun _ => trivial) fun nets => ?_)
  exact .when (fun _ => steps_onNets_of_forall _) trivial

theorem steps_enqueueDevice (hd : d < c.deviceCount) (hkey : q ≠ .simQueue → IsKey (2 ^ 16) key) :
    Steps c.deviceCount (q == .simQueue) (c.enqueueDevice q key d) fun _ => True := fun s hs => by
  refine .read_bind (.when hs (fun h => ?_) trivial)
  have hp : s.devices.pending q d = false := by
    rw [not_eq_true', or_eq_false_iff] at h
    exact h.2
  exact stepsAt_enqueueActiveDevice hs hd hp hkey

theorem steps_enqueueAttachedDevicesByTerminal {devices : List Nat} (hd : ∀ d ∈ devices, d < c.deviceCount)
    (hkey : q ≠ .simQueue → IsKey (2 ^ 16) key) :
    Steps c.deviceCount (q == .simQueue) (c.enqueueAttachedDevicesByTerminal q devices key) fun _ => True :=
  .forM fun d hmem => steps_enqueueDevice (hd d hmem) hkey

theorem source_lt {net : Nat} (h : d ∈ c.sources net) : d < c.deviceCount := c.device_lt net d (by simp [h])

theorem drain_lt {net : Nat} (h : d ∈ c.drains net) : d < c.deviceCount := c.device_lt net d (by simp [h])

theorem gate_lt {net : Nat} (h : d ∈ c.gates net) : d < c.deviceCount := c.device_lt net d (by simp [h])

theorem steps_enqueueAttachedDevices (net : Nat) (hkey : q ≠ .simQueue → IsKey (2 ^ 16) key) :
    Steps c.deviceCount (q == .simQueue) (c.enqueueAttachedDevices q net key) fun _ => True :=
  .seq (steps_enqueueAttachedDevicesByTerminal (fun _ h => source_lt h) hkey) fun _ =>
    .seq (steps_enqueueAttachedDevicesByTerminal (fun _ h => drain_lt h) hkey) fun _ =>
      steps_enqueueAttachedDevicesByTerminal (fun _ h => gate_lt h) hkey

theorem steps_enqueueResistor (hd : d < c.deviceCount) (hkey : q ≠ .simQueue → IsKey keyBound key) {pos : QueuePosition}
    (hpos : pos ≠ .skipQueue) : Steps c.deviceCount (q == .simQueue) (c.enqueueResistor q key pos d) fun _ => True :=
  fun s hs => by
  refine .read_bind (.when hs (fun h => ?_) trivial)
  have hp : s.devices.pending q d = false := by
    rw [and_eq_true, not_eq_true', or_eq_false_iff] at h
    exact h.2.2
  exact stepsAt_addEvent_bind hs hd hp hpos hkey (.pure trivial)

theorem steps_enqueueAttachedResistors (net : Nat) {v : Int} (hv : IsVoltage v) {pos : QueuePosition} (hpos : pos ≠ .skipQueue) :
    Steps c.deviceCount (q == .simQueue) (c.enqueueAttachedResistors q net v pos) fun _ => True := by
  have hkey : q ≠ .simQueue → IsKey keyBound v := fun _ => hv.isKey.mono (by unfold keyBound; omega)
  exact .seq (.forM fun d hd => steps_enqueueResistor (source_lt hd) hkey hpos) fun _ =>
    .forM fun d hd => steps_enqueueResistor (drain_lt hd) hkey hpos

/-! ## Conflicts -/

theorem steps_alreadyShorted : Steps c.deviceCount sim (c.alreadyShorted q d t) fun _ => True :=
  .seq (.read fun _ => trivial) fun _ => .seq (steps_onNets_of_forall _) fun _ =>
    .when (fun _ => steps_setInactive) trivial

theorem IsVoltage.isKey16 {v : Int} (hv : IsVoltage v) : IsKey (2 ^ 16) v := hv.isKey.mono (by omega)

theorem steps_activatePower {v : Int} (hv : IsVoltage v) (power : Option Nat) (net : Nat) (other : Int) :
    Steps c.deviceCount (q == .simQueue) (c.activatePower q power net v other) fun _ => True := by
  cases power with
  | none => exact .pure trivial
  | some p =>
    exact .when (fun _ => .seq (steps_onNets_of_forall _) fun _ =>
      steps_enqueueAttachedDevices net fun _ => IsVoltage.isKey16 hv) trivial

theorem steps_activateVoltages (ht : t.IsMapped) : Steps c.deviceCount (q == .simQueue) (c.activateVoltages q t) fun _ => True :=
  .seq (.read fun _ => trivial) fun _ =>
    .ite (fun _ => steps_activatePower ht.drain _ _ _) fun _ => .when (fun _ => steps_activatePower ht.source _ _ _) trivial

theorem steps_crossPropagate (opposite : EventQueueType) (stop : CalculationType) (net : Nat) (v : Int) (power : Option Nat) :
    Steps c.deviceCount (opposite == .simQueue) (c.crossPropagate q opposite stop d net v power) fun _ => True :=
  .ite (fun _ => .pure trivial) fun _ => .seq (steps_onNets_of_forall _) fun _ => .seq (steps_onNets_of_forall _)
    fun _ => .when (fun _ => steps_enqueueAttachedDevices net fun _ => IsVoltage.isKey16 (isVoltage_int16 _)) trivial

theorem steps_crossPropagateDiode (opposite : EventQueueType) (stop : CalculationType) :
    Steps c.deviceCount (opposite == .simQueue) (c.crossPropagateDiode q opposite stop d t) fun _ => True :=
  .ite (fun _ => .pure trivial) fun _ => .ite (fun _ => steps_crossPropagate _ _ _ _ _) fun _ =>
    .ite (fun _ => steps_crossPropagate _ _ _ _ _) fun _ => .pure trivial

/-- Both queues of a min/max propagation may get devices. -/
theorem steps_resolveConflict (ht : t.IsMapped) : Steps c.deviceCount (q == .simQueue) (c.resolveConflict q d t) fun _ =>
    True := by
  cases q with
  | simQueue => exact .pure trivial
  | minQueue =>
    exact .seq (@steps_activateVoltages c .minQueue t ht) fun _ => .seq (steps_onNets_of_forall _) fun _ =>
      steps_crossPropagateDiode .maxQueue _
  | maxQueue =>
    exact .seq (@steps_activateVoltages c .maxQueue t ht) fun _ => .seq (steps_onNets_of_forall _) fun _ =>
      steps_crossPropagateDiode .minQueue _

section
variable (hs : s.Tracked c.deviceCount) (hp : s.devices.pending q d = false) (hc : s.devices.conflict = none) (ht : t.IsMapped)
include hs hp hc ht

/-- `VoltageConflict` of a device that is in no queue; if there is no conflict, nothing is changed. -/
theorem wp_voltageConflict :
    GoesTo c.deviceCount (q == .simQueue) (c.voltageConflict q d t) (fun conflict s' => conflict = false → s' = s) s := by
  refine wp_bind.2 (wp_read.2 (wp_ite (fun _ => ?_) fun _ => ⟨hs, refl s, fun _ => rfl⟩))
  obtain ⟨⟨e, he⟩, hcalls⟩ := hs
  let begun : PropagationState := { s with devices := { s.devices with conflict := some (q, d) }.withPending q d true }
  have hbegun : begun.Tracked c.deviceCount := ⟨⟨e, he.beginConflict hp hc⟩, hcalls⟩
  show wp (c.resolveConflict q d t >>= _) _ _ begun
  refine wp_bind.2 (wp.mono (steps_resolveConflict ht begun hbegun) (fun _ s1 h1 => ?_) fun _ _ h1 => h1)
  obtain ⟨⟨⟨e1, he1⟩, hcalls1⟩, hR, -⟩ := h1
  have hc1 : s1.devices.conflict = some (q, d) := hR.conflict_eq
  let ended : PropagationState := { s1 with devices := { s1.devices.withPending q d false with conflict := none } }
  have hended : ended.Tracked c.deviceCount := ⟨⟨e1, he1.endConflict hc1⟩, hcalls1⟩
  have hcont : PropagationState.Continues (q == .simQueue) s ended := by
    refine ⟨hc.symm, hR.started, fun q' d' h => ?_, fun q' hq' => ?_⟩
    · show (s1.devices.withPending q d false).inactive q' d' = true
      rw [inactive_withPending]
      refine hR.inactive q' d' ?_
      rw [inactive_withPending]
      exact h
    · have hne : ∀ d', ¬ (q' = q ∧ d' = d) := fun d' he => hq' (by rw [he.1])
      refine ⟨(hR.other q' hq').1, fun d' => ?_⟩
      calc (s1.devices.withPending q d false).pending q' d' = s1.devices.pending q' d' := pending_withPending_of_ne _ _ (hne d')
        _ = begun.devices.pending q' d' := (hR.other q' hq').2 d'
        _ = s.devices.pending q' d' := pending_withPending_of_ne _ _ (hne d')
  show wp (c.alreadyShorted q d t >>= _) _ _ ended
  have hshorted : StepsAt c.deviceCount (q == .simQueue) (c.alreadyShorted q d t) (fun _ => True) ended :=
    steps_alreadyShorted ended hended
  refine wp_bind.2 (wp.mono hshorted (fun _ s2 h2 => ?_) fun _ _ h2 => h2)
  exact ⟨h2.1, .trans hcont h2.2.1, nofun⟩

/-- `IsIrrelevant` of a device that was taken from its queue; if it is relevant, the devices are as they were. -/
theorem wp_isIrrelevant (v : Int) : GoesTo c.deviceCount (q == .simQueue) (c.isIrrelevant q d t v)
      (fun irrelevant s' => irrelevant = false → s'.devices = s.devices ∧ s'.calls = s.calls) s := by
  refine wp_bind.2 (wp_bind.2
    (wp_read.2 (wp_zoom_of_forall (fun irrelevant nets => ?_) fun e nets => ⟨hs, e.isRegular_toFailure⟩)))
  refine wp_ite (fun _ => ⟨hs, .refl _ s.devices, nofun⟩) fun _ => ?_
  refine (wp_voltageConflict (s := { s with nets := nets }) hs hp hc ht).imp fun conflict s' h => ?_
  exact ⟨h.1, h.2.1, fun hf => by rw [h.2.2 hf]; exact ⟨rfl, rfl⟩⟩

end

/-! ## Resistors -/

theorem steps_propagateResistor (ht : t.IsMapped) (dir : ShortDirection) :
    Steps c.deviceCount (q == .simQueue) (c.propagateResistor q d t dir) fun _ => True := by
  refine .seq (.seq (steps_onNets_of_forall _) fun _ => steps_setInactive) fun _ =>
    .seq (steps_onNets_of_forall _) fun power => ?_
  refine steps_enqueueAttachedResistors _ (ht.master dir) ?_
  split <;> exact nofun

theorem steps_propagateResistorDevice : Steps c.deviceCount (q == .simQueue) (c.propagateResistorDevice q d) fun _ => True := by
  refine .bind (steps_onNets (c.returns_mapDeviceNets q d)) fun t ht => .seq (.read fun _ => trivial) fun nets => ?_
  refine .ite (fun _ => ?_) fun _ => .ite (fun _ => steps_propagateResistor ht _) fun _ => ?_
  · exact .seq (steps_onNets_of_forall _) fun _ => steps_propagateResistor ht _
  · exact .seq steps_alreadyShorted fun _ => .seq (steps_onNets_of_forall _) fun _ => steps_onNets_of_forall _

theorem steps_propagateResistorVoltages :
    Steps c.deviceCount (q == .simQueue) (c.propagateResistorVoltages q) fun _ => True := fun _ hs =>
  stepsAt_getEvent_bind hs fun _ _ _ hs' _ _ =>
    .read_bind (.when hs' (fun _ => steps_propagateResistorDevice _ hs') trivial)

/-! ## Min and max voltages -/

/-- What becomes of a device that was taken from the min or the max queue, where it had the stored key `k`: it is inactive,
nothing has changed, or it is back in the queue under a later key. -/
inductive Outcome (n : Nat) (queue : EventQueueType) (d : Nat) (k : Int) (e : Keys) (s s' : DeviceState) : Prop
  | inactive (h : s'.inactive queue d = true)
  | dropped (h : s' = s)
  | requeued (k' : Int) (later : k < k') (tracks : s'.Tracks n (e.set queue d (some k')))
      (inactive : ∀ queue d, s'.inactive queue d = s.inactive queue d)

/-- `ShortNets` and `ShortSimNets` make the device inactive, and nothing after them changes that. -/
theorem wp_inactivate_bind {n : Nat} {m : NetM Unit} {f : Unit → DbM Unit} (hf : Steps n sim (f ⟨⟩) fun _ => True)
    (hs : s.Tracked n) :
    GoesTo n sim ((onNets m >>= fun _ => setInactive q d) >>= f) (fun _ s' => s'.devices.inactive q d = true) s := by
  refine wp_bind.2 (wp_onNets_bind hs .trivial fun _ nets _ => ?_)
  let s1 : PropagationState := { s with nets := nets, devices := s.devices.withInactive q d }
  have hs1 : s1.Tracked n := ⟨hs.1.imp fun _ he => he.withInactive q d, hs.2⟩
  show wp (f ⟨⟩) _ _ s1
  refine wp.imp (hf s1 hs1) fun _ s' h => ?_
  exact ⟨h.1, .trans (.withInactive s.devices q d sim) h.2.1, h.2.1.inactive _ _ (inactive_withInactive_self ..)⟩

theorem wp_propagateShort (hs : s.Tracked c.deviceCount) (hkey : IsKey (2 ^ 16) key) (dir : ShortDirection) :
    GoesTo c.deviceCount (q == .simQueue) (c.propagateShort q d t dir key) (fun _ s' => s'.devices.inactive q d = true) s := by
  have henqueue : Steps c.deviceCount (q == .simQueue) (c.enqueueAttachedDevices q (t.slaveId dir) key) fun _ => True :=
    steps_enqueueAttachedDevices _ fun _ => hkey
  refine wp_inactivate_bind (.seq (steps_onNets_of_forall _) fun _ => .seq henqueue fun _ => ?_) hs
  exact .when (fun _ => .seq (.seq (steps_onNets_of_forall _) fun _ => steps_setInactive) fun _ => henqueue) trivial

theorem orderKey_lt_of_later (hq : q ≠ .simQueue) {k k' : Int} (h : q.later k' k = true) :
    Deques.orderKey q k < Deques.orderKey q k' := by
  cases q with
  | simQueue => exact absurd rfl hq
  | minQueue => exact of_decide_eq_true h
  | maxQueue => exact Int.neg_lt_neg (of_decide_eq_true h)

section
variable {e : Keys} (he : s.devices.Tracks c.deviceCount e) (hs : s.Tracked c.deviceCount) (hd : d < c.deviceCount)
    (hp : s.devices.pending q d = false)
include he hs hd hp

theorem wp_propagateOrRequeue (hq : q ≠ .simQueue) (ht : t.IsMapped) (dir : ShortDirection) (pos : QueuePosition)
    (queueKey : Int) : GoesTo c.deviceCount (q == .simQueue) (c.propagateOrRequeue q d t dir pos queueKey)
      (fun _ s' => Outcome c.deviceCount q d (Deques.orderKey q queueKey) e s.devices s'.devices) s := by
  refine wp_onNets_bind hs .trivial fun _ nets _ => ?_
  have hadjust := returns_adjustKey (c := c) hq d ht le_rfl (ht.master dir).isKey pos dir
  refine wp_onNets_bind hs hadjust fun r nets' hr => ?_
  obtain ⟨k, pos'⟩ := r
  have hk : IsKey (2 ^ 16) k := .mono hr (by omega)
  refine wp_ite (fun _ => ⟨hs, .refl _ s.devices, .dropped rfl⟩) fun hskip => wp_ite (fun hlater => ?_) fun _ => ?_
  · refine wp_bind.2 (wp_addEvent (s :=
      { s with nets := nets' }) he hd hp hskip (fun _ => hk.mono (by unfold keyBound; omega)) fun ev hq' => ?_)
    refine ⟨hs.call hq' rfl, .queued s.devices q d true ev, .requeued _ (orderKey_lt_of_later hq hlater) hq' fun q' d' => ?_⟩
    exact inactive_withPending ..
  · refine (wp_propagateShort (s := { s with nets := nets' }) hs hk dir).imp fun _ s' h => ?_
    exact ⟨h.1, h.2.1, .inactive h.2.2⟩

theorem wp_propagateMinMaxDevice (hc : s.devices.conflict = none) (hq : q ≠ .simQueue)
    (queueKey : Int) : GoesTo c.deviceCount (q == .simQueue) (c.propagateMinMaxDevice q d queueKey)
      (fun _ s' => Outcome c.deviceCount q d (Deques.orderKey q queueKey) e s.devices s'.devices) s := by
  refine wp_onNets_bind hs (c.returns_mapDeviceNets q d) fun t nets ht => ?_
  cases minMaxDirection q t with
  | none => exact ⟨hs, .refl _ s.devices, .dropped rfl⟩
  | some dir =>
    refine wp_onNets_bind hs .trivial fun power nets' _ => ?_
    refine (wp_isIrrelevant (s := { s with nets := nets' }) hs hp hc ht (t.masterVoltage dir)).bind fun irrelevant s1 h1 => ?_
    obtain ⟨hs1, hR, hsame⟩ := h1
    refine wp_ite (fun _ => ?_) fun hirrelevant => ?_
    · refine ⟨⟨hs1.1.imp fun _ he => he.withInactive q d, hs1.2⟩, ?_, .inactive (inactive_withInactive_self ..)⟩
      exact .trans hR (.withInactive s1.devices q d _)
    · obtain ⟨hdev, hcalls⟩ := hsame (by simpa using hirrelevant)
      refine (wp_propagateOrRequeue (hdev ▸ he) hs1 hd (hdev ▸ hp) hq ht dir _ queueKey).imp fun _ s' h => ?_
      rw [hdev] at h
      exact ⟨h.1, .trans hR h.2.1, h.2.2⟩

end

theorem stepsAt_propagateMinMaxVoltages (hs : s.Tracked c.deviceCount) (hc : s.devices.conflict = none) (hq : q ≠ .simQueue) :
    StepsAt c.deviceCount (q == .simQueue) (c.propagateMinMaxVoltages q) (fun _ => True) s := by
  refine .read_bind (stepsAt_getEvent_bind hs fun d s1 hd hs1 hp hc1 => .read_bind (.when hs1 (fun _ => ?_) trivial))
  obtain ⟨e, he⟩ := hs1.1
  refine wp.imp (wp_propagateMinMaxDevice he hs1 hd hp (hc1.trans hc) hq _) fun _ s' h => ?_
  exact ⟨h.1, h.2.1, trivial⟩

/-! ## Sim voltages -/

section
variable (hs : s.Tracked c.deviceCount)
include hs

/-- A device that passes on a sim voltage becomes inactive; if there is no voltage to pass on, the devices stay as they are. -/
theorem wp_propagateSimShort (dir : ShortDirection) (type : Propagation) :
    GoesTo c.deviceCount true (c.propagateSimShort d t dir type)
      (fun _ s' => s'.devices.inactive .simQueue d = true ∨ s'.devices = s.devices) s := by
  refine wp_onNets_bind hs .trivial fun r nets _ => ?_
  refine wp_ite (fun _ => ⟨hs, .refl _ s.devices, .inr rfl⟩) fun _ => ?_
  have henqueue := @steps_enqueueAttachedDevices c .simQueue r.1 (t.slaveId dir) fun h => absurd rfl h
  refine (wp_inactivate_bind (s := { s with nets := nets }) henqueue hs).imp fun _ s' h => ?_
  exact ⟨h.1, h.2.1, .inl h.2.2⟩

theorem wp_propagateSimConnection (hp : s.devices.pending .simQueue d = false)
    (hc : s.devices.conflict = none) (ht : t.IsMapped) (dir : ShortDirection) (type : Propagation) :
    GoesTo c.deviceCount true (c.propagateSimConnection d t dir type)
      (fun _ s' => s'.devices.inactive .simQueue d = true ∨ s'.devices = s.devices) s := by
  have hinactive : ∀ s1 : PropagationState, s1.Tracked c.deviceCount → PropagationState.Continues true s s1 →
      wp (setInactive .simQueue d) (fun _ s' => s'.Tracked c.deviceCount ∧ PropagationState.Continues true s s' ∧
        (s'.devices.inactive .simQueue d = true ∨ s'.devices = s.devices)) (FailsRegularly c.deviceCount) s1 := fun s1 hs1 hR =>
    ⟨⟨hs1.1.imp fun _ he => he.withInactive .simQueue d, hs1.2⟩, .trans hR (.withInactive s1.devices .simQueue d true),
      .inl (inactive_withInactive_self ..)⟩
  refine wp_ite (fun _ => ⟨hs, .refl _ s.devices, .inr rfl⟩) fun _ =>
    wp_ite (fun _ => hinactive s hs (.refl _ s.devices)) fun _ => ?_
  refine (wp_isIrrelevant hs hp hc ht _).bind fun irrelevant s1 h1 => ?_
  obtain ⟨hs1, hR, hsame⟩ := h1
  refine wp_ite (fun _ => hinactive s1 hs1 hR) fun hirrelevant => ?_
  refine (wp_propagateSimShort hs1 dir type).imp fun _ s' h => ?_
  rw [(hsame (by simpa using hirrelevant)).1] at h
  exact ⟨h.1, .trans hR h.2.1, h.2.2⟩

/-- What becomes of a device that was taken from the sim queue: it is inactive, or nothing has changed. -/
theorem wp_propagateSimDevice (hp : s.devices.pending .simQueue d = false) (hc : s.devices.conflict = none) (type : Propagation) :
    GoesTo c.deviceCount true (c.propagateSimDevice d type)
      (fun _ s' => s'.devices.inactive .simQueue d = true ∨ s'.devices = s.devices) s := by
  refine wp_onNets_bind hs (c.returns_mapDeviceNets .simQueue d) fun t nets ht => ?_
  refine wp_bind.2 (wp_read.2 ?_)
  split
  · exact ⟨hs, .refl _ s.devices, .inr rfl⟩
  rename_i dir _
  refine wp_onNets_bind hs .trivial fun isSource nets1 _ => ?_
  refine wp_ite (fun _ => ?_) fun _ => ⟨hs, .refl _ s.devices, .inr rfl⟩
  refine wp_onNets_bind hs .trivial fun gateVoltage nets2 _ => ?_
  cases gateVoltage with
  | none => exact ⟨hs, .refl _ s.devices, .inr rfl⟩
  | some v =>
    exact wp_propagateSimConnection (s := { s with nets := nets2 })
      (t := { t with gateVoltage := v }) hs hp hc ⟨ht.source, ht.drain⟩
      dir type

theorem stepsAt_propagateSimVoltages (hc : s.devices.conflict = none) (type : Propagation) :
    StepsAt c.deviceCount true (c.propagateSimVoltages type) (fun _ => True) s :=
  @stepsAt_getEvent_bind _ _ _ _ .simQueue _ hs fun _ _ _ hs1 hp hc1 =>
    .read_bind (.when hs1
      (fun _ => (wp_propagateSimDevice hs1 hp (hc1.trans hc) type).imp fun _ _ h => ⟨h.1, h.2.1, trivial⟩) trivial)

end

/-! ## The passes -/

theorem steps_enqueuePowerResistors (p : Nat) : Steps c.deviceCount false (c.enqueuePowerResistors p) fun _ =>
    True := fun s hs => by
  refine .read_bind (Keeps.seq ?_ (fun _ => ?_) s hs)
  · exact Keeps.when (fun _ => @steps_enqueueAttachedResistors c .minQueue _ _ (s.nets.isVoltage p .minQueue) _
      (defaultQueuePosition_ne_skipQueue _ _)) trivial
  · exact .when (fun _ => @steps_enqueueAttachedResistors c .maxQueue _ _ (s.nets.isVoltage p .maxQueue) _
      (defaultQueuePosition_ne_skipQueue _ _)) trivial

theorem steps_resistorRound : Steps c.deviceCount false c.resistorRound fun _ => True := by
  refine .seq (.read fun _ => trivial) fun s => ?_
  split
  · exact @steps_propagateResistorVoltages c .minQueue
  · exact @steps_propagateResistorVoltages c .maxQueue

theorem steps_setTrivialNet (net : Nat) : Steps c.deviceCount false (c.setTrivialNet net) fun _ => True := by
  refine .seq (.read fun _ => trivial) fun s => .ite (fun _ => ?_) fun _ => .pure trivial
  split
  · refine .ite (fun _ => .pure trivial) fun _ => .seq (steps_onNets_of_forall _) fun _ => .when (fun _ => ?_) trivial
    exact .seq steps_setInactive fun _ => .seq steps_setInactive fun _ => .seq steps_setInactive fun _ => steps_setInactive
  · exact .pure trivial

theorem steps_enqueueActiveNet (net final : Nat) :
    Steps c.deviceCount (q == .simQueue) (c.enqueueActiveNet q net final) fun _ => True := fun s hs => by
  refine KeepsAt.read_bind ?_
  cases s.nets.netVoltagePtr final with
  | none => exact KeepsAt.pure hs trivial
  | some p =>
    refine KeepsAt.when hs (fun _ => Keeps.seq
      (steps_enqueueAttachedDevicesByTerminal (fun _ h => source_lt h) fun _ => IsVoltage.isKey16 ?_)
      (fun _ => steps_enqueueAttachedDevicesByTerminal (fun _ h => drain_lt h) fun _ => IsVoltage.isKey16 ?_) s hs) trivial
    -- the voltage that the net is enqueued with
    all_goals
      split
      · exact s.nets.isVoltage p .simQueue
      · exact s.nets.isVoltage p q

theorem steps_enqueueNet (net : Nat) : Steps c.deviceCount false (c.enqueueNet net) fun _ => True := by
  refine .seq (.read fun _ => trivial) fun nets => .when (fun _ => ?_) trivial
  refine .seq (steps_onNets_of_forall _) fun minNet => .seq (steps_onNets_of_forall _) fun maxNet => ?_
  exact .seq (@steps_enqueueActiveNet c .minQueue _ _) fun _ => @steps_enqueueActiveNet c .maxQueue _ _

/-- Before the main loop of `SetInitialMinMaxPower` both queues are started. -/
theorem wp_enqueueMinMax (hs : s.Tracked c.deviceCount) : GoesTo c.deviceCount false c.enqueueMinMax
      (fun _ s' => ∀ q, q ≠ .simQueue → s'.devices.queueStart q = true) s := by
  have hnets : Steps c.deviceCount false ((List.range c.netCount).forM c.enqueueNet) fun _ => True :=
    .forM fun net _ => steps_enqueueNet net
  have htrivial : Steps c.deviceCount false c.setTrivialMinMaxPower fun _ => True := .forM fun net _ => steps_setTrivialNet net
  refine wp.bind (@steps_onNets_of_forall _ c.deviceCount false _ s hs) fun _ s1 h1 => ?_
  refine wp.bind (KeepsAt.wp_of (steps_onNets_of_forall _ s1 h1.1) h1.2.1) fun _ s2 h2 => ?_
  refine wp.bind (KeepsAt.wp_of (htrivial s2 h2.1) h2.2.1) fun _ s3 h3 => ?_
  refine wp.bind (KeepsAt.wp_of (hnets s3 h3.1) h3.2.1) fun _ s4 h4 => ?_
  have hstart := @steps_startQueues c.deviceCount false [.minQueue, .maxQueue] s4 h4.1
  refine ⟨hstart.1, .trans h4.2.1 hstart.2.1, fun q hq => ?_⟩
  cases q with
  | simQueue => exact absurd rfl hq
  | minQueue => rfl
  | maxQueue => rfl

theorem steps_enqueueSimNet (type : Propagation) (nets : List Nat) (net : Nat) :
    Steps c.deviceCount true (c.enqueueSimNet type nets net) fun _ => True := by
  refine .seq (.read fun _ => trivial) fun s => .when (fun _ => .seq (steps_onNets_of_forall _) fun simNet => ?_) trivial
  cases s.netVoltagePtr simNet.finalNetId with
  | none => exact .pure trivial
  | some p => exact .when (fun _ => @steps_enqueueAttachedDevices c .simQueue _ _ fun h => absurd rfl h) trivial

end FlatCircuit
end Cvc
