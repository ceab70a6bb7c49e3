import Cvc.Netlist
import Cvc.Lemmas.Propagation

/-!
# The pending bits and the queues

A device is in a queue exactly when its pending bit for the queue is set, at every call of `AddEvent` and `GetEvent` of a run of
resistor, min/max and sim propagations; only the device that `VoltageConflict` works on has its bit set and is in no queue. So no
device is added twice, and when a propagation has ended no bit is set and no device waits.
-/

namespace Cvc

open Program DeviceState PropagationState List Bool

variable {s : PropagationState} {n : Nat} {sim : Bool}

/-! ## Devices at rest -/

/-- No device waits: the queues of `n` devices are empty, and no pending bit is set. -/
structure DeviceState.Idle (n : Nat) (s : DeviceState) : Prop where
  type_eq : ∀ queue, (s.queue queue).queueType = queue
  size_eq : ∀ queue, (s.queue queue).queueSize = n
  main_eq : ∀ queue, (s.queue queue).mainQueue = []
  delay_eq : ∀ queue, (s.queue queue).delayQueue = []
  counts_eq : ∀ queue, (s.queue queue).enqueueCount = (s.queue queue).dequeueCount
  free : ∀ queue, ∀ d < n, (s.queue queue).queueArray d = unknownDevice
  pending_eq : ∀ queue d, s.pending queue d = false
  conflict_eq : s.conflict = none

/-- No device has a key. -/
def Keys.empty : Keys := fun _ _ => none

namespace DeviceState

variable {n : Nat} {s : DeviceState}

theorem Idle.contents_eq (h : s.Idle n) (q : EventQueueType) : (s.queue q).contents = [] := by
  unfold CEventQueue.contents
  rw [h.main_eq, h.delay_eq]
  rfl

theorem Idle.shows (h : s.Idle n) (hn : n ≤ unknownDevice) (q : EventQueueType) : (s.queue q).Shows fun _ => none := by
  have hpart : ∀ part, (s.queue q).part part = [] := by
    rintro ⟨⟩
    · exact h.main_eq q
    · exact h.delay_eq q
  have hsize := h.size_eq q
  refine ⟨.empty, ⟨hsize ▸ hn, fun part => ?_, fun part k l hl => ?_, fun _ _ _ => rfl, fun _ _ => nodup_nil,
    fun d part k _ _ hd _ => absurd hd not_mem_nil, fun d part k hd => absurd hd not_mem_nil, fun d hd => ?_, ?_⟩,
    fun _ _ => ⟨nofun, fun ⟨_, hd⟩ => absurd hd not_mem_nil⟩⟩
  · rw [hpart]
    exact .nil
  · rw [hpart] at hl
    nomatch hl
  · exact iff_of_true (h.free q d (hsize ▸ hd)) fun ⟨_, _, hm⟩ => absurd hm not_mem_nil
  · have hnone : (s.queue q).queued = ∅ := by
      refine Finset.eq_empty_iff_forall_notMem.2 fun d hd => ?_
      obtain ⟨hlt, hd⟩ := Finset.mem_filter.1 hd
      exact hd (h.free q d (hsize ▸ Finset.mem_range.1 hlt))
    rw [hnone, h.counts_eq]
    rfl

theorem Idle.tracks (h : s.Idle n) (hn : n ≤ unknownDevice) : s.Tracks n Keys.empty :=
  ⟨h.shows hn, h.type_eq, h.size_eq, fun q d => iff_of_false false_ne_true fun hd => by simp [h.pending_eq] at hd,
    fun q d hc => (nomatch h.conflict_eq.symm.trans hc), nofun⟩

/-- Tracked devices without a key are at rest. -/
theorem Tracks.idle {e : Keys} (h : s.Tracks n e) (he : ∀ q d, e q d = none) (hc : s.conflict = none) : s.Idle n := by
  have hempty : ∀ q, (s.queue q).Shows fun _ => none := fun q => funext (he q) ▸ h.shows q
  refine ⟨h.type_eq, h.size_eq, fun q => (hempty q).part_eq_nil .main, fun q => (hempty q).part_eq_nil .delay, fun q => ?_,
    fun q d hd => ?_, fun q d => ?_, hc⟩
  · obtain ⟨a, ha, hkeys⟩ := hempty q
    have hzero := (hempty q).size_eq_zero_iff.2 fun _ => rfl
    have hcounts := ha.counts
    have hcard := (hempty q).size_eq
    omega
  · obtain ⟨a, ha, hkeys⟩ := hempty q
    refine (ha.free_iff d ((h.size_eq q).symm ▸ hd)).2 ?_
    rintro ⟨part, k, hm⟩
    exact nomatch (hkeys d k).2 ⟨part, hm⟩
  · refine eq_false_iff.2 fun hp => ?_
    have := (h.waits q d).2 ⟨hp, by rw [hc]; nofun⟩
    rw [he] at this
    nomatch this

/-- Devices at rest stay so when bits are cleared and queues are reset. -/
theorem Idle.between {s' : DeviceState} (h : s.Idle n) (hp : ∀ q d, s'.pending q d = true → s.pending q d = true)
    (hq : ∀ q, s'.queue q = s.queue q ∨ s'.queue q = (s.queue q).resetQueue n) (hc : s'.conflict = s.conflict) : s'.Idle n := by
  have at_queue : ∀ {P : EventQueueType → CEventQueue → Prop}, (∀ q, P q (s.queue q)) →
      (∀ q, P q ((s.queue q).resetQueue n)) → ∀ q, P q (s'.queue q) := by
    intro P hsame hreset q
    rcases hq q with he | he
    · exact he ▸ hsame q
    · exact he ▸ hreset q
  refine ⟨at_queue (P := fun q ev => ev.queueType = q) h.type_eq h.type_eq,
    at_queue (P := fun _ ev => ev.queueSize = n) h.size_eq fun _ =>
      rfl, at_queue (P := fun _ ev => ev.mainQueue = []) h.main_eq h.main_eq,
    at_queue (P := fun _ ev => ev.delayQueue = []) h.delay_eq h.delay_eq,
    at_queue (P := fun _ ev => ev.enqueueCount = ev.dequeueCount) h.counts_eq fun _ => rfl,
    at_queue (P := fun _ ev => ∀ d < n, ev.queueArray d = unknownDevice) h.free fun _ _ _ => rfl,
    fun q d => eq_false_iff.2 fun hd => ?_, hc.trans h.conflict_eq⟩
  have := hp q d hd
  rw [h.pending_eq] at this
  nomatch this

end DeviceState

/-! ## Propagations -/

/-- A failure of an allowed kind that leaves the record of calls in order. -/
def FailsWithin (A : Failure → Prop) (e : Failure) (s : PropagationState) : Prop := (∀ call ∈ s.calls, call.Agrees) ∧ A e

/-- A failure that is not an error of a queue. -/
def Failure.IsNoQueueError (e : Failure) : Prop := ∀ message, e ≠ .eQueueError message

/-- No device is in a conflict, and no device waits in the queues that a propagation leaves alone. -/
def PropagationState.Apart (sim : Bool) (s : PropagationState) : Prop :=
  s.devices.conflict = none ∧ ∀ queue : EventQueueType, (queue == .simQueue) ≠ sim → ∀ d, s.devices.pending queue d = false

/-- In the course of a propagation. -/
def PropagationState.Running (n : Nat) (sim : Bool) (s : PropagationState) : Prop := s.Tracked n ∧ s.Apart sim

theorem PropagationState.Apart.continues {s' : PropagationState} (h : PropagationState.Continues sim s s')
    (hs : s.Apart sim) : s'.Apart sim :=
  ⟨h.conflict_eq.trans hs.1, fun q hq d => ((h.other q hq).2 d).trans (hs.2 q hq d)⟩

theorem PropagationState.Running.of_idle (h : s.devices.Idle n) (hn : n ≤ unknownDevice)
    (hcalls : ∀ call ∈ s.calls, call.Agrees) (sim : Bool) : s.Running n sim :=
  ⟨⟨⟨_, h.tracks hn⟩, hcalls⟩, h.conflict_eq, fun q _ d => h.pending_eq q d⟩

/-- When its queues are empty, a propagation has come to rest. -/
theorem PropagationState.Running.idle (h : s.Running n sim)
    (hsize : ∀ q : EventQueueType, (q == .simQueue) = sim → (s.devices.queue q).size = 0) : s.devices.Idle n := by
  obtain ⟨⟨⟨e, he⟩, _⟩, hc, hother⟩ := h
  refine he.idle (fun q d => ?_) hc
  by_cases hq : (q == .simQueue) = sim
  · exact (he.shows q).size_eq_zero_iff.1 (hsize q hq) d
  · exact he.key_eq_none fun hd => Bool.noConfusion ((hother q hq d).symm.trans hd.1)

section Failures
variable {A : Failure → Prop} {n : Nat} {sim : Bool} {m : DbM Unit}

/-- From every state in the course of a propagation the function goes to such a state. -/
abbrev Runs (A : Failure → Prop) (n : Nat) (sim : Bool) (m : DbM Unit) : Prop :=
  Keeps (Running n sim) (PropagationState.Continues sim) (FailsWithin A) m fun _ => True

theorem PropagationState.FailsRegularly.within (hA : ∀ e : Failure, e.IsRegular → A e) {e : Failure} {s : PropagationState}
    (h : FailsRegularly n e s) : FailsWithin A e s := ⟨h.1.2, hA e h.2⟩

variable (hA : ∀ e : Failure, e.IsRegular → A e)

include hA in
theorem runs_of_stepsAt
    (h : ∀ s : PropagationState, s.Tracked n → s.devices.conflict = none → StepsAt n sim m (fun _ => True) s) : Runs A n sim m :=
  .and_stable (fun _ _ hR hs => .continues hR hs) fun s hs hapart =>
    (h s hs hapart.1).mono (fun _ h => h) fun _ _ h => h.within hA

include hA in
theorem runs_of_steps (h : Steps n sim m fun _ => True) : Runs A n sim m :=
  runs_of_stepsAt hA fun s hs _ => h s hs

namespace FlatCircuit

variable {c : FlatCircuit} {s : PropagationState} {n : Nat} {J : DeviceState → Prop} {rounds : Nat}

/-! ### The main loop of `SetInitialMinMaxPower` -/

include hA in
theorem wp_chooseQueue (l : MinMaxLoop) (hcalls : ∀ call ∈ s.calls, call.Agrees) :
    wp (chooseQueue l) (fun _ s' => s' = s) (FailsWithin A) s := by
  refine wp_bind.2 (wp_read.2 (wp_ite (fun _ => ?_) fun _ => rfl))
  split
  · exact rfl
  · exact ⟨hcalls, hA _ ⟨nofun, nofun⟩⟩

include hA in
/-- A round of the main loop: what the processing of one device leads to, with empty queues if the count of loops is zero. -/
theorem wp_minMaxRound {Q : PropagationState → Prop} (l : MinMaxLoop) (hcalls : ∀ call ∈ s.calls, call.Agrees)
    (hround : ∀ q : EventQueueType, q ≠ .simQueue → wp (c.propagateMinMaxVoltages q) (fun _ s' => Q s') (FailsWithin A) s) :
    wp (minMaxRound c.propagateMinMaxVoltages l) (fun l' s' => Q s' ∧ (l'.myLoopCount = 0 → s'.devices.minMaxSize = 0))
      (FailsWithin A) s := by
  refine (wp_chooseQueue hA l hcalls).bind fun l1 s1 hs1 => ?_
  subst hs1
  refine wp_bind.2 (wp_ensure (fun _ => ?_) fun _ => ⟨hcalls, hA _ ⟨nofun, nofun⟩⟩)
  refine (hround _ ?_).bind fun _ s2 hs2 => ⟨hs2, fun hzero => ?_⟩
  · unfold MinMaxLoop.processed
    split <;> exact nofun
  · dsimp only at hzero
    split at hzero <;> omega

include hA in
theorem wp_minMaxLoop (hendless : A .endless) (rounds : Nat) (l : MinMaxLoop) (hs : s.Running c.deviceCount false)
    (hl : l.myLoopCount = 0 → s.devices.minMaxSize = 0) :
    wp (minMaxLoop c.propagateMinMaxVoltages rounds l) (fun _ s' => s'.Running c.deviceCount false ∧ s'.devices.minMaxSize = 0)
      (FailsWithin A) s := by
  induction rounds generalizing l s with
  | zero =>
    exact wp_ite (fun hzero => ⟨hs, hl hzero⟩) fun _ => ⟨hs.1.2, hendless⟩
  | succ rounds ih =>
    have hround : ∀ q : EventQueueType, q ≠ .simQueue →
        wp (c.propagateMinMaxVoltages q) (fun _ s' => s'.Running c.deviceCount false) (FailsWithin A) s := by
      intro q hq
      have hruns : Runs A c.deviceCount (q == .simQueue) (c.propagateMinMaxVoltages q) :=
        runs_of_stepsAt hA fun s' hs' hc' => stepsAt_propagateMinMaxVoltages hs' hc' hq
      rw [beq_eq_false_iff_ne.2 hq] at hruns
      exact wp.imp (hruns s hs) fun _ _ h => h.1
    refine wp_ite (fun hzero => ⟨hs, hl hzero⟩) fun _ => wp_bind.2 ?_
    exact (wp_minMaxRound hA l hs.1.2 hround).imp fun l' s' h => ih l' h.1 h.2

/-! ### Propagations to their end -/

/-- What a propagation is shown to do: it leaves devices with a property and the record of calls in order, or fails in an allowed
way. -/
def Leaves (A : Failure → Prop) (J : DeviceState → Prop) (m : DbM Unit) (s : PropagationState) : Prop :=
  wp m (fun _ s' => J s'.devices ∧ ∀ call ∈ s'.calls, call.Agrees) (FailsWithin A) s

theorem Leaves.bind {J' : DeviceState → Prop} {m : DbM Unit} {f : Unit → DbM Unit} (h : Leaves A J m s)
    (hf : ∀ s' : PropagationState, J s'.devices → (∀ call ∈ s'.calls, call.Agrees) → Leaves A J' (f ⟨⟩) s') :
      Leaves A J' (m >>= f) s :=
  wp.bind h fun _ s' h' => hf s' h'.1 h'.2

/-- The two sizes are counted by one number of 32 bits, which is zero only for empty queues if there are not too many devices. -/
theorem idle_of_minMaxSize (hn : n < 2 ^ 31) (hs : s.Running n false) (hzero : s.devices.minMaxSize = 0) : s.devices.Idle n := by
  obtain ⟨e, he⟩ := hs.1.1
  have hmin := (he.shows .minQueue).size_le.trans_eq (he.size_eq .minQueue)
  have hmax := (he.shows .maxQueue).size_le.trans_eq (he.size_eq .maxQueue)
  unfold minMaxSize uint32 at hzero
  refine hs.idle fun q hq => ?_
  cases q with
  | simQueue => nomatch hq
  | minQueue => omega
  | maxQueue => omega

theorem idle_of_simSize (hs : s.Running n true) (hzero : ((s.devices.queue .simQueue).size != 0) = false) : s.devices.Idle n :=
  hs.idle fun q hq => by
    obtain rfl : q = .simQueue := by simpa using hq
    simpa using hzero

include hA in
/-- A function on nets before or after a propagation. -/
theorem leaves_onNets (h : J s.devices) (hcalls : ∀ call ∈ s.calls, call.Agrees) {m : NetM Unit} : Leaves A J (onNets m) s :=
  wp_zoom_of_forall (fun _ _ => ⟨h, hcalls⟩) fun e _ => ⟨hcalls, hA _ e.isRegular_toFailure⟩

variable (h : s.devices.Idle n) (hcalls : ∀ call ∈ s.calls, call.Agrees)
include hA h hcalls

/-- `ResetQueue` of a queue in which no device waits. -/
theorem leaves_resetEventQueue (q : EventQueueType) : Leaves A (Idle n) (resetEventQueue n q) s := by
  refine .bind (J := Idle n) ⟨h.between (fun _ _ hp => hp) (fun q' => ?_) rfl, hcalls⟩ fun _ h' hc' => leaves_onNets hA h' hc'
  rcases eq_or_ne q' q with rfl | hne
  · exact .inr (Function.update_self ..)
  · exact .inl (Function.update_of_ne hne _ _)

omit hA in
/-- The inactive bits are set again; the pending bits stay clear. -/
theorem leaves_resetInactive (k : Nat) :
    Leaves A (Idle n) (modifyDevices fun s => { s with
      deviceStatus := fun d => if d < k then (s.deviceStatus d).resetInactive else s.deviceStatus d }) s := by
  refine ⟨h.between (fun q d hp => ?_) (fun _ => .inl rfl) rfl, hcalls⟩
  have hsame : ((if d < k then (s.devices.deviceStatus d).resetInactive else s.devices.deviceStatus d).pending q) =
      s.devices.pending q d := by
    split
    · cases q <;> rfl
    · rfl
  exact hsame.symm.trans hp

theorem leaves_resetMinMax (count : c.deviceCount = n) : Leaves A (Idle n) c.resetMinMax s := by
  subst count
  exact (leaves_resetEventQueue hA h hcalls _).bind fun _ h1 hc1 => (leaves_resetEventQueue hA h1 hc1 _).bind fun _ h2 hc2 =>
    (leaves_onNets hA h2 hc2).bind fun _ h3 hc3 => (leaves_onNets hA h3 hc3).bind fun _ h4 hc4 =>
      (leaves_resetInactive h4 hc4 _).bind fun _ h5 hc5 => leaves_onNets hA h5 hc5

/-- `ResetMinMaxPower`, by what its main loop does from a state in which both queues are started. -/
theorem leaves_resetMinMaxPower (count : c.deviceCount = n)
    (hloop : ∀ s1 : PropagationState, s1.Running n false → (∀ q, q ≠ .simQueue → s1.devices.queueStart q = true) →
      Leaves A J (minMaxLoop c.propagateMinMaxVoltages rounds { myLoopCount := s1.devices.minMaxSize }) s1) :
    Leaves A J (c.resetMinMaxPower rounds) s := by
  refine (leaves_resetMinMax hA h hcalls count).bind fun s1 h1 hc1 => Leaves.bind ?_ fun _ h2 hc2 =>
    (leaves_onNets hA h2 hc2).bind fun _ h3 hc3 => leaves_onNets hA h3 hc3
  subst count
  have hrunning : s1.Running c.deviceCount false := .of_idle h1 c.deviceCount_le hc1 false
  refine wp_bind.2 ((wp_enqueueMinMax hrunning.1).mono (fun _ s2 h2 => ?_) fun _ _ h => h.within hA)
  refine Leaves.bind (wp_bind.2 (wp_read.2 (hloop s2 ⟨h2.1, .continues h2.2.1 hrunning.2⟩ h2.2.2))) fun s3 h3 hc3 => ?_
  exact (leaves_onNets hA h3 hc3).bind fun _ h4 hc4 => (leaves_onNets hA h4 hc4).bind fun _ h5 hc5 => leaves_onNets hA h5 hc5

/-- `SetSimPower`, with what its loop leaves. -/
theorem leaves_setSimPower_of_loop (count : c.deviceCount = n) {type : Propagation} {nets : List Nat}
    (hloop : ∀ s1 : PropagationState, s1.Running n true →
      Leaves A (Idle n) (repeatWhile .endless (fun s => (s.devices.queue .simQueue).size != 0)
        (c.propagateSimVoltages type) rounds) s1) :
    Leaves A (Idle n) (c.setSimPower rounds type nets) s := by
  subst count
  have henqueue : Runs A c.deviceCount true ((range c.netCount).forM (c.enqueueSimNet type nets)) :=
    runs_of_steps hA (.forM fun net _ => steps_enqueueSimNet type nets net)
  refine (leaves_resetEventQueue hA h hcalls _).bind fun s1 h1 hc1 => (leaves_onNets hA h1 hc1).bind fun s2 h2 hc2 => wp_bind.2 ?_
  refine wp.imp (henqueue s2 (.of_idle h2 c.deviceCount_le hc2 true)) fun _ s3 h3 => ?_
  refine wp.bind (runs_of_steps hA (steps_startQueues _) s3 h3.1) fun _ s4 h4 => ?_
  exact (hloop s4 h4.1).bind fun s5 h5 hc5 => (leaves_onNets hA h5 hc5).bind fun _ h6 hc6 => leaves_onNets hA h6 hc6

variable (hendless : A .endless)
include hendless

theorem leaves_setResistorVoltagesByPower (hn : n < 2 ^ 31) (count : c.deviceCount = n) (rounds : Nat) :
    Leaves A (Idle n) (c.setResistorVoltagesByPower rounds) s := by
  subst count
  have hround : Runs A c.deviceCount false c.resistorRound := runs_of_steps hA steps_resistorRound
  have henqueue : Runs A c.deviceCount false (s.nets.cvcPowerPtrList.forM c.enqueuePowerResistors) :=
    runs_of_steps hA (.forM fun p _ => steps_enqueuePowerResistors p)
  refine wp_bind.2 (wp_read.2 (wp_bind.2 ?_))
  refine wp.imp (henqueue s (.of_idle h c.deviceCount_le hcalls false)) fun _ s1 h1 => ?_
  refine wp.bind (runs_of_steps hA (steps_startQueues _) s1 h1.1) fun _ s2 h2 => ?_
  refine (hround.repeatWhile (fun s hs => ⟨hs.1.2, hendless⟩) rounds h2.1).imp fun _ s' h' => ⟨?_, h'.1.1.2⟩
  exact idle_of_minMaxSize hn h'.1 (by simpa using h'.2.2)

theorem leaves_setSimPower (count : c.deviceCount = n) (rounds : Nat) (type : Propagation) (nets : List Nat) :
    Leaves A (Idle n) (c.setSimPower rounds type nets) s := by
  subst count
  have hround : Runs A c.deviceCount true (c.propagateSimVoltages type) :=
    runs_of_stepsAt hA fun s hs hc => stepsAt_propagateSimVoltages hs hc type
  refine leaves_setSimPower_of_loop hA h hcalls rfl fun s1 hs1 => ?_
  refine (hround.repeatWhile (fun s hs => ⟨hs.1.2, hendless⟩) rounds hs1).imp fun _ s' h' =>
    ⟨idle_of_simSize h'.1 h'.2.2, h'.1.1.2⟩

end FlatCircuit
end Failures

/-! ## Runs of the program -/

/-- The propagations of the program, each with the resets before it. -/
inductive FlatCircuit.IsPropagation (c : FlatCircuit) : DbM Unit → Prop
  | resistor (rounds : Nat) : IsPropagation c (c.setResistorVoltagesByPower rounds)
  | minMax (rounds : Nat) : IsPropagation c (c.resetMinMaxPower rounds)
  | sim (rounds : Nat) (thePropagationType : Propagation) (theNewNetSet : List Nat) :
      IsPropagation c (c.setSimPower rounds thePropagationType theNewNetSet)

/-- A run of the program on circuits of `n` devices, up to some point between its propagations. It starts with the status and the
queues reset; between the propagations everything about the nets and the inactive bits may change, pending bits may be cleared and
queues reset. -/
inductive Run (n : Nat) : PropagationState → Prop
  | start {s : PropagationState} (idle : s.devices.Idle n) (calls : s.calls = []) : Run n s
  | between {s s' : PropagationState} (run : Run n s)
      (pending : ∀ queue d, s'.devices.pending queue d = true → s.devices.pending queue d = true)
      (queue : ∀ queue, s'.devices.queue queue = s.devices.queue queue ∨
        s'.devices.queue queue = (s.devices.queue queue).resetQueue n)
      (conflict : s'.devices.conflict = s.devices.conflict) (calls : s'.calls = s.calls) : Run n s'
  | propagation {s s' : PropagationState} {c : FlatCircuit} {m : DbM Unit} (run : Run n s) (count : c.deviceCount = n)
      (isPropagation : c.IsPropagation m) (returns : m s = .ok ⟨⟩ s') : Run n s'

/-- A propagation comes to rest. -/
theorem FlatCircuit.IsPropagation.leaves {c : FlatCircuit} (hn : n < 2 ^ 31) {m : DbM Unit} (hm : c.IsPropagation m)
    (count : c.deviceCount = n) (h : s.devices.Idle n) (hcalls : ∀ call ∈ s.calls, call.Agrees) :
    FlatCircuit.Leaves Failure.IsNoQueueError (Idle n) m s := by
  have hA : ∀ e : Failure, e.IsRegular → e.IsNoQueueError := fun _ he => he.2
  cases hm with
  | resistor rounds => exact leaves_setResistorVoltagesByPower hA h hcalls nofun hn count rounds
  | minMax rounds =>
    refine leaves_resetMinMaxPower hA h hcalls count fun s1 hs1 _ => ?_
    subst count
    exact (wp_minMaxLoop hA nofun rounds _ hs1 id).imp fun _ s' h' => ⟨idle_of_minMaxSize hn h'.1 h'.2, h'.1.1.2⟩
  | sim rounds type nets => exact leaves_setSimPower hA h hcalls nofun count rounds type nets

/-- Between the propagations of a run the devices are at rest. -/
theorem Run.idle (hn : n < 2 ^ 31) (h : Run n s) : s.devices.Idle n ∧ ∀ call ∈ s.calls, call.Agrees := by
  induction h with
  | start idle calls =>
    refine ⟨idle, fun call hcall => ?_⟩
    rw [calls] at hcall
    nomatch hcall
  | between _ pending q conflict calls ih => exact ⟨ih.1.between pending q conflict, calls ▸ ih.2⟩
  | propagation _ count isPropagation returns ih =>
    have h := isPropagation.leaves hn count ih.1 ih.2
    exact h.of_ok returns

/-- How a propagation ends when the bits agree with the queues at all its calls: with nothing pending and nothing in a queue, or
with a failure that is not an error of a queue. -/
def EndsInAgreement : EStateM.Result Failure PropagationState Unit → Prop
  | .ok _ s => (∀ call ∈ s.calls, call.Agrees) ∧ ∀ queue, (∀ d, s.devices.pending queue d = false) ∧
      (s.devices.queue queue).contents = []
  | .error e s => (∀ call ∈ s.calls, call.Agrees) ∧ ∀ message, e ≠ .eQueueError message

/-- The pending bits agree with the queues throughout every run.
* At every call of `AddEvent` and `GetEvent`, also in a propagation that fails later, a device is in a queue only if its pending
  bit for the queue is set, and if the bit is set it is there once, unless `VoltageConflict` is working on the device.
* No propagation fails with the error of a queue.
* When a propagation has ended no pending bit is set and no device is in a queue, so when a queue is reset after it there is
  nothing to lose. -/
theorem pendingBits_agree (n : Nat) (hn : n < 2 ^ 31) (s : PropagationState) (run : Run n s) (c : FlatCircuit)
    (count : c.deviceCount = n) (m : DbM Unit) (isPropagation : c.IsPropagation m) :
    (∀ queue, (∀ d, s.devices.pending queue d = false) ∧ (s.devices.queue queue).contents = []) ∧ EndsInAgreement (m s) := by
  obtain ⟨hidle, hcalls⟩ := run.idle hn
  refine ⟨fun queue => ⟨hidle.pending_eq queue, hidle.contents_eq queue⟩, ?_⟩
  have h := isPropagation.leaves hn count hidle hcalls
  unfold FlatCircuit.Leaves wp at h
  split at h
  case h_1 _ s' hm =>
    rw [hm]
    exact ⟨h.2, fun queue => ⟨h.1.pending_eq queue, h.1.contents_eq queue⟩⟩
  case h_2 e s' hm =>
    rw [hm]
    exact h

theorem DeviceState.idle_reset (n : Nat) : (reset n).Idle n :=
  ⟨fun _ => rfl, fun _ => rfl, fun _ => rfl, fun _ => rfl, fun _ => rfl, fun _ _ _ => rfl, fun q _ => by cases q <;> rfl, rfl⟩

/-- A power behind a resistor and a transistor connected as a diode. -/
def diodeDevices : List FlatDevice :=
  [{ type := .resistor, source := 0, drain := 1, resistance := 100 },
    { type := .nmos, source := 1, gate := 2, drain := 2, bulk := 1, vth := 400, resistance := 7000 }]

def diodeCircuit : FlatCircuit := .ofDevices 3 diodeDevices (by decide) false false

def diodePowers : List CPower :=
  [{ netId := 0, minVoltage := 0, simVoltage := 0, maxVoltage := 0, type := { powerBit := true } }]

def diodeState : PropagationState := ⟨.ofPowers 3 diodeDevices diodePowers, .reset 2, []⟩

/-- A min/max propagation of two devices, which ends. -/
theorem pendingBits_agree_diode :
    (∀ queue, (∀ d, diodeState.devices.pending queue d = false) ∧ (diodeState.devices.queue queue).contents = []) ∧
      EndsInAgreement (diodeCircuit.resetMinMaxPower 10 diodeState) :=
  pendingBits_agree 2 (by decide) diodeState (.start (idle_reset 2) rfl) diodeCircuit rfl _ (.minMax 10)

/-- No sim propagation of a run makes a device active again or changes a queue of the min/max propagations. -/
theorem FlatCircuit.setSimPower_keeps {c : FlatCircuit} (hn : c.deviceCount < 2 ^ 31) (run : Run c.deviceCount s) {rounds : Nat}
    {type : Propagation} {nets : List Nat} {s' : PropagationState} (returns : c.setSimPower rounds type nets s = .ok ⟨⟩ s') :
    (∀ q d, s.devices.inactive q d = true → s'.devices.inactive q d = true) ∧
      ∀ q, q ≠ .simQueue → s'.devices.queue q = s.devices.queue q := by
  have hA : ∀ e : Failure, e.IsRegular → True := fun _ _ => trivial
  have hnets {m : NetM Unit} : Runs _ c.deviceCount true (onNets m) := runs_of_steps hA (steps_onNets_of_forall m)
  have hround : Runs _ c.deviceCount true _ := runs_of_stepsAt hA fun _ hs hc => stepsAt_propagateSimVoltages hs hc type
  obtain ⟨hidle, hcalls⟩ := run.idle hn
  obtain ⟨_, s1, hreset, returns⟩ := run_bind_eq_ok.1 returns
  have h1 := wp.of_ok (leaves_resetEventQueue hA hidle hcalls .simQueue) hreset
  -- after its reset every step of the propagation continues the one before it
  have hcont := wp.of_ok (Keeps.seq hnets (fun _ => .seq (runs_of_steps hA (.forM fun net _ => steps_enqueueSimNet type nets net))
    fun _ => .seq (runs_of_steps hA (steps_startQueues _)) fun _ => .seq (fun _ hs =>
      (hround.repeatWhile (fun _ hs => ⟨hs.1.2, trivial⟩) rounds hs).imp fun _ _ h => ⟨h.1, h.2.1, trivial⟩)
        fun _ => .seq hnets fun _ => hnets) s1 (.of_idle h1.1 c.deviceCount_le h1.2 true)) returns
  obtain ⟨-, rfl⟩ := EStateM.Result.ok.inj hreset
  exact ⟨hcont.2.1.inactive, fun q hq => (hcont.2.1.other q (by simpa using hq)).1.trans (Function.update_of_ne hq _ _)⟩

/-- A sim propagation after a min/max propagation that has made the diode inactive. -/
theorem FlatCircuit.setSimPower_keeps_diode : ∃ s s', diodeCircuit.resetMinMaxPower 10 diodeState = .ok ⟨⟩ s ∧
    s.devices.inactive .minQueue 1 = true ∧ (s.devices.queue .minQueue).enqueueCount = 2 ∧
    diodeCircuit.setSimPower 10 .powerNetsOnly [] s = .ok ⟨⟩ s' ∧
    s'.devices.inactive .minQueue 1 = true ∧ s'.devices.queue .minQueue = s.devices.queue .minQueue := by
  have hrun : (do
      diodeCircuit.resetMinMaxPower 10
      let s ← get
      diodeCircuit.setSimPower 10 .powerNetsOnly []
      pure (s.devices.inactive .minQueue 1, (s.devices.queue .minQueue).enqueueCount) : DbM (Bool × Nat)).run' diodeState =
      some (true, 2) := by decide +kernel
  unfold EStateM.run' at hrun
  split at hrun
  case h_2 => nomatch hrun
  case h_1 result s' h =>
    obtain rfl := Option.some.inj hrun
    obtain ⟨_, s, hminMax, h⟩ := run_bind_eq_ok.1 h
    obtain ⟨_, _, hget, h⟩ := run_bind_eq_ok.1 h
    obtain ⟨rfl, rfl⟩ := EStateM.Result.ok.inj hget
    obtain ⟨_, s1, hsim, h⟩ := run_bind_eq_ok.1 h
    obtain ⟨hpair, rfl⟩ := EStateM.Result.ok.inj h
    obtain ⟨hinactive, hcount⟩ := Prod.mk.inj hpair
    have hkeeps := setSimPower_keeps (by decide) (.propagation (.start (idle_reset 2) rfl) rfl (.minMax 10) hminMax) hsim
    exact ⟨s, s1, hminMax, hinactive, hcount, hsim, hkeeps.1 _ _ hinactive, hkeeps.2 _ nofun⟩

/-! ### Too many devices -/

/-- No device is inactive or in a conflict, and the pending bits are set of the devices that wait. -/
structure DeviceState.Waiting (n : Nat) (waits : EventQueueType → Nat → Prop) (s : DeviceState) : Prop where
  tracks : ∃ e, s.Tracks n e
  pending_iff : ∀ queue d, s.pending queue d = true ↔ waits queue d
  active : ∀ queue d, s.inactive queue d = false
  conflict_eq : s.conflict = none

/-- When every device waits in both queues, the number of them is twice the number of devices, in 32 bits. -/
theorem DeviceState.Waiting.minMaxSize_eq {waits : EventQueueType → Nat → Prop} {s : DeviceState} (h : s.Waiting n waits)
    (hall : ∀ q, q ≠ .simQueue → ∀ d < n, waits q d) : s.minMaxSize = uint32 (n + n) := by
  obtain ⟨e, he⟩ := h.tracks
  have hsize : ∀ q, q ≠ .simQueue → (s.queue q).size = n := by
    intro q hq
    have hqueued : (s.queue q).queued = .range n := by
      ext d
      rw [(he.shows q).mem_queued, Finset.mem_range]
      refine ⟨fun hd => ?_, fun hd => (he.waits q d).2 ⟨(h.pending_iff q d).2 (hall q hq d hd), ?_⟩⟩
      · obtain ⟨k, hk⟩ := Option.isSome_iff_exists.1 hd
        exact he.lt hk
      · rw [h.conflict_eq]
        exact nofun
    rw [(he.shows q).size_eq, hqueued, Finset.card_range]
  unfold minMaxSize
  rw [hsize .minQueue nofun, hsize .maxQueue nofun]

namespace FlatCircuit

variable {c : FlatCircuit} {s : PropagationState} {waits : EventQueueType → Nat → Prop} {q : EventQueueType} {key : Int}
    {pos : QueuePosition}

section
variable (hs : s.devices.Waiting c.deviceCount waits)
include hs

variable (hkey : IsKey keyBound key) (hpos : pos ≠ .skipQueue)
include hkey hpos

theorem wp_enqueueResistor {d : Nat} (hd : d < c.deviceCount) (htype : c.deviceType d = .resistor) :
    wp (c.enqueueResistor q key pos d)
      (fun _ s' => s'.devices.Waiting c.deviceCount (fun q' d' => waits q' d' ∨ q' = q ∧ d' = d) ∧ s'.nets = s.nets)
      (fun _ _ => False) s := by
  obtain ⟨e, he⟩ := hs.tracks
  refine wp_bind.2 (wp_read.2 (wp_when (fun hadd => ?_) fun hskip => ?_))
  · have hp : s.devices.pending q d = false := by
      rw [and_eq_true, not_eq_true', or_eq_false_iff] at hadd
      exact hadd.2.2
    refine wp_bind.2 (wp_addEvent he hd hp hpos (fun _ => hkey) fun ev hq => ?_)
    refine ⟨⟨⟨_, hq⟩, fun q' d' => ?_, fun q' d' => (inactive_withPending ..).trans (hs.active q' d'), hs.conflict_eq⟩, rfl⟩
    by_cases hsame : q' = q ∧ d' = d
    · obtain ⟨rfl, rfl⟩ := hsame
      exact iff_of_true (pending_withPending_self ..) (.inr ⟨rfl, rfl⟩)
    · rw [or_iff_left hsame, ← hs.pending_iff]
      exact Eq.congr_left (pending_withPending_of_ne (s.devices.setQueue q ev) true hsame)
  · have hp : s.devices.pending q d = true := by simpa [htype, hs.active] using hskip
    refine ⟨⟨⟨e, he⟩, fun q' d' => ?_, hs.active, hs.conflict_eq⟩, rfl⟩
    rw [hs.pending_iff, eq_comm (a := q'), eq_comm (a := d')]
    refine (or_iff_left_of_imp ?_).symm
    rintro ⟨rfl, rfl⟩
    exact (hs.pending_iff _ _).1 hp

theorem wp_enqueueResistors {devices : List Nat} (hdevices : ∀ d ∈ devices, d < c.deviceCount ∧ c.deviceType d = .resistor) :
    wp (devices.forM (c.enqueueResistor q key pos))
      (fun _ s' => s'.devices.Waiting c.deviceCount (fun q' d' => waits q' d' ∨ q' = q ∧ d' ∈ devices) ∧ s'.nets = s.nets)
      (fun _ _ => False) s := by
  induction devices generalizing s waits with
  | nil =>
    refine ⟨?_, rfl⟩
    simpa using hs
  | cons d devices ih =>
    obtain ⟨hd, htype⟩ := hdevices d mem_cons_self
    refine (wp_enqueueResistor hs hkey hpos hd htype).bind fun _ s1 h1 => ?_
    refine (ih h1.1 fun d' hd' => hdevices d' (mem_cons_of_mem _ hd')).imp fun _ s2 h2 => ⟨?_, h2.2.trans h1.2⟩
    refine ⟨h2.1.tracks, fun q' d' => ?_, h2.1.active, h2.1.conflict_eq⟩
    rw [h2.1.pending_iff, mem_cons]
    tauto

theorem wp_enqueueAttachedResistors {net : Nat} (hnet : ∀ d ∈ c.sources net ++ c.drains net, c.deviceType d = .resistor) :
    wp (c.enqueueAttachedResistors q net key pos) (fun _ s' => s'.devices.Waiting c.deviceCount
        (fun q' d' => waits q' d' ∨ q' = q ∧ d' ∈ c.sources net ++ c.drains net) ∧ s'.nets = s.nets) (fun _ _ => False) s := by
  have happend : c.enqueueAttachedResistors q net key pos = (c.sources net ++ c.drains net).forM (c.enqueueResistor q key pos) :=
    forM_append.symm
  rw [happend]
  exact wp_enqueueResistors hs hkey hpos fun d hd => ⟨c.device_lt net d (mem_append_left _ hd), hnet d hd⟩

end
end FlatCircuit

/-- A number of resistors from a power to another net. -/
def bankDevices (n : Nat) : List FlatDevice := List.replicate n { type := .resistor, source := 0, drain := 1 }

def bankCircuit (n : Nat) (hn : n ≤ unknownDevice) : FlatCircuit :=
  .ofDevices 2 (bankDevices n) (by rw [bankDevices, List.length_replicate]; exact hn) false false

def bankState (n : Nat) : PropagationState := ⟨.ofPowers 2 (bankDevices n) diodePowers, .reset n, []⟩

section Bank
variable {n : Nat} (hn : n ≤ unknownDevice) {d : Nat}

theorem deviceCount_bankCircuit : (bankCircuit n hn).deviceCount = n := length_replicate

theorem at_bankDevices (hd : d < n) : FlatDevice.at (bankDevices n) d = { type := .resistor, source := 0, drain := 1 } := by
  simp [FlatDevice.at, bankDevices, hd]

/-- All resistors are at the power. -/
theorem mem_bankCircuit (d : Nat) : d ∈ (bankCircuit n hn).sources 0 ++ (bankCircuit n hn).drains 0 ↔ d < n := by
  have hattached : ∀ net : FlatDevice → Nat, d ∈ (range (bankDevices n).length).reverse.filter
      (fun d => net (.at (bankDevices n) d) == 0) ↔ d < n ∧ net (.at (bankDevices n) d) = 0 := by
    intro net
    simp [bankDevices]
  show d ∈ filter _ _ ++ filter _ _ ↔ _
  rw [mem_append, hattached, hattached]
  refine ⟨fun h => h.elim And.left And.left, fun hd => .inl ⟨hd, ?_⟩⟩
  rw [at_bankDevices hd]

theorem deviceType_bankCircuit (hd : d ∈ (bankCircuit n hn).sources 0 ++ (bankCircuit n hn).drains 0) :
    (bankCircuit n hn).deviceType d = .resistor := by
  show (FlatDevice.at (bankDevices n) d).type = _
  rw [at_bankDevices ((mem_bankCircuit hn d).1 hd)]

include hn in

/-- If the resistors in both queues are counted as none, the propagation of the bank ends at once, with all of them pending. -/
theorem wp_bank (hzero : uint32 (n + n) = 0) (rounds : Nat) :
    wp ((bankCircuit n hn).setResistorVoltagesByPower rounds) (fun _ s' => ∀ d < n, s'.devices.pending .minQueue d = true)
      (fun _ _ => False)
      (bankState n) := by
  have hcount := deviceCount_bankCircuit hn
  have hstart : (bankState n).devices.Waiting (bankCircuit n hn).deviceCount fun _ _ => False := by
    rw [hcount]
    exact ⟨⟨_, (idle_reset n).tracks hn⟩, fun q _ => by cases q <;> exact iff_of_false false_ne_true id,
      fun q _ => by cases q <;> rfl, rfl⟩
  have hkey : IsKey keyBound 0 := ⟨by decide, by decide⟩
  have hpos : QueuePosition.mainBack ≠ .skipQueue := nofun
  have hresistors : ∀ d ∈ (bankCircuit n hn).sources 0 ++ (bankCircuit n hn).drains 0,
    (bankCircuit n hn).deviceType d = .resistor :=
    fun _ hd => deviceType_bankCircuit hn hd
  have hwaits : ∀ q : EventQueueType, q ≠ .simQueue → ∀ d < (bankCircuit n hn).deviceCount,
      (False ∨ q = .minQueue ∧ d ∈ (bankCircuit n hn).sources 0 ++ (bankCircuit n hn).drains 0) ∨
        q = .maxQueue ∧ d ∈ (bankCircuit n hn).sources 0 ++ (bankCircuit n hn).drains 0 := by
    intro q hq d hd
    have hmem := (mem_bankCircuit hn d).2 (hcount ▸ hd)
    cases q with
    | simQueue => exact absurd rfl hq
    | minQueue => exact Or.inl (Or.inr ⟨rfl, hmem⟩)
    | maxQueue => exact Or.inr ⟨rfl, hmem⟩
  refine wp_bind.2 (wp_read.2 (wp_bind.2 ?_))
  refine wp_bind.2 (wp_bind.2 (wp_read.2 (wp_bind.2 (wp_when (fun _ => ?_) fun h => nomatch (h : true = false)))))
  refine (FlatCircuit.wp_enqueueAttachedResistors hstart hkey hpos hresistors).imp fun _ s1 h1 => ?_
  refine wp_when (fun _ => ?_) fun h => nomatch (h : true = false)
  refine (FlatCircuit.wp_enqueueAttachedResistors h1.1 hkey hpos hresistors).imp fun _ s2 h2 => ?_
  have hsize : s2.devices.minMaxSize = 0 := by
    rw [h2.1.minMaxSize_eq hwaits, hcount, hzero]
  refine wp_bind.2 (wp_repeatWhile_of_false ?_ fun d hd => ?_)
  · exact bne_eq_false_iff_eq.2 hsize
  · exact (h2.1.pending_iff .minQueue d).2 (hwaits .minQueue nofun d (hcount.symm ▸ hd))

theorem not_endsInAgreement_bank (hpos : 0 < n) (hzero : uint32 (n + n) = 0) (rounds : Nat) :
    ¬ EndsInAgreement ((bankCircuit n hn).setResistorVoltagesByPower rounds (bankState n)) := by
  intro h
  have hbank := wp_bank hn hzero rounds
  unfold wp at hbank
  split at hbank
  case h_1 _ s' hm =>
    rw [hm] at h
    exact Bool.noConfusion (((h.2 .minQueue).1 0).symm.trans (hbank 0 hpos))
  case h_2 => exact hbank

end Bank

/-- With 2^31 resistors at a power, `SetResistorVoltagesByPower` takes none of them from the queues: the sizes add up to zero. The
pending bits stay set when it ends. -/
theorem pendingBits_bank :
    Run (2 ^ 31) (bankState (2 ^ 31)) ∧ (bankCircuit (2 ^ 31) two_pow_le_unknownDevice).deviceCount = 2 ^ 31 ∧
      ¬ EndsInAgreement ((bankCircuit (2 ^ 31) two_pow_le_unknownDevice).setResistorVoltagesByPower 0 (bankState (2 ^ 31))) :=
  ⟨.start (idle_reset _) rfl, deviceCount_bankCircuit _, not_endsInAgreement_bank _ (by decide) (by decide) 0⟩

end Cvc
