import Cvc.Netlist
import Cvc.MinMaxPower
import Cvc.Lemmas.QueueContents

/-!
# The scheduler of the min/max propagation

The main loop of `SetInitialMinMaxPower` works from two counts: the events that waited when they were last counted, and the events
that were in the first list of a queue when the queue was chosen. Whatever the processing of an event adds to the queues, neither
count is ever more than what waits, so an event is only taken from a queue that has one, and the loop ends when the queues are
empty. The events are counted in 32 bits: with 2^31 devices in each queue the loop ends at once.
-/

namespace Cvc

open Function (update update_self update_of_ne)
open Program List

variable {process : EventQueueType → DbM Unit} {s₀ s : PropagationState} {l : MinMaxLoop}

namespace CEventQueue

variable {q q' : CEventQueue} {e : Nat → Option Int} {d : Nat} {key : Int} {pos : QueuePosition}

/-- `AddEvent` of a device that is in the queue fails. -/
theorem Shows.free_of_addEvent (h : q.Shows e) (hadd : q.addEvent key d pos = .ok q') : e d = none := by
  by_contra hne
  have hmem : d ∈ q.queued := (h.mem_queued d).2 (Option.isSome_iff_ne_none.2 hne)
  have htaken : q.queueArray d ≠ unknownDevice := (Finset.mem_filter.1 hmem).2
  have hpush : ∀ s k push, (∀ l, push q.queueArray l d = .error (.eQueueError (toString d))) →
      q.pushOn s k push d = .error (.eQueueError (toString d)) := by
    intro s k push hfail
    unfold pushOn
    rw [hfail]
    rfl
  have hfront := fun s => hpush s (q.storedKey key) CEventList.pushFront fun _ => if_pos htaken
  have hback := fun s => hpush s (q.storedKey key) CEventList.pushBack fun _ => if_pos htaken
  cases pos with
  | queueHiz | mosDiode => nomatch (hfront .main).symm.trans hadd
  | mainBack => nomatch (hback .main).symm.trans hadd
  | delayFront => nomatch (hfront .delay).symm.trans hadd
  | delayBack => nomatch (hback .delay).symm.trans hadd
  | skipQueue => nomatch hadd

theorem Shows.addEvent_of_ok (h : q.Shows e) (hd : d < q.queueSize) (hadd : q.addEvent key d pos = .ok q') :
    (∃ e', q'.Shows e') ∧ q'.queueSize = q.queueSize ∧ q'.size = q.size + 1 := by
  have hfree := h.free_of_addEvent hadd
  have hpos : pos ≠ .skipQueue := by
    rintro rfl
    nomatch hadd
  obtain ⟨q1, hadd1, hshows, _, hsize⟩ := h.addEvent hd hfree hpos key
  obtain rfl : q1 = q' := Except.ok.inj (hadd1.symm.trans hadd)
  exact ⟨⟨_, hshows⟩, hsize, h.size_addEvent hfree hshows⟩

theorem Shows.getEvent_of_ne_zero (h : q.Shows e) (hne : q.size ≠ 0) :
    ∃ d q', q.getEvent = .ok (d, q') ∧ (∃ e', q'.Shows e') ∧ q'.queueSize = q.queueSize ∧ q'.size + 1 = q.size := by
  obtain ⟨d0, hd0⟩ := Classical.not_forall.1 fun hall => hne (h.size_eq_zero_iff.2 hall)
  obtain ⟨k0, hk0⟩ := Option.ne_none_iff_exists'.1 hd0
  obtain ⟨d, k, q', hget, hd, hshows, _, hsize, _⟩ := h.getEvent ⟨d0, k0, hk0⟩
  exact ⟨d, q', hget, ⟨_, hshows⟩, hsize, h.size_getEvent hd hshows⟩

theorem Shows.contents_eq_nil_iff (h : q.Shows e) : q.contents = [] ↔ q.size = 0 := by
  rw [h.size_eq_zero_iff, eq_nil_iff_forall_not_mem]
  exact forall_congr' fun d => by rw [h.mem_contents, Option.isSome_iff_ne_none, Classical.not_not]

/-- The part of the next event is not empty. -/
theorem next_ne_nil (hne : q.mainQueue ≠ [] ∨ q.delayQueue ≠ []) :
    (if q.isNextMainQueue then q.mainQueue else q.delayQueue) ≠ [] := by
  unfold isNextMainQueue
  cases hmain : q.mainQueue with
  | nil => simpa [hmain] using hne
  | cons =>
    cases hdelay : q.delayQueue with
    | nil => simp
    | cons =>
      dsimp only
      split <;> exact cons_ne_nil _ _

/-- The list of the next event has at least one event, and no more than the queue. -/
theorem Shows.nextListSize_eq (h : q.Shows e) (hne : q.size ≠ 0) : ∃ m, q.nextListSize = some m ∧ 0 < m ∧ m ≤ q.size := by
  have hparts : q.mainQueue ≠ [] ∨ q.delayQueue ≠ [] := by
    by_contra hnone
    rw [not_or, Classical.not_not, Classical.not_not] at hnone
    refine hne (h.contents_eq_nil_iff.1 ?_)
    unfold contents
    rw [hnone.1, hnone.2]
    rfl
  obtain ⟨⟨k, l⟩, rest, hnext⟩ := exists_cons_of_ne_nil (next_ne_nil hparts)
  obtain ⟨s, hs⟩ : ∃ s, q.part s = (k, l) :: rest := by
    split at hnext
    · exact ⟨.main, hnext⟩
    · exact ⟨.delay, hnext⟩
  have hsize := h.size_eq
  obtain ⟨a, ha, _⟩ := h
  obtain ⟨hnil, hholds⟩ := ha.stored s k l (by rw [hs, SortedMap.find_cons_self])
  refine ⟨l.eventListSize, ?_, ?_, ?_⟩
  · unfold nextListSize
    rw [hnext]
    rfl
  · rw [hholds.size_eq]
    exact length_pos_of_ne_nil hnil
  · rw [hholds.size_eq, hsize, ← toFinset_card_of_nodup (ha.nodup s k)]
    refine Finset.card_le_card fun d hd => ?_
    have hmem := mem_toFinset.1 hd
    exact Finset.mem_filter.2 ⟨Finset.mem_range.2 (ha.lt_size d s k hmem), (ha.known hmem).2⟩

end CEventQueue

/-! ## Processing -/

/-- The second queues are the first ones with any events added. -/
inductive Adds (queues : EventQueueType → CEventQueue) : (EventQueueType → CEventQueue) → Prop
  | refl : Adds queues queues
  | add {queues' : EventQueueType → CEventQueue} {queue : EventQueueType} {key : Int} {d : Nat}
      {pos : QueuePosition} {q : CEventQueue}
      (adds : Adds queues queues') (lt : d < (queues' queue).queueSize) (added : (queues' queue).addEvent key d pos = .ok q) :
      Adds queues (update queues' queue q)

/-- What is processed is one event of a queue that has one; any events are added. Nothing is said about a queue without events. -/
def ProcessesEvents (process : EventQueueType → DbM Unit) : Prop :=
  ∀ queue s s', process queue s = .ok ⟨⟩ s' → (s.devices.queue queue).contents ≠ [] →
    ∃ d q, (s.devices.queue queue).getEvent = .ok (d, q) ∧ Adds (update s.devices.queue queue q) s'.devices.queue

/-- The min and the max queue are queues of `n` devices, with any contents. -/
def IsQueues (n : Nat) (queues : EventQueueType → CEventQueue) : Prop :=
  ∀ queue, queue ≠ .simQueue → (∃ e, (queues queue).Shows e) ∧ (queues queue).queueSize = n

/-- The states at the start of a round of the main loop. -/
inductive Reaches (process : EventQueueType → DbM Unit) (s₀ : PropagationState) : MinMaxLoop → PropagationState → Prop
  | start : Reaches process s₀ { myLoopCount := s₀.devices.minMaxSize } s₀
  | round {l l' : MinMaxLoop} {s s' : PropagationState} (reaches : Reaches process s₀ l s) (continues : l.myLoopCount ≠ 0)
      (returns : minMaxRound process l s = .ok l' s') : Reaches process s₀ l' s'

section Steps
variable {n : Nat} {queues queues' : EventQueueType → CEventQueue}

theorem IsQueues.update (h : IsQueues n queues) {q : EventQueueType} {ev : CEventQueue}
    (hq : q ≠ .simQueue → (∃ e, ev.Shows e) ∧ ev.queueSize = n) : IsQueues n (Function.update queues q ev) := by
  intro queue' hne
  rcases eq_or_ne queue' q with rfl | hother
  · rw [update_self]
    exact hq hne
  · rw [update_of_ne hother]
    exact h queue' hne

/-- Adding events keeps the queues and takes nothing from them. -/
theorem Adds.isQueues (h : Adds queues queues') (hqueues : IsQueues n queues) :
    IsQueues n queues' ∧ ∀ q, q ≠ .simQueue → (queues q).size ≤ (queues' q).size := by
  induction h with
  | refl => exact ⟨hqueues, fun _ _ => le_rfl⟩
  | @add queues' q key d pos ev _ lt added ih =>
    obtain ⟨hqueues', hle⟩ := ih
    have hadded : q ≠ .simQueue → ((∃ e, ev.Shows e) ∧ ev.queueSize = n) ∧ ev.size = (queues' q).size + 1 := by
      intro hne
      obtain ⟨⟨e, he⟩, hn⟩ := hqueues' q hne
      obtain ⟨hshows, hsize, hcount⟩ := he.addEvent_of_ok lt added
      exact ⟨⟨hshows, hsize.trans hn⟩, hcount⟩
    refine ⟨hqueues'.update fun hne => (hadded hne).1, fun queue' hne => ?_⟩
    rcases eq_or_ne queue' q with rfl | hother
    · rw [update_self, (hadded hne).2]
      exact (hle queue' hne).trans (Nat.le_succ _)
    · rw [update_of_ne hother]
      exact hle queue' hne

end Steps

/-! ## The counts of the loop -/

namespace MinMaxLoop

variable {n : Nat} {l l' : MinMaxLoop} {s s' : PropagationState} {process : EventQueueType → DbM Unit}

theorem processed_ne_simQueue (l : MinMaxLoop) : l.processed ≠ .simQueue := by
  unfold processed
  split <;> exact nofun

/-- The counts of the loop are no more than what waits, and there is nothing left to count only if nothing waits. -/
structure Counts (n : Nat) (l : MinMaxLoop) (s : PropagationState) : Prop where
  queues : IsQueues n s.devices.queue
  batch : l.myDequeueCount ≤ (s.devices.queue l.processed).size
  total : l.myLoopCount ≤ (s.devices.queue .minQueue).size + (s.devices.queue .maxQueue).size
  zero : l.myLoopCount = 0 → (s.devices.queue .minQueue).size + (s.devices.queue .maxQueue).size = 0

theorem isNextMainQueue_of_empty {q : CEventQueue} {e : Nat → Option Int} (h : q.Shows e) (hq : q.size = 0) :
    q.isNextMainQueue = false := by
  obtain rfl : e = fun _ => none := funext (h.size_eq_zero_iff.1 hq)
  have hmain : q.mainQueue = [] := h.part_eq_nil .main
  unfold CEventQueue.isNextMainQueue
  rw [hmain]

/-- Two queues of less than 2^31 devices are counted as they are. -/
theorem minMaxSize_eq (hn : n < 2 ^ 31) (hqueues : IsQueues n s.devices.queue) :
    s.devices.minMaxSize = (s.devices.queue .minQueue).size + (s.devices.queue .maxQueue).size := by
  obtain ⟨⟨_, hmin⟩, hminSize⟩ := hqueues .minQueue nofun
  obtain ⟨⟨_, hmax⟩, hmaxSize⟩ := hqueues .maxQueue nofun
  have hmin' := hmin.size_le
  have hmax' := hmax.size_le
  exact Nat.mod_eq_of_lt (by omega)

/-- As long as something waits, the queue that comes next is not empty. -/
theorem size_next_ne_zero (hqueues : IsQueues n s.devices.queue)
    (hne : (s.devices.queue .minQueue).size + (s.devices.queue .maxQueue).size ≠ 0) :
    (s.devices.queue (if s.devices.isMinNext then .minQueue else .maxQueue)).size ≠ 0 := by
  obtain ⟨⟨_, hmin⟩, _⟩ := hqueues .minQueue nofun
  obtain ⟨⟨_, hmax⟩, _⟩ := hqueues .maxQueue nofun
  intro hzero
  unfold DeviceState.isMinNext at hzero
  split at hzero
  case isTrue hnext =>
    have := isNextMainQueue_of_empty hmin hzero
    simp [this, hzero] at hnext
  case isFalse hnext =>
    have := isNextMainQueue_of_empty hmax hzero
    cases hmin' : (s.devices.queue .minQueue).isNextMainQueue with
    | true => simp [this, hmin'] at hnext
    | false => exact hne (by simpa [this, hmin', hzero] using hnext)

/-- A queue that is chosen has as many events as are taken from it. -/
theorem Counts.choose (h : l.Counts n s) (hne : l.myLoopCount ≠ 0) :
    ∃ l₁, chooseQueue l s = .ok l₁ s ∧ l₁.myDequeueCount ≠ 0 ∧ l₁.myDequeueCount ≤ (s.devices.queue l₁.processed).size ∧
      l₁.myLoopCount = l.myLoopCount := by
  have htotal := h.total
  by_cases hbatch : l.myDequeueCount = 0
  · have hnext := size_next_ne_zero h.queues (by omega)
    obtain ⟨⟨e, he⟩, _⟩ := h.queues (if s.devices.isMinNext then .minQueue else .maxQueue) (by split <;> exact nofun)
    obtain ⟨m, hm, hpos, hle⟩ := he.nextListSize_eq hnext
    refine ⟨{ l with myDequeueCount := m, myProcessingMinQueue := s.devices.isMinNext }, ?_, hpos.ne', hle, rfl⟩
    show (if l.myDequeueCount = 0 then _ else _ : DbM MinMaxLoop) s = _
    rw [if_pos hbatch, hm]
    rfl
  · refine ⟨l, ?_, hbatch, h.batch, rfl⟩
    show (if l.myDequeueCount = 0 then _ else _ : DbM MinMaxLoop) s = _
    rw [if_neg hbatch]
    rfl

/-- A round that returns has called what it calls on the chosen queue. -/
theorem round_eq {l₁ : MinMaxLoop} (hchoose : chooseQueue l s = .ok l₁ s)
    (hround : minMaxRound process l s = .ok l' s') : process l₁.processed s = .ok ⟨⟩ s' ∧ l' = { l₁ with
      myDequeueCount := l₁.myDequeueCount - 1
      myLoopCount := if l₁.myLoopCount - 1 < 1 then s'.devices.minMaxSize else l₁.myLoopCount - 1 } := by
  obtain ⟨l2, s2, hl2, hrest⟩ := run_bind_eq_ok.1 hround
  cases hchoose.symm.trans hl2
  obtain ⟨_, s3, hensure, hrest⟩ := run_bind_eq_ok.1 hrest
  obtain ⟨_, s4, hcall, hend⟩ := run_bind_eq_ok.1 hrest
  have hs3 : s3 = s := by
    unfold ensure at hensure
    split at hensure
    · cases hensure
      rfl
    · nomatch hensure
  subst hs3
  cases hend
  exact ⟨hcall, rfl⟩

/-- A round keeps the counts below what waits. -/
theorem Counts.round (hprocess : ProcessesEvents process) (hn : n < 2 ^ 31) (h : l.Counts n s)
    (hne : l.myLoopCount ≠ 0) (hround : minMaxRound process l s = .ok l' s') : l'.Counts n s' := by
  obtain ⟨l₁, hchoose, hbatch, hle, hcount⟩ := h.choose hne
  obtain ⟨hcall, rfl⟩ := round_eq hchoose hround
  have hq := l₁.processed_ne_simQueue
  obtain ⟨⟨e, he⟩, hsize⟩ := h.queues l₁.processed hq
  have hnonempty : (s.devices.queue l₁.processed).size ≠ 0 := by omega
  obtain ⟨d, ev, hget, hadds⟩ := hprocess _ _ _ hcall (mt he.contents_eq_nil_iff.1 hnonempty)
  obtain ⟨d', q', hget', hshows, hsize', hless⟩ := he.getEvent_of_ne_zero hnonempty
  obtain ⟨rfl, rfl⟩ : d' = d ∧ q' = ev := Prod.mk.inj (Except.ok.inj (hget'.symm.trans hget))
  obtain ⟨hqueues, hmono⟩ := hadds.isQueues (h.queues.update fun _ => ⟨hshows, hsize'.trans hsize⟩)
  have hself := hmono l₁.processed hq
  rw [update_self] at hself
  have hrest : ∀ q, q ≠ .simQueue → q ≠ l₁.processed → (s.devices.queue q).size ≤ (s'.devices.queue q).size := by
    intro q hsim hother
    have := hmono q hsim
    rwa [update_of_ne hother] at this
  -- one event less waits, at most
  have htotal : (s.devices.queue .minQueue).size + (s.devices.queue .maxQueue).size ≤
      (s'.devices.queue .minQueue).size + (s'.devices.queue .maxQueue).size + 1 := by
    cases hp : l₁.processed with
    | simQueue => exact absurd hp hq
    | minQueue =>
      have := hrest .maxQueue nofun (by rw [hp]; nofun)
      rw [hp] at hself hless
      omega
    | maxQueue =>
      have := hrest .minQueue nofun (by rw [hp]; nofun)
      rw [hp] at hself hless
      omega
  have hall := minMaxSize_eq hn hqueues
  have hbefore := h.total
  refine ⟨hqueues, ?_, ?_, ?_⟩
  · show l₁.myDequeueCount - 1 ≤ (s'.devices.queue l₁.processed).size
    omega
  · dsimp only
    split <;> omega
  · dsimp only
    split <;> omega

end MinMaxLoop

theorem Reaches.counts (hprocess : ProcessesEvents process) {n : Nat} (hn : n < 2 ^ 31) (hqueues : IsQueues n s₀.devices.queue)
    (h : Reaches process s₀ l s) : l.Counts n s := by
  induction h with
  | start =>
    have hall := MinMaxLoop.minMaxSize_eq hn hqueues
    exact ⟨hqueues, Nat.zero_le _, hall.le, fun hzero => hall.symm.trans hzero⟩
  | round _ continues returns ih => exact ih.round hprocess hn continues returns

/-- A loop that returns has come to the start of a round with nothing left to count. -/
theorem exists_reaches_of_ok {s' : PropagationState} (h : Reaches process s₀ l s)
    {rounds : Nat} (hloop : minMaxLoop process rounds l s = .ok ⟨⟩ s') : ∃ l', Reaches process s₀ l' s' ∧ l'.myLoopCount = 0 := by
  induction rounds generalizing l s with
  | zero =>
    unfold minMaxLoop at hloop
    split at hloop
    case isTrue hzero =>
      cases hloop
      exact ⟨l, h, hzero⟩
    case isFalse => nomatch hloop
  | succ rounds ih =>
    unfold minMaxLoop at hloop
    split at hloop
    case isTrue hzero =>
      cases hloop
      exact ⟨l, h, hzero⟩
    case isFalse hne =>
      obtain ⟨l₁, s1, hround, hloop⟩ := run_bind_eq_ok.1 hloop
      exact ih (.round h hne hround) hloop

/-- The scheduler is safe for less than 2^31 devices, whatever the two queues hold and whatever processing an event adds to them.
* In every round a queue is chosen without looking at the first list of an empty part, the assertion on the number of its events
  holds, and the chosen queue has an event, which `GetEvent` returns.
* When the loop ends both queues are empty. -/
theorem scheduler_safe (process : EventQueueType → DbM Unit) (hprocess : ProcessesEvents process) (n : Nat) (hn : n < 2 ^ 31)
    (s₀ : PropagationState) (hqueues : IsQueues n s₀.devices.queue) :
    (∀ l s, Reaches process s₀ l s → l.myLoopCount ≠ 0 → ∃ l₁, chooseQueue l s = .ok l₁ s ∧ l₁.myDequeueCount ≠ 0 ∧
      (s.devices.queue l₁.processed).contents ≠ [] ∧ ∃ d q, (s.devices.queue l₁.processed).getEvent = .ok (d, q)) ∧
    (∀ rounds s, minMaxLoop process rounds { myLoopCount := s₀.devices.minMaxSize } s₀ = .ok ⟨⟩ s →
      (s.devices.queue .minQueue).contents = [] ∧ (s.devices.queue .maxQueue).contents = []) := by
  refine ⟨fun l s h hne => ?_, fun rounds s hloop => ?_⟩
  · have hcounts := h.counts hprocess hn hqueues
    obtain ⟨l₁, hchoose, hbatch, hle, _⟩ := hcounts.choose hne
    obtain ⟨⟨e, he⟩, _⟩ := hcounts.queues l₁.processed l₁.processed_ne_simQueue
    have hnonempty : (s.devices.queue l₁.processed).size ≠ 0 := by omega
    obtain ⟨d, q, hget, _⟩ := he.getEvent_of_ne_zero hnonempty
    exact ⟨l₁, hchoose, hbatch, mt he.contents_eq_nil_iff.1 hnonempty, d, q, hget⟩
  · obtain ⟨l, h, hzero⟩ := exists_reaches_of_ok .start hloop
    have hcounts := h.counts hprocess hn hqueues
    obtain ⟨⟨_, hmin⟩, _⟩ := hcounts.queues .minQueue nofun
    obtain ⟨⟨_, hmax⟩, _⟩ := hcounts.queues .maxQueue nofun
    have hsum := hcounts.zero hzero
    exact ⟨hmin.contents_eq_nil_iff.2 (by omega), hmax.contents_eq_nil_iff.2 (by omega)⟩

/-! ### Queues with all devices -/

/-- A queue of `n` devices to which the first ones have been added, under one key. -/
def loadQueue (n : Nat) (queue : EventQueueType) (count : Nat) : Except Failure CEventQueue :=
  (List.range count).foldlM (fun q d => q.addEvent 0 d .mainBack) ((DeviceState.reset n).queue queue)

/-- All devices are in all queues. -/
def loadedState (n : Nat) : PropagationState where
  nets := .ofPowers 0 [] []
  devices := { DeviceState.reset n with queue :=
    fun queue => (loadQueue n queue n).toOption.getD ((DeviceState.reset n).queue queue) }
  calls := []

section Loaded
variable {n : Nat} (hn : n ≤ unknownDevice)
include hn

theorem exists_loadQueue (q : EventQueueType) {count : Nat} (hcount : count ≤ n) :
    ∃ ev, loadQueue n q count = .ok ev ∧ ev.Shows (fun d => if d < count then some 0 else none) ∧ ev.queueType = q ∧
      ev.queueSize = n := by
  induction count with
  | zero => exact ⟨_, rfl, CEventQueue.shows_resetQueue rfl rfl hn, rfl, rfl⟩
  | succ count ih =>
    obtain ⟨ev, hq, hshows, htype, hsize⟩ := ih (by omega)
    have hpos : QueuePosition.mainBack ≠ .skipQueue := nofun
    have hfree : (if count < count then some (0 : Int) else none) = none := if_neg (Nat.lt_irrefl _)
    obtain ⟨q', hadd, hshows', htype', hsize'⟩ := hshows.addEvent (hsize ▸ hcount) hfree hpos 0
    have hkey : ev.storedKey 0 = 0 := by
      unfold CEventQueue.storedKey
      split <;> rfl
    refine ⟨q', ?_, ?_, htype'.trans htype, hsize'.trans hsize⟩
    · unfold loadQueue at hq ⊢
      rw [range_succ, foldlM_append, hq]
      show (ev.addEvent 0 count .mainBack >>= pure) = _
      rw [hadd]
      rfl
    · refine cast (congrArg q'.Shows (funext fun d => ?_)) hshows'
      rw [hkey]
      rcases eq_or_ne d count with rfl | hne
      · simp
      · rw [update_of_ne hne]
        exact if_congr (by omega) rfl rfl

theorem shows_loadedState (q : EventQueueType) :
    ((loadedState n).devices.queue q).Shows (fun d => if d < n then some 0 else none) ∧
      ((loadedState n).devices.queue q).queueSize = n := by
  obtain ⟨ev, hq, hshows, _, hsize⟩ := exists_loadQueue hn q le_rfl
  have : (loadedState n).devices.queue q = ev := by
    show (loadQueue n q n).toOption.getD _ = ev
    rw [hq]
    rfl
  rw [this]
  exact ⟨hshows, hsize⟩

theorem isQueues_loadedState : IsQueues n (loadedState n).devices.queue := fun q _ =>
  ⟨⟨_, (shows_loadedState hn q).1⟩, (shows_loadedState hn q).2⟩

theorem size_loadedState (q : EventQueueType) : ((loadedState n).devices.queue q).size = n := by
  have hshows := (shows_loadedState hn q).1
  have hqueued : ((loadedState n).devices.queue q).queued = .range n := by
    ext d
    rw [hshows.mem_queued, Finset.mem_range]
    split <;> simp_all
  rw [hshows.size_eq, hqueued, Finset.card_range]

/-- If all events are counted as none, the loop ends with all of them in the queues. -/
theorem minMaxLoop_loadedState (hpos : 0 < n) (hzero : uint32 (n + n) = 0) (process : EventQueueType → DbM Unit) :
    minMaxLoop process 0 { myLoopCount := (loadedState n).devices.minMaxSize } (loadedState n) = .ok ⟨⟩ (loadedState n) ∧
      ((loadedState n).devices.queue .minQueue).contents ≠ [] := by
  constructor
  · have hcount : (loadedState n).devices.minMaxSize = 0 := by
      unfold DeviceState.minMaxSize
      rw [size_loadedState hn, size_loadedState hn, hzero]
    rw [hcount]
    rfl
  · rw [ne_eq, (shows_loadedState hn .minQueue).1.contents_eq_nil_iff, size_loadedState hn]
    exact hpos.ne'

end Loaded

/-- An event is taken from a queue, and a device of the min queue is added to the max queue. -/
def passEvent (queue : EventQueueType) : DbM Unit := do
  let d ← getEvent queue
  let devices ← read PropagationState.devices
  when (queue == .minQueue && decide (d < (devices.queue .maxQueue).queueSize)) (addEvent .maxQueue 0 d .mainBack)

theorem processesEvents_passEvent : ProcessesEvents passEvent := by
  intro q s s' hcall _
  obtain ⟨d, s1, hget, hadd⟩ := run_bind_eq_ok.1 hcall
  unfold getEvent at hget
  split at hget
  case h_2 => nomatch hget
  case h_1 _ ev hq =>
    cases hget
    refine ⟨d, ev, hq, ?_⟩
    obtain ⟨_, _, hread, hadd⟩ := run_bind_eq_ok.1 hadd
    cases hread
    unfold when at hadd
    split at hadd
    case isFalse =>
      cases hadd
      exact .refl
    case isTrue hlt =>
      unfold addEvent at hadd
      split at hadd
      case h_1 _ added =>
        cases hadd
        exact .add .refl (of_decide_eq_true (Bool.and_eq_true_iff.1 hlt).2) added
      case h_2 => nomatch hadd

/-- Two devices in each queue: those of the max queue are taken, then those of the min queue, which are added to the max queue
again. -/
theorem scheduler_safe_two :
    (∀ l s, Reaches passEvent (loadedState 2) l s → l.myLoopCount ≠ 0 → ∃ l₁, chooseQueue l s = .ok l₁ s ∧ l₁.myDequeueCount ≠ 0 ∧
      (s.devices.queue l₁.processed).contents ≠ [] ∧ ∃ d q, (s.devices.queue l₁.processed).getEvent = .ok (d, q)) ∧
    ∃ s, minMaxLoop passEvent 6 { myLoopCount := (loadedState 2).devices.minMaxSize } (loadedState 2) = .ok ⟨⟩ s ∧
      (s.devices.queue .minQueue).contents = [] ∧ (s.devices.queue .maxQueue).contents = [] := by
  obtain ⟨hround, hend⟩ :=
    scheduler_safe passEvent processesEvents_passEvent 2 (by decide) (loadedState 2) (isQueues_loadedState (by decide))
  have hrun : (minMaxLoop passEvent 6 { myLoopCount := (loadedState 2).devices.minMaxSize }).run' (loadedState 2) = some ⟨⟩ := by
    decide +kernel
  unfold EStateM.run' at hrun
  split at hrun
  case h_1 _ s hs => exact ⟨hround, s, hs, hend 6 s hs⟩
  case h_2 => nomatch hrun

/-- With 2^31 devices in each queue the loop ends before its first round. -/
theorem scheduler_stops_early :
    IsQueues (2 ^ 31) (loadedState (2 ^ 31)).devices.queue ∧
      minMaxLoop passEvent 0 { myLoopCount := (loadedState (2 ^ 31)).devices.minMaxSize } (loadedState (2 ^ 31)) =
        .ok ⟨⟩ (loadedState (2 ^ 31)) ∧
      ((loadedState (2 ^ 31)).devices.queue .minQueue).contents ≠ [] :=
  ⟨isQueues_loadedState two_pow_le_unknownDevice, minMaxLoop_loadedState two_pow_le_unknownDevice (by decide)
    (by decide) passEvent⟩

end Cvc
