import Cvc.UpdateArray
import Cvc.Lemmas.VirtualNet

/-!
# Accesses to the update arrays

Between two stages the arrays are empty. `ResetMinMaxPower` and `SetSimPower` allocate the arrays of the tables they set links in,
so all their accesses are in bounds; every other stage finds empty arrays, and its first `Set` that stores a link writes past the
end.
-/

namespace Cvc

open Trace Tables List Option

namespace Stage

variable {N netCount : Nat} {hN : N ≤ unknownNet} {netCount_le : netCount ≤ unknownNet} {stage : Stage} {tables tables' : Tables}
  {c : EventQueueType × TableCall} {body : List (EventQueueType × TableCall)}

/-- The sizes of the tables and of their arrays. -/
def HasSizes (netCount : Nat) (allocated : EventQueueType → Bool) (tables : Tables) : Prop :=
  ∀ queue, (tables queue).size = netCount ∧ (tables queue).lastUpdateSize = if allocated queue then netCount else 0

/-- The link sets and reads of a stage keep the sizes. -/
theorem HasSizes.call {allocated : EventQueueType → Bool} (h : HasSizes N allocated tables) (hc : stage.AllowsCall N c)
    (hcall : tables.call c = some tables') : HasSizes N allocated tables' := by
  obtain ⟨q, call⟩ := c
  obtain ⟨v, hv, rfl⟩ := map_eq_some_iff.1 hcall
  have hsize : v.size = (tables q).size ∧ v.lastUpdateSize = (tables q).lastUpdateSize := by
    cases call with
    | set n k r t => exact CVirtualNetVector.size_of_set hv
    | read n =>
      obtain ⟨⟨net, v1⟩, hread, rfl⟩ := map_eq_some_iff.1 hv
      exact CVirtualNetVector.size_of_read hread
    | advance =>
      cases hv
      exact ⟨rfl, rfl⟩
    | resetVector | clearUpdateArray | initializeUpdateArray => exact hc.elim
  intro queue'
  by_cases heq : queue' = q
  · subst heq
    rw [Function.update_self, hsize.1, hsize.2]
    exact h queue'
  · rw [Function.update_of_ne heq]
    exact h queue'

/-- A link set that stores its link, and so writes to the array of its table. -/
def Stores (tables : Tables) : EventQueueType × TableCall → Prop
  | (queue, .set theNetId theNextNet theResistance theTime) =>
    (tables queue).linksBack theNetId theNextNet = false ∧
      ((tables queue).set theNetId theNextNet theResistance theTime).isSome = true
  | _ => False

/-- The only accesses with empty arrays are those of link sets. -/
theorem inBounds_iff_of_empty (h : HasSizes N (fun _ => false) tables) (hc : stage.AllowsCall N c) :
    tables.InBounds c ↔ ¬Stores tables c := by
  obtain ⟨q, call⟩ := c
  have hempty : (tables q).lastUpdateSize = 0 := (h q).2
  cases call with
  | set n k r t =>
    unfold Tables.InBounds Stores CVirtualNetVector.accesses
    simp only [hempty]
    cases (tables q).linksBack n k <;> cases (tables q).set n k r t <;> simp
  | read n => simp [Tables.InBounds, Stores, CVirtualNetVector.accesses, hempty]
  | advance => simp [Tables.InBounds, Stores, CVirtualNetVector.accesses]
  | resetVector | clearUpdateArray | initializeUpdateArray => exact hc.elim

/-- With the arrays of all tables it sets links in allocated, the accesses of a stage are in bounds. -/
theorem inBounds_of_allocated (h : HasSizes N stage.links tables) (hc : stage.AllowsCall N c) : tables.InBounds c := by
  obtain ⟨q, call⟩ := c
  intro i hi
  cases call with
  | set n k r t =>
    have hin : i = n := by
      simp only [CVirtualNetVector.accesses] at hi
      split at hi
      · cases hi
      · exact mem_singleton.1 hi
    obtain ⟨hlinks, hn⟩ := hc
    rw [(h q).2, hlinks, hin]
    exact hn
  | read n =>
    simp only [CVirtualNetVector.accesses] at hi
    split at hi
    · cases hi
    case isFalse hread =>
      rw [mem_singleton.1 hi]
      have hsize := (h q).2
      show n < (tables q).lastUpdateSize
      rcases hc with hn | hn
      · split at hsize <;> omega
      · exact absurd (.inl hn) hread
  | advance => cases hi
  | resetVector | clearUpdateArray | initializeUpdateArray => exact hc.elim

/-! ## Stages -/

/-- The stages that allocate the arrays of the tables they set links in. -/
def allocates : Stage → Bool
  | .resetMinMaxPower => true
  | .setSimPower => true
  | _ => false

/-- The arrays that are allocated between the opening and the closing of a stage. -/
def allocated (stage : Stage) (queue : EventQueueType) : Bool := stage.allocates && stage.links queue

theorem Allows.call (h : stage.Allows N body) (hc : c ∈ body) : stage.AllowsCall N c := by
  cases stage with
  | resetMinSimMaxAndQueues =>
    rw [h] at hc
    obtain ⟨net, hnet, hc⟩ := mem_flatMap.1 hc
    obtain ⟨q, -, rfl⟩ := mem_map.1 hc
    exact ⟨rfl, mem_range.1 hnet⟩
  | _ => exact h c hc

variable (hN) in
/-- `ResetMinSimMaxAndQueues` makes tables of the size of the circuit with empty arrays. -/
theorem run_opening_reset (tables : Tables) :
    ∃ tables', run call tables (Stage.resetMinSimMaxAndQueues.opening N hN) = some tables' ∧
      HasSizes N (fun _ => false) tables' := by
  refine ⟨_, rfl, fun q => ?_⟩
  cases q <;> exact ⟨rfl, rfl⟩

variable (hN stage) in
/-- The opening of a stage allocates the arrays it needs. -/
theorem run_opening (h : HasSizes N (fun _ => false) tables) : ∃ tables', run call tables (stage.opening N hN) = some tables' ∧
      HasSizes N stage.allocated tables' := by
  cases stage with
  | resetMinSimMaxAndQueues => exact run_opening_reset hN tables
  | resetMinMaxPower =>
    refine ⟨_, rfl, fun q => ?_⟩
    cases q with
    | simQueue => exact h .simQueue
    | maxQueue => exact ⟨(h .maxQueue).1, (h .maxQueue).1⟩
    | minQueue => exact ⟨(h .minQueue).1, (h .minQueue).1⟩
  | setSimPower =>
    refine ⟨_, rfl, fun q => ?_⟩
    cases q with
    | simQueue => exact ⟨(h .simQueue).1, (h .simQueue).1⟩
    | maxQueue => exact h .maxQueue
    | minQueue => exact h .minQueue
  | shortNonConductingResistors | setResistorVoltagesByPower | checks => exact ⟨tables, rfl, h⟩

/-- The closing of a stage empties them. -/
theorem run_closing (h : HasSizes N stage.allocated tables) (hrun : run call tables stage.closing = some tables') :
    HasSizes N (fun _ => false) tables' := by
  cases stage with
  | resetMinMaxPower =>
    obtain rfl := some.inj hrun
    intro q
    cases q with
    | simQueue => exact h .simQueue
    | maxQueue => exact ⟨(h .maxQueue).1, rfl⟩
    | minQueue => exact ⟨(h .minQueue).1, rfl⟩
  | setSimPower =>
    obtain rfl := some.inj hrun
    intro q
    cases q with
    | simQueue => exact ⟨(h .simQueue).1, rfl⟩
    | maxQueue => exact h .maxQueue
    | minQueue => exact h .minQueue
  | resetMinSimMaxAndQueues | shortNonConductingResistors | setResistorVoltagesByPower | checks => exact some.inj hrun ▸ h

/-- Calls that change the size of an array access no entry. -/
theorem always_of_accesses {l : List (EventQueueType × TableCall)} (h : ∀ c ∈ l, ∀ v : CVirtualNetVector, v.accesses c.2 = []) :
    Always call Tables.InBounds tables l := by
  refine always_iff.2 fun pre c post s heq _ i hi => ?_
  rw [h c (by rw [heq]; simp)] at hi
  cases hi

/-- A stage ends with empty arrays. -/
theorem HasSizes.of_calls {tables1 : Tables} (hopening : run Tables.call tables (stage.opening N hN) = some tables1)
    (h1 : HasSizes N stage.allocated tables1) (hbody : stage.Allows N body)
    (hrun : run Tables.call tables (stage.calls N hN body) = some tables') : HasSizes N (fun _ => false) tables' := by
  unfold calls at hrun
  rw [run_append, run_append, hopening, bind_some] at hrun
  obtain ⟨tables2, hrun2, hclosing⟩ := bind_eq_some_iff.1 hrun
  exact run_closing (run_invariant (fun _ _ _ hc hs hcall => hs.call (hbody.call hc) hcall) h1 hrun2) hclosing

/-- The arrays are empty after any number of stages. -/
theorem HasSizes.of_stages {stages : List (Stage × List (EventQueueType × TableCall))} (h : HasSizes N (fun _ => false) tables)
    (hstages : ∀ stage ∈ stages, stage.1.Allows N stage.2)
    (hrun : run Tables.call tables (runCalls N hN stages) = some tables') : HasSizes N (fun _ => false) tables' := by
  induction stages generalizing tables with
  | nil => exact some.inj hrun ▸ h
  | cons stage stages ih =>
    unfold runCalls at hrun
    rw [flatMap_cons, run_append] at hrun
    obtain ⟨tables1, hrun1, hrest⟩ := bind_eq_some_iff.1 hrun
    obtain ⟨_, hopening, h1⟩ := run_opening hN stage.1 h
    exact ih (.of_calls hopening h1 (hstages stage mem_cons_self) hrun1) (fun s hs => hstages s (mem_cons_of_mem stage hs)) hrest

variable (netCount_le) in
/-- A stage comes to a link set that stores its link. -/
def StoresLink (stage : Stage) (tables : Tables) (body : List (EventQueueType × TableCall)) : Prop :=
  ∃ pre c post tables', body = pre ++ c :: post ∧
    run Tables.call tables (stage.opening netCount netCount_le ++ pre) = some tables' ∧ Stores tables' c

/-- The accesses of a stage are in bounds if those between its opening and its closing are. -/
theorem always_calls_iff {tables1 : Tables} (hopening : run call tables (stage.opening N hN) = some tables1) :
    Always call Tables.InBounds tables (stage.calls N hN body) ↔ Always call Tables.InBounds tables1 body := by
  unfold calls
  rw [always_append, always_append, hopening]
  constructor
  · rintro ⟨⟨-, h⟩, -⟩
    exact h tables1 rfl
  · intro h
    refine ⟨⟨always_of_accesses ?_, ?_⟩, fun _ _ => always_of_accesses ?_⟩
    · cases stage <;> simp [opening, CVirtualNetVector.accesses]
    · rintro _ ⟨⟩
      exact h
    · cases stage <;> simp [closing, CVirtualNetVector.accesses]

/-- With empty arrays a stage is in bounds until it stores a link. -/
theorem always_iff_of_empty {tables1 : Tables} (hopening : run call tables (stage.opening N hN) = some tables1)
    (h1 : HasSizes N (fun _ => false) tables1) (hbody : stage.Allows N body) :
    Always call Tables.InBounds tables (stage.calls N hN body) ↔ ¬stage.StoresLink hN tables body := by
  have hsizes : ∀ {pre c post s}, body = pre ++ c :: post → run call tables1 pre = some s → (s.InBounds c ↔ ¬Stores s c) := by
    intro pre c post s heq hrun
    refine inBounds_iff_of_empty ?_ (hbody.call (by rw [heq]; simp))
    exact run_invariant (fun _ _ _ hc hs hcall => hs.call (hbody.call (by rw [heq]; simp [hc])) hcall) h1 hrun
  rw [always_calls_iff hopening, always_iff]
  constructor
  · rintro h ⟨pre, c, post, s, heq, hrun, hstores⟩
    rw [run_append, hopening] at hrun
    exact (hsizes heq hrun).1 (h pre c post s heq hrun) hstores
  · intro h pre c post s heq hrun
    refine (hsizes heq hrun).2 fun hstores => h ⟨pre, c, post, s, heq, ?_, hstores⟩
    rw [run_append, hopening]
    exact hrun

theorem storesLink_reset (tables : Tables) : Stage.resetMinSimMaxAndQueues.StoresLink hN tables (resetLoop N) ↔ 0 < N := by
  constructor
  · rintro ⟨pre, c, post, s, heq, -, -⟩
    have hc : c ∈ resetLoop N := by rw [heq]; simp
    obtain ⟨net, hnet, -⟩ := mem_flatMap.1 hc
    exact Nat.lt_of_le_of_lt (Nat.zero_le net) (mem_range.1 hnet)
  · intro hpos
    obtain ⟨tables', hopening, -⟩ := run_opening_reset hN tables
    obtain ⟨n, rfl⟩ : ∃ n, N = n + 1 := ⟨N - 1, by omega⟩
    obtain ⟨f, R, hset⟩ := (tables' .minQueue).set_self 0 0 0
    have hstores : Stores tables' (.minQueue, .set 0 0 0 0) := ⟨by simp [CVirtualNetVector.linksBack], by rw [hset]; rfl⟩
    have hloop : ∃ rest, resetLoop (n + 1) = (.minQueue, .set 0 0 0 0) :: rest := by
      rw [resetLoop, range_succ_eq_map]
      exact ⟨_, rfl⟩
    obtain ⟨rest, hrest⟩ := hloop
    exact ⟨[], _, rest, tables', hrest, by rw [append_nil]; exact hopening, hstores⟩

/-- After any number of stages, the accesses of the next stage are in bounds exactly if it allocates its arrays or stores no link;
those of `ResetMinSimMaxAndQueues`, with which a run starts, only in a circuit without nets. -/
theorem accesses_inBounds_iff (netCount : Nat) (netCount_le : netCount ≤ unknownNet)
    (stages : List (Stage × List (EventQueueType × TableCall))) (hstages : ∀ stage ∈ stages, stage.1.Allows netCount stage.2)
    (tables : Tables) (hrun : run Tables.call Tables.empty
      (runCalls netCount netCount_le ((.resetMinSimMaxAndQueues, resetLoop netCount) :: stages)) = some tables)
    (stage : Stage) (body : List (EventQueueType × TableCall)) (hbody : stage.Allows netCount body) :
    (Always Tables.call Tables.InBounds tables (stage.calls netCount netCount_le body) ↔
      stage.allocates = true ∨ ¬stage.StoresLink netCount_le tables body) ∧
    (Always Tables.call Tables.InBounds Tables.empty
      (Stage.resetMinSimMaxAndQueues.calls netCount netCount_le (resetLoop netCount)) ↔ netCount = 0) := by
  constructor
  · have h : HasSizes netCount (fun _ => false) tables := by
      unfold runCalls at hrun
      rw [flatMap_cons, run_append] at hrun
      obtain ⟨tables1, hreset, hrest⟩ := bind_eq_some_iff.1 hrun
      obtain ⟨_, hopening, h1⟩ := run_opening_reset netCount_le .empty
      exact (HasSizes.of_calls hopening h1 rfl hreset).of_stages hstages hrest
    obtain ⟨tables1, hopening, h1⟩ := run_opening netCount_le stage h
    cases halloc : stage.allocates with
    | true =>
      have hlinks : stage.allocated = stage.links := by
        funext queue
        rw [allocated, halloc, Bool.true_and]
      rw [hlinks] at h1
      refine iff_of_true ((always_calls_iff hopening).2 ?_) (.inl rfl)
      exact always_of_invariant (fun _ _ hc hs => inBounds_of_allocated hs (hbody.call hc))
        (fun _ _ _ hc hs hcall => hs.call (hbody.call hc) hcall) h1
    | false =>
      have hnone : stage.allocated = fun _ => false := by
        funext queue
        rw [allocated, halloc, Bool.false_and]
      rw [hnone] at h1
      rw [always_iff_of_empty hopening h1 hbody]
      simp
  · obtain ⟨tables1, hopening, h1⟩ := run_opening_reset netCount_le .empty
    rw [always_iff_of_empty hopening h1 rfl, storesLink_reset]
    omega

/-- A circuit of one net: after the reset, `SetSimPower` allocates the array that its link is stored in. -/
theorem oneNet_setSimPower_inBounds :
    ∃ tables, run call empty (runCalls 1 (by decide) [(.resetMinSimMaxAndQueues, resetLoop 1)]) = some tables ∧
    Always call Tables.InBounds tables (Stage.setSimPower.calls 1 (by decide)
      [(.simQueue, .set 0 0 5 0), (.minQueue, .read 0)]) := by
  have hrun : (run call empty (runCalls 1 (by decide) [(.resetMinSimMaxAndQueues, resetLoop 1)])).isSome = true := by
    decide +kernel
  obtain ⟨tables, htables⟩ := isSome_iff_exists.1 hrun
  have hbody : Stage.setSimPower.Allows 1 [(.simQueue, .set 0 0 5 0), (.minQueue, .read 0)] := by
    intro c hc
    rcases mem_cons.1 hc with rfl | hc
    · exact ⟨rfl, Nat.one_pos⟩
    · rw [mem_singleton.1 hc]
      exact .inl Nat.one_pos
  exact ⟨tables, htables,
    (accesses_inBounds_iff 1 (by decide) [] (fun _ h => by cases h) tables htables _ _ hbody).1.2 (.inl rfl)⟩

/-- The first `Set` of `ResetMinSimMaxAndQueues` writes past the end of an empty array. -/
theorem oneNet_outOfBounds :
    ¬Always call Tables.InBounds empty (Stage.resetMinSimMaxAndQueues.calls 1 (by decide) (resetLoop 1)) := by
  obtain ⟨tables1, hopening, h1⟩ := run_opening_reset (by decide : 1 ≤ unknownNet) .empty
  rw [always_iff_of_empty hopening h1 rfl, storesLink_reset]
  exact fun h => h Nat.one_pos

end Stage
end Cvc
