import Cvc.Lemmas.Library
import Cvc.NetState

/-!
# Libraries that cannot be linked

The recursion of `CountObjectsAndLinkSubcircuits` comes to an end exactly if it does not come back to a circuit whose loop is not
done: `linked` is set at the end of the loop, so nothing stops a circuit that calls itself. In a library without such calls the
totals of the top circuit are those of its full expansion modulo `2 ^ 32`, and the test for a design that is too large only sees
the rest.
-/

namespace Cvc

open Relation Paths List Option Nat

theorem isWrap_uint32 : IsWrap uint32 := ⟨fun a b => mod_add_mod a (2 ^ 32) b⟩

namespace Library

variable {lib : Library} {wrap : Nat → Nat} {name x z : Nat} {counts s : Nat → CircuitCounts}

/-! ## Circuits that call themselves -/

theorem not_clean_of_cycle (hz : TransGen lib.Enters z z) (hx : ReflTransGen lib.Enters x z) : ¬lib.Clean x := by
  intro hclean
  have hreach : ReflTransGen lib.Calls x z := .mono (fun _ _ h => Enters.calls h) x z hx
  exact (hclean.reaches hreach).not_transGen (.mono (fun _ _ h => Enters.calls h) z z hz)

theorem Consistent.unlinked (hs : lib.Consistent wrap s) (hx : ¬lib.Clean x) : (s x).linked = false :=
  Bool.eq_false_iff.2 fun hlinked => hx (hs x hlinked).1

/-- The call of a clean circuit, made by a circuit that is not clean, returns or goes below the depth. -/
theorem linkSubcircuit_clean (hwrap : IsWrap wrap) (depth : Nat) {d : CDevice} (hs : lib.Consistent wrap s)
    (hname : ¬lib.Clean name)
    (hclean : lib.Clean d.masterName) (hports : lib.PortsMatch d) :
    Outcome (lib.linkSubcircuit wrap (lib.countInstantiations wrap depth)
      (lib.countObjectsAndLinkSubcircuits wrap depth) name s d)
      (lib.Consistent wrap) (· = .undefined) := by
  unfold linkSubcircuit
  obtain ⟨child, hchild⟩ := isSome_iff_exists.1 hclean.found
  rw [hchild]
  refine .bind (P := lib.Consistent wrap) ?_ fun s' hs' => ?_
  · refine .ite (fun hlinked => .ite (fun _ => ?_) fun _ => hs) fun hunlinked => ?_
    · exact (countInstantiations_outcome depth hs hlinked).mono (fun _ h => hs.of_sameObjects h.same) fun _ h => h.1
    refine (countObjectsAndLinkSubcircuits_outcome hwrap depth hs (Bool.eq_false_iff.2 hunlinked) hclean.found).mono
      (fun _ h => h.consistent) fun e he => ?_
    rcases he with ⟨he, -⟩ | ⟨hnot, -⟩
    · exact he
    · exact absurd hclean hnot
  · rw [← circuit_eq hchild]
    refine .ite (fun hmismatch => absurd hports hmismatch) fun _ => ?_
    have hcount := hs'.of_sameObjects (sameObjects_countInstance wrap s' d.masterName)
    exact .pure (hcount.update (hcount.unlinked hname) (hcount.unlinked hname))

/-- From a circuit that enters a cycle, linking goes below every depth. -/
theorem countObjectsAndLinkSubcircuits_of_cycle (hwrap : IsWrap wrap) (hz : TransGen lib.Enters z z) (depth : Nat)
    (hs : lib.Consistent wrap counts) (hx : ReflTransGen lib.Enters x z) :
    lib.countObjectsAndLinkSubcircuits wrap depth x counts = .error .undefined := by
  suffices h : Outcome (lib.countObjectsAndLinkSubcircuits wrap depth x counts) (fun _ => False) (· = .undefined) by
    cases hrun : lib.countObjectsAndLinkSubcircuits wrap depth x counts with
    | ok counts' => exact (h.of_ok hrun).elim
    | error e => rw [h.of_error hrun]
  induction depth generalizing x counts with
  | zero => exact rfl
  | succ depth ih =>
    have hclean := not_clean_of_cycle hz hx
    obtain ⟨y, ⟨pre, d, post, hcalls, rfl, hfound, hpre⟩, hy⟩ := exists_step_of_cycle hx hz
    have hown : lib.Consistent wrap (lib.ownCounts wrap counts x) := hs.update (hs.unlinked hclean) (hs.unlinked hclean)
    refine .bind (P := fun _ => False) ?_ fun _ h => h.elim
    rw [hcalls, foldlM_append]
    refine .bind (P := lib.Consistent wrap)
      (.foldlM (I := fun _ => lib.Consistent wrap) hown fun p e q heq s hs => ?_) fun s hs => ?_
    · have he : e ∈ pre := by rw [heq]; simp
      exact linkSubcircuit_clean hwrap depth hs hclean (hpre e he).1 (hpre e he).2
    -- the call that leads to the cycle: its master is not linked, as it is not clean
    refine .bind (P := fun _ => False) ?_ fun _ h => h.elim
    unfold linkSubcircuit
    obtain ⟨child, hchild⟩ := isSome_iff_exists.1 hfound
    rw [hchild, hs.unlinked (not_clean_of_cycle hz hy)]
    exact .bind (ih hs hy) fun _ h => h.elim

/-- The recursion comes to an end exactly if it does not come to a cycle. -/
theorem exists_linkTop_ne_iff (hwrap : IsWrap wrap) (hfin : lib.IsFinite) :
    (∃ depth, lib.linkTop wrap depth ≠ .error .undefined) ↔ NoCycleFrom lib.Enters lib.topBlock := by
  obtain ⟨names, hnames⟩ := hfin
  have hmem : ∀ a b, lib.Enters a b → b ∈ names := by
    rintro a b ⟨_, _, _, _, _, hfound, _⟩
    exact hnames b hfound
  constructor
  · rintro ⟨depth, hdepth⟩ z hx hz
    apply hdepth
    have hrun := countObjectsAndLinkSubcircuits_of_cycle hwrap hz depth (consistent_init lib wrap) hx
    cases hfound : lib.circuitNameMap lib.topBlock with
    | none =>
      obtain ⟨y, ⟨pre, d, post, hcalls, -⟩, -⟩ := exists_step_of_cycle hx hz
      rw [circuit, hfound] at hcalls
      simp at hcalls
    | some c =>
      rw [linkTop_of_found hfound, hrun]
      rfl
  · intro h
    obtain ⟨depth, hdepth⟩ := (exists_not_deep_iff hmem).2 h
    refine ⟨depth, ?_⟩
    cases hfound : lib.circuitNameMap lib.topBlock with
    | none =>
      rw [linkTop_of_not_found hfound]
      rintro ⟨⟩
    | some c =>
      have hout := countObjectsAndLinkSubcircuits_outcome hwrap depth (consistent_init lib wrap) rfl (by rw [hfound]; rfl)
      rw [linkTop_of_found hfound]
      cases hrun : lib.countObjectsAndLinkSubcircuits wrap depth lib.topBlock fun _ => {} with
      | ok counts =>
        show lib.checkSize (lib.addTop wrap c.portCount counts) ≠ _
        unfold checkSize
        simp only
        split <;> rintro ⟨⟩
      | error e =>
        rcases hout.of_error hrun with ⟨-, hdeep⟩ | ⟨-, message, rfl, -⟩
        · exact absurd hdeep hdepth
        · rintro ⟨⟩

variable {rank : Nat → Nat}

/-- Linking a library whose calls have ranks raises the error about the size exactly if the library is clean and one of the
counters at the top is above its limit. -/
theorem exists_linkTop_dataSize_iff (hwrap : IsWrap wrap) (hfin : lib.IsFinite) (hrank : lib.Ranked rank) :
    (∃ depth, lib.linkTop wrap depth = .error (.eFatalError dataSizeMessage)) ↔
      lib.Clean lib.topBlock ∧ ∃ kind, maxCount kind < wrap (lib.flatCount rank kind) := by
  have hout : ∀ depth c, lib.circuitNameMap lib.topBlock = some c → Outcome (lib.linkTop wrap depth)
      (fun _ => ∀ kind, wrap (lib.flatCount rank kind) ≤ maxCount kind)
      fun e => e = .undefined ∨
        (e = .eFatalError dataSizeMessage ∧ lib.Clean lib.topBlock ∧ ∃ kind, maxCount kind < wrap (lib.flatCount rank kind)) ∨
        (e ≠ .eFatalError dataSizeMessage ∧ ¬lib.Clean lib.topBlock) := by
    intro depth c hfound
    rw [linkTop_of_found hfound, ← circuit_eq hfound]
    have hlink := countObjectsAndLinkSubcircuits_outcome hwrap depth (consistent_init lib wrap) rfl (by rw [hfound]; rfl)
    refine .bind (hlink.mono (fun _ h => h) fun e he => ?_) fun s hs => ?_
    · rcases he with ⟨he, -⟩ | ⟨hclean, message, rfl, hne⟩
      · exact .inl he
      · exact .inr (.inr ⟨fun h => hne (Failure.eFatalError.inj h), hclean⟩)
    · exact (checkSize_outcome hwrap hrank hs.consistent hs.linked).mono (fun _ h => h.2) fun e he =>
        .inr (.inl ⟨he.1, hs.clean, he.2⟩)
  have hcycle : NoCycleFrom lib.Enters lib.topBlock := by
    have hlt : ∀ a b, TransGen lib.Enters a b → rank b < rank a := by
      intro a b hab
      induction hab with
      | single h =>
        obtain ⟨d, hd, rfl⟩ := Enters.calls h
        exact hrank _ d hd
      | tail _ h ih =>
        obtain ⟨d, hd, rfl⟩ := Enters.calls h
        exact lt_trans (hrank _ d hd) ih
    exact fun x _ hx => lt_irrefl _ (hlt x x hx)
  constructor
  · rintro ⟨depth, hrun⟩
    cases hfound : lib.circuitNameMap lib.topBlock with
    | none =>
      rw [linkTop_of_not_found hfound] at hrun
      have h : ("could not find subcircuit: " : String).toList.head? = some 'c' := by decide +kernel
      exact absurd (Failure.eFatalError.inj (Except.error.inj hrun)) (ne_dataSizeMessage (head_append h _) (by decide))
    | some c =>
      rcases (hout depth c hfound).of_error hrun with h | h | h
      · nomatch h
      · exact h.2
      · exact absurd rfl h.1
  · rintro ⟨hclean, kind, hkind⟩
    obtain ⟨c, hfound⟩ := isSome_iff_exists.1 hclean.found
    obtain ⟨depth, hdepth⟩ := (exists_linkTop_ne_iff hwrap hfin).2 hcycle
    refine ⟨depth, ?_⟩
    cases hrun : lib.linkTop wrap depth with
    | ok counts => exact absurd ((hout depth c hfound).of_ok hrun kind) (not_le.2 hkind)
    | error e =>
      rcases (hout depth c hfound).of_error hrun with rfl | h | h
      · exact absurd hrun hdepth
      · rw [h.1]
      · exact absurd hclean h.2

theorem maxCount_lt_uint32_iff (kind : ObjectKind) (n : Nat) : maxCount kind < uint32 n ↔ n % 2 ^ 32 = 2 ^ 32 - 1 := by
  have hmax : maxCount kind = 2 ^ 32 - 2 := by cases kind <;> rfl
  unfold uint32
  omega

/-- Linking comes to an end exactly if it does not come back to a circuit whose calls are not done, and in a library without
circuits that call themselves a design that is too large is rejected as such exactly if the library is clean and one of its totals
is `2 ^ 32 - 1` modulo `2 ^ 32`. -/
theorem linking_rejects_iff (lib : Library) (hfin : lib.IsFinite) :
    ((∃ depth, lib.linkTop uint32 depth ≠ .error .undefined) ↔ NoCycleFrom lib.Enters lib.topBlock) ∧
    ∀ rank, lib.Ranked rank →
      (((∃ kind, maxCount kind < lib.flatCount rank kind) →
          ∃ depth, lib.linkTop uint32 depth = .error (.eFatalError dataSizeMessage)) ↔
        ((∃ kind, maxCount kind < lib.flatCount rank kind) →
          lib.Clean lib.topBlock ∧ ∃ kind, lib.flatCount rank kind % 2 ^ 32 = 2 ^ 32 - 1)) := by
  refine ⟨exists_linkTop_ne_iff isWrap_uint32 hfin, fun rank hrank => ?_⟩
  rw [exists_linkTop_dataSize_iff isWrap_uint32 hfin hrank]
  simp only [maxCount_lt_uint32_iff]

/-! ### A circuit that calls itself, and 65536 calls of a circuit with 65536 devices -/

def selfCalling : Library where
  text := toString
  circuitNameMap name := if name = 0 then some { subcircuitPtrV := [⟨0, [], 0⟩] } else none
  topBlock := 0
  wellFormed name c hc := by
    split at hc
    · obtain rfl := some.inj hc
      decide
    · nomatch hc

/-- The devices of a circuit, or the calls of the circuit 0, between two nets. -/
def square.objects (n : Nat) : List CDevice := (List.range n).map fun i => ⟨i, [0, 1], 0⟩

/-- The circuit with the devices, and the top circuit with as many calls. -/
def square.circuits (n : Nat) : Nat → Option CCircuit
  | 0 => some { portCount := 2, localSignalIdMap := [0, 1], devicePtrV := square.objects n }
  | 1 => some { portCount := 2, localSignalIdMap := [0, 1], subcircuitPtrV := square.objects n }
  | _ => none

theorem square.signals_eq {n : Nat} {d : CDevice} (hd : d ∈ square.objects n) : d.signalIdV = [0, 1] ∧ d.masterName = 0 := by
  obtain ⟨i, -, rfl⟩ := mem_map.1 hd
  exact ⟨rfl, rfl⟩

/-- As many calls as each has devices. -/
def square (n : Nat) : Library where
  text := toString
  circuitNameMap := square.circuits n
  topBlock := 1
  wellFormed name c hc := by
    have hlt : ∀ d ∈ square.objects n, ∀ i ∈ d.signalIdV, i < 2 := fun d hd i hi => by
      rw [(square.signals_eq hd).1] at hi
      simp only [List.mem_cons, List.not_mem_nil, or_false] at hi
      omega
    match name with
    | 0 =>
      obtain rfl := some.inj hc
      exact ⟨le_refl _, hlt, nofun⟩
    | 1 =>
      obtain rfl := some.inj hc
      exact ⟨le_refl _, nofun, hlt⟩
    | name + 2 => nomatch hc

theorem square_isFinite (n : Nat) : (square n).IsFinite := by
  refine ⟨[0, 1], fun name hname => ?_⟩
  match name with
  | 0 => simp
  | 1 => simp
  | name + 2 => nomatch hname

theorem square_ranked (n : Nat) : (square n).Ranked id := by
  intro name d hd
  match name with
  | 0 => nomatch hd
  | 1 =>
    rw [(square.signals_eq hd).2]
    exact one_pos
  | name + 2 => nomatch hd

theorem square_objectsIn (n : Nat) (kind : ObjectKind) : (square n).objectsIn id kind 1 =
    ((square n).circuit 1).ownObjects kind + n * ((square n).circuit 0).ownObjects kind := by
  have hleaf : (square n).objectsIn id kind 0 = ((square n).circuit 0).ownObjects kind := objectsIn_eq (square_ranked n) kind 0
  have hcalls : (square.objects n).map (fun d => (square n).objectsIn id kind d.masterName) =
      .replicate n ((square n).circuit 0 |>.ownObjects kind) := by
    rw [← hleaf, square.objects, List.map_map]
    simp [Function.comp_def, map_const']
  rw [objectsIn_eq (square_ranked n)]
  show _ + ((square.objects n).map fun d => (square n).objectsIn id kind d.masterName).sum = _
  rw [hcalls, sum_replicate_nat]

theorem square_flatCount (n : Nat) : (square n).flatCount id .device = n * n ∧ (square n).flatCount id .net = 2 ∧
    (square n).flatCount id .subcircuit = n + 1 := by
  have hlength : (square.objects n).length = n := by rw [square.objects, length_map, length_range]
  refine ⟨?_, ?_, ?_⟩
  · show (square n).objectsIn id .device 1 = _
    rw [square_objectsIn]
    show 0 + n * (square.objects n).length = _
    rw [hlength, zero_add]
  · show (square n).objectsIn id .net 1 + 2 = _
    rw [square_objectsIn]
    rfl
  · show ((square n).expansion id 1).length = _
    rw [length_expansion (square_ranked n), square_objectsIn]
    show (square.objects n).length + n * 0 + 1 = _
    rw [hlength, mul_zero, add_zero]

theorem square_rejects_iff : (square 65536).IsFinite ∧ (square 65536).Ranked id ∧
    ((∃ depth, (square 65536).linkTop uint32 depth ≠ .error .undefined) ↔
      NoCycleFrom (square 65536).Enters (square 65536).topBlock) ∧
    (((∃ kind, maxCount kind < (square 65536).flatCount id kind) →
        ∃ depth, (square 65536).linkTop uint32 depth = .error (.eFatalError dataSizeMessage)) ↔
      ((∃ kind, maxCount kind < (square 65536).flatCount id kind) →
        (square 65536).Clean (square 65536).topBlock ∧ ∃ kind, (square 65536).flatCount id kind % 2 ^ 32 = 2 ^ 32 - 1)) :=
  ⟨square_isFinite 65536, square_ranked 65536, (linking_rejects_iff (square 65536) (square_isFinite 65536)).1,
    (linking_rejects_iff (square 65536) (square_isFinite 65536)).2 id (square_ranked 65536)⟩

/-- A circuit that calls itself is followed below every depth, and a design with `2 ^ 32` devices is not found to be too large. -/
theorem selfCalling_and_square_not_rejected :
    (∀ depth, selfCalling.linkTop uint32 depth = .error .undefined) ∧
    maxCount .device < (square 65536).flatCount id .device ∧
    ¬∃ depth, (square 65536).linkTop uint32 depth = .error (.eFatalError dataSizeMessage) := by
  obtain ⟨hdevice, hnet, hsubcircuit⟩ := square_flatCount 65536
  refine ⟨fun depth => ?_, ?_, ?_⟩
  · have hcycle : TransGen selfCalling.Enters selfCalling.topBlock selfCalling.topBlock :=
      .single ⟨[], ⟨0, [], 0⟩, [], rfl, rfl, rfl, nofun⟩
    rw [linkTop_of_found (c := { subcircuitPtrV := [⟨0, [], 0⟩] }) rfl,
      countObjectsAndLinkSubcircuits_of_cycle isWrap_uint32 hcycle depth (consistent_init _ _) .refl]
    rfl
  · rw [hdevice]
    decide
  · rw [exists_linkTop_dataSize_iff isWrap_uint32 (square_isFinite 65536) (square_ranked 65536)]
    rintro ⟨-, kind, hkind⟩
    rw [maxCount_lt_uint32_iff] at hkind
    cases kind with
    | device => rw [hdevice] at hkind; omega
    | net => rw [hnet] at hkind; omega
    | subcircuit => rw [hsubcircuit] at hkind; omega

end Library
end Cvc
