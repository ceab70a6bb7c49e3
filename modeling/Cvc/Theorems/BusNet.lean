import Cvc.BusNet
import Cvc.Lemmas.InstancePath

/-!
# Buses are expanded with one found flag

The nets that `FindUniqueNetIds` returns for a bus, against the nets of its bits in the instances. The flag that says whether a
net was found is kept from one bit to the next, so a bit without a net is an error only while no bit before it had one.
-/

namespace Cvc

open Hierarchy CCircuitPtrList List

/-- A bus: the texts around the brackets and of the two indices in them. -/
structure BusName where
  base : Text
  first : Text
  last : Text
  rest : Text
  first_digits : Scan.Digits first
  last_digits : Scan.Digits last
  base_free : ∀ c ∈ base, c ≠ '<' ∧ c ≠ ':' ∧ c ≠ '>'

namespace BusName

variable (b : BusName)

/-- The text of a bus. -/
def text : Text := b.base ++ '<' :: b.first ++ ':' :: b.last ++ '>' :: b.rest

/-- The indices of a bus. -/
def firstIndex : Nat := Scan.natOf b.first

@[inherit_doc firstIndex]
def lastIndex : Nat := Scan.natOf b.last

/-- A bit of a bus. -/
def bit (k : Int) : Text := b.base ++ '<' :: (toString k).toList ++ '>' :: b.rest

/-- The bits of a bus, from the first to the last. -/
def bits : List Text :=
  let ascending := (busIndices b.firstIndex b.lastIndex).map b.bit
  if b.firstIndex < b.lastIndex then ascending else ascending.reverse

/-- A bus has one bit more than its indices are apart. -/
theorem length_bits : b.bits.length = max b.firstIndex b.lastIndex - min b.firstIndex b.lastIndex + 1 := by
  unfold bits busIndices
  split <;> simp only [length_reverse, length_map, length_range] <;> omega

theorem bits_ne_nil : b.bits ≠ [] := by
  have := b.length_bits
  intro hnil
  rw [hnil, length_nil] at this
  omega

end BusName

/-! ## The bits of a bus -/

theorem idxOf?_append_cons {a b : Text} {c : Char} (hc : c ∉ a) : (a ++ c :: b).idxOf? c = some a.length := by
  induction a with
  | nil => simp [idxOf?_cons]
  | cons d a ih =>
    rw [mem_cons, not_or] at hc
    have hd : (d == c) = false := beq_false_of_ne fun he => hc.1 he.symm
    rw [cons_append, idxOf?_cons, hd, ih hc.2]
    rfl

theorem not_mem_of_digits {t : Text} (ht : Scan.Digits t) {c : Char} (hc : c.isDigit = false) : c ∉ t := by
  intro hm
  have := ht.isDigit c hm
  rw [hc] at this
  nomatch this

/-- A text of digits is read as its number, cut to the largest `int`. -/
theorem fromStringInt_digits {t : Text} (ht : Scan.Digits t) : fromStringInt t = .ok (min (Scan.natOf t : Int) intMax) := by
  have hread := ht.readInt_eq (s := []) nofun
  rw [append_nil] at hread
  unfold fromStringInt
  simp only [hread, dropWhile_nil]
  have hmin : intMin ≤ 0 := by decide
  by_cases hlt : intMax < (Scan.natOf t : Int)
  · rw [if_pos hlt, min_eq_right (by omega)]
    rfl
  · rw [if_neg hlt, if_neg (by omega), min_eq_left (by omega)]
    rfl

theorem textBetween_eq (a t rest : Text) (c d : Char) :
    textBetween (a ++ c :: (t ++ d :: rest)) a.length (a ++ c :: t).length = t := by
  have hdrop : (a ++ c :: (t ++ d :: rest)).drop (a.length + 1) = t ++ d :: rest := by
    rw [← drop_drop, drop_left, drop_succ_cons, drop_zero]
  have hlen : (a ++ c :: t).length - a.length - 1 = t.length := by
    simp only [length_append, length_cons]
    omega
  unfold textBetween
  rw [if_pos (by simp), hdrop, hlen, take_left]

/-- A bus is expanded to its bits; with the largest `int` as an index the loop over them overflows. -/
theorem expandBusNet_bus (b : BusName) :
    expandBusNet b.text = if (max b.firstIndex b.lastIndex : Int) < intMax then .ok b.bits else .error .undefined := by
  have hlt : '<' ∉ b.base := fun hm => (b.base_free _ hm).1 rfl
  have hcolon : ':' ∉ b.base ++ '<' :: b.first := by
    simp only [mem_append, mem_cons, not_or]
    exact ⟨fun hm => (b.base_free _ hm).2.1 rfl, by decide, not_mem_of_digits b.first_digits (by decide)⟩
  have hgt : '>' ∉ b.base ++ '<' :: b.first ++ ':' :: b.last := by
    simp only [mem_append, mem_cons, not_or]
    exact ⟨⟨fun hm => (b.base_free _ hm).2.2 rfl, by decide, not_mem_of_digits b.first_digits (by decide)⟩, by decide,
      not_mem_of_digits b.last_digits (by decide)⟩
  -- the text, cut at each of the three places
  have htext1 : b.text = b.base ++ '<' :: (b.first ++ ':' :: (b.last ++ '>' :: b.rest)) := by simp [BusName.text]
  have htext2 : b.text = (b.base ++ '<' :: b.first) ++ ':' :: (b.last ++ '>' :: b.rest) := by simp [BusName.text]
  have hbegin : b.text.idxOf? '<' = some b.base.length := htext1 ▸ idxOf?_append_cons hlt
  have hdelim : b.text.idxOf? ':' = some (b.base ++ '<' :: b.first).length := htext2 ▸ idxOf?_append_cons hcolon
  have hend : b.text.idxOf? '>' = some (b.base ++ '<' :: b.first ++ ':' :: b.last).length := idxOf?_append_cons hgt
  have hfirst : textBetween b.text b.base.length (b.base ++ '<' :: b.first).length = b.first := htext1 ▸ textBetween_eq ..
  have hlast : textBetween b.text (b.base ++ '<' :: b.first).length (b.base ++ '<' :: b.first ++ ':' :: b.last).length = b.last :=
    htext2 ▸ textBetween_eq ..
  have htake : b.text.take (b.base.length + 1) = b.base ++ ['<'] := by
    rw [htext1, take_length_add_append]
    rfl
  have hdrop : b.text.drop (b.base ++ '<' :: b.first ++ ':' :: b.last).length = '>' :: b.rest := drop_left
  unfold expandBusNet busBrackets
  simp only [hbegin, hdelim, hend, hfirst, hlast, fromStringInt_digits b.first_digits,
    fromStringInt_digits b.last_digits, htake, hdrop]
  show (if _ = intMax then _ else _) = _
  by_cases hmax : (max b.firstIndex b.lastIndex : Int) < intMax
  · have h1 : min (Scan.natOf b.first : Int) intMax = b.firstIndex := min_eq_left (by unfold BusName.firstIndex at hmax; omega)
    have h2 : min (Scan.natOf b.last : Int) intMax = b.lastIndex := min_eq_left (by unfold BusName.lastIndex at hmax; omega)
    have hbit : (fun k : Int => b.base ++ ['<'] ++ (toString k).toList ++ '>' :: b.rest) = b.bit := by
      funext k
      simp [BusName.bit]
    rw [h1, h2, if_neg (by omega), if_pos hmax, hbit]
    simp only [Nat.cast_lt]
    rfl
  · rw [if_neg hmax, if_pos]
    · rfl
    · unfold BusName.firstIndex BusName.lastIndex at hmax
      omega

/-! ## The nets of a bit -/

variable {h : Hierarchy} {theLimit : Nat} {counts : Nat → CircuitCounts} {names : CCircuitPtrList h} {regex : Text →
    Option (Text → Bool)}
  {db : CCvcDb} {id : List Nat → Nat} {check : Bool} {list : List Nat} {t : Text} {m : Text → Bool}

/-- A net of an instance that is not parallel: that of a signal with a name that a text matches. At the top, ports and other nets
are told apart. -/
def IsNetOf (names : CCircuitPtrList h) (db : CCvcDb) (check : Bool) (t : Text) (m : Text → Bool) (x n : Nat) : Prop :=
  ∃ (I : CInstance) (k a : Nat), db.instancePtrV x = some I ∧ I.isParallelInstance = false ∧
    (h.circuit I.masterName).localSignalIdMap[k]? = some a ∧ names.nameMatches t m a = true ∧
    I.localToGlobalNetIdV[k]? = some n ∧ h.topPortMatches check x n = true

section
variable (names) (hf : h.ListedForm db id) (check) (hlist : ∀ x ∈ list, ∃ p, h.IsNode p ∧ id p = x)
include names hf

theorem netsInInstance_spec (t : Text) (m : Text → Bool) {p : List Nat} (hp : h.IsNode p) :
    ∃ nets, names.netsInInstance db check t m (id p) = .ok nets ∧ ∀ n, n ∈ nets ↔ IsNetOf names db check t m (id p) n := by
  obtain ⟨I, hI, hmaster, -⟩ := hf.instance_eq p hp
  unfold netsInInstance IsNetOf
  simp only [hI]
  cases hpar : I.isParallelInstance with
  | true =>
    refine ⟨[], rfl, fun n => ⟨nofun, ?_⟩⟩
    rintro ⟨J, k, a, hJ, hnp, -⟩
    rw [← Option.some.inj hJ, hpar] at hnp
    nomatch hnp
  | false =>
    have hnet := hf.signal_net p I ⟨hp, hI, hpar⟩
    have hlt : ∀ {a k : Nat}, (a, k) ∈ (h.circuit I.masterName).localSignalIdMap.zipIdx → k < h.signals p := by
      intro a k hmem
      have := (List.getElem?_eq_some_iff.1 (mem_zipIdx_iff_getElem?.mp hmem)).1
      rwa [hmaster] at this
    have hmap := mapM_ok (l := (h.circuit I.masterName).localSignalIdMap.zipIdx.filter fun e => names.nameMatches t m e.1)
      (f := fun e => I.globalNet e.2) (g := fun e => I.localToGlobalNetIdV.getD e.2 0) fun e he => by
        obtain ⟨n, -, hn⟩ := hnet e.2 (hlt (mem_filter.1 he).1)
        simp [CInstance.globalNet, hn, pure, Except.pure]
    refine ⟨_, by
      simp only [Bool.false_eq_true, hmap, bind]
      rfl, fun n => ?_⟩
    simp only [mem_filter, mem_map, Prod.exists]
    constructor
    · rintro ⟨⟨a, k, ⟨hmem, hmatch⟩, rfl⟩, htop⟩
      obtain ⟨n, -, hn⟩ := hnet k (hlt hmem)
      refine ⟨I, k, a, rfl, hpar, mem_zipIdx_iff_getElem?.mp hmem, hmatch, ?_, htop⟩
      simp [hn]
    · rintro ⟨J, k, a, hJ, -, hk, hmatch, hn, htop⟩
      obtain rfl := Option.some.inj hJ
      refine ⟨⟨a, k, ⟨mem_zipIdx_iff_getElem?.mpr hk, hmatch⟩, ?_⟩, htop⟩
      simp [hn]

include hlist

/-- The nets of a bit in all instances of a list. -/
theorem mapM_netsInInstance (t : Text) (m : Text → Bool) : ∃ nets, list.mapM (names.netsInInstance db check t m) = .ok nets ∧
      ∀ n, n ∈ nets.flatten ↔ ∃ x ∈ list, IsNetOf names db check t m x n := by
  induction list with
  | nil => exact ⟨[], rfl, by simp⟩
  | cons x list ih =>
    obtain ⟨p, hp, rfl⟩ := hlist x mem_cons_self
    obtain ⟨here, hhere, hmem⟩ := netsInInstance_spec names check hf t m hp
    obtain ⟨nets, hnets, hmem'⟩ := ih fun y hy => hlist y (mem_cons_of_mem _ hy)
    refine ⟨here :: nets, ?_, fun n => ?_⟩
    · rw [mapM_cons, hhere, hnets]
      rfl
    · simp [hmem, hmem']

/-- A bit has a net in one of the instances. -/
def Resolvable (names : CCircuitPtrList h) (regex : Text → Option (Text → Bool)) (db : CCvcDb) (check : Bool) (list : List Nat)
    (t : Text) : Prop :=
  ∃ m, regex t = some m ∧ ∃ x ∈ list, ∃ n, IsNetOf names db check t m x n

/-- A set has a net of the bit. -/
def HasNetOf (names : CCircuitPtrList h) (regex : Text → Option (Text → Bool)) (db : CCvcDb) (check : Bool) (list : List Nat)
    (nets : Finset Nat) (t : Text) : Prop :=
  ∃ m, regex t = some m ∧ ∃ x ∈ list, ∃ n ∈ nets, IsNetOf names db check t m x n

/-- What the round for a bit does: it is an error when neither the bit nor one before it has a net. -/
theorem findBit_spec (hm : regex t = some m) (nets : Finset Nat) (found : Bool) :
    ∃ here : Finset Nat, (∀ n, n ∈ here ↔ ∃ x ∈ list, IsNetOf names db check t m x n) ∧
      names.findBit regex db check list (nets, found) t =
        if found = false ∧ here = ∅ then .error .outOfRange else .ok (nets ∪ here, true) := by
  obtain ⟨all, hall, hmem⟩ := mapM_netsInInstance names check hf hlist t m
  refine ⟨all.flatten.toFinset, fun n => by rw [mem_toFinset, hmem], ?_⟩
  unfold findBit
  simp only [hm, hall, bind, Except.bind]
  cases found with
  | true => simp [pure, Except.pure]
  | false =>
    by_cases hnil : all.flatten = []
    · simp [hnil, throw, throwThe, MonadExceptOf.throw]
    · simp [hnil, pure, Except.pure]

/-! ## The loop over the bits -/

/-- Behind a bit with a net, bits are never an error unless one is not a pattern: the set gets the nets that there are. -/
theorem findBits_found (bits : List Text) (nets : Finset Nat) :
    (bits.foldlM (names.findBit regex db check list) (nets, true) = .error .regexError ∧ ∃ t ∈ bits, regex t = none) ∨
    ∃ all : Finset Nat, bits.foldlM (names.findBit regex db check list) (nets, true) = .ok (all, true) ∧ nets ⊆ all ∧
      (∀ t ∈ bits, (regex t).isSome) ∧ ∀ t ∈ bits, Resolvable names regex db check list t →
        HasNetOf names regex db check list all t := by
  induction bits generalizing nets with
  | nil => exact .inr ⟨nets, rfl, Finset.Subset.refl _, by simp, by simp⟩
  | cons t bits ih =>
    rw [foldlM_cons]
    cases hm : regex t with
    | none =>
      refine .inl ⟨?_, t, mem_cons_self, hm⟩
      simp only [findBit, hm]
      rfl
    | some m =>
      obtain ⟨here, hhere, hstep⟩ := findBit_spec names check hf hlist hm nets true
      rw [hstep]
      rcases ih (nets ∪ here) with ⟨herr, u, hu, hnone⟩ | ⟨all, hall, hsub, hsome, hres⟩
      · exact .inl ⟨herr, u, mem_cons_of_mem _ hu, hnone⟩
      refine .inr ⟨all, hall, Finset.union_subset_left hsub, forall_mem_cons.2 ⟨by simp [hm], hsome⟩,
        forall_mem_cons.2 ⟨?_, hres⟩⟩
      rintro ⟨m', hm', x, hx, n, hn⟩
      obtain rfl := Option.some.inj (hm.symm.trans hm')
      exact ⟨m, hm, x, hx, n, hsub (Finset.mem_union_right _ ((hhere n).2 ⟨x, hx, hn⟩)), hn⟩

/-- What the bits of a bus lead to: an error when one of them is not a pattern or the first one has no net, and otherwise a set
with the nets of the bits that have one. -/
theorem findBits_spec (t : Text) (bits : List Text) :
    ((∃ e, (t :: bits).foldlM (names.findBit regex db check list) (∅, false) = .error e ∧ ∀ f, e ≠ .failure f) ∧
      ((∃ u ∈ t :: bits, regex u = none) ∨ ¬ Resolvable names regex db check list t)) ∨
    ∃ all : Finset Nat, (t :: bits).foldlM (names.findBit regex db check list) (∅, false) = .ok (all, true) ∧
      (∀ u ∈ t :: bits, (regex u).isSome) ∧ Resolvable names regex db check list t ∧
      ∀ u ∈ t :: bits, Resolvable names regex db check list u → HasNetOf names regex db check list all u := by
  rw [foldlM_cons]
  cases hm : regex t with
  | none =>
    refine .inl ⟨⟨.regexError, ?_, nofun⟩, .inl ⟨t, mem_cons_self, hm⟩⟩
    simp only [findBit, hm]
    rfl
  | some m =>
    obtain ⟨here, hhere, hstep⟩ := findBit_spec names check hf hlist hm ∅ false
    rw [hstep]
    by_cases hempty : here = ∅
    · rw [if_pos ⟨rfl, hempty⟩]
      refine .inl ⟨⟨.outOfRange, rfl, nofun⟩, .inr ?_⟩
      rintro ⟨m', hm', x, hx, n, hn⟩
      obtain rfl := Option.some.inj (hm.symm.trans hm')
      have := (hhere n).2 ⟨x, hx, hn⟩
      simp [hempty] at this
    · rw [if_neg (by simp [hempty])]
      obtain ⟨n, hn⟩ := Finset.nonempty_iff_ne_empty.2 hempty
      obtain ⟨x, hx, hnet⟩ := (hhere n).1 hn
      rcases findBits_found names check hf hlist bits (∅ ∪ here) with ⟨herr, u, hu, hnone⟩ | ⟨all, hall, hsub, hsome, hres⟩
      · exact .inl ⟨⟨.regexError, herr, nofun⟩, .inl ⟨u, mem_cons_of_mem _ hu, hnone⟩⟩
      · exact .inr ⟨all, hall, forall_mem_cons.2 ⟨by simp [hm], hsome⟩, ⟨m, hm, x, hx, n, hnet⟩,
          forall_mem_cons.2 ⟨fun _ => ⟨m, hm, x, hx, n, hsub (Finset.mem_union_right _ hn), hnet⟩, hres⟩⟩

/-- The lookup of a bus whose bits can be numbered. -/
theorem findSignal_bus {b : BusName} (hmax : (max b.firstIndex b.lastIndex : Int) < intMax) :
    (∃ e, names.findSignal regex db check list b.text = .error e ∧ (∀ f, e ≠ .failure f) ∧
      ((∃ t ∈ b.bits, regex t = none) ∨ ∃ t, b.bits.head? = some t ∧ ¬ Resolvable names regex db check list t)) ∨
    ∃ (t : Text) (all : Finset Nat), names.findSignal regex db check list b.text = .ok all ∧ b.bits.head? = some t ∧
      (∀ u ∈ b.bits, (regex u).isSome) ∧ Resolvable names regex db check list t ∧
      ∀ u ∈ b.bits, Resolvable names regex db check list u → HasNetOf names regex db check list all u := by
  obtain ⟨t, bits, hbits⟩ := exists_cons_of_ne_nil b.bits_ne_nil
  unfold findSignal
  rw [expandBusNet_bus, if_pos hmax, hbits]
  rcases findBits_spec names check hf hlist t bits with ⟨⟨e, he, hne⟩, hcause⟩ | ⟨all, hall, hsome, hfirst, hres⟩
  · refine .inl ⟨e, ?_, hne, hcause.imp_right fun hfirst => ⟨t, rfl, hfirst⟩⟩
    show ((t :: bits).foldlM (names.findBit regex db check list) (∅, false) >>= _) = _
    rw [he]
    rfl
  · refine .inr ⟨t, all, ?_, rfl, hsome, hfirst, hres⟩
    show ((t :: bits).foldlM (names.findBit regex db check list) (∅, false) >>= _) = _
    rw [hall]
    rfl

end

/-! ## The theorem -/

/-- `FindUniqueNetIds` returns a set with a net of each bit, or reports an error and returns the empty set. -/
def AllOrNothing (names : CCircuitPtrList h) (regex : Text → Option (Text → Bool)) (db : CCvcDb)
    (thePowerSignal : Text) (theParent : Nat)
    (list : List Nat) (b : BusName) : Prop :=
  ∃ r, names.findUniqueNetIds regex db thePowerSignal theParent = .ok r ∧
    ((∀ t ∈ b.bits, HasNetOf names regex db (b.text == thePowerSignal) list r.nets t) ∨ (r.errorReported = true ∧ r.nets = ∅))

/-- The instances that a power signal is split at are instances of the tree. -/
theorem splitSignalAt_known (names : CCircuitPtrList h) (hf : h.ListedForm db id) {thePowerSignal : Text} {q : List Nat}
    (hq : h.IsNode q) {places : List Nat} (hsplit : names.splitSignalAt regex db thePowerSignal (id q) places = .ok (list, t)) :
    ∀ x ∈ list, ∃ p, h.IsNode p ∧ id p = x := by
  induction places with
  | nil =>
    obtain ⟨found, hfound, hknown⟩ := findInstanceIds_known names regex hf [] hq
    simp only [splitSignalAt, hfound, bind, Except.bind, pure, Except.pure, Except.ok.injEq, Prod.mk.injEq] at hsplit
    exact hsplit.1 ▸ hknown
  | cons place places ih =>
    obtain ⟨found, hfound, hknown⟩ := findInstanceIds_known names regex hf (thePowerSignal.take place) hq
    simp only [splitSignalAt, hfound, bind, Except.bind] at hsplit
    split at hsplit
    · exact ih hsplit
    · simp only [pure, Except.pure, Except.ok.injEq, Prod.mk.injEq] at hsplit
      exact hsplit.1 ▸ hknown

/-- A bus is expanded all or nothing exactly when its indices are below the largest `int` and a bit is not a pattern, the first
bit has no net in any of the instances, or every bit has one. -/
theorem findUniqueNetIds_allOrNothing_iff (h : Hierarchy) (theLimit : Nat) (counts : Nat → CircuitCounts) (db : CCvcDb)
    (names : CCircuitPtrList h) (regex : Text → Option (Text → Bool)) (thePowerSignal : Text) (theParent : Nat) (list : List Nat)
    (b : BusName) (hlink : h.linkTop = .ok counts) (hok : h.assignTopGlobalIDs theLimit counts = .ok db)
    (hparent : theParent < db.subcircuitCount)
      (hsplit : names.splitSignal regex db thePowerSignal theParent = .ok (list, b.text)) :
    AllOrNothing names regex db thePowerSignal theParent list b ↔
      (max b.firstIndex b.lastIndex : Int) < intMax ∧
        ((∃ t ∈ b.bits, regex t = none) ∨
          (∃ t, b.bits.head? = some t ∧ ¬ Resolvable names regex db (b.text == thePowerSignal) list t) ∨
          ∀ t ∈ b.bits, Resolvable names regex db (b.text == thePowerSignal) list t) := by
  obtain ⟨id, hf⟩ := exists_listedForm hlink hok
  obtain ⟨q, hq, rfl⟩ := hf.id_surj theParent hparent
  have hlist := splitSignalAt_known names hf hq hsplit
  unfold AllOrNothing findUniqueNetIds
  simp only [hsplit, bind, Except.bind]
  by_cases hmax : (max b.firstIndex b.lastIndex : Int) < intMax
  · simp only [hmax, true_and]
    rcases findSignal_bus names (b.text == thePowerSignal) hf hlist hmax with
      ⟨e, he, hne, hcause⟩ | ⟨t, all, hall, ht, hsome, hfirst, hres⟩
    · constructor
      · exact fun _ => hcause.imp_right .inl
      intro _
      rw [he]
      cases e with
      | failure f => exact absurd rfl (hne f)
      | outOfRange | regexError => exact ⟨_, rfl, .inr ⟨rfl, rfl⟩⟩
    rw [hall]
    constructor
    · rintro ⟨r, hr, hwhole | ⟨hrep, -⟩⟩
      · refine .inr (.inr fun u hu => ?_)
        obtain ⟨m, hm, x, hx, n, -, hn⟩ := hwhole u hu
        exact ⟨m, hm, x, hx, n, hn⟩
      · rw [← Except.ok.inj hr] at hrep
        nomatch hrep
    · rintro (⟨u, hu, hnone⟩ | ⟨u, hu, hnot⟩ | hall')
      · have := hsome u hu
        rw [hnone] at this
        nomatch this
      · obtain rfl : t = u := Option.some.inj (ht.symm.trans hu)
        exact absurd hfirst hnot
      · exact ⟨_, rfl, .inl fun u hu => hres u hu (hall' u hu)⟩
  · simp only [hmax, false_and, iff_false]
    have hundef : names.findSignal regex db (b.text == thePowerSignal) list b.text = .error (.failure .undefined) := by
      unfold findSignal
      rw [expandBusNet_bus, if_neg hmax]
      rfl
    rw [hundef]
    rintro ⟨r, hr, -⟩
    nomatch hr

/-- A top with the ports `a<1>`, `a<0>` and `b<1>`. -/
def busPorts : Hierarchy :=
  { ofCircuits [{ portCount := 3, localSignalIdMap := [1, 2, 3] }] (by decide) (by decide) (by decide) with
    text := fun name => ["TOP", "a<1>", "a<0>", "b<1>"].getD name "" }

/-- The names of `busPorts`. -/
def busPortsNames : CCircuitPtrList busPorts := .ofRange 4 (fun _ => isName_lt (fun _ => rfl) (by decide)) (by decide +kernel)

theorem digits_one : Scan.Digits ['1'] := ⟨by simp, by simp⟩

theorem digits_zero : Scan.Digits ['0'] := ⟨by simp, by simp⟩

/-- A bus with the indices 1 and 0. -/
def twoBits (base : Char) (hbase : base ∉ ['<', ':', '>']) : BusName where
  base := [base]
  first := ['1']
  last := ['0']
  rest := []
  first_digits := digits_one
  last_digits := digits_zero
  base_free := by
    intro c hc
    rw [List.mem_singleton] at hc
    simpa [hc] using hbase

/-- The bus `a<1:0>` has both bits. -/
theorem twoBits_allOrNothing : ∃ counts db, busPorts.linkTop = .ok counts ∧ busPorts.assignTopGlobalIDs 10 counts = .ok db ∧
    AllOrNothing busPortsNames exactPattern db "a<1:0>".toList 0 [0] (twoBits 'a' (by decide)) := by
  obtain ⟨counts, db, hlink, hdb, hcount, hflat, hsplit⟩ := busPorts.exists_flat 10
    (fun db => db.subcircuitCount = 1 ∧ (db.instancePtrV 0).map (fun I => (I.masterName, I.localToGlobalNetIdV)) =
      some (0, [0, 1, 2]) ∧
      (busPortsNames.splitSignal exactPattern db "a<1:0>".toList 0).toOption = some ([0], (twoBits 'a' (by decide)).text))
    (by decide +kernel)
  obtain ⟨I, hI, hfields⟩ := Option.map_eq_some_iff.1 hflat
  obtain ⟨hmaster, hnets⟩ := Prod.mk.inj hfields
  have hnet : ∀ k n a : Nat, [1, 2, 3][k]? = some a → [0, 1, 2][k]? = some n → busPorts.topPortMatches true 0 n = true →
      IsNetOf busPortsNames db true (busPorts.chars a) (· == busPorts.chars a) 0 n := by
    intro k n a ha hn htop
    refine ⟨I, k, a, hI, by simp [CInstance.isParallelInstance, hnets], ?_, ?_, hnets ▸ hn, htop⟩
    · rw [hmaster]
      exact ha
    · unfold nameMatches
      split
      · rename_i b hb
        have hmem : a ∈ [1, 2, 3] := mem_of_getElem? ha
        have hname := busPortsNames.address_of_name a (.signal (show busPorts.circuitNameMap 0 = some _ from rfl) hmem)
        rw [getTextAddress, hname] at hb
        simpa using Option.some.inj hb
      · simp
  refine ⟨counts, db, hlink, hdb,
    (findUniqueNetIds_allOrNothing_iff busPorts 10 counts db busPortsNames exactPattern _ 0 [0] _ hlink hdb
    (by omega) (eq_ok_of_toOption hsplit)).2 ⟨by decide, .inr (.inr fun t ht => ?_)⟩⟩
  have hbits : (twoBits 'a' (by decide)).bits = [busPorts.chars 1, busPorts.chars 2] := by decide +kernel
  have hcheck : ((twoBits 'a' (by decide)).text == "a<1:0>".toList) = true := by decide +kernel
  rw [hbits] at ht
  simp only [mem_cons, not_mem_nil, or_false] at ht
  rcases ht with rfl | rfl
  · exact ⟨_, rfl, 0, mem_singleton.2 rfl, 0, hnet 0 0 1 rfl rfl (by decide)⟩
  · exact ⟨_, rfl, 0, mem_singleton.2 rfl, 1, hnet 1 1 2 rfl rfl (by decide)⟩

/-- Of the bus `b<1:0>` only the first bit has a net, and it is accepted without an error. -/
theorem twoBits_not_allOrNothing : ∃ counts db, busPorts.linkTop = .ok counts ∧ busPorts.assignTopGlobalIDs 10 counts = .ok db ∧
    busPortsNames.splitSignal exactPattern db "b<1:0>".toList 0 = .ok ([0], (twoBits 'b' (by decide)).text) ∧
    (∃ r, busPortsNames.findUniqueNetIds exactPattern db "b<1:0>".toList 0 = .ok r ∧ r.nets = {2} ∧ r.errorReported = false) ∧
    ¬ AllOrNothing busPortsNames exactPattern db "b<1:0>".toList 0 [0] (twoBits 'b' (by decide)) := by
  obtain ⟨counts, db, hlink, hdb, hsplit, hnets⟩ := busPorts.exists_flat 10
    (fun db => (busPortsNames.splitSignal exactPattern db "b<1:0>".toList 0).toOption =
      some ([0], (twoBits 'b' (by decide)).text) ∧
      (busPortsNames.findUniqueNetIds exactPattern db "b<1:0>".toList 0).toOption.map (fun r => (r.nets, r.errorReported)) =
        some ({2}, false)) (by decide +kernel)
  obtain ⟨r, hr, hset⟩ := Option.map_eq_some_iff.1 hnets
  have hr := eq_ok_of_toOption hr
  rw [Prod.mk.injEq] at hset
  refine ⟨counts, db, hlink, hdb, eq_ok_of_toOption hsplit, ⟨r, hr, hset.1, hset.2⟩, ?_⟩
  rintro ⟨r', hr', hwhole | ⟨hrep, -⟩⟩
  · -- no signal has the name of the second bit
    have hbit : ['b', '<', '0', '>'] ∈ (twoBits 'b' (by decide)).bits := by decide +kernel
    obtain ⟨m, hm, x, hx, n, -, I, k, a, hI, -, hk, hmatch, -⟩ := hwhole _ hbit
    obtain rfl := Option.some.inj hm
    have hlt : a < 4 := by
      have hcircuit := ne_nil_of_mem (mem_of_getElem? hk)
      cases hc : busPorts.circuitNameMap I.masterName with
      | none => simp [Library.circuit, hc] at hcircuit
      | some c =>
        rw [Library.circuit_eq hc] at hk
        exact isName_lt (fun _ => rfl) (by decide) (.signal hc (mem_of_getElem? hk))
    have hnone : ∀ a < 4, busPortsNames.nameMatches ['b', '<', '0', '>'] (· == ['b', '<', '0', '>']) a = false := by
      decide +kernel
    rw [hnone a hlt] at hmatch
    nomatch hmatch
  · obtain rfl := Except.ok.inj (hr.symm.trans hr')
    rw [hset.2] at hrep
    nomatch hrep

end Cvc
