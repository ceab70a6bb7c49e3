import Cvc.Lemmas.SetPower
import Cvc.Theorems.BusNet

/-!
# Duplicate power definitions

Definitions of a net with one type and family that never give two values for a field should be merged: the power of the net has
every value that one of them gives, in whatever order they stand in the power file. That is so for the voltages. An expected value
that the first definition of a net does not give is lost, because it is assigned to the copy that an accessor returns.
-/

namespace Cvc

open List

namespace PowerSettings

/-- The value that the power of a net gives for a field. -/
def givenAt (s : PowerSettings) (n : Nat) (f : PowerField) : Option (Int ⊕ Text) :=
    (s.netVoltagePtr n).bind fun p => (s.power p).given f

theorem givenAt_eq_stored (s : PowerSettings) (n : Nat) (f : PowerField) : s.givenAt n f = (s.stored n).bind (·.given f) := by
  cases hp : s.netVoltagePtr n <;> simp [givenAt, stored, hp]

end PowerSettings

section
variable {h : Hierarchy} (names : CCircuitPtrList h) (regex : Text → Option (Text → Bool)) (db : CCvcDb)
  {defs order : List CPower}

open CPower CCircuitPtrList

/-- The definitions of a power list are merged at a net: no error is reported, the power of the net gives a value exactly when one
of the definitions that name the net does, and it gives the same ones for every order of the list. -/
structure Merged (definitions : List CPower) (n : Nat) : Prop where
  carries : ∃ t, names.setModePower regex db definitions = .ok (t, false) ∧
    ∀ f v, t.givenAt n f = some v ↔ ∃ d ∈ names.named regex db definitions n, d.given f = some v
  same : ∀ order : List CPower, order.Perm definitions → ∃ t u, names.setModePower regex db definitions = .ok (t, false) ∧
    names.setModePower regex db order = .ok (u, false) ∧ ∀ f, u.givenAt n f = t.givenAt n f

/-- A definition leaves no value of another one out: it gives the value itself, or it is a voltage that a definition with another
text gives. -/
def Covers (definitions : List CPower) (n : Nat) (d : CPower) (f : PowerField) (v : Int ⊕ Text) : Prop :=
  d.given f = some v ∨
    f.isVoltage = true ∧ ∃ e ∈ names.named regex db definitions n, e.definition ≠ d.definition ∧ e.given f = some v

variable {names regex db}

section
variable (hagreeing : names.Agreeing regex db defs)
include hagreeing

/-- The values at a net, for a list in which a definition is the first one that names the net. -/
theorem givenAt_setModePower : ∃ t, names.setModePower regex db defs = .ok (t, false) ∧ ∀ n f v,
      (t.givenAt n f = some v → ∃ d ∈ names.named regex db defs n, d.given f = some v) ∧
      ∀ d rest, names.named regex db defs n = d :: rest →
        (t.givenAt n f = some v ↔ d.given f = some v ∨ f.isVoltage = true ∧ ∃ e ∈ rest, e.definition ≠ d.definition ∧
          e.given f = some v) := by
  obtain ⟨⟨t, error⟩, ht, hread⟩ := read_setModePower hagreeing
  obtain rfl : error = false := hread.error_eq
  have hstored : ∀ n, t.stored n = mergeAll ((names.named regex db defs n).map defined) := fun n => by
    simpa using hread.stored_eq n
  refine ⟨t, ht, fun n f v => ?_⟩
  rw [t.givenAt_eq_stored, hstored]
  constructor
  · intro hv
    cases hnamed : names.named regex db defs n with
    | nil => simp [hnamed, mergeAll] at hv
    | cons d rest =>
      simp only [hnamed, map_cons, mergeAll] at hv
      obtain ⟨e, he, hv⟩ := (foldl_mergeInto_kept d.defined (rest.map defined)).2.2.2 f v hv
      rw [← map_cons (f := defined)] at he
      obtain ⟨e0, he0, rfl⟩ := mem_map.1 he
      exact ⟨e0, he0, by simpa using hv⟩
  · intro d rest hnamed
    have hagree : ∀ e ∈ d.defined :: rest.map defined, ∀ e' ∈ d.defined :: rest.map defined, e.Agrees e' := by
      intro e he e' he'
      rw [← map_cons (f := defined)] at he he'
      obtain ⟨e0, he0, rfl⟩ := mem_map.1 he
      obtain ⟨e1, he1, rfl⟩ := mem_map.1 he'
      exact (hagreeing.agrees n e0 (hnamed ▸ he0) e1 (hnamed ▸ he1)).defined
    simp only [hnamed, map_cons, mergeAll, Option.bind_some, given_foldl_mergeInto hagree f v]
    simp

/-- The order of a power list has no part in which definitions name a net. -/
theorem Agreeing.perm (hperm : order.Perm defs) : names.Agreeing regex db order := by
  have hnamed : ∀ n, ∀ d ∈ names.named regex db order n, d ∈ names.named regex db defs n := fun n d hd =>
    mem_named.2 ⟨hperm.mem_iff.1 (mem_named.1 hd).1, (mem_named.1 hd).2⟩
  exact ⟨fun d hd => hagreeing.nets_ne d (hperm.mem_iff.1 hd),
    fun n d hd e he => hagreeing.agrees n d (hnamed n d hd) e (hnamed n e he)⟩

/-- If the definitions of a net cover each other, the power of the net gives what they give, for every order of the power list. -/
theorem carries_of_covers (hperm : order.Perm defs)
    {n : Nat} (hcovers : ∀ d ∈ names.named regex db defs n, ∀ e ∈ names.named regex db defs n, ∀ f v, e.given f = some v →
      Covers names regex db defs n d f v) : ∃ t, names.setModePower regex db order = .ok (t, false) ∧
      ∀ f v, t.givenAt n f = some v ↔ ∃ d ∈ names.named regex db defs n, d.given f = some v := by
  have hmem : ∀ d, d ∈ names.named regex db order n ↔ d ∈ names.named regex db defs n := fun d => by
    rw [mem_named, mem_named, hperm.mem_iff]
  obtain ⟨t, ht, hgiven⟩ := givenAt_setModePower (Agreeing.perm hagreeing hperm)
  refine ⟨t, ht, fun f v => ⟨fun hv => ?_, fun ⟨e, he, hv⟩ => ?_⟩⟩
  · obtain ⟨d, hd, hv⟩ := (hgiven n f v).1 hv
    exact ⟨d, (hmem d).1 hd, hv⟩
  · obtain ⟨d, rest, hnamed⟩ := exists_cons_of_ne_nil (ne_nil_of_mem ((hmem e).2 he))
    have hd : d ∈ names.named regex db defs n := (hmem d).1 (hnamed ▸ mem_cons_self)
    refine ((hgiven n f v).2 d rest hnamed).2
      ((hcovers d hd e he f v hv).imp_right fun ⟨hf, e', he', hne, hv'⟩ => ⟨hf, e', ?_, hne, hv'⟩)
    have hmem' := (hmem e').2 he'
    rw [hnamed] at hmem'
    exact (mem_cons.1 hmem').resolve_left fun heq => hne (heq ▸ rfl)

end

/-- Definitions that agree are merged at a net exactly when each of those that name it covers the values of the others. -/
theorem setModePower_merged_iff (definitions : List CPower) (hagreeing : names.Agreeing regex db definitions) (n : Nat) :
    Merged names regex db definitions n ↔
      ∀ d ∈ names.named regex db definitions n, ∀ e ∈ names.named regex db definitions n, ∀ f v, e.given f = some v →
        Covers names regex db definitions n d f v := by
  constructor
  · intro hmerged d hd e he f v hv
    -- in the order that begins with `d`, the power of the net is that of `d`
    obtain ⟨hdmem, hdnet⟩ := mem_named.1 hd
    have hperm : (d :: definitions.erase d).Perm definitions := (perm_cons_erase hdmem).symm
    obtain ⟨t, u, ht, hu, hsame⟩ := hmerged.same _ hperm
    obtain ⟨t', ht', hcarries⟩ := hmerged.carries
    obtain ⟨u', hu', hgiven⟩ := givenAt_setModePower (Agreeing.perm hagreeing hperm)
    obtain rfl : t = t' := congrArg Prod.fst (Except.ok.inj (ht.symm.trans ht'))
    obtain rfl : u = u' := congrArg Prod.fst (Except.ok.inj (hu.symm.trans hu'))
    have hnamed : names.named regex db (d :: definitions.erase d) n = d :: names.named regex db (definitions.erase d) n :=
      filter_cons_of_pos (by simpa using hdnet)
    have hvalue : u.givenAt n f = some v := (hsame f).trans ((hcarries f v).2 ⟨e, he, hv⟩)
    refine (((hgiven n f v).2 d _ hnamed).1 hvalue).imp_right fun ⟨hf, e', he', hne, hv'⟩ => ⟨hf, e', ?_, hne, hv'⟩
    obtain ⟨herase, hnet⟩ := mem_named.1 he'
    exact mem_named.2 ⟨mem_of_mem_erase herase, hnet⟩
  · intro hcovers
    refine ⟨carries_of_covers hagreeing (.refl _) hcovers, fun order hperm => ?_⟩
    obtain ⟨t, ht, hcarries⟩ := carries_of_covers hagreeing (.refl _) hcovers
    obtain ⟨u, hu, hcarries'⟩ := carries_of_covers hagreeing hperm hcovers
    exact ⟨t, u, ht, hu, fun f => Option.ext fun v => (hcarries' f v).trans (hcarries f v).symm⟩

end

/-- The definition of a line, in a power file without macros. -/
def definitionOf (line : String) : CPower := ((CPower.ofString line.toList (fun _ => none) 1 {}).toOption.map Prod.fst).getD {}

theorem CPower.agrees_of_given {power other : CPower} (htype : power.type = other.type) (hfamily : power.family = other.family)
    (hgiven : ∀ f, power.given f = none ∨ other.given f = none ∨ power.given f = other.given f) : power.Agrees other := by
  refine ⟨htype, hfamily, fun f v w hv hw => ?_⟩
  rcases hgiven f with hnone | hnone | heq
  · simp [hnone] at hv
  · simp [hnone] at hw
  · exact Option.some.inj (hv.symm.trans (heq.trans hw))

section

open CPower CCircuitPtrList Hierarchy

/-- Definitions of the bus `a<1:0>` and of its last bit, with the nets that they name. -/
theorem agreeing_pair {db : CCvcDb} {d e : CPower} (hd : busPortsNames.netsOf exactPattern db d = [0, 1])
    (he : busPortsNames.netsOf exactPattern db e = [1]) (hagree : d.Agrees e ∧ e.Agrees d) :
    busPortsNames.Agreeing exactPattern db [d, e] := by
  constructor
  · simp [hd, he]
  · intro n x hx y hy
    rcases mem_pair.1 (mem_named.1 hx).1 with rfl | rfl <;> rcases mem_pair.1 (mem_named.1 hy).1 with rfl | rfl
    · exact agrees_of_given rfl rfl fun f => .inr (.inr rfl)
    · exact hagree.1
    · exact hagree.2
    · exact agrees_of_given rfl rfl fun f => .inr (.inr rfl)

/-- The voltages of `a<1:0> min@0.1` and `a<0> max@1.2` are merged at the net of `a<0>`. -/
theorem twoVoltages_merged : ∃ counts db, busPorts.linkTop = .ok counts ∧ busPorts.assignTopGlobalIDs 10 counts = .ok db ∧
    Merged busPortsNames exactPattern db [definitionOf "a<1:0> min@0.1", definitionOf "a<0> max@1.2"] 1 := by
  obtain ⟨counts, db, hlink, hdb, hflat⟩ := busPorts.exists_flat 10
    (fun db => busPortsNames.netsOf exactPattern db (definitionOf "a<1:0> min@0.1") = [0, 1] ∧
      busPortsNames.netsOf exactPattern db (definitionOf "a<0> max@1.2") = [1]) (by decide +kernel)
  set d := definitionOf "a<1:0> min@0.1"
  set e := definitionOf "a<0> max@1.2"
  have hagree : d.Agrees e ∧ e.Agrees d := by
    constructor <;> exact agrees_of_given (by decide +kernel) (by decide +kernel) fun f => by cases f <;> decide +kernel
  have hdefinition : d.definition ≠ e.definition := by decide +kernel
  refine ⟨counts, db, hlink, hdb, (setModePower_merged_iff [d, e] (agreeing_pair hflat.1 hflat.2 hagree) 1).2 ?_⟩
  have hnamed : ∀ x, x = d ∨ x = e → x ∈ busPortsNames.named exactPattern db [d, e] 1 := by
    rintro x (rfl | rfl)
    · exact mem_named.2 ⟨by simp, by simp [hflat.1]⟩
    · exact mem_named.2 ⟨by simp, by simp [hflat.2]⟩
  have hnone : ∀ f : PowerField, f.isVoltage = true ∨ d.given f = none ∧ e.given f = none := by
    intro f
    cases f <;> decide +kernel
  have hvoltage : ∀ x, x = d ∨ x = e → ∀ f v, x.given f = some v → f.isVoltage = true := by
    rintro x (rfl | rfl) f v hv
    · exact (hnone f).resolve_right fun hn => by simp [hn.1] at hv
    · exact (hnone f).resolve_right fun hn => by simp [hn.2] at hv
  intro x hx y hy f v hv
  have hx := mem_pair.1 (mem_named.1 hx).1
  have hy := mem_pair.1 (mem_named.1 hy).1
  by_cases hxy : x = y
  · exact .inl (hxy ▸ hv)
  refine .inr ⟨hvoltage y hy f v hv, y, hnamed y hy, ?_, hv⟩
  rcases hx with rfl | rfl <;> rcases hy with rfl | rfl
  · exact absurd rfl hxy
  · exact hdefinition.symm
  · exact hdefinition
  · exact absurd rfl hxy

/-- The expected minimum of `a<0> expectMin@0.2` is lost when it stands behind `a<1:0> min@0.1`, and is kept when it stands in
front. -/
theorem expectedMin_not_merged : ∃ counts db, busPorts.linkTop = .ok counts ∧ busPorts.assignTopGlobalIDs 10 counts = .ok db ∧
    busPortsNames.Agreeing exactPattern db [definitionOf "a<1:0> min@0.1", definitionOf "a<0> max@1.2 expectMin@0.2"] ∧
    ∃ t u, busPortsNames.setModePower exactPattern db [definitionOf "a<1:0> min@0.1", definitionOf "a<0> max@1.2 expectMin@0.2"] =
        .ok (t, false) ∧
      busPortsNames.setModePower exactPattern db [definitionOf "a<0> max@1.2 expectMin@0.2", definitionOf "a<1:0> min@0.1"] =
        .ok (u, false) ∧
      t.givenAt 1 .expectedMin = none ∧ u.givenAt 1 .expectedMin = some (.inr "0.2".toList) ∧
      ¬ Merged busPortsNames exactPattern db [definitionOf "a<1:0> min@0.1", definitionOf "a<0> max@1.2 expectMin@0.2"] 1 := by
  obtain ⟨counts, db, hlink, hdb, hflat, hflat', hfirst, hsecond⟩ := busPorts.exists_flat 10
    (fun db => busPortsNames.netsOf exactPattern db (definitionOf "a<1:0> min@0.1") = [0, 1] ∧
      busPortsNames.netsOf exactPattern db (definitionOf "a<0> max@1.2 expectMin@0.2") = [1] ∧
      (busPortsNames.setModePower exactPattern db [definitionOf "a<1:0> min@0.1",
        definitionOf "a<0> max@1.2 expectMin@0.2"]).toOption.any
        (fun r => decide (r.2 = false ∧ r.1.givenAt 1 .expectedMin = none)) = true ∧
      (busPortsNames.setModePower exactPattern db [definitionOf "a<0> max@1.2 expectMin@0.2",
        definitionOf "a<1:0> min@0.1"]).toOption.any
        (fun r => decide (r.2 = false ∧ r.1.givenAt 1 .expectedMin = some (.inr "0.2".toList))) = true) (by decide +kernel)
  set d := definitionOf "a<1:0> min@0.1"
  set e := definitionOf "a<0> max@1.2 expectMin@0.2"
  have hagree : d.Agrees e ∧ e.Agrees d := by
    constructor <;> exact agrees_of_given (by decide +kernel) (by decide +kernel) fun f => by cases f <;> decide +kernel
  obtain ⟨⟨t, error⟩, hrun, ht⟩ := (Option.any_eq_true _ _).1 hfirst
  obtain ⟨⟨u, error'⟩, hrun', hu⟩ := (Option.any_eq_true _ _).1 hsecond
  obtain ⟨rfl, ht⟩ := of_decide_eq_true ht
  obtain ⟨rfl, hu⟩ := of_decide_eq_true hu
  refine ⟨counts, db, hlink, hdb, agreeing_pair hflat hflat' hagree, t, u, eq_ok_of_toOption hrun,
    eq_ok_of_toOption hrun', ht, hu,
    fun hmerged => ?_⟩
  obtain ⟨t', u', ht', hu', hsame⟩ := hmerged.same [e, d] (.swap ..)
  obtain rfl : t = t' := congrArg Prod.fst (Except.ok.inj ((eq_ok_of_toOption hrun).symm.trans ht'))
  obtain rfl : u = u' := congrArg Prod.fst (Except.ok.inj ((eq_ok_of_toOption hrun').symm.trans hu'))
  exact nomatch ht.symm.trans ((hsame .expectedMin).symm.trans hu)

end
end Cvc
