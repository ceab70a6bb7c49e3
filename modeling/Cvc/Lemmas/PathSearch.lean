import Cvc.Lemmas.InstancePath

/-!
# Searches for the components of a path

A component that is searched for with its own name finds the nodes it selects. Where a component selects nothing, it is put in
front of the next ones; no call has such a joined name, so nothing is found from there on.
-/

namespace Cvc

variable {h : Hierarchy} {names : CCircuitPtrList h} {regex : Text → Option (Text → Bool)} {db : CCvcDb} {id : List Nat → Nat}
  {S T : Set (List Nat)} {list : List Nat} {t : Text} {path : InstancePath} {m : Text → Bool} {f g : CDevice → Prop}

open Hierarchy CCircuitPtrList InstancePath List Option

/-! ## Texts -/

theorem IsPlain.append {s : Text} (hs : IsPlain s) (ht : IsPlain t) : IsPlain (s ++ t) := by
  intro c hc
  rcases mem_append.1 hc with hc | hc
  · exact hs c hc
  · exact ht c hc

theorem splitHierarchy_eq (t : Text) : splitHierarchy t = t.splitOn hierarchyDelimiter := by
  unfold splitHierarchy
  split
  · rfl
  · split
    · rename_i c rest hc
      simp [splitOn, splitOnP_cons_eq_if_modifyHead, hc]
    · rfl

theorem intercalate_cons_eq (x : Text) (xs : List Text) :
    [hierarchyDelimiter].intercalate (x :: xs) = x ++ xs.flatMap (hierarchyDelimiter :: ·) := by
  induction xs generalizing x with
  | nil => simp
  | cons y xs ih =>
    have := ih y
    simp only [intercalate, intersperse_cons_cons, flatten_cons] at this ⊢
    rw [this]
    simp

theorem PathComponent.undelimited (c : PathComponent) : hierarchyDelimiter ∉ c.text := by
  cases c with
  | instanceName name => exact name.undelimited
  | cell name =>
    have := name.undelimited
    simp only [PathComponent.text, cellText, mem_append, mem_cons, not_or]
    refine ⟨⟨by decide, by decide, this⟩, by decide, by simp⟩

/-- The text of a path is split into its components. -/
theorem InstancePath.split_text (path : InstancePath) :
    splitHierarchy path.text = path.firstText :: path.components.map PathComponent.text := by
  have htext : path.text = [hierarchyDelimiter].intercalate (path.firstText :: path.components.map PathComponent.text) := by
    rw [intercalate_cons_eq, flatMap_map]
    rfl
  rw [splitHierarchy_eq, htext]
  refine splitOn_intercalate _ ?_ (by simp)
  intro l hl
  rcases mem_cons.1 hl with rfl | hl
  · cases hs : path.start with
    | none => simp [firstText, hs]
    | some name =>
      have hcell : hierarchyDelimiter ∉ cellText name.text := PathComponent.undelimited (.cell name)
      simpa [firstText, hs] using hcell
  · obtain ⟨c, -, rfl⟩ := mem_map.1 hl
    exact c.undelimited

theorem isCircuitSearch_cell (t : Text) : isCircuitSearch (cellText t) = true := by
  have hlast : (cellText t).getLast? = some ')' := by
    exact getLast?_concat
  unfold isCircuitSearch
  rw [hlast]
  simp [cellText]

theorem PlainName.isCircuitSearch_eq (n : PlainName) : isCircuitSearch n.text = false := by
  obtain ⟨t, hne, hplain, -⟩ := n
  cases t with
  | nil => exact absurd rfl hne
  | cons c t =>
    have hc : c ≠ '*' := by
      rintro rfl
      exact hplain '*' mem_cons_self (by decide)
    unfold isCircuitSearch
    cases t with
    | nil => simp
    | cons d t => simp [hc]

/-! ## Names -/

/-- A plain text matches the names with its characters. -/
theorem nameMatches_plain (names : CCircuitPtrList h) (hlaws : PatternLaws regex) (ht : IsPlain t) :
    ∃ m, regex t = some m ∧ ∀ a, h.IsName a → (names.nameMatches t m a = true ↔ h.chars a = t) := by
  obtain ⟨m, hm, hiff⟩ := hlaws.plain t ht
  refine ⟨m, hm, fun a ha => ?_⟩
  unfold nameMatches getTextAddress
  cases haddr : names.fixedTextToAddressMap t with
  | none => exact hiff _
  | some b =>
    have hb := names.chars_of_address t b haddr
    simp only [beq_iff_eq]
    constructor
    · rintro rfl
      exact hb
    · intro he
      have := names.address_of_name a ha
      rw [he, haddr] at this
      exact (some.inj this).symm

/-- A text that is plain or foreign does not match a plain name other than itself. -/
theorem nameMatches_other (hlaws : PatternLaws regex) (hm : regex t = some m)
    (ht : IsPlain t ∨ IsForeign t) {n : PlainName} (hne : t ≠ n.text) {a : Nat} (ha : h.chars a = n.text) :
    names.nameMatches t m a = false := by
  unfold nameMatches getTextAddress
  cases haddr : names.fixedTextToAddressMap t with
  | some b =>
    have hb := names.chars_of_address t b haddr
    refine beq_false_of_ne ?_
    rintro rfl
    exact hne (hb.symm.trans ha)
  | none =>
    rw [ha]
    rcases ht with ht | ht
    · obtain ⟨m', hm', hiff⟩ := hlaws.plain t ht
      obtain rfl := some.inj (hm.symm.trans hm')
      exact Bool.eq_false_iff.2 fun hs => hne ((hiff _).1 hs).symm
    · exact hlaws.foreign t m ht hm n

/-! ## Searches for names -/

theorem inside_mono (hfg : ∀ p i, h.IsNode p → i < h.width p → f (h.callOf i p) → g (h.callOf i p)) :
    h.inside db id f S ⊆ h.inside db id g S := by
  rintro _ ⟨i, p, I, rfl, hp, hnp, hi, ht⟩
  exact ⟨i, p, I, rfl, hp, hnp, hi, hfg p i hnp.1 hi ht⟩

/-- A search for a plain text in the current instances. -/
theorem localSearch_plain (names : CCircuitPtrList h) (hf : h.FlatForm db id) (hlaws : PatternLaws regex) (ht : IsPlain t)
    (field : CDevice → Nat) (hfield : ∀ p i, h.IsNode p → i < h.width p → h.IsName (field (h.callOf i p)))
    (hnode : ∀ p ∈ S, h.IsNode p) (hS : Shows id S list) :
    ∃ m found, regex t = some m ∧ h.localSearch db (fun d => names.nameMatches t m (field d)) list = .ok found ∧
      Shows id (h.inside db id (fun d => h.chars (field d) = t) S) found := by
  obtain ⟨m, hm, hiff⟩ := nameMatches_plain names hlaws ht
  obtain ⟨found, hfound, hshow⟩ := localSearch_spec hf (fun d => names.nameMatches t m (field d)) hnode hS
  have hsame : h.inside db id (fun d => names.nameMatches t m (field d) = true) S =
      h.inside db id (fun d => h.chars (field d) = t) S :=
    (inside_mono fun p i hp hi => (hiff _ (hfield p i hp hi)).1).antisymm
      (inside_mono fun p i hp hi => (hiff _ (hfield p i hp hi)).2)
  exact ⟨m, found, hm, hfound, hsame ▸ hshow⟩

/-- The search has found all nodes of a set, or the set is empty and the search fails. -/
inductive Finds (h : Hierarchy) (id : List Nat → Nat) (T : Set (List Nat)) : Except SearchStop InstanceSearch → Prop
  | found {list : List Nat} (nodes : ∀ p ∈ T, h.IsNode p) (shows_list : Shows id T list) : Finds h id T (.ok ⟨list, []⟩)
  | pending {S : Set (List Nat)} {list : List Nat} {t : Text} (empty : T = ∅) (nodes : ∀ p ∈ S, h.IsNode p)
      (shows_list : Shows id S list) (unmatched : t ≠ []) : Finds h id T (.ok ⟨list, t⟩)
  | outOfRange (empty : T = ∅) : Finds h id T (.error .outOfRange)

theorem nodesFrom_empty (cs : List PathComponent) : nodesFrom h db id ∅ cs = ∅ := by
  induction cs with
  | nil => rfl
  | cons c cs ih =>
    have : h.inside db id (c.selects h) ∅ = ∅ := by
      ext q
      constructor
      · rintro ⟨i, p, I, -, hp, -⟩
        exact hp
      · exact nofun
    show nodesFrom h db id (h.inside db id (c.selects h) ∅) cs = ∅
    rw [this, ih]

theorem isNode_of_mem_nodesFrom {cs : List PathComponent} (hnode : ∀ p ∈ S, h.IsNode p) :
    ∀ p ∈ nodesFrom h db id S cs, h.IsNode p := by
  induction cs generalizing S with
  | nil => exact hnode
  | cons c cs ih => exact ih fun p hp => isNode_of_mem_inside hp

/-- The selector in front needs its own name where there are nodes to search in, and the others do from the nodes it leads to. -/
theorem ownFrom_cons {c : PathComponent} {cs : List PathComponent} : OwnFrom h db id t S (c :: cs) ↔
    (S.Nonempty → ∀ name, c = .cell name → name.text <+: t) ∧ OwnFrom h db id t (h.inside db id (c.selects h) S) cs := by
  constructor
  · intro hown
    refine ⟨fun hS name hc => hown [] name cs (by rw [hc]; rfl) hS, fun before name after hcs hsome => ?_⟩
    exact hown (c :: before) name after (by rw [hcs]; rfl) hsome
  · rintro ⟨hhead, htail⟩ before name after hcs hsome
    cases before with
    | nil => exact hhead hsome name (cons.inj hcs).1
    | cons b before =>
      obtain ⟨rfl, htl⟩ := cons.inj hcs
      exact htail before name after htl hsome

section
variable (names) (hf : h.FlatForm db id) (hlaws : PatternLaws regex)
include names hf hlaws

/-- Components that are searched for while a first part is pending are not found, when no call has a name joined of them. -/
theorem findComponents_pending (hnode : ∀ p ∈ S, h.IsNode p) (hS : Shows id S list) (hne : list ≠ []) (hier : Text) (ht : t ≠ [])
    (hplain : IsPlain t) (cs : List PathComponent)
    (hno : ∀ (ns : List PlainName) after, cs = ns.map .instanceName ++ after →
      h.inside db id (fun d => h.chars d.name = t ++ ns.flatMap fun n => hierarchyDelimiter :: n.text) S = ∅) :
    Finds h id ∅ ((cs.map PathComponent.text).foldlM (names.findComponent regex db hier) ⟨list, t⟩) := by
  induction cs generalizing t with
  | nil => exact .pending rfl hnode hS ht
  | cons c cs ih =>
    rw [map_cons, foldlM_cons]
    cases c with
    | cell name =>
      have hstep : names.findComponent regex db hier ⟨list, t⟩ (cellText name.text) = .error .outOfRange := by
        unfold findComponent findCircuit
        rw [if_neg (by simp [cellText]), if_pos (isCircuitSearch_cell _), if_pos ht]
        rfl
      rw [PathComponent.text, hstep]
      exact .outOfRange rfl
    | instanceName name =>
      have hplain' : IsPlain (t ++ hierarchyDelimiter :: name.text) := by
        refine hplain.append fun c hc => ?_
        rcases mem_cons.1 hc with rfl | hc
        · decide
        · exact name.plain c hc
      obtain ⟨m, found, hm, hfound, hshow⟩ := localSearch_plain names hf hlaws hplain' CDevice.name
        (fun p i _ hi => isName_call hi) hnode hS
      have hnil : found = [] := hshow.eq_nil_iff.2 (by simpa using hno [name] cs rfl)
      have hstep : names.findComponent regex db hier ⟨list, t⟩ name.text = .ok ⟨list, t ++ hierarchyDelimiter :: name.text⟩ := by
        unfold findComponent findInstance
        simp only [name.nonempty, if_false, name.isCircuitSearch_eq, hne, ht, hm, hfound, hnil]
        rfl
      rw [PathComponent.text, hstep]
      refine ih (by simp) hplain' fun ns after hcs => ?_
      simpa using hno (name :: ns) after (by rw [hcs]; rfl)

/-- A component that is searched for with its own name finds the nodes it selects. -/
theorem findComponent_own (hnode : ∀ p ∈ S, h.IsNode p) (hS : Shows id S list) (hne : list ≠ []) (hier : Text) (c : PathComponent)
    (hown : ∀ name, c = .cell name → name.text <+: hier.drop 2) : ∃ found, Shows id (h.inside db id (c.selects h) S) found ∧
      names.findComponent regex db hier ⟨list, []⟩ c.text =
        if found = [] then (match c with
          | .instanceName name => .ok ⟨list, name.text⟩
          | .cell _ => .error .outOfRange)
        else .ok ⟨found, []⟩ := by
  cases c with
  | instanceName name =>
    obtain ⟨m, found, hm, hfound, hshow⟩ := localSearch_plain names hf hlaws name.plain CDevice.name
      (fun p i _ hi => isName_call hi) hnode hS
    refine ⟨found, hshow, ?_⟩
    unfold findComponent findInstance
    simp only [PathComponent.text, name.nonempty, name.isCircuitSearch_eq, hne, if_true, hm, hfound]
    rfl
  | cell name =>
    obtain ⟨m, found, hm, hfound, hshow⟩ := localSearch_plain names hf hlaws name.plain CDevice.masterName
      (fun p i hp hi => isName_masterOf (p := i :: p) ⟨hp, hi⟩) hnode hS
    refine ⟨found, hshow, ?_⟩
    have hlen : (cellText name.text).length - 3 = name.text.length := by simp [cellText]
    have htake : (hier.drop 2).take name.text.length = name.text := (prefix_iff_eq_take.1 (hown name rfl)).symm
    unfold findComponent findCircuit
    rw [if_neg (by simp [PathComponent.text, cellText]), PathComponent.text, if_pos (isCircuitSearch_cell _)]
    simp only [hlen, htake, hm, ne_eq, hne]
    rw [hfound]
    rfl

/-- Components that are searched for with their own names find the nodes they lead to. -/
theorem findComponents_own {hier : Text} (cs : List PathComponent) (hown : OwnFrom h db id (hier.drop 2) S cs)
    (hnode : ∀ p ∈ S, h.IsNode p) (hS : Shows id S list) (hne : list ≠ [])
    (hno : (nodesFrom h db id S cs).Nonempty ∨ UnjoinedFrom h db id S cs) :
    Finds h id (nodesFrom h db id S cs) ((cs.map PathComponent.text).foldlM (names.findComponent regex db hier) ⟨list, []⟩) := by
  induction cs generalizing S list with
  | nil => exact .found hnode hS
  | cons c cs ih =>
    obtain ⟨hown, hrest⟩ := ownFrom_cons.1 hown
    obtain ⟨found, hshow, hstep⟩ := findComponent_own names hf hlaws hnode hS hne hier c (hown (hS.ne_nil_iff.1 hne))
    rw [map_cons, foldlM_cons, hstep]
    show Finds h id (nodesFrom h db id (h.inside db id (c.selects h) S) cs) _
    by_cases hnil : found = []
    · have hempty : nodesFrom h db id (h.inside db id (c.selects h) S) cs = ∅ := by
        rw [hshow.eq_nil_iff.1 hnil, nodesFrom_empty]
      rw [if_pos hnil, hempty]
      cases c with
      | cell name => exact .outOfRange rfl
      | instanceName name =>
        rcases hno with hsome | hno
        · have : (nodesFrom h db id (h.inside db id ((PathComponent.instanceName name).selects h) S) cs).Nonempty :=
            hsome
          rw [hempty] at this
          exact absurd this Set.not_nonempty_empty
        · refine findComponents_pending names hf hlaws hnode hS hne hier name.nonempty name.plain cs fun ns after hcs => ?_
          exact hno [] name ns after (by rw [hcs]; rfl) (hshow.eq_nil_iff.1 hnil)
    · rw [if_neg hnil]
      refine ih hrest (fun p hp => isNode_of_mem_inside hp) hshow hnil (hno.imp_right fun hno before name ns after hcs => ?_)
      exact hno (c :: before) name ns after (by rw [hcs]; rfl)

end

/-! ## The start of a path -/

theorem isNode_of_mem_startNodes : ∀ p ∈ path.startNodes h, h.IsNode p := by
  intro p hp
  unfold startNodes at hp
  split at hp
  · rw [Set.mem_singleton_iff.1 hp]
    trivial
  · exact hp.1

section
variable (names) (hf : h.ListedForm db id)
include names hf

/-- A search for a circuit in the whole database finds its instances. -/
theorem globalSearch_spec (hm : ∀ s, m s = true ↔ s = t) :
    (∃ found, names.globalSearch db t m = some found ∧ (∃ c, (h.circuitNameMap c).isSome ∧ h.chars c = t) ∧
        Shows id {p | h.IsNode p ∧ h.chars (h.masterOf p) = t} found) ∨
      (names.globalSearch db t m = none ∧ {p | h.IsNode p ∧ h.chars (h.masterOf p) = t} = ∅) := by
  have hname : ∀ a, (h.circuitNameMap a).isSome → h.chars a = t → names.getTextAddress t = some a := by
    rintro a ha rfl
    exact names.address_of_name a (.circuit ha)
  unfold globalSearch
  cases hfilter : (names.getTextAddress t).filter fun a => (h.circuitNameMap a).isSome with
  | some a =>
    obtain ⟨haddr, hsome⟩ := filter_eq_some_iff.1 hfilter
    refine .inl ⟨_, rfl, ⟨a, hsome, names.chars_of_address t a haddr⟩, fun x => ?_⟩
    rw [mem_reverse, hf.lists]
    constructor
    · rintro ⟨p, hp, rfl, hx⟩
      exact ⟨p, ⟨hp, names.chars_of_address t _ haddr⟩, hx⟩
    · rintro ⟨p, ⟨hp, he⟩, hx⟩
      exact ⟨p, hp, some.inj ((hname _ (h.masterOf_found hp) he).symm.trans haddr), hx⟩
  | none =>
    have hnone : ∀ a, (h.circuitNameMap a).isSome → h.chars a ≠ t := by
      intro a ha he
      simp only [hname a ha he, filter_some, ha] at hfilter
      nomatch hfilter
    have hfound : (names.circuits.filter fun a => m (h.chars a)).flatMap db.instanceIdV = [] := by
      rw [filter_eq_nil_iff.2]
      · rfl
      · intro a ha hma
        exact hnone a ((names.mem_circuits a).1 ha) ((hm _).1 hma)
    refine .inr ⟨by simp [hfound], Set.eq_empty_iff_forall_notMem.2 ?_⟩
    rintro p ⟨hp, he⟩
    exact hnone _ (h.masterOf_found hp) he

/-- The first component of a path is always searched for with its own name, and found where it names a circuit of the hierarchy.
-/
theorem findComponent_start (hlaws : PatternLaws regex) (path : InstancePath) :
    (∃ list, names.findComponent regex db path.text {} path.firstText = .ok ⟨list, []⟩ ∧ Shows id (path.startNodes h) list ∧
        (path.startNodes h = ∅ → ∃ first, path.start = some first ∧ ∃ c, (h.circuitNameMap c).isSome ∧ h.chars c = first.text)) ∨
      (names.findComponent regex db path.text {} path.firstText = .error .outOfRange ∧ path.startNodes h = ∅) := by
  unfold InstancePath.startNodes
  cases hs : path.start with
  | none =>
    have hfirst : path.firstText = [] := by simp [InstancePath.firstText, hs]
    rw [hfirst]
    refine .inl ⟨[0], rfl, fun x => ?_, fun he => absurd he (Set.singleton_ne_empty _)⟩
    simp only [mem_singleton, Set.mem_singleton_iff, exists_eq_left, hf.id_root]
    exact eq_comm
  | some name =>
    have hfirst : path.firstText = cellText name.text := by simp [InstancePath.firstText, hs]
    have htake : (path.text.drop 2).take ((cellText name.text).length - 3) = name.text := by
      simp [InstancePath.text, hfirst, cellText]
    obtain ⟨m, hm, hiff⟩ := hlaws.plain _ name.plain
    rw [hfirst]
    unfold findComponent findCircuit
    rw [if_neg (by simp [cellText]), if_pos (isCircuitSearch_cell _)]
    simp only [htake, hm, ne_eq, not_true_eq_false]
    rcases globalSearch_spec names hf hiff with ⟨found, hfound, hcircuit, hshow⟩ | ⟨hnone, hempty⟩
    · rw [hfound]
      exact .inl ⟨found, rfl, hshow, fun _ => ⟨name, rfl, hcircuit⟩⟩
    · rw [hnone]
      exact .inr ⟨rfl, hempty⟩

/-- A path with its own names finds the nodes it denotes. -/
theorem findPath_own (hlaws : PatternLaws regex) (hown : path.OwnNames h db id)
    (hok : (path.nodes h db id).Nonempty ∨ path.Unambiguous h db id) :
    Finds h id (path.nodes h db id) ((splitHierarchy path.text).foldlM (names.findComponent regex db path.text) {}) := by
  rw [path.split_text, foldlM_cons]
  have hempty : path.startNodes h = ∅ → path.nodes h db id = ∅ := by
    intro he
    unfold InstancePath.nodes
    rw [he, nodesFrom_empty]
  rcases findComponent_start names hf hlaws path with ⟨list, hstart, hshow, hcircuit⟩ | ⟨hstart, he⟩
  · rw [hstart]
    by_cases hne : list = []
    · have he : path.startNodes h = ∅ := hshow.eq_nil_iff.1 hne
      rw [hempty he]
      subst hne
      cases hc : path.components with
      | nil =>
        refine .found nofun fun x => ?_
        simp
      | cons c cs =>
        cases c with
        | instanceName name =>
          have hstep : names.findComponent regex db path.text ⟨[], []⟩ name.text = .error .outOfRange := by
            unfold findComponent findInstance
            simp only [name.nonempty, name.isCircuitSearch_eq]
            rfl
          show Finds h id ∅ ((name.text :: cs.map PathComponent.text).foldlM (names.findComponent regex db path.text) ⟨[], []⟩)
          rw [foldlM_cons, hstep]
          exact .outOfRange rfl
        | cell name =>
          rcases hok with hsome | hun
          · rw [hempty he] at hsome
            exact absurd hsome Set.not_nonempty_empty
          · obtain ⟨first, hfirst, hmem⟩ := hcircuit he
            have := hun.started first name cs hfirst hc hmem
            rw [he] at this
            exact absurd this Set.not_nonempty_empty
    · refine findComponents_own names hf.toFlatForm hlaws path.components hown isNode_of_mem_startNodes hshow hne ?_
      exact hok.imp_right fun hun => hun.unjoined
  · rw [hstart, hempty he]
    exact .outOfRange rfl

end

/-! ## The result of a search -/

/-- `FindInstanceIds` returns the ids of the nodes of the path that are in the parent. -/
def Resolves (names : CCircuitPtrList h) (regex : Text → Option (Text → Bool)) (db : CCvcDb) (id : List Nat → Nat)
    (path : InstancePath)
    (q : List Nat) : Prop :=
  ∃ list, names.findInstanceIds regex db path.text (id q) = .ok list ∧ Shows id {p | p ∈ path.nodes h db id ∧ q <:+ p} list

theorem Finds.resolves (hf : h.FlatForm db id) {q : List Nat} (hq : h.IsNode q)
    (hfind : Finds h id (path.nodes h db id) ((splitHierarchy path.text).foldlM (names.findComponent regex db path.text) {})) :
    Resolves names regex db id path q := by
  have hroot : id q = 0 → q = [] := fun h0 => hf.id_inj q [] hq trivial (h0.trans hf.id_root.symm)
  unfold Resolves findInstanceIds
  generalize (splitHierarchy path.text).foldlM (names.findComponent regex db path.text) {} = r at hfind
  cases hfind with
  | @found list hnode hshow =>
    by_cases h0 : id q = 0
    · refine ⟨list, by simp [h0, bind, Except.bind, pure, Except.pure], ?_⟩
      simpa [hroot h0] using hshow
    · obtain ⟨found, hfound, hshow'⟩ := instancesIn_spec hf hq hnode hshow
      exact ⟨found, by simp [h0, hfound, bind, Except.bind, pure, Except.pure], hshow'⟩
  | @pending S list t hempty hnode hshow ht =>
    have hnil : Shows id {p | p ∈ path.nodes h db id ∧ q <:+ p} [] := by
      intro x
      simp [hempty]
    by_cases h0 : id q = 0
    · exact ⟨[], by simp [h0, ht, bind, Except.bind, pure, Except.pure], hnil⟩
    · obtain ⟨found, hfound, -⟩ := instancesIn_spec hf hq hnode hshow
      exact ⟨[], by simp [h0, ht, hfound, bind, Except.bind, pure, Except.pure], hnil⟩
  | outOfRange hempty =>
    refine ⟨[], rfl, fun x => ?_⟩
    simp [hempty]

end Cvc
