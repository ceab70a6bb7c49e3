import Mathlib.Order.Antichain
import Cvc.Lemmas.PathSearch

/-!
# Paths of instances

What a path denotes, as a set of nodes of the instance tree, against what `FindInstanceIds` returns for its text. The circuit of a
search is taken from the text of the whole path, so it is the right one only where the path, from its third character on, begins
with the name of the circuit: for a search that comes first, or by chance. A search is not made where the components before it
lead nowhere.
-/

namespace Cvc

variable {h : Hierarchy} {names : CCircuitPtrList h} {regex : Text → Option (Text → Bool)} {db : CCvcDb} {id : List Nat → Nat}
  {S : Set (List Nat)} {list : List Nat} {path : InstancePath} {hier : Text} {cs before after : List PathComponent}
  {name : PlainName} {p q : List Nat}

open Hierarchy InstancePath List CCircuitPtrList

/-! ## Searches with a wrong name -/

theorem take_append_cons_cases (a rest : Text) (c : Char) (k : Nat) :
    (a ++ c :: rest).take k = a.take k ∨ ∃ j, (a ++ c :: rest).take k = a ++ c :: rest.take j := by
  rcases Nat.lt_or_ge a.length k with hlt | hge
  · obtain ⟨j, rfl⟩ : ∃ j, k = a.length + (j + 1) := ⟨k - a.length - 1, by omega⟩
    exact .inr ⟨j, by rw [take_length_add_append, take_succ_cons]⟩
  · exact .inl (take_append_of_le_length hge)

theorem IsPlain.take {t : Text} (ht : IsPlain t) (k : Nat) : IsPlain (t.take k) := fun c hc => ht c (mem_of_mem_take hc)

/-- The text of components has plain characters, delimiters and the characters of circuit searches. -/
theorem mem_componentsText {x : Char} (hx : x ∈ cs.flatMap fun c => hierarchyDelimiter :: c.text) :
    x ∉ patternCharacters ∨ x ∈ ['*', '(', ')'] := by
  obtain ⟨c, -, hx⟩ := mem_flatMap.1 hx
  rcases mem_cons.1 hx with rfl | hx
  · exact .inl (by decide)
  cases c with
  | instanceName name => exact .inl (name.plain x hx)
  | cell name =>
    simp only [PathComponent.text, cellText, mem_append, mem_cons, not_mem_nil, or_false] at hx
    rcases hx with (rfl | rfl | hx) | rfl
    · exact .inr (by decide)
    · exact .inr (by decide)
    · exact .inl (name.plain x hx)
    · exact .inr (by decide)

/-- What a plain text and a mark behind it are cut to is plain or foreign. -/
theorem plain_or_foreign_take {a rest : Text} {c : Char} (ha : IsPlain a) (hc : c = hierarchyDelimiter ∨ c = ')')
    (hrest : ∀ x ∈ rest, x ∉ patternCharacters ∨ x ∈ ['*', '(', ')']) (k : Nat) :
    IsPlain ((a ++ c :: rest).take k) ∨ IsForeign ((a ++ c :: rest).take k) := by
  rcases take_append_cons_cases a rest c k with htake | ⟨j, htake⟩
  · exact .inl (htake ▸ ha.take k)
  · rw [htake]
    exact .inr ⟨ha, fun x hx => hrest x (mem_of_mem_take hx), hc.imp_right .inl⟩

/-- The text that the first search with a wrong name is made with is plain or foreign. -/
theorem InstancePath.taken_plain_or_foreign (hcs : path.components = before ++ .cell name :: after)
    (hown : ∀ n, PathComponent.cell n ∈ before → n.text <+: path.text.drop 2) :
    IsPlain ((path.text.drop 2).take name.text.length) ∨ IsForeign ((path.text.drop 2).take name.text.length) := by
  cases hs : path.start with
  | some first =>
    have htext : path.text.drop 2 = first.text ++ ')' :: path.components.flatMap fun c => hierarchyDelimiter :: c.text := by
      simp [text, firstText, hs, cellText]
    rw [htext]
    exact plain_or_foreign_take first.plain (.inr rfl) (fun x hx => mem_componentsText hx) _
  | none =>
    have htext : path.text = path.components.flatMap fun c => hierarchyDelimiter :: c.text := by
      simp [text, firstText, hs]
    cases before with
    | nil =>
      -- the search is the first component: the text begins with its opening bracket
      obtain ⟨c, t, hct⟩ := exists_cons_of_ne_nil name.nonempty
      have hdrop : (path.text.drop 2).take name.text.length = [] ++ '(' :: name.text.take t.length := by
        have hlen : name.text.length = t.length + 1 := by rw [hct, length_cons]
        have hle : t.length ≤ name.text.length := by omega
        simp only [htext, hcs, nil_append, flatMap_cons, PathComponent.text, cellText, cons_append,
          drop_succ_cons, drop_zero, hlen, take_succ_cons, append_assoc]
        rw [take_append_of_le_length hle]
      rw [hdrop]
      refine .inr ⟨forall_mem_nil _, fun x hx => .inl (name.plain.take _ x hx), .inr (.inr ⟨rfl, ?_⟩)⟩
      exact fun hx => name.plain.take _ _ hx (by decide)
    | cons c before =>
      obtain ⟨d, rest, hrest⟩ : ∃ d rest, before ++ .cell name :: after = d :: rest := by
        cases before with
        | nil | cons d before => exact ⟨_, _, rfl⟩
      cases c with
      | cell n =>
        -- such a search never has its own name
        obtain ⟨x, t, hxt⟩ := exists_cons_of_ne_nil n.nonempty
        have hn := hown n mem_cons_self
        rw [htext, hcs] at hn
        simp only [cons_append, flatMap_cons, PathComponent.text, cellText, drop_succ_cons, drop_zero, hxt,
          cons_prefix_cons] at hn
        exact absurd (hn.1 ▸ hxt ▸ n.plain) fun hp => hp '(' mem_cons_self (by decide)
      | instanceName n =>
        obtain ⟨x, t, hxt⟩ := exists_cons_of_ne_nil n.nonempty
        have hdrop : path.text.drop 2 = t ++
          hierarchyDelimiter :: (d.text ++ rest.flatMap fun c => hierarchyDelimiter :: c.text) := by
          rw [htext, hcs, cons_append, hrest]
          simp [PathComponent.text, hxt]
        rw [hdrop]
        refine plain_or_foreign_take (fun c hc => n.plain c (hxt ▸ mem_cons_of_mem _ hc)) (.inl rfl) (fun y hy => ?_) _
        have hmem : y ∈ (d :: rest).flatMap fun c => hierarchyDelimiter :: c.text := by
          exact mem_cons_of_mem _ hy
        exact mem_componentsText hmem

/-- Every current instance is below a node of a set. -/
structure Below (h : Hierarchy) (id : List Nat → Nat) (W : Set (List Nat)) (s : InstanceSearch) : Prop where
  nonempty : s.mySearchInstanceIdList ≠ []
  below : ∀ x ∈ s.mySearchInstanceIdList, ∃ p, h.IsNode p ∧ id p = x ∧ ∃ t ∈ W, t <:+ p

variable {W : Set (List Nat)} {s s' : InstanceSearch}

theorem Below.shows (hs : Below h id W s) :
    Shows id {p | h.IsNode p ∧ id p ∈ s.mySearchInstanceIdList} s.mySearchInstanceIdList :=
  shows_of_known fun x hx => (hs.below x hx).imp fun _ hp => ⟨hp.1, hp.2.1⟩

section
variable (hf : h.FlatForm db id)
include hf

/-- A search in instances below a set stays below it. -/
theorem Below.localSearch (hs : Below h id W s) (test : CDevice → Bool) :
    ∃ found, h.localSearch db test s.mySearchInstanceIdList = .ok found ∧ ∀ x ∈ found, ∃ p, h.IsNode p ∧ id p = x ∧
      ∃ t ∈ W, t <:+ p := by
  obtain ⟨found, hfound, hshow⟩ := localSearch_spec hf test (fun p hp => hp.1) hs.shows
  refine ⟨found, hfound, fun x hx => ?_⟩
  obtain ⟨_, ⟨i, p, I, rfl, ⟨hp, hmem⟩, -, hi, -⟩, rfl⟩ := (hshow x).1 hx
  obtain ⟨p', hp', he, t, ht, hsuf⟩ := hs.below _ hmem
  obtain rfl := hf.id_inj p' p hp' hp he
  exact ⟨i :: p', ⟨hp, hi⟩, rfl, t, ht, hsuf.trans (suffix_cons i p')⟩

/-- Every component keeps the current instances below a set. -/
theorem Below.findComponent (hs : Below h id W s) (c : PathComponent)
    (hok : names.findComponent regex db hier s c.text = .ok s') : Below h id W s' := by
  cases c with
  | instanceName name =>
    unfold CCircuitPtrList.findComponent findInstance at hok
    simp only [PathComponent.text, name.nonempty, if_false, name.isCircuitSearch_eq, Bool.false_eq_true, hs.nonempty] at hok
    split at hok
    · cases hok
    rename_i m hm
    obtain ⟨found, hfound, hbelow⟩ := hs.localSearch hf fun d => names.nameMatches _ m d.name
    rw [hfound] at hok
    by_cases hnil : found = []
    · simp only [bind, Except.bind, pure, hnil] at hok
      obtain rfl := Except.ok.inj hok
      exact ⟨hs.nonempty, hs.below⟩
    · simp only [bind, Except.bind, pure, hnil] at hok
      obtain rfl := Except.ok.inj hok
      exact ⟨hnil, hbelow⟩
  | cell name =>
    unfold CCircuitPtrList.findComponent findCircuit at hok
    rw [PathComponent.text, if_neg (by simp [cellText]), if_pos (isCircuitSearch_cell _)] at hok
    split at hok
    · cases hok
    simp only [hs.nonempty] at hok
    split at hok
    · cases hok
    rename_i m hm
    obtain ⟨found, hfound, hbelow⟩ := hs.localSearch hf fun d => names.nameMatches _ m d.masterName
    rw [hfound] at hok
    by_cases hnil : found = []
    · simp only [bind, Except.bind, hnil] at hok
      cases hok
    · simp only [bind, Except.bind, pure, hnil] at hok
      obtain rfl := Except.ok.inj hok
      exact ⟨hnil, hbelow⟩

theorem Below.findComponents (hs : Below h id W s) (cs : List PathComponent)
    (hok : (cs.map PathComponent.text).foldlM (names.findComponent regex db hier) s = .ok s') : Below h id W s' := by
  induction cs generalizing s with
  | nil => exact Except.ok.inj hok ▸ hs
  | cons c cs ih =>
    obtain ⟨s1, hstep, hok⟩ := bind_eq_ok.1 hok
    exact ih (hs.findComponent hf c hstep) hok

/-- A search with a wrong name finds none of the nodes that its own name selects. -/
theorem findComponent_wrong (hlaws : PatternLaws regex) (hnode : ∀ p ∈ S, h.IsNode p) (hS : Shows id S list)
    (hne : list ≠ []) (hwrong : (hier.drop 2).take name.text.length ≠ name.text)
    (hshape : IsPlain ((hier.drop 2).take name.text.length) ∨ IsForeign ((hier.drop 2).take name.text.length))
    (hok : names.findComponent regex db hier ⟨list, []⟩ (cellText name.text) = .ok s') :
    Below h id {q | q ∈ h.inside db id (fun _ => True) S ∧ h.chars (h.masterOf q) ≠ name.text} s' := by
  have hlen : (cellText name.text).length - 3 = name.text.length := by simp [cellText]
  unfold findComponent findCircuit at hok
  rw [if_neg (by simp [cellText]), if_pos (isCircuitSearch_cell _)] at hok
  simp only [hlen, ne_eq, not_true_eq_false, if_false, hne] at hok
  split at hok
  · cases hok
  rename_i m hm
  obtain ⟨found, hfound, hshow⟩ := localSearch_spec hf
    (fun d => names.nameMatches ((hier.drop 2).take name.text.length) m d.masterName) hnode hS
  rw [hfound] at hok
  by_cases hnil : found = []
  · simp only [bind, Except.bind, hnil] at hok
    cases hok
  simp only [bind, Except.bind, pure, hnil] at hok
  obtain rfl := Except.ok.inj hok
  refine ⟨hnil, fun x hx => ?_⟩
  obtain ⟨q, hq, rfl⟩ := (hshow x).1 hx
  have hall := inside_mono (g := fun _ => True) (fun _ _ _ _ _ => trivial) hq
  refine ⟨q, isNode_of_mem_inside hq, rfl, q, ⟨hall, fun he => ?_⟩, suffix_refl q⟩
  obtain ⟨i, p, I, rfl, -, -, -, ht⟩ := hq
  rw [h.masterOf_cons] at he
  rw [nameMatches_other hlaws hm hshape hwrong he] at ht
  cases ht

end

/-! ## Nodes of a path and the nodes above them -/

/-- The nodes inside the nodes of an antichain are an antichain. -/
theorem inside_antichain {test : CDevice → Prop} (hS : IsAntichain (· <:+ ·) S) :
    IsAntichain (· <:+ ·) (h.inside db id test S) := by
  rintro _ ⟨i, p, I, rfl, hp, -⟩ _ ⟨j, q, J, rfl, hq, -⟩ hne hsuf
  rcases suffix_cons_iff.1 hsuf with he | hsuf
  · exact hne he
  · have hpq : p = q := hS.eq hp hq ((suffix_cons i p).trans hsuf)
    have hlen := hsuf.length_le
    rw [hpq, length_cons] at hlen
    omega

/-- No two nodes that a path starts from are one above the other. -/
theorem startNodes_antichain (names : CCircuitPtrList h) (path : InstancePath) : IsAntichain (· <:+ ·) (path.startNodes h) := by
  unfold startNodes
  split
  · exact Set.Subsingleton.isAntichain Set.subsingleton_singleton _
  rintro p ⟨hp, hpn⟩ q ⟨hq, hqn⟩ hne hsuf
  have hlt := h.rank_lt_of_suffix hq hsuf hne
  have hsame : h.masterOf p = h.masterOf q := by
    have h1 := names.address_of_name _ (isName_masterOf hp)
    have h2 := names.address_of_name _ (isName_masterOf hq)
    rw [hpn] at h1
    rw [hqn, h1] at h2
    exact Option.some.inj h2
  rw [hsame] at hlt
  exact Nat.lt_irrefl _ hlt

theorem nodesFrom_antichain (hS : IsAntichain (· <:+ ·) S) : IsAntichain (· <:+ ·) (nodesFrom h db id S cs) := by
  induction cs generalizing S with
  | nil => exact hS
  | cons c cs ih => exact ih (inside_antichain hS)

/-- What components lead to is below where they start. -/
theorem exists_suffix_of_mem_nodesFrom (hp : p ∈ nodesFrom h db id S cs) : ∃ t ∈ S, t <:+ p := by
  induction cs generalizing S with
  | nil => exact ⟨p, hp, suffix_refl p⟩
  | cons c cs ih =>
    obtain ⟨_, ⟨i, t, I, rfl, ht, -⟩, hsuf⟩ := ih hp
    exact ⟨t, ht, (suffix_cons i t).trans hsuf⟩

/-- Of two nodes above one, in an antichain, both are the same. -/
theorem eq_of_suffix_of_antichain {t u : List Nat} (hS : IsAntichain (· <:+ ·) S) (ht : t ∈ S) (hu : u ∈ S) (htp : t <:+ p)
    (hup : u <:+ p) : t = u := by
  rcases suffix_or_suffix_of_suffix htp hup with hsuf | hsuf
  · exact hS.eq ht hu hsuf
  · exact (hS.eq hu ht hsuf).symm

/-! ## The theorem -/

/-- A search that ends below a set returns nothing, or instances below that set. -/
theorem mem_of_findInstanceIds (hf : h.FlatForm db id) (hq : h.IsNode q)
    (hbelow : ∀ s, (splitHierarchy hier).foldlM (names.findComponent regex db hier) {} = .ok s → Below h id W s)
    (hok : names.findInstanceIds regex db hier (id q) = .ok list) {x : Nat} (hx : x ∈ list) :
    ∃ p, h.IsNode p ∧ id p = x ∧ ∃ t ∈ W, t <:+ p := by
  unfold findInstanceIds at hok
  cases hfold : (splitHierarchy hier).foldlM (names.findComponent regex db hier) {} with
  | error e =>
    simp only [hfold, bind] at hok
    cases e with
    | failure e => nomatch hok
    | outOfRange | regexError =>
      rw [← Except.ok.inj hok] at hx
      nomatch hx
  | ok s =>
    have hs := hbelow s hfold
    have hshows := hs.shows
    simp only [hfold, bind, Except.bind] at hok
    by_cases h0 : id q = 0
    · simp only [h0, pure] at hok
      rw [← Except.ok.inj hok] at hx
      split at hx
      · nomatch hx
      · exact hs.below x hx
    · obtain ⟨found, hfound, hshow⟩ := instancesIn_spec hf hq (fun p hp => hp.1) hshows
      simp only [h0, hfound, pure] at hok
      rw [← Except.ok.inj hok] at hx
      split at hx
      · nomatch hx
      · obtain ⟨p, ⟨⟨-, hp⟩, -⟩, rfl⟩ := (hshow x).1 hx
        exact hs.below _ hp

/-- Components without their own names have a first search with a wrong name. -/
theorem InstancePath.exists_wrong_of_not_ownFrom {t : Text} (hown : ¬ OwnFrom h db id t S cs) :
    ∃ before name after, cs = before ++ .cell name :: after ∧ (∀ n, PathComponent.cell n ∈ before → n.text <+: t) ∧
      ¬ name.text <+: t := by
  induction cs generalizing S with
  | nil => exact absurd (fun before _ _ hcs => absurd hcs.symm (append_ne_nil_of_right_ne_nil before (cons_ne_nil _ _))) hown
  | cons c cs ih =>
    by_cases hc : ∀ n, c = .cell n → n.text <+: t
    · obtain ⟨before, name, after, rfl, hbefore, hwrong⟩ := ih fun hall => hown (ownFrom_cons.2 ⟨fun _ => hc, hall⟩)
      refine ⟨c :: before, name, after, rfl, fun n hn => ?_, hwrong⟩
      rcases mem_cons.1 hn with rfl | hn
      · exact hc n rfl
      · exact hbefore n hn
    · push Not at hc
      obtain ⟨name, rfl, hwrong⟩ := hc
      exact ⟨[], name, cs, rfl, nofun, hwrong⟩

/-- Behind the first search with a wrong name, every current instance is below an instance of another circuit. -/
theorem findPath_wrong (names : CCircuitPtrList h) (hf : h.ListedForm db id) (hlaws : PatternLaws regex)
    (hcs : path.components = before ++ .cell name :: after)
    (hbefore : ∀ n, PathComponent.cell n ∈ before → n.text <+: path.text.drop 2) (hwrong : ¬ name.text <+: path.text.drop 2)
    (hsome : (nodesFrom h db id (path.startNodes h) before).Nonempty)
    (hok : (splitHierarchy path.text).foldlM (names.findComponent regex db path.text) {} = .ok s) :
    Below h id {u | u ∈ h.inside db id (fun _ => True) (nodesFrom h db id (path.startNodes h) before) ∧
      h.chars (h.masterOf u) ≠ name.text} s := by
  rw [path.split_text, foldlM_cons] at hok
  rcases findComponent_start names hf hlaws path with ⟨list0, hstart, hshow0, -⟩ | ⟨hstart, -⟩
  · obtain ⟨t0, ht0⟩ := hsome
    obtain ⟨r, hr, -⟩ := exists_suffix_of_mem_nodesFrom ht0
    -- everything before the search is found
    have hfind := findComponents_own names hf.toFlatForm hlaws before (fun b n a hb _ => hbefore n (hb ▸ by simp))
      isNode_of_mem_startNodes hshow0 (hshow0.ne_nil_iff.2 ⟨r, hr⟩) (.inl ⟨t0, ht0⟩)
    rw [hstart, hcs] at hok
    have hok1 : ((before.map PathComponent.text ++ cellText name.text :: after.map PathComponent.text).foldlM
        (names.findComponent regex db path.text) ⟨list0, []⟩) = .ok s := by
      rw [map_append] at hok
      exact hok
    rw [foldlM_append] at hok1
    generalize (before.map PathComponent.text).foldlM (names.findComponent regex db path.text) ⟨list0, []⟩ = found at hfind hok1
    cases hfind with
    | @found list1 hnode1 hshow1 =>
      obtain ⟨s1, hstep, hrest⟩ := bind_eq_ok.1 (show names.findComponent regex db path.text ⟨list1, []⟩ (cellText name.text) >>=
        (after.map PathComponent.text).foldlM (names.findComponent regex db path.text) = .ok s from hok1)
      refine Below.findComponents hf.toFlatForm ?_ after hrest
      refine findComponent_wrong hf.toFlatForm hlaws hnode1 hshow1 (hshow1.ne_nil_iff.2 ⟨t0, ht0⟩) ?_
        (taken_plain_or_foreign hcs hbefore) hstep
      exact fun htake => hwrong (prefix_iff_eq_take.2 htake.symm)
    | pending hempty | outOfRange hempty => exact absurd ht0 (hempty ▸ Set.notMem_empty t0)
  · rw [hstart] at hok
    nomatch hok

/-- A path with a search that does not have its own name finds none of the nodes it denotes. -/
theorem not_mem_of_not_ownNames (hf : h.ListedForm db id) (hlaws : PatternLaws regex)
    (hown : ¬ path.OwnNames h db id) (hq : h.IsNode q) (hok : names.findInstanceIds regex db path.text (id q) = .ok list)
    (hp : p ∈ path.nodes h db id) : id p ∉ list := by
  obtain ⟨before, name, after, hcs, hbefore, hwrong⟩ := exists_wrong_of_not_ownFrom hown
  have hnodes : path.nodes h db id = nodesFrom h db id
      (h.inside db id (fun d => h.chars d.masterName = name.text) (nodesFrom h db id (path.startNodes h) before)) after := by
    unfold InstancePath.nodes InstancePath.nodesFrom
    rw [hcs, foldl_append]
    rfl
  rw [hnodes] at hp
  have hpn : h.IsNode p := isNode_of_mem_nodesFrom (fun x hx => isNode_of_mem_inside hx) p hp
  obtain ⟨_, ⟨i, t, I, rfl, ht, hnp, hi, hsel⟩, htp⟩ := exists_suffix_of_mem_nodesFrom hp
  have hchain : IsAntichain (· <:+ ·) (h.inside db id (fun _ => True) (nodesFrom h db id (path.startNodes h) before)) :=
    inside_antichain (nodesFrom_antichain (startNodes_antichain names path))
  intro hmem
  -- the node is below one with the name and below one with another name, both inside the same nodes
  obtain ⟨p', hp', he, u, ⟨hu, hne⟩, hup⟩ := mem_of_findInstanceIds hf.toFlatForm hq
    (fun s hfold => findPath_wrong names hf hlaws hcs hbefore hwrong ⟨t, ht⟩ hfold) hok hmem
  obtain rfl := hf.id_inj p' p hp' hpn he
  obtain rfl := eq_of_suffix_of_antichain hchain ⟨i, t, I, rfl, ht, hnp, hi, trivial⟩ hu htp hup
  exact hne hsel

/-- A circuit with an instance of another one, inside the top. -/
def wrapped : Hierarchy :=
  ofCircuits [
    { portCount := 1, localSignalIdMap := [0] },
    { portCount := 1, localSignalIdMap := [0], subcircuitPtrV := [⟨0, [0], 0⟩] },
    { localSignalIdMap := [0], subcircuitPtrV := [⟨0, [0], 1⟩] }] (by decide) (by decide) (by decide)

/-- The names of `wrapped`. -/
def wrappedNames : CCircuitPtrList wrapped := .ofRange 3 (fun _ => isName_lt (fun _ => rfl) (by decide)) (by decide +kernel)

/-- The name of a circuit inside the top of `wrapped`. -/
def zeroName : PlainName := ⟨['0'], by decide, by decide +kernel, by decide⟩

@[inherit_doc zeroName]
def oneName : PlainName := ⟨['1'], by decide, by decide +kernel, by decide⟩

/-- A name that nothing in `wrapped` has. -/
def nineName : PlainName := ⟨['9'], by decide, by decide +kernel, by decide⟩

/-- The path `*(1)/0`. -/
def instanceInCell : InstancePath := ⟨some oneName, [.instanceName zeroName]⟩

/-- The path `/9/*(0)`, whose search is not made. -/
def cellInNothing : InstancePath := ⟨none, [.instanceName nineName, .cell zeroName]⟩

/-- Nothing is joined where no two instance names follow each other. -/
theorem unjoinedFrom_of_single (hcs : ∀ before a b after, cs ≠ before ++ .instanceName a :: .instanceName b :: after) :
    UnjoinedFrom h db id S cs := by
  intro before name names after heq hempty
  cases names with
  | nil =>
    rw [InstancePath.nodesFrom, foldl_append] at hempty
    rw [show joinedText name [] = name.text from append_nil _]
    exact hempty
  | cons b names => exact absurd heq (hcs before name b _)

/-- The path `*(1)/*(0)`. -/
def cellInCell : InstancePath := ⟨some oneName, [.cell zeroName]⟩

end Cvc
