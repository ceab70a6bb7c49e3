import Cvc.InstancePath
import Cvc.Theorems.Flattening

/-!
# What a path of instances denotes

A path starts at the top or at all instances of a circuit, and each component keeps the instances inside the non-parallel current
ones that have its name, or that are instances of its circuit. The names of a path have no characters with a meaning in a pattern,
and no delimiter. A path from the top is written with a delimiter in front.
-/

namespace Cvc

/-- The characters that have a meaning in a pattern. -/
def patternCharacters : List Char := "^$.*+?()[]\x7b\x7d|\\".toList

/-- A text without such a character. -/
def IsPlain (t : Text) : Prop := ∀ c ∈ t, c ∉ patternCharacters

instance (t : Text) : Decidable (IsPlain t) :=
  decidable_of_iff ((t.all fun c => !patternCharacters.contains c) = true) (by simp [IsPlain])

/-- A name without pattern characters and without the delimiter. -/
structure PlainName where
  text : Text
  nonempty : text ≠ []
  plain : IsPlain text
  undelimited : hierarchyDelimiter ∉ text

/-- A text that is no pattern for a name: behind plain characters, it has a delimiter, a closing bracket, or an opening bracket
that is not closed. -/
inductive IsForeign : Text → Prop
  | mk {a b : Text} {c : Char} (plain : IsPlain a) (rest : ∀ x ∈ b, x ∉ patternCharacters ∨ x ∈ ['*', '(', ')'])
      (mark : c = hierarchyDelimiter ∨ c = ')' ∨ c = '(' ∧ ')' ∉ b) : IsForeign (a ++ c :: b)

/-- What is known of `FuzzyFilter` and `std::regex`: a plain text is the pattern of itself alone, and a text of which a delimiter
must be matched, or that has a bracket without its partner, is the pattern of no plain name. -/
structure PatternLaws (regex : Text → Option (Text → Bool)) : Prop where
  plain : ∀ t, IsPlain t → ∃ m, regex t = some m ∧ ∀ s, m s = true ↔ s = t
  foreign : ∀ t m, IsForeign t → regex t = some m → ∀ n : PlainName, m n.text = false

/-- Every text as the pattern of itself alone. -/
def exactPattern (t : Text) : Option (Text → Bool) := some (· == t)

theorem exactPattern_laws : PatternLaws exactPattern := by
  refine ⟨fun t _ => ⟨_, rfl, fun s => beq_iff_eq⟩, ?_⟩
  rintro _ m (@⟨a, b, c, -, -, hmark⟩) hm n
  obtain rfl := Option.some.inj hm
  refine beq_false_of_ne fun he => ?_
  have hin : c ∈ n.text := he ▸ by simp
  rcases hmark with rfl | rfl | ⟨rfl, -⟩
  · exact n.undelimited hin
  · exact n.plain _ hin (by decide)
  · exact n.plain _ hin (by decide)

/-- A component of a path. -/
inductive PathComponent where
  | instanceName (name : PlainName)
  | cell (name : PlainName)

/-- A circuit search. -/
def cellText (name : Text) : Text := '*' :: '(' :: name ++ [')']

/-- The text of a component. -/
def PathComponent.text : PathComponent → Text
  | .instanceName name => name.text
  | .cell name => cellText name.text

/-- A component selects the subcircuit calls with its name or the name of its circuit. -/
def PathComponent.selects (h : Hierarchy) : PathComponent → CDevice → Prop
  | .instanceName name, d => h.chars d.name = name.text
  | .cell name, d => h.chars d.masterName = name.text

/-- The nodes inside the non-parallel instances of a set whose calls pass a test. -/
def Hierarchy.inside (h : Hierarchy) (db : CCvcDb) (id : List Nat → Nat) (test : CDevice → Prop)
    (S : Set (List Nat)) : Set (List Nat) :=
  {q | ∃ i p I, q = i :: p ∧ p ∈ S ∧ h.NonParallel db id p I ∧ i < h.width p ∧ test (h.callOf i p)}

/-- A path from the top, or from the instances of a circuit. -/
structure InstancePath where
  start : Option PlainName
  components : List PathComponent

namespace InstancePath

/-- The first component in the text of a path: nothing for the top. -/
def firstText (path : InstancePath) : Text := (path.start.map fun name => cellText name.text).getD []

/-- The text of a path. -/
def text (path : InstancePath) : Text := path.firstText ++ path.components.flatMap fun c => hierarchyDelimiter :: c.text

/-- The nodes that a path starts from. -/
def startNodes (h : Hierarchy) (path : InstancePath) : Set (List Nat) :=
  match path.start with
  | none => {[]}
  | some name => {p | h.IsNode p ∧ h.chars (h.masterOf p) = name.text}

/-- The nodes that components lead to: each one those inside the non-parallel instances before it that it selects. -/
def nodesFrom (h : Hierarchy) (db : CCvcDb) (id : List Nat → Nat) (S : Set (List Nat)) (components : List PathComponent) :
    Set (List Nat) :=
  components.foldl (fun S c => h.inside db id (c.selects h) S) S

/-- The nodes that a path denotes. -/
def nodes (h : Hierarchy) (db : CCvcDb) (id : List Nat → Nat) (path : InstancePath) : Set (List Nat) :=
  nodesFrom h db id (path.startNodes h) path.components

/-- A text begins with the name of each circuit that components search for while there are nodes to search in. -/
def OwnFrom (h : Hierarchy) (db : CCvcDb) (id : List Nat → Nat) (t : Text) (S : Set (List Nat))
    (components : List PathComponent) : Prop :=
  ∀ before name after, components = before ++ .cell name :: after → (nodesFrom h db id S before).Nonempty → name.text <+: t

/-- From its third character on, the path begins with the name of each circuit that is searched for once it is followed so far. -/
def OwnNames (h : Hierarchy) (db : CCvcDb) (id : List Nat → Nat) (path : InstancePath) : Prop :=
  OwnFrom h db id (path.text.drop 2) (path.startNodes h) path.components

/-- The text of instance names one after the other. -/
def joinedText (name : PlainName) (names : List PlainName) : Text :=
    name.text ++ names.flatMap fun n => hierarchyDelimiter :: n.text

/-- Where an instance name selects nothing, no call in the nodes before it has that name joined with the instance names behind it.
-/
def UnjoinedFrom (h : Hierarchy) (db : CCvcDb) (id : List Nat → Nat) (S : Set (List Nat)) (components : List PathComponent) :
    Prop :=
  ∀ before name names after, components = before ++ .instanceName name :: (names.map .instanceName ++ after) →
    nodesFrom h db id S (before ++ [.instanceName name]) = ∅ →
    h.inside db id (fun d => h.chars d.name = joinedText name names) (nodesFrom h db id S before) = ∅

/-- Nothing but the path itself decides what its text finds: no instance is found under names joined with a delimiter, and a
circuit of the hierarchy that the path starts from has an instance when another search follows at once. -/
structure Unambiguous (h : Hierarchy) (db : CCvcDb) (id : List Nat → Nat) (path : InstancePath) : Prop where
  unjoined : UnjoinedFrom h db id (path.startNodes h) path.components
  started : ∀ first name cs, path.start = some first → path.components = .cell name :: cs →
    (∃ c, (h.circuitNameMap c).isSome ∧ h.chars c = first.text) → (path.startNodes h).Nonempty

end InstancePath
end Cvc
