import ClassDocs.Yaml.Token

/-!
# Documents as trees

A document is a tree of scalars, sequences and mappings, in which an alias stands for the node that
a number was given to.

## Main definitions

* `Node`: a tree.
* `Document`: a tree with the nodes that its aliases stand for.
* `Document.target?`: the node that an alias stands for.
-/

namespace ClassDocs.Yaml

/-- A node of a document. Tags are in their full form. -/
inductive Node where
  | scalar (tag : Option String) (style : ScalarStyle) (text : String)
  | sequence (tag : Option String) (items : List Node)
  | mapping (tag : Option String) (pairs : List (Node × Node))
  | alias (target : Nat)

namespace Node

/-- The scalar of an entry that is left empty. -/
def empty : Node := .scalar none .plain ""

mutual

/-- The number of events of a node: one for a scalar or an alias, and for a collection two besides
those of its parts. -/
def events : Node → Nat
  | .scalar _ _ _ => 1
  | .alias _ => 1
  | .sequence _ items => 2 + eventsOfItems items
  | .mapping _ pairs => 2 + eventsOfPairs pairs

/-- The number of events of the items of a sequence. -/
def eventsOfItems : List Node → Nat
  | [] => 0
  | item :: rest => events item + eventsOfItems rest

/-- The number of events of the keys and values of a mapping. -/
def eventsOfPairs : List (Node × Node) → Nat
  | [] => 0
  | (key, value) :: rest => events key + events value + eventsOfPairs rest

end

end Node

/-- A document; `root` is missing when the text holds nothing at all. -/
structure Document where
  root : Option Node
  /-- The anchored node, by order of appearance, that an alias number stands for; the first entry
  of a number counts. -/
  places : List (Nat × Nat) := []
  /-- The anchored nodes by order of appearance. -/
  anchored : List (Nat × Node) := []

/-- The node that an alias stands for. -/
def Document.target? (doc : Document) (target : Nat) : Option Node :=
  (doc.places.lookup target).bind fun place => doc.anchored.lookup place

/-- The number of events of a document. -/
def Document.events (doc : Document) : Nat :=
  match doc.root with
  | some node => node.events
  | none => 1

end ClassDocs.Yaml
