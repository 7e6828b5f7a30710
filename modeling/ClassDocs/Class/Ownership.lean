import ClassDocs.Class.Snapshot

/-!
# Ownership of methods

The methods of a class grouped by the ancestor that declares them, from the root ancestor down to
the class itself.

## Main definitions

* `Bucket`: a class with the methods that it owns.
* `Ownership`: the buckets of a class and its ancestors.
* `Ownership.resolve`: the ownership of a class.
* `Ownership.ownerOf?`: the class that owns a method.
-/

namespace ClassDocs

/-- A class with the methods that it owns. -/
structure Bucket where
  owner : String
  methods : SortedMap Method
  deriving DecidableEq

/-- Who owns the methods of a class. -/
structure Ownership where
  /-- The buckets of the ancestors, the root first. -/
  ancestors : List Bucket
  /-- The bucket of the class itself. -/
  own : Bucket
  deriving DecidableEq

namespace Ownership

/-- All buckets from the root ancestor down to the class. -/
def buckets (o : Ownership) : List Bucket :=
  o.ancestors ++ [o.own]

/-- The bucket of a class. -/
def bucket? (o : Ownership) (owner : String) : Option Bucket :=
  o.buckets.find? (·.owner == owner)

/-- The class that owns a method. -/
def ownerOf? (o : Ownership) (method : String) : Option String :=
  (o.buckets.find? (·.methods.contains method)).map (·.owner)

/-- The names of the methods that a class declares. -/
def declaredBy (owner : String) (methods : SortedMap Method) : List String :=
  (methods.values.filter (·.declaringClass == owner)).map (·.name)

/-- Moves the methods under some names, one after the other, from those that nobody has claimed to
those that have been claimed. A name that nothing stands under any more is passed over. -/
def take (claimed unclaimed : SortedMap Method) :
    (names : List String) → SortedMap Method × SortedMap Method
  | [] => (claimed, unclaimed)
  | name :: rest =>
    match unclaimed.get? name with
    | some method => take (claimed.insert name method) (unclaimed.erase name) rest
    | none => take claimed unclaimed rest

/-- Hands to each ancestor, from the root on, the methods under the names that it declares; what
nobody claims is left to the class. -/
def claim (unclaimed : SortedMap Method) : List String → List Bucket × SortedMap Method
  | [] => ([], unclaimed)
  | owner :: rest =>
    let (methods, unclaimed) := take .empty unclaimed (declaredBy owner unclaimed)
    let (buckets, left) := claim unclaimed rest
    (⟨owner, methods⟩ :: buckets, left)

/-- The ownership of a class, given the names of its ancestors from the parent on. -/
def resolve (snapshot : Snapshot) (parents : List String) : Ownership :=
  let (ancestors, left) := claim snapshot.methods parents.reverse
  { ancestors, own := ⟨snapshot.name, left⟩ }

end Ownership

/-- The JSON form of a bucket. -/
def Bucket.toJson (bucket : Bucket) : Json :=
  .obj [("class", .str bucket.owner), ("methods", bucket.methods.toJson Method.toJson)]

end ClassDocs
