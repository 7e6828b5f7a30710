import ClassDocs.Proofs.CatalogKeys
import Mathlib.Data.List.Sort

/-!
# Include paths

What an include path adds to a listing does not depend on the other include paths. So a listing is
the union of what the include paths give, and it shows neither their order nor whether one of them
is given twice. Classes are collected in a map in which a later file takes the place of an earlier
one with the same key. This cannot be seen either, because both give the same class. All of it holds
of trees with links.

## Main definitions

* `Catalog.withPaths`: a catalog with other include paths.

## Main results

* `Catalog.get?_classes_withPaths_iff`, `Catalog.mem_namespaces_withPaths_iff`: listings as unions.
* `Catalog.includePaths_unordered`: listings do not show the order of include paths.
-/

namespace ClassDocs.Catalog

variable {catalog : Catalog} {tree : FileTree} {recursive : Bool} {query filter : Option String}
  {parent root key value listed : String} {paths paths' : List String}

/-- The catalog with other include paths. -/
def withPaths (catalog : Catalog) (paths : List String) : Catalog :=
  { catalog with includePaths := paths }

theorem mem_files_withPaths_iff {x : List FileName × FileName} :
    x ∈ (catalog.withPaths paths).files tree recursive parent ↔
      ∃ root ∈ paths, x ∈ catalog.filesOf tree recursive parent root :=
  mem_files_iff

theorem slash_not_mem_of_mem_filesOf (hproper : tree.Everywhere ProperNames)
    {x : List FileName × FileName} (hx : x ∈ catalog.filesOf tree recursive parent root) :
    '/' ∉ x.2.lossy.toList := by
  have hfiles : x ∈ (catalog.withPaths [root]).files tree recursive parent :=
    mem_files_withPaths_iff.2 ⟨root, List.mem_singleton_self root, hx⟩
  exact slash_not_mem_of_mem_files hproper hfiles x.2
    (List.mem_append_right _ (List.mem_singleton_self x.2))

/-- The classes of a catalog are those that the files below some include path give. -/
theorem get?_classes_withPaths_iff (hproper : tree.Everywhere ProperNames) :
    ((catalog.withPaths paths).classes tree parent recursive query).get? key = some value ↔
      ∃ root ∈ paths, ∃ x ∈ catalog.filesOf tree recursive (normalizeNamespace parent) root,
        catalog.classOf? query x.2 = some value ∧
          key = joinParts (normalizeNamespace parent :: x.1.map (·.lossy) ++ [value]) := by
  rw [get?_classes_iff_mem_files hproper]
  simp only [mem_files_withPaths_iff]
  constructor
  · rintro ⟨x, ⟨root, hroot, hx⟩, hclass, hkey⟩
    exact ⟨root, hroot, x, hx, hclass, hkey⟩
  · rintro ⟨root, hroot, x, hx, hclass, hkey⟩
    exact ⟨x, ⟨root, hroot, hx⟩, hclass, hkey⟩

/-- The namespaces of a catalog are those that the files below some include path give. -/
theorem mem_namespaces_withPaths_iff :
    listed ∈ (catalog.withPaths paths).namespaces tree filter ↔
      ∃ root ∈ paths, ∃ x ∈ catalog.filesOf tree true (normalizeNamespace (filter.getD "")) root,
        x.1 ≠ [] ∧
          listed = joinParts (normalizeNamespace (filter.getD "") :: x.1.map (·.lossy)) := by
  simp only [mem_namespaces_iff, mem_files_withPaths_iff]
  constructor
  · rintro ⟨x, ⟨root, hroot, hx⟩, hbelow, hlisted⟩
    exact ⟨root, hroot, x, hx, hbelow, hlisted⟩
  · rintro ⟨root, hroot, x, hx, hbelow, hlisted⟩
    exact ⟨x, ⟨root, hroot, hx⟩, hbelow, hlisted⟩

/-! ### Include paths in another order -/

theorem classes_withPaths_eq (hproper : tree.Everywhere ProperNames)
    (h : ∀ root, root ∈ paths ↔ root ∈ paths') :
    (catalog.withPaths paths).classes tree parent recursive query =
      (catalog.withPaths paths').classes tree parent recursive query := by
  refine SortedMap.ext_get? fun key => Option.ext fun value => ?_
  simp only [get?_classes_withPaths_iff hproper, h]

theorem namespaces_withPaths_eq (h : ∀ root, root ∈ paths ↔ root ∈ paths') :
    (catalog.withPaths paths).namespaces tree filter =
      (catalog.withPaths paths').namespaces tree filter := by
  refine (increasing_namespaces _ tree filter).eq_of_mem_iff (increasing_namespaces _ tree filter)
    fun listed => ?_
  simp only [mem_namespaces_withPaths_iff, h]

/-! ### More include paths -/

theorem get?_classes_withPaths_append_iff (hproper : tree.Everywhere ProperNames) :
    ((catalog.withPaths (paths ++ paths')).classes tree parent recursive query).get? key =
        some value ↔
      ((catalog.withPaths paths).classes tree parent recursive query).get? key = some value ∨
        ((catalog.withPaths paths').classes tree parent recursive query).get? key = some value := by
  simp only [get?_classes_withPaths_iff hproper, List.mem_append, or_and_right, exists_or]

theorem mem_namespaces_withPaths_append_iff :
    listed ∈ (catalog.withPaths (paths ++ paths')).namespaces tree filter ↔
      listed ∈ (catalog.withPaths paths).namespaces tree filter ∨
        listed ∈ (catalog.withPaths paths').namespaces tree filter := by
  simp only [mem_namespaces_withPaths_iff, List.mem_append, or_and_right, exists_or]

/-- Listings do not show the order of include paths, nor whether one of them is given twice: the
same paths, in whatever row, give the same listing. With more include paths, what is listed is what
either part of them gives. Files with the same key, be they below the same include path or not, give
the same class. -/
theorem includePaths_unordered (catalog : Catalog) {tree : FileTree}
    (hproper : tree.Everywhere ProperNames) :
    (∀ paths paths' : List String, (∀ root, root ∈ paths ↔ root ∈ paths') →
      (∀ parent recursive query,
        (catalog.withPaths paths).classes tree parent recursive query =
          (catalog.withPaths paths').classes tree parent recursive query) ∧
      ∀ filter, (catalog.withPaths paths).namespaces tree filter =
        (catalog.withPaths paths').namespaces tree filter) ∧
    (∀ paths paths' : List String,
      (∀ parent recursive query key value,
        ((catalog.withPaths (paths ++ paths')).classes tree parent recursive query).get? key =
            some value ↔
          ((catalog.withPaths paths).classes tree parent recursive query).get? key = some value ∨
            ((catalog.withPaths paths').classes tree parent recursive query).get? key =
              some value) ∧
      ∀ filter listed, listed ∈ (catalog.withPaths (paths ++ paths')).namespaces tree filter ↔
        listed ∈ (catalog.withPaths paths).namespaces tree filter ∨
          listed ∈ (catalog.withPaths paths').namespaces tree filter) ∧
    ∀ root root' recursive parent query,
      ∀ x ∈ catalog.filesOf tree recursive (normalizeNamespace parent) root,
      ∀ y ∈ catalog.filesOf tree recursive (normalizeNamespace parent) root',
      ∀ value value', catalog.classOf? query x.2 = some value →
        catalog.classOf? query y.2 = some value' →
        joinParts (normalizeNamespace parent :: x.1.map (·.lossy) ++ [value]) =
          joinParts (normalizeNamespace parent :: y.1.map (·.lossy) ++ [value']) →
        value = value' := by
  refine ⟨fun paths paths' h => ⟨fun _ _ _ => classes_withPaths_eq hproper h,
      fun _ => namespaces_withPaths_eq h⟩,
    fun paths paths' => ⟨fun _ _ _ _ _ => get?_classes_withPaths_append_iff hproper,
      fun _ _ => mem_namespaces_withPaths_append_iff⟩, ?_⟩
  intro root root' recursive parent query x hx y hy value value' hclass hclass' hkey
  exact value_eq_of_key_eq (slash_not_mem_of_mem_filesOf hproper hx)
    (slash_not_mem_of_mem_filesOf hproper hy) hclass hclass' hkey

/-- Two source files of one class, in a directory and behind a link to it. -/
def mirrorTree : FileTree where
  entries := [
    ("lib", .link "src"),
    ("src", .directory [("Log.inc", .file .empty), ("Log.php", .file .empty)])]

/-- The catalog of the directory and the link. -/
def mirrorCatalog : Catalog where
  includePaths := ["src", "lib"]

theorem includePaths_unordered_mirror : mirrorTree.Everywhere ProperNames ∧
    (mirrorCatalog.withPaths ["src", "lib", "src"]).classes mirrorTree "" true none =
      (mirrorCatalog.withPaths ["lib", "src"]).classes mirrorTree "" true none ∧
    ((mirrorCatalog.withPaths (["lib"] ++ ["src"])).classes mirrorTree "" true none).get? "Log" =
      some "Log" := by
  have hproper : mirrorTree.Everywhere ProperNames := by decide
  have hlisting : mirrorTree.listing? "lib" =
      some [(.ofText "Log.inc", .file), (.ofText "Log.php", .file)] := by
    refine FileTree.listing?_eq_some_iff.2 ⟨["src"], _, rfl, rfl, ?_⟩
    simp only [FileTree.listEntries]
  have hfile : ([], .ofText "Log.php") ∈
      mirrorCatalog.filesOf mirrorTree true (normalizeNamespace "") "lib" := by
    refine mem_filesOf_iff_holds.2 ⟨_, hlisting, ?_, .inl rfl, visible_nil.2 rfl⟩
    exact List.mem_cons_of_mem _ List.mem_cons_self
  have hclass : ((mirrorCatalog.withPaths ["lib"]).classes mirrorTree "" true none).get? "Log" =
      some "Log" :=
    (get?_classes_withPaths_iff hproper).2 ⟨"lib", List.mem_singleton_self _, _, hfile, by decide,
      by decide⟩
  obtain ⟨hsame, hunion, -⟩ := includePaths_unordered mirrorCatalog hproper
  have hpaths (root : String) : root ∈ ["src", "lib", "src"] ↔ root ∈ ["lib", "src"] := by
    simp only [List.mem_cons, List.not_mem_nil, or_false]
    tauto
  exact ⟨hproper, (hsame _ _ hpaths).1 "" true none, ((hunion _ _).1 _ _ _ _ _).2 (.inl hclass)⟩

end ClassDocs.Catalog
