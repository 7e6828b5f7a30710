import ClassDocs.Proofs.CatalogNames
import ClassDocs.Proofs.KeyedMaps
import ClassDocs.Proofs.VisibleFiles

/-!
# Listings of a catalog

The classes and the namespaces that a catalog lists, told from the tree alone. Several include paths
and several files may give one key. They give the same class under it, because the key of a class
ends with its name, so that no listing depends on the order of include paths.

## Main definitions

* `Catalog.Shows`: the files below the directory of a namespace that are not left out.
* `Catalog.standing`: the include paths below which a namespace has a directory.

## Main results

* `Catalog.get?_classes_eq_some_iff`: the classes of a namespace are those of its files.
* `Catalog.mem_filesOf_iff`: the files of a namespace are those that the catalog shows.
* `Catalog.relativePath_intercalate`: what stands in a namespace, seen from an include path.
* `Catalog.listings_exact`: the listings of a catalog are exactly the visible files.
-/

namespace ClassDocs

/-! ### File names -/

namespace Path

variable {name ext : String}

theorem splitAtDot?_eq_some {before after : String} (h : splitAtDot? name = some (before, after)) :
    name = before ++ "." ++ after ∧ before ≠ "" := by
  rw [splitAtDot?] at h
  have hcut := List.takeWhile_append_dropWhile (p := (· != '.')) (l := name.toList.reverse)
  have hdot := List.head?_dropWhile_not (· != '.') name.toList.reverse
  generalize name.toList.reverse.takeWhile (· != '.') = tail at h hcut
  generalize name.toList.reverse.dropWhile (· != '.') = rest at h hcut hdot
  cases rest with
  | nil => simp at h
  | cons c front =>
    have hc : c = '.' := by simpa using hdot
    simp only [List.drop_one, List.tail_cons, List.isEmpty_iff, List.reverse_eq_nil_iff,
      Option.ite_none_left_eq_some, Option.some.injEq, Prod.mk.injEq] at h
    obtain ⟨hfront, rfl, rfl⟩ := h
    refine ⟨?_, by simpa using hfront⟩
    rw [← String.toList_inj, ← List.reverse_inj, ← hcut, hc]
    simp

/-- A file name with an extension is its stem, a dot and the extension. -/
theorem eq_of_extension? (h : extension? name = some ext) :
    name = stem name ++ "." ++ ext ∧ stem name ≠ "" := by
  obtain ⟨⟨before, after⟩, hsplit, rfl⟩ := Option.map_eq_some_iff.1 h
  rw [stem, hsplit]
  exact splitAtDot?_eq_some hsplit

theorem mem_of_mem_stem {c : Char} (h : extension? name = some ext) (hc : c ∈ (stem name).toList) :
    c ∈ name.toList := by
  rw [(eq_of_extension? h).1]
  simp [hc]

end Path

namespace Catalog

variable {catalog : Catalog} {tree : FileTree} {recursive : Bool} {query : Option String}
  {root parent key value : String} {name : FileName} {above : List FileName}

/-- A class is that of a file whose name is a text with one of the extensions. -/
theorem classOf?_eq_some_iff : catalog.classOf? query name = some value ↔
    ∃ text, name = .ofText text ∧ (∃ ext ∈ catalog.extensions, Path.extension? text = some ext) ∧
      matchesQuery query text = true ∧ Path.stem text = value := by
  simp only [classOf?, Option.bind_eq_bind, Option.bind_eq_some_iff, FileName.text?_eq_some_iff,
    Option.ite_none_right_eq_some, Bool.and_eq_true, List.contains_iff_mem, Option.some.injEq]
  constructor
  · rintro ⟨text, hname, ext, hext, ⟨hmem, hquery⟩, hstem⟩
    exact ⟨text, hname, ⟨ext, hmem, hext⟩, hquery, hstem⟩
  · rintro ⟨text, hname, ⟨ext, hmem, hext⟩, hquery, hstem⟩
    exact ⟨text, hname, ext, hext, ⟨hmem, hquery⟩, hstem⟩

theorem mem_files_iff {x : List FileName × FileName} : x ∈ catalog.files tree recursive parent ↔
    ∃ root ∈ catalog.includePaths, x ∈ catalog.filesOf tree recursive parent root :=
  List.mem_flatMap

theorem mem_filesOf_iff_holds {x : List FileName × FileName} :
    x ∈ catalog.filesOf tree recursive parent root ↔
      ∃ listing, tree.listing? (directory root parent) = some listing ∧ Holds listing x.1 x.2 ∧
        (recursive = true ∨ x.1 = []) ∧
        Visible (fun names => catalog.isExcluded (relativePath root parent names)) x.1 x.2 := by
  rw [filesOf]
  cases tree.listing? (directory root parent) with
  | none => simp
  | some listing => simp [mem_filesBelow_nil_iff]

/-- The key of a class shows its name. -/
theorem last_joinParts {front name : String} (hslash : '/' ∉ name.toList) (hname : name ≠ "") :
    ((splitLast? '/' (joinParts [front, name])).map (·.2)).getD (joinParts [front, name]) =
      name := by
  by_cases hfront : front = ""
  · rw [hfront, joinParts_empty_left, splitLast?_of_not_mem hslash]
    rfl
  · have hsplit : splitLast? '/' (front ++ "/" ++ name) = some (front, name) :=
      splitLast?_append hslash front
    rw [joinParts_pair hfront hname, hsplit]
    rfl

theorem joinParts_concat (parts : List String) (name : String) :
    joinParts (parts ++ [name]) = joinParts [joinParts parts, name] := by
  rw [joinParts_append, joinParts_singleton]

/-- The name of a class is its file name without the extension, so it is not empty and holds no
character that the file name does not hold. -/
theorem name_of_classOf? (h : catalog.classOf? query name = some value) :
    value ≠ "" ∧ ∀ c ∈ value.toList, c ∈ name.lossy.toList := by
  obtain ⟨text, rfl, ⟨ext, -, hext⟩, -, rfl⟩ := classOf?_eq_some_iff.1 h
  rw [FileName.lossy_ofText]
  exact ⟨(Path.eq_of_extension? hext).2, fun c => Path.mem_of_mem_stem hext⟩

/-- Files that give the same key give the same class, since the key shows the name of the class. -/
theorem value_eq_of_key_eq {other : Catalog} {query' : Option String} {name' : FileName}
    {value' : String} {parts parts' : List String} (hslash : '/' ∉ name.lossy.toList)
    (hslash' : '/' ∉ name'.lossy.toList)
    (hclass : catalog.classOf? query name = some value)
    (hclass' : other.classOf? query' name' = some value')
    (hkey : joinParts (parts ++ [value]) = joinParts (parts' ++ [value'])) : value = value' := by
  obtain ⟨hne, hchars⟩ := name_of_classOf? hclass
  obtain ⟨hne', hchars'⟩ := name_of_classOf? hclass'
  rw [joinParts_concat, joinParts_concat] at hkey
  rw [← last_joinParts (fun hc => hslash (hchars _ hc)) hne, hkey]
  exact last_joinParts (fun hc => hslash' (hchars' _ hc)) hne'

/-- The classes of a namespace are those of its files. No file gives another class under the key of
one. -/
theorem get?_classes_eq_some_iff
    (hslash : ∀ x ∈ catalog.files tree recursive (normalizeNamespace parent),
      '/' ∉ x.2.lossy.toList) :
    (catalog.classes tree parent recursive query).get? key = some value ↔
      ∃ x ∈ catalog.files tree recursive (normalizeNamespace parent),
        catalog.classOf? query x.2 = some value ∧
          key = joinParts (normalizeNamespace parent :: x.1.map (·.lossy) ++ [value]) := by
  have hmem (found : String) : (key, found) ∈
        (catalog.files tree recursive (normalizeNamespace parent)).filterMap (fun x =>
          (catalog.classOf? query x.2).map fun found =>
            (joinParts (normalizeNamespace parent :: x.1.map (·.lossy) ++ [found]), found)) ↔
      ∃ x ∈ catalog.files tree recursive (normalizeNamespace parent),
        catalog.classOf? query x.2 = some found ∧
          key = joinParts (normalizeNamespace parent :: x.1.map (·.lossy) ++ [found]) := by
    simp only [List.mem_filterMap, Option.map_eq_some_iff, Prod.mk.injEq]
    constructor
    · rintro ⟨x, hx, _, hclass, hkey, rfl⟩
      exact ⟨x, hx, hclass, hkey.symm⟩
    · rintro ⟨x, hx, hclass, hkey⟩
      exact ⟨x, hx, found, hclass, hkey.symm, rfl⟩
  rw [← hmem value]
  refine SortedMap.get?_ofList_eq_some_iff fun a b ha hb => ?_
  obtain ⟨x, hx, hclass, hkey⟩ := (hmem a).1 ha
  obtain ⟨y, hy, hclass', hkey'⟩ := (hmem b).1 hb
  exact value_eq_of_key_eq (hslash x hx) (hslash y hy) hclass hclass' (hkey.symm.trans hkey')

theorem mem_namespaces_iff {filter : Option String} {listed : String} :
    listed ∈ catalog.namespaces tree filter ↔
      ∃ x ∈ catalog.files tree true (normalizeNamespace (filter.getD "")), x.1 ≠ [] ∧
        listed = joinParts (normalizeNamespace (filter.getD "") :: x.1.map (·.lossy)) := by
  rw [namespaces, SortedMap.mem_keys_ofList]
  simp only [List.mem_filterMap, Option.ite_none_left_eq_some, Option.some.injEq, Prod.mk.injEq,
    List.isEmpty_iff]
  constructor
  · rintro ⟨_, x, hx, hbelow, hlisted, -⟩
    exact ⟨x, hx, hbelow, hlisted.symm⟩
  · rintro ⟨x, hx, hbelow, hlisted⟩
    exact ⟨(), x, hx, hbelow, hlisted.symm, trivial⟩

/-! ### Visible files -/

/-- A file of this name is in these directories below the directory of a namespace, and nothing on
the way to it from there is left out. -/
structure Shows (catalog : Catalog) (tree : FileTree) (root parent : String)
    (above : List FileName) (name : FileName) : Prop where
  found : ∃ place content, tree.resolve (directory root parent) = .ok place ∧
    tree.find? (place ++ above ++ [name]) = some (.file content)
  visible : Visible (fun names => catalog.isExcluded (relativePath root parent names)) above name

theorem mem_filesOf_iff (hproper : tree.Everywhere ProperNames) (hlinks : tree.Everywhere NoLinks)
    {x : List FileName × FileName} : x ∈ catalog.filesOf tree recursive parent root ↔
      (recursive = true ∨ x.1 = []) ∧ catalog.Shows tree root parent x.1 x.2 := by
  rw [mem_filesOf_iff_holds]
  constructor
  · rintro ⟨listing, hlisting, hholds, hdepth, hvisible⟩
    have hfound := (FileTree.exists_holds_listing?_iff hproper hlinks).1 ⟨listing, hlisting, hholds⟩
    exact ⟨hdepth, hfound, hvisible⟩
  · rintro ⟨hdepth, hfound, hvisible⟩
    obtain ⟨listing, hlisting, hholds⟩ :=
      (FileTree.exists_holds_listing?_iff hproper hlinks).2 hfound
    exact ⟨listing, hlisting, hholds, hdepth, hvisible⟩

/-- The classes that a catalog lists are those of the visible source files. -/
theorem get?_classes_iff (hproper : tree.Everywhere ProperNames)
    (hlinks : tree.Everywhere NoLinks) :
    (catalog.classes tree parent recursive query).get? key = some value ↔
      ∃ root ∈ catalog.includePaths, ∃ above name,
        catalog.Shows tree root (normalizeNamespace parent) above name ∧
          (recursive = true ∨ above = []) ∧ catalog.classOf? query name = some value ∧
          key = joinParts (normalizeNamespace parent :: above.map (·.lossy) ++ [value]) := by
  have hslash : ∀ x ∈ catalog.files tree recursive (normalizeNamespace parent),
      '/' ∉ x.2.lossy.toList := by
    intro x hx
    obtain ⟨root, -, hx⟩ := mem_files_iff.1 hx
    obtain ⟨-, hshows⟩ := (mem_filesOf_iff hproper hlinks).1 hx
    obtain ⟨place, content, -, hfound⟩ := hshows.found
    have hname := FileTree.isFileName_of_find? hproper hfound x.2 List.mem_cons_self
    exact (not_mem_lossy_of_isFileName hname).1
  rw [get?_classes_eq_some_iff hslash]
  simp only [mem_files_iff, mem_filesOf_iff hproper hlinks]
  constructor
  · rintro ⟨⟨above, name⟩, ⟨root, hroot, hdepth, hshows⟩, hclass, hkey⟩
    exact ⟨root, hroot, above, name, hshows, hdepth, hclass, hkey⟩
  · rintro ⟨root, hroot, above, name, hshows, hdepth, hclass, hkey⟩
    exact ⟨(above, name), ⟨root, hroot, hdepth, hshows⟩, hclass, hkey⟩

/-- The namespaces that a catalog lists are the directories of the visible files. -/
theorem mem_namespaces_iff_shows (hproper : tree.Everywhere ProperNames)
    (hlinks : tree.Everywhere NoLinks) {filter : Option String} {listed : String} :
    listed ∈ catalog.namespaces tree filter ↔
      ∃ root ∈ catalog.includePaths, ∃ above name, above ≠ [] ∧
        catalog.Shows tree root (normalizeNamespace (filter.getD "")) above name ∧
          listed = joinParts (normalizeNamespace (filter.getD "") :: above.map (·.lossy)) := by
  simp only [mem_namespaces_iff, mem_files_iff, mem_filesOf_iff hproper hlinks, true_or, true_and]
  constructor
  · rintro ⟨⟨above, name⟩, ⟨root, hroot, hshows⟩, hbelow, hlisted⟩
    exact ⟨root, hroot, above, name, hbelow, hshows, hlisted⟩
  · rintro ⟨root, hroot, above, name, hbelow, hshows, hlisted⟩
    exact ⟨(above, name), ⟨root, hroot, hshows⟩, hbelow, hlisted⟩

theorem increasing_namespaces (catalog : Catalog) (tree : FileTree) (filter : Option String) :
    (catalog.namespaces tree filter).Pairwise (· < ·) :=
  SortedMap.pairwise_keys _

/-! ### Include paths without a directory -/

/-- The catalog with only those include paths below which a namespace has a directory. -/
def standing (catalog : Catalog) (tree : FileTree) (parent : String) : Catalog :=
  { catalog with
    includePaths := catalog.includePaths.filter fun root =>
      tree.isDirectory (directory root parent) }

theorem filesOf_of_not_isDirectory (h : tree.isDirectory (directory root parent) = false) :
    catalog.filesOf tree recursive parent root = [] := by
  rw [filesOf]
  cases hlisting : tree.listing? (directory root parent) with
  | none => rfl
  | some listing =>
    obtain ⟨place, entries, hresolve, hplace, -⟩ := FileTree.listing?_eq_some_iff.1 hlisting
    simp [FileTree.isDirectory, FileTree.entry, hresolve, hplace, bind, Except.bind] at h

theorem files_standing (catalog : Catalog) (tree : FileTree) (recursive : Bool) (parent : String) :
    (catalog.standing tree parent).files tree recursive parent =
      catalog.files tree recursive parent := by
  rw [files, files, standing]
  induction catalog.includePaths with
  | nil => rfl
  | cons root rest ih =>
    rw [List.filter_cons, List.flatMap_cons, ← ih]
    split_ifs with h
    · rfl
    · rw [filesOf_of_not_isDirectory (eq_false_of_ne_true h), List.nil_append]

/-! ### Relative paths -/

/-- Below an ordinary namespace, the path relative to an include path starts with the namespace. -/
theorem relativePath_intercalate {parts : List String}
    (hparts : ∀ part ∈ parts, Ordinary part ∧ '/' ∉ part.toList) (root : String)
    (names : List FileName) :
    relativePath root (String.intercalate "/" parts) names =
      FileName.joined (parts.map .ofText ++ names) := by
  cases parts with
  | nil =>
    have hidle : Path.dropIdleFront "" = "" := by decide
    simp [relativePath, hidle, FileName.joined]
  | cons part rest =>
    have hempty : ∀ other ∈ part :: rest, other ≠ "" :=
      fun other hother heq => (hparts other hother).1.1 (congrArg _ heq)
    have hdot : part ≠ "." := fun heq => (hparts part List.mem_cons_self).1.2.1 (congrArg _ heq)
    have hsplit : Text.splitOn '/' (String.intercalate "/" (part :: rest)) = part :: rest :=
      Text.splitOn_intercalate (List.cons_ne_nil _ _) fun other hother => (hparts other hother).2
    have hidle : Path.isIdle part = false := by
      simp [Path.isIdle, hempty part List.mem_cons_self, hdot]
    have hfront : Path.dropIdleFront (String.intercalate "/" (part :: rest)) =
        String.intercalate "/" (part :: rest) := by
      rw [Path.dropIdleFront, hsplit, List.dropWhile_cons_of_neg (by simp [hidle])]
    have hne := intercalate_ne_empty hempty (List.cons_ne_nil _ _)
    rw [relativePath, hfront, ite_self, if_neg hne, Text.bytes_intercalate]
    cases names with
    | nil => simp
    | cons name names =>
      rw [FileName.joined_append (by simp) (List.cons_ne_nil _ _), List.singleton_append,
        List.intercalate_cons_of_ne_nil (by simp)]
      rfl

/-! ### Listings -/

/-- A catalog lists exactly the visible files: its classes are those of the visible source files,
its namespaces the directories of the visible files. Include paths below which a namespace has no
directory add nothing to a listing, and what is excluded is said by paths that start below the
include path. -/
theorem listings_exact (catalog : Catalog) {tree : FileTree} (hproper : tree.Everywhere ProperNames)
    (hlinks : tree.Everywhere NoLinks) :
    (∀ parent recursive key value,
      (catalog.classes tree parent recursive none).get? key = some value ↔
        ∃ root ∈ catalog.includePaths, ∃ above text,
          catalog.Shows tree root (normalizeNamespace parent) above (.ofText text) ∧
            (recursive = true ∨ above = []) ∧
            (∃ ext ∈ catalog.extensions, Path.extension? text = some ext) ∧
            Path.stem text = value ∧
            key = joinParts (normalizeNamespace parent :: above.map (·.lossy) ++ [value])) ∧
    (∀ filter, (catalog.namespaces tree filter).Pairwise (· < ·) ∧
      ∀ listed, listed ∈ catalog.namespaces tree filter ↔
        ∃ root ∈ catalog.includePaths, ∃ above name, above ≠ [] ∧
          catalog.Shows tree root (normalizeNamespace (filter.getD "")) above name ∧
            listed = joinParts (normalizeNamespace (filter.getD "") :: above.map (·.lossy))) ∧
    (∀ parent recursive query,
      (catalog.standing tree (normalizeNamespace parent)).classes tree parent recursive query =
        catalog.classes tree parent recursive query) ∧
    (∀ filter,
      (catalog.standing tree (normalizeNamespace (filter.getD ""))).namespaces tree filter =
        catalog.namespaces tree filter) ∧
    ∀ (root : String) (parts : List String) (names : List FileName),
      (∀ part ∈ parts, Ordinary part ∧ '/' ∉ part.toList) →
      relativePath root (String.intercalate "/" parts) names =
        FileName.joined (parts.map .ofText ++ names) := by
  refine ⟨fun parent recursive key value => ?_, fun filter => ⟨?_, fun listed => ?_⟩,
    fun parent recursive query => ?_, fun filter => ?_, fun root parts names hparts => ?_⟩
  · simp only [get?_classes_iff hproper hlinks, classOf?_eq_some_iff, matchesQuery, true_and]
    constructor
    · rintro ⟨root, hroot, above, _, hshows, hdepth, ⟨text, rfl, hext, hstem⟩, hkey⟩
      exact ⟨root, hroot, above, text, hshows, hdepth, hext, hstem, hkey⟩
    · rintro ⟨root, hroot, above, text, hshows, hdepth, hext, hstem, hkey⟩
      exact ⟨root, hroot, above, _, hshows, hdepth, ⟨text, rfl, hext, hstem⟩, hkey⟩
  · exact increasing_namespaces catalog tree filter
  · exact mem_namespaces_iff_shows hproper hlinks
  · rw [classes, classes, files_standing]
    rfl
  · rw [namespaces, namespaces, files_standing]
  · exact relativePath_intercalate hparts root names

/-- Two include paths with a hidden directory, a hidden file and a directory that is excluded. -/
def shopTree : FileTree where
  entries := [
    ("lib", .directory [
      ("Shop", .directory [
        (".Draft.php", .file .empty),
        ("Cart.php", .file .empty),
        (".cache", .directory [("Cart.php", .file .empty)]),
        ("Old", .directory [("Basket.php", .file .empty)])])]),
    ("more", .directory [("Shop", .directory [("Tax.inc", .file .empty)])])]

/-- The catalog of both include paths, and of one that is not there. -/
def shopCatalog : Catalog where
  includePaths := ["lib", "gone", "more"]
  isExcluded := (· == Text.bytes "Shop/Old")

theorem listings_exact_shop : shopTree.Everywhere ProperNames ∧ shopTree.Everywhere NoLinks ∧
    (shopCatalog.classes shopTree "\\Shop" false none).get? "Shop/.Draft" = some ".Draft" ∧
    "Shop" ∈ shopCatalog.namespaces shopTree none ∧
    ¬ shopCatalog.Shows shopTree "lib" "" ["Shop", ".cache"] "Cart.php" ∧
    ¬ shopCatalog.Shows shopTree "lib" "" ["Shop", "Old"] "Basket.php" := by
  have hproper : shopTree.Everywhere ProperNames := by decide
  have hlinks : shopTree.Everywhere NoLinks := by decide
  obtain ⟨hclasses, hnamespaces, -⟩ := listings_exact shopCatalog hproper hlinks
  refine ⟨hproper, hlinks, (hclasses _ _ _ _).2 ?_, ((hnamespaces none).2 "Shop").2 ?_,
    fun hcache => ?_, fun hold => ?_⟩
  · refine ⟨"lib", by decide, [], ".Draft.php", ⟨⟨["lib", "Shop"], .empty, rfl, rfl⟩, ?_⟩, .inr rfl,
      ⟨"php", by decide, by decide⟩, by decide, by decide⟩
    exact visible_nil.2 (by decide)
  · refine ⟨"more", by decide, ["Shop"], "Tax.inc", by decide, ⟨⟨["more"], .empty, rfl, rfl⟩, ?_⟩,
      by decide⟩
    exact visible_cons.2 ⟨by decide, visible_nil.2 (by decide)⟩
  · exact absurd (hcache.visible.directories ["Shop"] ".cache" List.prefix_rfl).1 (by decide)
  · exact absurd (hold.visible.directories ["Shop"] "Old" List.prefix_rfl).2 (by decide)

end Catalog

end ClassDocs
