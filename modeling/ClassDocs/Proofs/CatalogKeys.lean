import ClassDocs.Proofs.CatalogListings

/-!
# Keys of classes

The key of a class in the catalog and the class name that it stands for, with trees that may hold
links. Links add no names of their own to a listing, so every part of a key after the namespace is a
name in some directory of the tree.

## Main definitions

* `NamesSatisfy`: all names in a listing satisfy a predicate.

## Main results

* `FileTree.namesSatisfy_listing?`: the names in a listing are those of directories.
* `Catalog.get?_classes_iff_mem_files`: the classes listed are those of the files.
* `Catalog.exists_parts_of_mem_keys`: a key is a normalized name and the name of a class.
* `Catalog.keys_translate`: keys and class names stand for each other.
-/

namespace ClassDocs

/-! ### Names in listings -/

/-- All names on the way to the files of a listing satisfy `q`. -/
def NamesSatisfy (q : FileName → Prop) (entries : List (FileName × Listing)) : Prop :=
  ∀ above name, Holds entries above name → ∀ part ∈ above ++ [name], q part

theorem namesSatisfy_nil (q : FileName → Prop) : NamesSatisfy q [] := by
  intro above name hholds
  cases above <;> simp [Holds] at hholds

namespace FileTree

variable {tree : FileTree} {p : List (FileName × Entry) → Prop} {q : FileName → Prop}
  {follow : (path : List (List FileName)) → (place : List FileName) → List (FileName × Listing)}
  {path : List (List FileName)} {place : List FileName} {entries : List (FileName × Entry)}

/-- A link to a directory stands for what `follow` lists there. -/
theorem followLink?_eq_directory {name : FileName} {inner : List (FileName × Listing)}
    (h : tree.followLink? follow path place name = some (.directory inner)) :
    ∃ next, inner = follow (next :: path) next := by
  rw [followLink?] at h
  split at h
  · cases h
  · next next _ =>
    split at h
    · cases h
    · split_ifs at h
      exact ⟨next, (Listing.directory.inj (Option.some.inj h)).symm⟩
    · cases h

/-- The listing of a directory has the names in it and below it, and those that `follow` lists. -/
theorem namesSatisfy_listEntries (hnames : ∀ entries, p entries → ∀ e ∈ entries, q e.1)
    (hfollow : ∀ path place, NamesSatisfy q (follow path place))
    (hentries : (Entry.directory entries).Everywhere p) :
    NamesSatisfy q (listEntries tree follow path place entries) := by
  intro above name hholds
  induction above generalizing path place entries with
  | nil =>
    obtain ⟨entry, hmem, -⟩ := mem_listEntries_iff.1 hholds
    have hname := hnames entries (Entry.everywhere_directory_iff.1 hentries).1 _ hmem
    simpa using hname
  | cons d above ih =>
    obtain ⟨inner, hinner, hholds⟩ := hholds
    obtain ⟨entry, hmem, hlisted⟩ := mem_listEntries_iff.1 hinner
    obtain ⟨hhere, hbelow⟩ := Entry.everywhere_directory_iff.1 hentries
    refine List.forall_mem_cons.2 ⟨hnames entries hhere _ hmem, ?_⟩
    cases entry with
    | file content => cases hlisted
    | directory inside =>
      rw [← Listing.directory.inj (Option.some.inj hlisted)] at hholds
      exact ih (hbelow _ hmem) hholds
    | link target =>
      obtain ⟨next, rfl⟩ := followLink?_eq_directory hlisted
      exact hfollow _ _ above name hholds

theorem namesSatisfy_listPlace (hnames : ∀ entries, p entries → ∀ e ∈ entries, q e.1)
    (hp : tree.Everywhere p) (links : Nat) (path : List (List FileName)) (place : List FileName) :
    NamesSatisfy q (listPlace tree links path place) := by
  induction links generalizing path place with
  | zero => exact namesSatisfy_nil q
  | succ links ih =>
    rw [listPlace]
    split
    · next entries hplace => exact namesSatisfy_listEntries hnames ih (hp.find? hplace)
    · exact namesSatisfy_nil q

/-- What holds of the names in every directory of a tree holds of the names in a listing. -/
theorem namesSatisfy_listing? (hnames : ∀ entries, p entries → ∀ e ∈ entries, q e.1)
    (hp : tree.Everywhere p) {file : String} {listing : List (FileName × Listing)}
    (h : tree.listing? file = some listing) : NamesSatisfy q listing := by
  obtain ⟨place, entries, -, hplace, rfl⟩ := listing?_eq_some_iff.1 h
  exact namesSatisfy_listEntries hnames (namesSatisfy_listPlace hnames hp _) (hp.find? hplace)

end FileTree

/-! ### Keys -/

namespace Catalog

variable {catalog : Catalog} {tree : FileTree} {recursive : Bool} {query : Option String}
  {parent key : String}

theorem forall_mem_of_mem_files {p : List (FileName × Entry) → Prop} {q : FileName → Prop}
    (hnames : ∀ entries, p entries → ∀ e ∈ entries, q e.1) (hp : tree.Everywhere p)
    {x : List FileName × FileName} (hx : x ∈ catalog.files tree recursive parent) :
    ∀ part ∈ x.1 ++ [x.2], q part := by
  obtain ⟨root, -, hx⟩ := mem_files_iff.1 hx
  obtain ⟨listing, hlisting, hholds, -⟩ := mem_filesOf_iff_holds.1 hx
  exact FileTree.namesSatisfy_listing? hnames hp hlisting x.1 x.2 hholds

theorem slash_not_mem_of_mem_files (hproper : tree.Everywhere ProperNames)
    {x : List FileName × FileName} (hx : x ∈ catalog.files tree recursive parent) :
    ∀ part ∈ x.1 ++ [x.2], '/' ∉ part.lossy.toList :=
  forall_mem_of_mem_files (fun _ hproper e he => (not_mem_lossy_of_isFileName (hproper.2 e he)).1)
    hproper hx

theorem backslash_not_mem_of_mem_files (hbackslash : tree.Everywhere NoBackslashes)
    {x : List FileName × FileName} (hx : x ∈ catalog.files tree recursive parent) :
    ∀ part ∈ x.1 ++ [x.2], '\\' ∉ part.lossy.toList :=
  forall_mem_of_mem_files (fun _ hbackslash e he hmem =>
    hbackslash e he (FileName.mem_bytes_of_mem_lossy (by decide) hmem)) hbackslash hx

/-- The classes of a namespace are those of its files, in trees with proper names. -/
theorem get?_classes_iff_mem_files (hproper : tree.Everywhere ProperNames) {value : String} :
    (catalog.classes tree parent recursive query).get? key = some value ↔
      ∃ x ∈ catalog.files tree recursive (normalizeNamespace parent),
        catalog.classOf? query x.2 = some value ∧
          key = joinParts (normalizeNamespace parent :: x.1.map (·.lossy) ++ [value]) :=
  get?_classes_eq_some_iff fun x hx =>
    slash_not_mem_of_mem_files hproper hx x.2 (List.mem_append_right _ List.mem_cons_self)

/-- A key is a name as the catalog writes it, followed by the name of a class. -/
theorem exists_parts_of_mem_keys (hproper : tree.Everywhere ProperNames)
    (hbackslash : tree.Everywhere NoBackslashes)
    (h : key ∈ (catalog.classes tree parent recursive query).keys) :
    ∃ front name, Normalized front ∧ name ≠ "" ∧ '/' ∉ name.toList ∧ '\\' ∉ name.toList ∧
      key = joinParts [front, name] := by
  obtain ⟨value, hvalue⟩ := SortedMap.mem_keys_iff.1 h
  obtain ⟨x, hx, hclass, hkey⟩ := (get?_classes_iff_mem_files hproper).1 hvalue
  have hslash := slash_not_mem_of_mem_files hproper hx
  have hback := backslash_not_mem_of_mem_files hbackslash hx
  obtain ⟨hne, hchars⟩ := name_of_classOf? hclass
  refine ⟨joinParts (normalizeNamespace parent :: x.1.map (·.lossy)), value, ?_, hne, ?_, ?_, ?_⟩
  · refine normalized_joinParts (List.forall_mem_cons.2 ⟨normalized_normalizeNamespace parent,
      List.forall_mem_map.2 fun part hpart => ?_⟩)
    exact .of_not_mem (hslash part (List.mem_append_left _ hpart))
      (hback part (List.mem_append_left _ hpart))
  · exact fun hc => hslash x.2 (List.mem_append_right _ List.mem_cons_self) (hchars _ hc)
  · exact fun hc => hback x.2 (List.mem_append_right _ List.mem_cons_self) (hchars _ hc)
  · rw [hkey, joinParts_concat]

theorem qualifiedClass_of_mem_keys (hproper : tree.Everywhere ProperNames)
    (hbackslash : tree.Everywhere NoBackslashes)
    (h : key ∈ (catalog.classes tree parent recursive query).keys) :
    qualifiedClass key = Text.replaceChar '/' '\\' key := by
  obtain ⟨front, name, hfront, hne, hslash, -, rfl⟩ :=
    exists_parts_of_mem_keys hproper hbackslash h
  exact hfront.qualifiedClass_joinParts hslash hne

/-- The key of a class is taken back from its class name. -/
theorem normalizeNamespace_qualifiedClass (hproper : tree.Everywhere ProperNames)
    (hbackslash : tree.Everywhere NoBackslashes)
    (h : key ∈ (catalog.classes tree parent recursive query).keys) :
    normalizeNamespace (qualifiedClass key) = key := by
  rw [qualifiedClass_of_mem_keys hproper hbackslash h]
  obtain ⟨front, name, hfront, -, hslash, hback, rfl⟩ :=
    exists_parts_of_mem_keys hproper hbackslash h
  exact (normalized_pair hfront (.of_not_mem hslash hback)).normalizeNamespace_replaceChar

/-- Keys and class names stand for each other: the class name has a backslash for every slash of the
key, it is made of the parts before and after the last slash, and the key is taken back from it.
Keys of one class name are the same, be they from different listings. A class name stands for
itself. -/
theorem keys_translate (catalog : Catalog) {tree : FileTree} (hproper : tree.Everywhere ProperNames)
    (hbackslash : tree.Everywhere NoBackslashes) :
    (∀ parent recursive query, ∀ key ∈ (catalog.classes tree parent recursive query).keys,
      qualifiedClass key = Text.replaceChar '/' '\\' key ∧
      normalizeNamespace (qualifiedClass key) = key ∧
      (∀ front name, key = front ++ "/" ++ name → '/' ∉ name.toList →
        className front name = qualifiedClass key) ∧
      ('/' ∉ key.toList → className "" key = qualifiedClass key) ∧
      ∀ parent' recursive' query', ∀ key' ∈ (catalog.classes tree parent' recursive' query').keys,
        qualifiedClass key = qualifiedClass key' → key = key') ∧
    ∀ text, qualifiedClass (qualifiedClass text) = qualifiedClass text ∧
      '/' ∉ (qualifiedClass text).toList := by
  refine ⟨fun parent recursive query key hkey => ?_, fun text => ?_⟩
  · refine ⟨qualifiedClass_of_mem_keys hproper hbackslash hkey,
      normalizeNamespace_qualifiedClass hproper hbackslash hkey, fun front name hsplit hname => ?_,
      fun hslash => ?_, fun parent' recursive' query' key' hkey' heq => ?_⟩
    · rw [hsplit, qualifiedClass_append hname]
    · rw [className_empty, qualifiedClass_of_not_mem hslash]
    · rw [← normalizeNamespace_qualifiedClass hproper hbackslash hkey, heq,
        normalizeNamespace_qualifiedClass hproper hbackslash hkey']
  · have hslash := slash_not_mem_qualifiedClass text
    exact ⟨qualifiedClass_of_not_mem hslash, hslash⟩

/-- A class in a directory that a link leads to. -/
def linkedTree : FileTree where
  entries := [
    ("src", .directory [("Http", .link "../vendor/http")]),
    ("vendor", .directory [("http", .directory [("Request.php", .file .empty)])])]

/-- The catalog of the include path with the link. -/
def linkedCatalog : Catalog where
  includePaths := ["src"]

/-- The listing goes through the link. -/
theorem listing?_linkedTree : linkedTree.listing? "src" =
    some [(.ofText "Http", .directory [(.ofText "Request.php", .file)])] := by
  have htarget : linkedTree.find? ["vendor", "http"] =
      some (.directory [("Request.php", .file .empty)]) := rfl
  have hplace (links : Nat) (path : List (List FileName)) :
      FileTree.listPlace linkedTree (links + 1) path ["vendor", "http"] =
        [(.ofText "Request.php", .file)] := by
    simp only [FileTree.listPlace, htarget, FileTree.listEntries]
  have hfollow (links : Nat) : linkedTree.followLink? (FileTree.listPlace linkedTree (links + 1))
      [["src"]] ["src"] "Http" = some (.directory [(.ofText "Request.php", .file)]) := by
    rw [← hplace links [["vendor", "http"], ["src"]]]
    rfl
  refine FileTree.listing?_eq_some_iff.2
    ⟨["src"], [("Http", .link "../vendor/http")], rfl, rfl, ?_⟩
  simp only [FileTree.listEntries, hfollow]

theorem keys_translate_linked : linkedTree.Everywhere ProperNames ∧
    linkedTree.Everywhere NoBackslashes ∧
    "Http/Request" ∈ (linkedCatalog.classes linkedTree "" true none).keys ∧
    qualifiedClass "Http/Request" = "Http\\Request" ∧
    normalizeNamespace "Http\\Request" = "Http/Request" := by
  have hproper : linkedTree.Everywhere ProperNames := by decide
  have hbackslash : linkedTree.Everywhere NoBackslashes := by decide
  have hfiles : linkedCatalog.files linkedTree true (normalizeNamespace "") =
      [([.ofText "Http"], .ofText "Request.php")] := by
    have hparent : normalizeNamespace "" = "" := normalized_empty.normalizeNamespace_eq
    have hhidden : isHidden "Http" = false := by decide
    simp [files, filesOf, directory, linkedCatalog, hparent, listing?_linkedTree, filesBelow,
      hhidden]
  have hmem : "Http/Request" ∈ (linkedCatalog.classes linkedTree "" true none).keys := by
    refine SortedMap.mem_keys_iff.2 ⟨"Request", (get?_classes_eq_some_iff ?_).2 ?_⟩
    · rw [hfiles]
      decide
    · rw [hfiles]
      exact ⟨_, List.mem_singleton_self _, by decide, by decide⟩
  obtain ⟨hname, hkey, -⟩ := (keys_translate linkedCatalog hproper hbackslash).1 _ _ _ _ hmem
  have hclass : Text.replaceChar '/' '\\' "Http/Request" = "Http\\Request" := by decide
  rw [hname, hclass] at hkey
  exact ⟨hproper, hbackslash, hmem, hname.trans hclass, hkey⟩

end Catalog

end ClassDocs
