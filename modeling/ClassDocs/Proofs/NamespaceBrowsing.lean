import ClassDocs.Proofs.CatalogListings

/-!
# Browsing namespace by namespace

The classes below a namespace can be listed at once, or one after the other for each namespace that
is listed below it. Both ways look at the same files, since what stands below an include path is
told by the names that lead to it, wherever these are cut into a namespace and the directories below
it. There are two exceptions. The empty include path names no directory itself, though names below
it do. And a name that no text spells is listed as a text that does not lead back to it.

## Main definitions

* `FileTree.start`: the place that names below an include path start from.
* `Catalog.Browsed`: the classes of a namespace and of those listed below it.

## Main results

* `Catalog.shows_iff`: what a catalog shows of a namespace, told from the names of the namespace.
* `Catalog.browsed_iff`: browsing finds the classes that are listed at once, and otherwise only
  those below the empty include path.
* `Catalog.not_forall_browsed_of_recursive`: it does not find all of them where there are names that
  no text spells.
-/

namespace ClassDocs

/-! ### Directories of namespaces -/

section Parts

variable {parts : List String}

theorem mem_intercalate {c : Char} (h : c ∈ (String.intercalate "/" parts).toList) :
    c = '/' ∨ ∃ part ∈ parts, c ∈ part.toList := by
  induction parts with
  | nil => simp at h
  | cons part rest ih =>
    cases rest with
    | nil =>
      rw [String.intercalate_singleton] at h
      exact .inr ⟨part, List.mem_cons_self, h⟩
    | cons next rest =>
      rw [String.intercalate_cons_cons] at h
      simp only [String.toList_append, List.mem_append] at h
      rcases h with (hpart | hslash) | hrest
      · exact .inr ⟨part, List.mem_cons_self, hpart⟩
      · exact .inl (by simpa using hslash)
      · rcases ih hrest with hslash | ⟨other, hother, hc⟩
        · exact .inl hslash
        · exact .inr ⟨other, List.mem_cons_of_mem _ hother, hc⟩

/-- File names with slashes between them are a relative path. -/
theorem isAbsolute_intercalate (hparts : ∀ part ∈ parts, isFileName part = true) :
    Path.isAbsolute (String.intercalate "/" parts) = false := by
  cases parts with
  | nil => rfl
  | cons part rest =>
    obtain ⟨hempty, hslash, -⟩ := text_of_isFileName (hparts part List.mem_cons_self)
    obtain ⟨c, cs, hchars⟩ := List.exists_cons_of_ne_nil
      (fun h => hempty (String.toList_eq_nil_iff.1 h) : part.toList ≠ [])
    have hc : c ≠ '/' := fun heq => hslash (hchars ▸ heq ▸ List.mem_cons_self)
    cases rest <;> simp [Path.isAbsolute, String.intercalate_cons_cons, hchars, hc]

theorem ne_empty_of_isFileName (hparts : ∀ part ∈ parts, isFileName part = true) :
    ∀ part ∈ parts, part ≠ "" :=
  fun part hpart => (text_of_isFileName (hparts part hpart)).1

theorem splitOn_intercalate_slash (hparts : ∀ part ∈ parts, isFileName part = true)
    (hne : parts ≠ []) : Text.splitOn '/' (String.intercalate "/" parts) = parts :=
  Text.splitOn_intercalate hne fun part hpart => (text_of_isFileName (hparts part hpart)).2.1

end Parts

namespace FileTree

variable {tree : FileTree} {parts : List String} {root : String}

/-- The place that names below an include path start from, which is the working directory for the
empty path. -/
def start (tree : FileTree) (root : String) : Except FileError (List FileName) :=
  if root = "" then .ok tree.workingDirectory else tree.resolve root

/-- The directory of a namespace is where the names of the namespace lead. -/
theorem resolve_directory (hlinks : tree.Everywhere NoLinks)
    (hparts : ∀ part ∈ parts, isFileName part = true) (hne : parts ≠ []) :
    tree.resolve (Catalog.directory root (String.intercalate "/" parts)) =
      (tree.start root).bind fun start =>
        tree.resolveNames maxLinks start (parts.map .ofText) := by
  have hpath := Catalog.intercalate_ne_empty (ne_empty_of_isFileName hparts) hne
  have hrelative := isAbsolute_intercalate hparts
  have hnull : ∀ c ∈ (String.intercalate "/" parts).toList, c.toNat ≠ 0 := by
    intro c hc
    rcases mem_intercalate hc with rfl | ⟨part, hpart, hc⟩
    · decide
    · exact (text_of_isFileName (hparts part hpart)).2.2 c hc
  have hnames : (Route.ofText (String.intercalate "/" parts)).names = parts.map .ofText :=
    congrArg _ (splitOn_intercalate_slash hparts hne)
  rw [Catalog.directory, if_neg hpath, start]
  split_ifs with hroot
  · have hjoin : Path.join "" (String.intercalate "/" parts) = String.intercalate "/" parts := by
      simp [Path.join, hrelative]
    have hany : (String.intercalate "/" parts).toList.any (·.toNat == 0) = false := by
      simpa using hnull
    have horigin : (Route.ofText (String.intercalate "/" parts)).origin tree.workingDirectory =
        tree.workingDirectory := by
      simp [Route.origin, Route.ofText, hrelative]
    rw [hroot, hjoin, resolve, hany, if_neg Bool.false_ne_true, if_neg hpath]
    simp only [horigin, hnames]
    rfl
  · rw [resolve_join hlinks hroot hrelative hnull, hnames]

/-- A namespace has the directory that its names spell below the include path, if there is anything.
The empty include path has directories below it only. -/
theorem resolve_directory_eq_ok_iff (hproper : tree.Everywhere ProperNames)
    (hlinks : tree.Everywhere NoLinks) (hparts : ∀ part ∈ parts, isFileName part = true)
    {place : List FileName} :
    tree.resolve (Catalog.directory root (String.intercalate "/" parts)) = .ok place ↔
      (root = "" → parts ≠ []) ∧ ∃ start, tree.start root = .ok start ∧
        place = start ++ parts.map .ofText ∧
        (parts = [] ∨ (tree.find? place).isSome = true) := by
  by_cases hne : parts = []
  · subst hne
    have hbase : Catalog.directory root (String.intercalate "/" []) = root := rfl
    rw [hbase, start]
    split_ifs with hroot
    · rw [hroot]
      simp [resolve]
    · simp [hroot]
  · have hordinary : ∀ name ∈ parts.map .ofText, Ordinary name :=
      List.forall_mem_map.2 fun part hpart => (isFileName_iff.1 (hparts part hpart)).1
    rw [resolve_directory hlinks hparts hne]
    cases hstart : tree.start root with
    | error e => simp [Except.bind]
    | ok start =>
      simp [Except.bind, resolveNames_eq_ok_iff hproper hlinks hordinary, hne]

end FileTree

namespace Catalog

variable {catalog : Catalog} {tree : FileTree} {root key value : String} {name : FileName}
  {query : Option String} {parts above : List String}

/-- What a catalog shows of a namespace is found below an include path by the names of the namespace
and the directories, and so are the paths that are excluded. -/
theorem shows_iff (hproper : tree.Everywhere ProperNames) (hlinks : tree.Everywhere NoLinks)
    (hparts : ∀ part ∈ parts, isFileName part = true) {above : List FileName} :
    catalog.Shows tree root (String.intercalate "/" parts) above name ↔
      (root = "" → parts ≠ []) ∧
      (∃ start content, tree.start root = .ok start ∧
        tree.find? (start ++ (parts.map .ofText ++ above ++ [name])) = some (.file content)) ∧
      Visible (fun names => catalog.isExcluded (FileName.joined (parts.map .ofText ++ names))) above
        name := by
  have hexcluded : (fun names =>
      catalog.isExcluded (relativePath root (String.intercalate "/" parts) names)) =
      fun names => catalog.isExcluded (FileName.joined (parts.map .ofText ++ names)) := by
    funext names
    rw [relativePath_intercalate]
    intro part hpart
    exact ⟨(isFileName_iff.1 (hparts part hpart)).1, (text_of_isFileName (hparts part hpart)).2.1⟩
  constructor
  · rintro ⟨⟨place, content, hresolve, hfound⟩, hvisible⟩
    obtain ⟨hroot, start, hstart, rfl, -⟩ :=
      (FileTree.resolve_directory_eq_ok_iff hproper hlinks hparts).1 hresolve
    refine ⟨hroot, ⟨start, content, hstart, ?_⟩, hexcluded ▸ hvisible⟩
    simpa only [List.append_assoc] using hfound
  · rintro ⟨hroot, ⟨start, content, hstart, hfound⟩, hvisible⟩
    have hplace : tree.find? (start ++ parts.map .ofText ++ (above ++ [name])) =
        some (.file content) := by
      simpa only [List.append_assoc] using hfound
    have hsome : (tree.find? (start ++ parts.map .ofText)).isSome = true := by
      rw [FileTree.find?_append] at hplace
      exact Option.isSome_of_isSome_bind (Option.isSome_of_eq_some hplace)
    refine ⟨⟨start ++ parts.map .ofText, content, ?_, ?_⟩, hexcluded ▸ hvisible⟩
    · exact (FileTree.resolve_directory_eq_ok_iff hproper hlinks hparts).2
        ⟨hroot, start, hstart, rfl, .inr hsome⟩
    · simpa only [List.append_assoc] using hfound

/-- Where all names are spelled by texts, so are the directories above what a catalog shows. -/
theorem Shows.exists_texts (hproper : tree.Everywhere ProperNames)
    (hlinks : tree.Everywhere NoLinks) (htext : tree.Everywhere TextNames)
    (hparts : ∀ part ∈ parts, isFileName part = true) {above : List FileName}
    (h : catalog.Shows tree root (String.intercalate "/" parts) above name) :
    ∃ texts : List String, above = texts.map .ofText ∧
      ∀ part ∈ parts ++ texts, isFileName part = true := by
  obtain ⟨-, ⟨start, content, -, hfound⟩, -⟩ := (shows_iff hproper hlinks hparts).1 h
  rw [List.append_assoc, ← List.append_assoc] at hfound
  have hnames := FileTree.isFileName_of_find? hproper hfound
  obtain ⟨texts, htexts⟩ := FileTree.exists_texts_of_find? htext hfound
  obtain ⟨texts, last, rfl, rfl, -⟩ := List.append_eq_map_iff.1 htexts
  refine ⟨texts, rfl, fun part hpart => ?_⟩
  rcases List.mem_append.1 hpart with hpart | hpart
  · exact hparts part hpart
  · exact hnames _ (List.mem_append_left _ (List.mem_map_of_mem hpart))

/-- Where no name holds a backslash, neither do the names of what a catalog shows. -/
theorem Shows.backslash_not_mem (hproper : tree.Everywhere ProperNames)
    (hlinks : tree.Everywhere NoLinks) (hbackslash : tree.Everywhere NoBackslashes)
    (hparts : ∀ part ∈ parts, isFileName part = true)
    (h : catalog.Shows tree root (String.intercalate "/" parts) (above.map .ofText) name) :
    ∀ part ∈ parts ++ above, '\\' ∉ part.toList := by
  obtain ⟨-, ⟨start, content, -, hfound⟩, -⟩ := (shows_iff hproper hlinks hparts).1 h
  rw [← List.map_append] at hfound
  intro part hpart
  rw [← FileName.lossy_ofText part]
  exact FileTree.backslash_not_mem_of_find? hbackslash hfound _
    (List.mem_append_left _ (List.mem_map_of_mem hpart))

/-! ### Moving directories into the namespace -/

/-- The first of the directories above a file may be moved into the namespace, provided that none of
them is left out. -/
theorem shows_cut_iff (hproper : tree.Everywhere ProperNames) (hlinks : tree.Everywhere NoLinks)
    (hparts : ∀ part ∈ parts ++ above, isFileName part = true) (inner : List FileName) :
    catalog.Shows tree root (String.intercalate "/" parts) (above.map .ofText ++ inner) name ↔
      (root = "" → parts ≠ []) ∧
      (∀ front d, front ++ [d] <+: above.map .ofText → isHidden d = false ∧
        catalog.isExcluded (FileName.joined (parts.map .ofText ++ (front ++ [d]))) = false) ∧
      catalog.Shows tree root (String.intercalate "/" (parts ++ above)) inner name := by
  have hfront : ∀ part ∈ parts, isFileName part = true :=
    fun part hpart => hparts part (List.mem_append_left _ hpart)
  rw [shows_iff hproper hlinks hfront, shows_iff hproper hlinks hparts, visible_append]
  simp only [List.map_append, List.append_assoc]
  constructor
  · rintro ⟨hroot, hfound, hdirectories, hvisible⟩
    exact ⟨hroot, hdirectories, fun hempty => List.append_ne_nil_of_left_ne_nil (hroot hempty) _,
      hfound, hvisible⟩
  · rintro ⟨hroot, hdirectories, -, hfound, hvisible⟩
    exact ⟨hroot, hfound, hdirectories, hvisible⟩

/-- A file in some directories below a namespace is one directly in the longer namespace that these
directories make, provided that none of them is left out. -/
theorem shows_append_iff (hproper : tree.Everywhere ProperNames) (hlinks : tree.Everywhere NoLinks)
    (hparts : ∀ part ∈ parts ++ above, isFileName part = true) :
    catalog.Shows tree root (String.intercalate "/" parts) (above.map .ofText) name ↔
      (root = "" → parts ≠ []) ∧
      (∀ front d, front ++ [d] <+: above.map .ofText → isHidden d = false ∧
        catalog.isExcluded (FileName.joined (parts.map .ofText ++ (front ++ [d]))) = false) ∧
      catalog.Shows tree root (String.intercalate "/" (parts ++ above)) [] name := by
  rw [← shows_cut_iff hproper hlinks hparts [], List.append_nil]

/-- A longer namespace is written as the catalog lists it. -/
theorem normalizeNamespace_joinParts
    (hparts : ∀ part ∈ parts ++ above, isFileName part = true)
    (hbackslash : ∀ part ∈ parts ++ above, '\\' ∉ part.toList) :
    normalizeNamespace (joinParts (String.intercalate "/" parts :: above)) =
      String.intercalate "/" (parts ++ above) := by
  have hempty := ne_empty_of_isFileName hparts
  have hnormalized : Normalized (joinParts (parts ++ above)) :=
    normalized_joinParts fun part hpart =>
      .of_not_mem (text_of_isFileName (hparts part hpart)).2.1 (hbackslash part hpart)
  rw [← joinParts_eq_intercalate fun part hpart => hempty part (List.mem_append_left _ hpart),
    joinParts_joinParts_cons, hnormalized.normalizeNamespace_eq, joinParts_eq_intercalate hempty]

/-- The key of a class is the same wherever the names in front of it are cut. -/
theorem joinParts_cut (hempty : ∀ part ∈ parts ++ above, part ≠ "") (value : String) :
    joinParts (String.intercalate "/" (parts ++ above) :: [] ++ [value]) =
      joinParts (String.intercalate "/" parts :: above ++ [value]) := by
  rw [← joinParts_eq_intercalate fun part hpart => hempty part (List.mem_append_left _ hpart),
    ← joinParts_eq_intercalate hempty, List.cons_append, List.cons_append, joinParts_joinParts_cons,
    joinParts_joinParts_cons, List.nil_append, List.append_assoc]

/-! ### Browsing -/

variable {filter : Option String}

/-- A class is found by browsing when it is in the namespace itself or in one that is listed below
it. -/
def Browsed (catalog : Catalog) (tree : FileTree) (filter query : Option String)
    (key value : String) : Prop :=
  (catalog.classes tree (filter.getD "") false query).get? key = some value ∨
    ∃ listed ∈ catalog.namespaces tree filter,
      (catalog.classes tree listed false query).get? key = some value

/-- The catalog with one include path only. -/
def below (catalog : Catalog) (root : String) : Catalog :=
  { catalog with includePaths := [root] }

/-- The classes of a catalog are those that its include paths give, each on its own. -/
theorem get?_classes_iff_below (hproper : tree.Everywhere ProperNames)
    (hlinks : tree.Everywhere NoLinks) {parent : String} {recursive : Bool} :
    (catalog.classes tree parent recursive query).get? key = some value ↔
      ∃ root ∈ catalog.includePaths,
        ((catalog.below root).classes tree parent recursive query).get? key = some value := by
  simp only [get?_classes_iff hproper hlinks]
  constructor
  · rintro ⟨root, hroot, above, name, ⟨hfound, hvisible⟩, hclass⟩
    exact ⟨root, hroot, root, List.mem_singleton_self root, above, name, ⟨hfound, hvisible⟩, hclass⟩
  · rintro ⟨root, hroot, other, hother, above, name, ⟨hfound, hvisible⟩, hclass⟩
    rw [List.mem_singleton.1 hother] at hfound hvisible
    exact ⟨root, hroot, above, name, ⟨hfound, hvisible⟩, hclass⟩

/-- Browsing finds what is listed at once. -/
theorem browsed_of_recursive (hproper : tree.Everywhere ProperNames)
    (hlinks : tree.Everywhere NoLinks) (htext : tree.Everywhere TextNames)
    (hbackslash : tree.Everywhere NoBackslashes)
    (hparts : ∀ part ∈ parts, isFileName part = true)
    (hfilter : normalizeNamespace (filter.getD "") = String.intercalate "/" parts)
    (h : (catalog.classes tree (filter.getD "") true query).get? key = some value) :
    catalog.Browsed tree filter query key value := by
  obtain ⟨root, hroot, above, name, hshows, -, hclass, hkey⟩ :=
    (get?_classes_iff hproper hlinks).1 h
  by_cases hbelow : above = []
  · exact .inl ((get?_classes_iff hproper hlinks).2
      ⟨root, hroot, above, name, hshows, .inr hbelow, hclass, hkey⟩)
  · have hlisted := (mem_namespaces_iff_shows hproper hlinks).2
      ⟨root, hroot, above, name, hbelow, hshows, rfl⟩
    refine .inr ⟨_, hlisted, ?_⟩
    rw [hfilter] at hshows hkey ⊢
    obtain ⟨texts, rfl, hnames⟩ := hshows.exists_texts hproper hlinks htext hparts
    have hslashes := hshows.backslash_not_mem hproper hlinks hbackslash hparts
    obtain ⟨-, -, hlonger⟩ := (shows_append_iff hproper hlinks hnames).1 hshows
    rw [FileName.map_lossy_map_ofText] at hkey ⊢
    rw [get?_classes_iff hproper hlinks, normalizeNamespace_joinParts hnames hslashes]
    refine ⟨root, hroot, [], name, hlonger, .inr rfl, hclass, ?_⟩
    rw [hkey, List.map_nil, joinParts_cut (ne_empty_of_isFileName hnames)]

/-- A class that an include path gives in a namespace that is listed is among those that are listed
at once, unless the include path is empty and the namespaces are listed from the top. -/
theorem recursive_of_listed (hproper : tree.Everywhere ProperNames)
    (hlinks : tree.Everywhere NoLinks) (htext : tree.Everywhere TextNames)
    (hbackslash : tree.Everywhere NoBackslashes)
    (hparts : ∀ part ∈ parts, isFileName part = true)
    (hfilter : normalizeNamespace (filter.getD "") = String.intercalate "/" parts)
    {listed : String} (hlisted : listed ∈ catalog.namespaces tree filter)
    (hopen : root = "" → parts ≠ [])
    (h : ((catalog.below root).classes tree listed false query).get? key = some value) :
    ((catalog.below root).classes tree (filter.getD "") true query).get? key = some value := by
  -- Another include path may have put the namespace on the list. The directories are the same, so
  -- none of them is left out here either.
  obtain ⟨other, -, above, shown, hbelow, hshows, hlisted⟩ :=
    (mem_namespaces_iff_shows hproper hlinks).1 hlisted
  rw [hfilter] at hshows hlisted
  obtain ⟨texts, rfl, hnames⟩ := hshows.exists_texts hproper hlinks htext hparts
  have hslashes := hshows.backslash_not_mem hproper hlinks hbackslash hparts
  obtain ⟨-, hdirectories, -⟩ := (shows_append_iff hproper hlinks hnames).1 hshows
  rw [FileName.map_lossy_map_ofText] at hlisted
  rw [get?_classes_iff hproper hlinks, hlisted, normalizeNamespace_joinParts hnames hslashes] at h
  obtain ⟨only, honly, inner, name, hlonger, hdepth, hclass, hkey⟩ := h
  have hinner : inner = [] := hdepth.resolve_left Bool.false_ne_true
  rw [hinner] at hlonger hkey
  rw [List.mem_singleton.1 honly] at hlonger
  rw [get?_classes_iff hproper hlinks, hfilter]
  refine ⟨root, List.mem_singleton_self root, texts.map .ofText, name, ?_, .inl rfl, hclass, ?_⟩
  · exact (shows_append_iff hproper hlinks hnames).2 ⟨hopen, hdirectories, hlonger⟩
  · rw [hkey, List.map_nil, joinParts_cut (ne_empty_of_isFileName hnames),
      FileName.map_lossy_map_ofText]

/-- Browsing finds the classes that are listed at once, and otherwise only classes below the empty
include path, which has no directory for the namespace at the top. A namespace is listed as its
names are shown, so they are to be found again only if texts spell them. -/
theorem browsed_iff (catalog : Catalog) {tree : FileTree} (hproper : tree.Everywhere ProperNames)
    (hlinks : tree.Everywhere NoLinks) (htext : tree.Everywhere TextNames)
    (hbackslash : tree.Everywhere NoBackslashes)
    {filter : Option String} {parts : List String}
    (hparts : ∀ part ∈ parts, isFileName part = true)
    (hfilter : normalizeNamespace (filter.getD "") = String.intercalate "/" parts)
    (query : Option String) (key value : String) :
    catalog.Browsed tree filter query key value ↔
      (catalog.classes tree (filter.getD "") true query).get? key = some value ∨
        parts = [] ∧ "" ∈ catalog.includePaths ∧ ∃ listed ∈ catalog.namespaces tree filter,
          ((catalog.below "").classes tree listed false query).get? key = some value := by
  constructor
  · rintro (hhere | ⟨listed, hlisted, hclass⟩)
    · obtain ⟨root, hroot, above, name, hshows, -, hclass⟩ :=
        (get?_classes_iff hproper hlinks).1 hhere
      exact .inl ((get?_classes_iff hproper hlinks).2
        ⟨root, hroot, above, name, hshows, .inl rfl, hclass⟩)
    · obtain ⟨root, hroot, hbelow⟩ := (get?_classes_iff_below hproper hlinks).1 hclass
      by_cases hopen : root = "" → parts ≠ []
      · exact .inl ((get?_classes_iff_below hproper hlinks).2 ⟨root, hroot,
          recursive_of_listed hproper hlinks htext hbackslash hparts hfilter hlisted hopen hbelow⟩)
      · obtain ⟨rfl, htop⟩ := Classical.not_imp.1 hopen
        exact .inr ⟨not_not.1 htop, hroot, listed, hlisted, hbelow⟩
  · rintro (hrecursive | ⟨-, hroot, listed, hlisted, hclass⟩)
    · exact browsed_of_recursive hproper hlinks htext hbackslash hparts hfilter hrecursive
    · exact .inr ⟨listed, hlisted, (get?_classes_iff_below hproper hlinks).2 ⟨"", hroot, hclass⟩⟩

/-- One namespace in the working directory and below another directory. -/
def branchTree : FileTree where
  entries := [
    ("lib", .directory [("app", .directory [("core", .directory [("Kernel.php", .file .empty)])])]),
    ("app", .directory [("core", .directory [("Boot.php", .file .empty)])])]

/-- The catalog of the empty include path and of the other directory. -/
def branchCatalog : Catalog where
  includePaths := ["", "lib"]

theorem properNames_branchTree : branchTree.Everywhere ProperNames := by decide

theorem noLinks_branchTree : branchTree.Everywhere NoLinks := by decide

/-- The namespace has a class from the empty include path. -/
theorem get?_classes_branch :
    (branchCatalog.classes branchTree "app/core" false none).get? "app/core/Boot" = some "Boot" :=
  (get?_classes_iff properNames_branchTree noLinks_branchTree).2 ⟨"", by decide, [], "Boot.php",
    ⟨⟨["app", "core"], .empty, rfl, rfl⟩, visible_nil.2 (by decide)⟩, .inr rfl, by decide,
    by decide⟩

theorem browsed_iff_branch : branchTree.Everywhere ProperNames ∧ branchTree.Everywhere NoLinks ∧
    branchTree.Everywhere TextNames ∧ branchTree.Everywhere NoBackslashes ∧
    (∀ part ∈ ["app"], isFileName (.ofText part) = true) ∧
    normalizeNamespace "\\app" = String.intercalate "/" ["app"] ∧
    branchCatalog.Browsed branchTree (some "\\app") none "app/core/Boot" "Boot" ∧
    (branchCatalog.classes branchTree "\\app" true none).get? "app/core/Boot" = some "Boot" := by
  have hlisted : "app/core" ∈ branchCatalog.namespaces branchTree (some "\\app") := by
    refine (mem_namespaces_iff_shows properNames_branchTree noLinks_branchTree).2 ⟨"lib", by decide,
      ["core"], "Kernel.php", by decide, ⟨⟨["lib", "app"], .empty, rfl, rfl⟩, ?_⟩, by decide⟩
    exact visible_cons.2 ⟨by decide, visible_nil.2 (by decide)⟩
  have hbrowsed : branchCatalog.Browsed branchTree (some "\\app") none "app/core/Boot" "Boot" :=
    .inr ⟨"app/core", hlisted, get?_classes_branch⟩
  have hiff := browsed_iff branchCatalog properNames_branchTree noLinks_branchTree (by decide)
    (by decide) (by decide : ∀ part ∈ ["app"], isFileName (.ofText part) = true)
    (by decide : normalizeNamespace ((some "\\app").getD "") = String.intercalate "/" ["app"])
    none "app/core/Boot" "Boot"
  refine ⟨properNames_branchTree, noLinks_branchTree, by decide, by decide, by decide, by decide,
    hbrowsed, ?_⟩
  exact (hiff.1 hbrowsed).resolve_right fun hempty => List.cons_ne_nil _ _ hempty.1

/-- A class below the empty include path is found by browsing, but it is not listed at once. -/
theorem not_forall_browsed_iff : ¬ ∀ (catalog : Catalog) (tree : FileTree),
    tree.Everywhere ProperNames → tree.Everywhere NoLinks → tree.Everywhere TextNames →
    tree.Everywhere NoBackslashes →
    ∀ (filter : Option String) (parts : List String), (∀ part ∈ parts, isFileName part = true) →
    normalizeNamespace (filter.getD "") = String.intercalate "/" parts →
    ∀ query key value, catalog.Browsed tree filter query key value ↔
      (catalog.classes tree (filter.getD "") true query).get? key = some value := by
  intro h
  have hlisted : "app/core" ∈ branchCatalog.namespaces branchTree none := by
    refine (mem_namespaces_iff_shows properNames_branchTree noLinks_branchTree).2 ⟨"lib", by decide,
      ["app", "core"], "Kernel.php", by decide, ⟨⟨["lib"], .empty, rfl, rfl⟩, ?_⟩, by decide⟩
    exact visible_cons.2 ⟨by decide, visible_cons.2 ⟨by decide, visible_nil.2 (by decide)⟩⟩
  have hfiles : branchCatalog.files branchTree true (normalizeNamespace "") =
      [([.ofText "app", .ofText "core"], .ofText "Kernel.php")] := by
    have hparent : normalizeNamespace "" = "" := normalized_empty.normalizeNamespace_eq
    have hempty : branchTree.listing? "" = none := rfl
    have hlib : branchTree.listing? "lib" = some [(.ofText "app", .directory [
        (.ofText "core", .directory [(.ofText "Kernel.php", .file)])])] := by
      refine FileTree.listing?_eq_some_iff.2 ⟨["lib"], _, rfl, rfl, ?_⟩
      simp only [FileTree.listEntries]
    have hhidden : isHidden "app" = false ∧ isHidden "core" = false := by decide
    simp [files, filesOf, directory, branchCatalog, hparent, hempty, hlib, filesBelow, hhidden]
  have hslash : ∀ x ∈ branchCatalog.files branchTree true (normalizeNamespace ""),
      '/' ∉ x.2.lossy.toList := by
    rw [hfiles]
    decide
  have hfound := (h branchCatalog branchTree properNames_branchTree noLinks_branchTree (by decide)
    (by decide) none [] (by decide) (by decide) none "app/core/Boot" "Boot").1
    (.inr ⟨"app/core", hlisted, get?_classes_branch⟩)
  obtain ⟨x, hx, hclass, -⟩ := (get?_classes_eq_some_iff hslash).1 hfound
  rw [hfiles, List.mem_singleton] at hx
  rw [hx] at hclass
  exact absurd hclass (by decide)

/-- A namespace in a directory whose name no text spells. -/
def strayTree : FileTree where
  entries := [("src", .directory [
    (⟨[0xFF]⟩, .directory [("core", .directory [("Boot.php", .file .empty)])])])]

/-- The catalog of the namespace. -/
def strayCatalog : Catalog where
  includePaths := ["src"]

theorem properNames_strayTree : strayTree.Everywhere ProperNames := by decide

theorem noLinks_strayTree : strayTree.Everywhere NoLinks := by decide

theorem shows_stray :
    strayCatalog.Shows strayTree "src" (normalizeNamespace "") [⟨[0xFF]⟩, "core"] "Boot.php" := by
  refine ⟨⟨["src"], .empty, rfl, rfl⟩, ?_⟩
  exact visible_cons.2 ⟨by decide, visible_cons.2 ⟨by decide, visible_nil.2 (by decide)⟩⟩

/-- No namespace leads to the class, since the text that its key starts with spells another name. -/
theorem get?_classes_stray_ne (listed : String) :
    (strayCatalog.classes strayTree listed false none).get? "\uFFFD/core/Boot" ≠ some "Boot" := by
  intro hclass
  obtain ⟨root, hroot, above, name, hshows, hdepth, -, hkey⟩ :=
    (get?_classes_iff properNames_strayTree noLinks_strayTree).1 hclass
  have habove : above = [] := hdepth.resolve_left Bool.false_ne_true
  rw [habove] at hkey
  have hparent : normalizeNamespace listed = "\uFFFD/core" := by
    have hne : normalizeNamespace listed ≠ "" := by
      intro hempty
      rw [hempty] at hkey
      exact absurd hkey (by decide)
    have hpair : "\uFFFD/core/Boot" = normalizeNamespace listed ++ "/" ++ "Boot" :=
      hkey.trans (joinParts_pair hne (by decide))
    have hsplit : splitLast? '/' (normalizeNamespace listed ++ "/" ++ "Boot") =
        some (normalizeNamespace listed, "Boot") := splitLast?_append (by decide) _
    rw [← hpair] at hsplit
    have hfront : splitLast? '/' "\uFFFD/core/Boot" = some ("\uFFFD/core", "Boot") := by decide
    exact (Prod.mk.inj (Option.some.inj (hsplit.symm.trans hfront))).1
  obtain ⟨place, content, hresolve, -⟩ := hshows.found
  have hnowhere : strayTree.resolve (directory "src" "\uFFFD/core") = .error .notFound := rfl
  rw [List.mem_singleton.1 hroot, hparent, hnowhere] at hresolve
  cases hresolve

/-- A class is listed at once, but browsing does not find it where the name of a directory is shown
as a text that does not spell it. -/
theorem not_forall_browsed_of_recursive : ¬ ∀ (catalog : Catalog) (tree : FileTree),
    tree.Everywhere ProperNames → tree.Everywhere NoLinks → tree.Everywhere NoBackslashes →
    ∀ key value, (catalog.classes tree "" true none).get? key = some value →
      catalog.Browsed tree none none key value := by
  intro h
  have hlisted : (strayCatalog.classes strayTree "" true none).get? "\uFFFD/core/Boot" =
      some "Boot" :=
    (get?_classes_iff properNames_strayTree noLinks_strayTree).2
      ⟨"src", by decide, _, _, shows_stray, .inl rfl, by decide, by decide⟩
  rcases h strayCatalog strayTree properNames_strayTree noLinks_strayTree (by decide) _ _ hlisted
    with hhere | ⟨listed, -, hclass⟩
  · exact get?_classes_stray_ne _ hhere
  · exact get?_classes_stray_ne listed hclass

end Catalog

end ClassDocs
