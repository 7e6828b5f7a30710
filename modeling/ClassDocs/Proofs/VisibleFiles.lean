import ClassDocs.Catalog.Basic
import ClassDocs.Proofs.DirectoryTrees

/-!
# Visible files

The walk over a listing turns away from hidden and skipped directories as it meets them. What it
finds is said here file by file: a file is found when nothing on the way to it is left out. In a
tree without links, the listing of a directory has the files that are found in the directory, so
that the walk can be read off the tree.

## Main definitions

* `Holds`: the files of a listing, each with the directories above it.
* `Visible`: nothing on the way to a file is left out.

## Main results

* `mem_filesBelow_iff`: the walk finds the files of a listing that are visible.
* `FileTree.mem_listEntries_iff`: the listing of a directory, entry by entry.
* `FileTree.exists_holds_listing?_iff`: the files that are listed in a tree without links.
-/

namespace ClassDocs

/-- A listing has a file of this name in directories one below the other. -/
def Holds (entries : List (FileName × Listing)) : (above : List FileName) → (name : FileName) → Prop
  | [], name => (name, .file) ∈ entries
  | d :: above, name => ∃ inner, (d, .directory inner) ∈ entries ∧ Holds inner above name

/-- Nothing on the way to a file is left out: none of the directories above it is hidden or skipped,
and the file itself is not skipped. -/
structure Visible (skip : List FileName → Bool) (above : List FileName) (name : FileName) :
    Prop where
  directories : ∀ front d, front ++ [d] <+: above →
    isHidden d = false ∧ skip (front ++ [d]) = false
  file : skip (above ++ [name]) = false

section FilesBelow

variable {skip : List FileName → Bool} {recursive : Bool} {above : List FileName}
  {name d : FileName} {entries rest : List (FileName × Listing)}

theorem holds_file_cons : Holds ((d, .file) :: rest) above name ↔
    above = [] ∧ name = d ∨ Holds rest above name := by
  cases above <;> simp [Holds]

theorem holds_directory_cons : Holds ((d, .directory entries) :: rest) above name ↔
    (∃ inner, above = d :: inner ∧ Holds entries inner name) ∨ Holds rest above name := by
  cases above with
  | nil => simp [Holds]
  | cons first inner =>
    simp only [Holds, List.mem_cons, Prod.mk.injEq, Listing.directory.injEq]
    constructor
    · rintro ⟨sub, ⟨rfl, rfl⟩ | hsub, hholds⟩
      · exact .inl ⟨inner, rfl, hholds⟩
      · exact .inr ⟨sub, hsub, hholds⟩
    · rintro (⟨_, heq, hholds⟩ | ⟨sub, hsub, hholds⟩)
      · obtain ⟨rfl, rfl⟩ := List.cons.inj heq
        exact ⟨entries, .inl ⟨rfl, rfl⟩, hholds⟩
      · exact ⟨sub, .inr hsub, hholds⟩

theorem visible_nil : Visible skip [] name ↔ skip [name] = false := by
  refine ⟨fun h => h.file, fun h => ⟨fun front d hprefix => ?_, h⟩⟩
  simp at hprefix

/-- The way to a file starts with the directory at the top. -/
theorem visible_cons : Visible skip (d :: above) name ↔
    (isHidden d = false ∧ skip [d] = false) ∧
      Visible (fun names => skip (d :: names)) above name := by
  constructor
  · intro h
    refine ⟨h.directories [] d ⟨above, rfl⟩, fun front e hfront => ?_, h.file⟩
    exact h.directories (d :: front) e (List.cons_prefix_cons.2 ⟨rfl, hfront⟩)
  · rintro ⟨htop, h⟩
    refine ⟨fun front e hfront => ?_, h.file⟩
    cases front with
    | nil =>
      obtain ⟨rfl, -⟩ := List.cons_prefix_cons.1 hfront
      exact htop
    | cons first front =>
      obtain ⟨rfl, hinner⟩ := List.cons_prefix_cons.1 hfront
      exact h.directories front e hinner

/-- The way to a file may be cut at any directory. -/
theorem visible_append {inner : List FileName} : Visible skip (above ++ inner) name ↔
    (∀ front d, front ++ [d] <+: above → isHidden d = false ∧ skip (front ++ [d]) = false) ∧
      Visible (fun names => skip (above ++ names)) inner name := by
  constructor
  · intro h
    refine ⟨fun front e hfront => ?_, fun front e hfront => ?_, ?_⟩
    · exact h.directories front e (hfront.trans (List.prefix_append above inner))
    · rw [← List.append_assoc]
      refine h.directories (above ++ front) e ?_
      rwa [List.append_assoc, List.prefix_append_right_inj]
    · rw [← List.append_assoc]
      exact h.file
  · rintro ⟨habove, h⟩
    refine ⟨fun front e hfront => ?_, ?_⟩
    · rcases List.prefix_or_prefix_of_prefix hfront (List.prefix_append above inner) with
        hwithin | ⟨beyond, hbeyond⟩
      · exact habove front e hwithin
      · rcases List.eq_nil_or_concat beyond with rfl | ⟨middle, last, rfl⟩
        · rw [List.append_nil] at hbeyond
          exact habove front e (hbeyond ▸ List.prefix_rfl)
        · rw [List.concat_eq_append, ← List.append_assoc] at hbeyond
          obtain ⟨rfl, hlast⟩ := List.append_inj' hbeyond rfl
          obtain rfl : last = e := by simpa using hlast
          rw [List.append_assoc] at hfront ⊢
          exact h.directories middle last ((List.prefix_append_right_inj above).1 hfront)
    · rw [List.append_assoc]
      exact h.file

/-- A file that a listing has below some directories, with nothing left out on the way from
there. -/
def ListedBelow (skip : List FileName → Bool) (recursive : Bool) (above : List FileName)
    (entries : List (FileName × Listing)) (found : List FileName × FileName) : Prop :=
  ∃ inner, found.1 = above ++ inner ∧ Holds entries inner found.2 ∧
    (recursive = true ∨ inner = []) ∧ Visible (fun names => skip (above ++ names)) inner found.2

variable {found : List FileName × FileName}

theorem listedBelow_file_cons :
    ListedBelow skip recursive above ((d, .file) :: rest) found ↔
      found = (above, d) ∧ skip (above ++ [d]) = false ∨
        ListedBelow skip recursive above rest found := by
  simp only [ListedBelow, holds_file_cons]
  constructor
  · rintro ⟨inner, habove, ⟨rfl, hname⟩ | hholds, hdepth, hvisible⟩
    · rw [visible_nil, hname] at hvisible
      exact .inl ⟨Prod.ext (habove.trans (List.append_nil _)) hname, hvisible⟩
    · exact .inr ⟨inner, habove, hholds, hdepth, hvisible⟩
  · rintro (⟨rfl, hskip⟩ | ⟨inner, habove, hholds, hdepth, hvisible⟩)
    · exact ⟨[], (List.append_nil _).symm, .inl ⟨rfl, rfl⟩, .inr rfl, visible_nil.2 hskip⟩
    · exact ⟨inner, habove, .inr hholds, hdepth, hvisible⟩

theorem listedBelow_directory_cons :
    ListedBelow skip recursive above ((d, .directory entries) :: rest) found ↔
      (recursive = true ∧ isHidden d = false ∧ skip (above ++ [d]) = false) ∧
          ListedBelow skip recursive (above ++ [d]) entries found ∨
        ListedBelow skip recursive above rest found := by
  simp only [ListedBelow, holds_directory_cons]
  constructor
  · rintro ⟨inner, habove, ⟨deeper, rfl, hholds⟩ | hholds, hdepth, hvisible⟩
    · obtain ⟨⟨hhidden, hskip⟩, hvisible⟩ := visible_cons.1 hvisible
      have hrecursive : recursive = true := hdepth.resolve_right (List.cons_ne_nil _ _)
      refine .inl ⟨⟨hrecursive, hhidden, hskip⟩, deeper, ?_, hholds, .inl hrecursive, ?_⟩
      · rw [habove, List.append_cons]
      · simpa only [List.append_assoc, List.singleton_append] using hvisible
    · exact .inr ⟨inner, habove, hholds, hdepth, hvisible⟩
  · rintro (⟨⟨hrecursive, hhidden, hskip⟩, deeper, habove, hholds, -, hvisible⟩ |
      ⟨inner, habove, hholds, hdepth, hvisible⟩)
    · refine ⟨d :: deeper, ?_, .inl ⟨deeper, rfl, hholds⟩, .inl hrecursive, ?_⟩
      · exact habove.trans (List.append_cons above d deeper).symm
      · refine visible_cons.2 ⟨⟨hhidden, hskip⟩, ?_⟩
        simpa only [List.append_assoc, List.singleton_append] using hvisible
    · exact ⟨inner, habove, .inr hholds, hdepth, hvisible⟩

/-- The files of a listing that are not left out are those with nothing left out on the way. -/
theorem mem_filesBelow_iff : found ∈ filesBelow skip recursive above entries ↔
    ListedBelow skip recursive above entries found := by
  fun_induction filesBelow skip recursive above entries with
  | case1 above =>
    simp only [List.not_mem_nil, false_iff]
    rintro ⟨inner, -, hholds, -⟩
    cases inner <;> simp [Holds] at hholds
  | case2 above name rest ih =>
    rw [listedBelow_file_cons, List.mem_append, ih]
    refine or_congr_left ?_
    split_ifs with hskip <;> simp [hskip]
  | case3 above name entries rest ihbelow ih =>
    rw [listedBelow_directory_cons, List.mem_append, ih]
    refine or_congr_left ?_
    split_ifs with hskip
    · simp only [List.not_mem_nil, false_iff]
      rintro ⟨⟨hrecursive, hhidden, hopen⟩, -⟩
      simp [hrecursive, hhidden, hopen] at hskip
    · have hopen : recursive = true ∧ isHidden name = false ∧ skip (above ++ [name]) = false := by
        simpa [and_assoc] using hskip
      rw [ihbelow]
      simp [hopen]

/-- From the top, the files of a listing are told by what the listing holds. -/
theorem mem_filesBelow_nil_iff : found ∈ filesBelow skip recursive [] entries ↔
    Holds entries found.1 found.2 ∧ (recursive = true ∨ found.1 = []) ∧
      Visible skip found.1 found.2 := by
  simp [mem_filesBelow_iff, ListedBelow]

end FilesBelow

/-! ### Listings of trees -/

namespace FileTree

variable {tree : FileTree}
  {follow : (path : List (List FileName)) → (place : List FileName) → List (FileName × Listing)}
  {path : List (List FileName)} {place above : List FileName} {entries : List (FileName × Entry)}
  {name : FileName}

/-- What a listing shows of an entry. -/
def listed? (tree : FileTree)
    (follow : (path : List (List FileName)) → (place : List FileName) → List (FileName × Listing))
    (path : List (List FileName)) (place : List FileName) (name : FileName) : Entry → Option Listing
  | .file _ => some .file
  | .directory entries =>
    let inner := place ++ [name]
    some (.directory (listEntries tree follow (inner :: path) inner entries))
  | .link _ => tree.followLink? follow path place name

theorem mem_listEntries_iff {listing : Listing} :
    (name, listing) ∈ listEntries tree follow path place entries ↔
      ∃ entry, (name, entry) ∈ entries ∧
        tree.listed? follow path place name entry = some listing := by
  induction entries with
  | nil => simp [listEntries]
  | cons e rest ih =>
    obtain ⟨first, entry⟩ := e
    have hcons : (name, listing) ∈ listEntries tree follow path place ((first, entry) :: rest) ↔
        name = first ∧ tree.listed? follow path place first entry = some listing ∨
          (name, listing) ∈ listEntries tree follow path place rest := by
      cases entry with
      | file content => simp [listEntries, listed?, eq_comm]
      | directory inner => simp [listEntries, listed?, eq_comm]
      | link target =>
        rw [listEntries, listed?]
        cases tree.followLink? follow path place first <;> simp [eq_comm]
    rw [hcons, ih]
    constructor
    · rintro (⟨rfl, hlisted⟩ | ⟨other, hmem, hlisted⟩)
      · exact ⟨entry, List.mem_cons_self, hlisted⟩
      · exact ⟨other, List.mem_cons_of_mem _ hmem, hlisted⟩
    · rintro ⟨other, hmem, hlisted⟩
      rcases List.mem_cons.1 hmem with heq | hmem
      · obtain ⟨rfl, rfl⟩ := Prod.mk.inj heq
        exact .inl ⟨rfl, hlisted⟩
      · exact .inr ⟨other, hmem, hlisted⟩

/-- The listing of a directory without links has the files that are found in the directory. -/
theorem holds_listEntries_iff (hproper : (Entry.directory entries).Everywhere ProperNames)
    (hlinks : (Entry.directory entries).Everywhere NoLinks) :
    Holds (listEntries tree follow path place entries) above name ↔
      ∃ content, (Entry.directory entries).find? (above ++ [name]) = some (.file content) := by
  induction above generalizing path place entries with
  | nil =>
    obtain ⟨hhere, -⟩ := Entry.everywhere_directory_iff.1 hproper
    obtain ⟨hfree, -⟩ := Entry.everywhere_directory_iff.1 hlinks
    simp only [Holds, List.nil_append, mem_listEntries_iff, Entry.find?_cons_eq_some_iff hhere.1]
    constructor
    · rintro ⟨entry, hmem, hlisted⟩
      have hlink := hfree _ hmem
      cases entry with
      | file content => exact ⟨content, _, hmem, rfl⟩
      | directory inner => cases hlisted
      | link target => cases hlink
    · rintro ⟨content, entry, hmem, hfound⟩
      obtain rfl : entry = .file content := by simpa [Entry.find?] using hfound
      exact ⟨_, hmem, rfl⟩
  | cons d above ih =>
    obtain ⟨hhere, hbelow⟩ := Entry.everywhere_directory_iff.1 hproper
    obtain ⟨hfree, hdeeper⟩ := Entry.everywhere_directory_iff.1 hlinks
    simp only [Holds, List.cons_append, mem_listEntries_iff, Entry.find?_cons_eq_some_iff hhere.1]
    constructor
    · rintro ⟨inner, ⟨entry, hmem, hlisted⟩, hholds⟩
      have hlink := hfree _ hmem
      cases entry with
      | file content => cases hlisted
      | directory inside =>
        obtain rfl : listEntries tree follow _ _ inside = inner := by simpa [listed?] using hlisted
        obtain ⟨content, hfound⟩ := (ih (hbelow _ hmem) (hdeeper _ hmem)).1 hholds
        exact ⟨content, _, hmem, hfound⟩
      | link target => cases hlink
    · rintro ⟨content, entry, hmem, hfound⟩
      cases entry with
      | directory inside =>
        exact ⟨_, ⟨_, hmem, rfl⟩, (ih (hbelow _ hmem) (hdeeper _ hmem)).2 ⟨content, hfound⟩⟩
      | _ => cases above <;> cases hfound

/-- The listing of a directory, if a path leads to one. -/
theorem listing?_eq_some_iff {file : String} {listing : List (FileName × Listing)} :
    tree.listing? file = some listing ↔ ∃ place entries, tree.resolve file = .ok place ∧
      tree.find? place = some (.directory entries) ∧
      listing = listEntries tree (listPlace tree (directoryCounts tree.entries + 1)) [place] place
        entries := by
  rw [listing?]
  cases tree.resolve file with
  | error e => simp
  | ok place =>
    cases hplace : tree.find? place with
    | none => simp [hplace]
    | some found =>
      cases found with
      | directory entries => simp [hplace, listPlace, eq_comm]
      | _ => simp [hplace]

/-- The files that are listed at the end of a path are those found below the place that the path
leads to. -/
theorem exists_holds_listing?_iff (hproper : tree.Everywhere ProperNames)
    (hlinks : tree.Everywhere NoLinks) {file : String} :
    (∃ listing, tree.listing? file = some listing ∧ Holds listing above name) ↔
      ∃ place content, tree.resolve file = .ok place ∧
        tree.find? (place ++ above ++ [name]) = some (.file content) := by
  have hholds {place : List FileName} {entries : List (FileName × Entry)}
      (hplace : tree.find? place = some (.directory entries)) {follow path} :
      Holds (listEntries tree follow path place entries) above name ↔
        ∃ content, tree.find? (place ++ above ++ [name]) = some (.file content) := by
    rw [holds_listEntries_iff (hproper.find? hplace) (hlinks.find? hplace), List.append_assoc,
      find?_append, hplace, Option.bind_some]
  constructor
  · rintro ⟨listing, hlisting, hfile⟩
    obtain ⟨place, entries, hresolve, hplace, rfl⟩ := listing?_eq_some_iff.1 hlisting
    obtain ⟨content, hfound⟩ := (hholds hplace).1 hfile
    exact ⟨place, content, hresolve, hfound⟩
  · rintro ⟨place, content, hresolve, hfound⟩
    obtain ⟨entries, hplace⟩ : ∃ entries, tree.find? place = some (.directory entries) := by
      obtain ⟨first, rest, hnames⟩ := List.exists_cons_of_ne_nil
        (List.append_ne_nil_of_right_ne_nil above (List.cons_ne_nil name []))
      rw [List.append_assoc, hnames] at hfound
      obtain ⟨entries, -, hplace, -⟩ := exists_directory_of_find? hfound
      exact ⟨entries, hplace⟩
    exact ⟨_, listing?_eq_some_iff.2 ⟨place, entries, hresolve, hplace, rfl⟩,
      (hholds hplace).2 ⟨content, hfound⟩⟩

end FileTree

end ClassDocs
