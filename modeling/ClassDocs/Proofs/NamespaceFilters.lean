import ClassDocs.Proofs.NamespaceBrowsing
import Mathlib.Data.List.Sort

/-!
# Namespaces below a namespace

The namespaces below a given one are listed by a walk that starts in the directory of the namespace
and puts the namespace in front of what it finds. The list of all namespaces comes to the same files
from the include path, through the directories of the namespace. So it has the same entries, unless
one of these directories is hidden or excluded, which only the longer walk takes notice of, or the
include path is empty, where only the shorter walk has a directory to start in.

## Main definitions

* `Catalog.Open`: no directory on the way to a namespace is left out.
* `Catalog.Gives`: the namespaces that are listed below an include path.

## Main results

* `startsWith_intercalate_iff`: what starts with a namespace and a slash lies below the namespace.
* `Catalog.gives_nil_iff`: an include path gives the same namespaces from the top.
* `Catalog.filtered_namespaces`: listing below a namespace agrees with listing all namespaces.
* `Catalog.not_forall_filtered_of_startsWith`: it does not where there are names that no text
  spells.
-/

namespace ClassDocs

/-- Names in a row start with some of them and a slash when they are these names and more. The slash
is what tells the names from others that only begin in the same way. -/
theorem startsWith_intercalate_iff {parts names : List String}
    (hparts : ∀ part ∈ parts, isFileName part = true) (hne : parts ≠ [])
    (hnames : ∀ part ∈ names, isFileName part = true) (hbelow : names ≠ []) :
    (String.intercalate "/" names).startsWith (String.intercalate "/" parts ++ "/") = true ↔
      ∃ above, above ≠ [] ∧ names = parts ++ above := by
  rw [String.startsWith_string_iff]
  constructor
  · rintro ⟨cs, hcs⟩
    have htext : String.intercalate "/" names =
        String.intercalate "/" parts ++ '/'.toString ++ String.ofList cs := by
      rw [← String.toList_inj, ← hcs]
      simp [Char.toString]
    refine ⟨Text.splitOn '/' (String.ofList cs), Text.splitOn_ne_nil _ _, ?_⟩
    rw [← splitOn_intercalate_slash hnames hbelow, htext, Text.splitOn_append,
      splitOn_intercalate_slash hparts hne]
  · rintro ⟨above, habove, rfl⟩
    rw [String.intercalate_append_of_ne_nil hne habove]
    exact ⟨_, String.toList_append.symm⟩

namespace Catalog

variable {catalog : Catalog} {tree : FileTree} {root listed : String} {name : FileName}
  {filter : Option String} {parts : List String}

/-- No directory on the way to a namespace is hidden or excluded. -/
def Open (catalog : Catalog) (names : List FileName) : Prop :=
  ∀ front d, front ++ [d] <+: names →
    isHidden d = false ∧ catalog.isExcluded (FileName.joined (front ++ [d])) = false

theorem open_nil : catalog.Open [] := by
  intro front d hfront
  simp at hfront

theorem open_concat {names : List FileName} {d : FileName} : catalog.Open (names ++ [d]) ↔
    catalog.Open names ∧ isHidden d = false ∧
      catalog.isExcluded (FileName.joined (names ++ [d])) = false := by
  constructor
  · intro h
    exact ⟨fun front e hfront => h front e (hfront.trans (List.prefix_append names [d])),
      h names d List.prefix_rfl⟩
  · rintro ⟨hnames, hlast⟩ front e hfront
    rcases List.prefix_concat_iff.1 hfront with heq | hfront
    · obtain ⟨rfl, hlast'⟩ := List.append_inj' heq rfl
      obtain rfl : e = d := by simpa using hlast'
      exact hlast
    · exact hnames front e hfront

/-- An include path has a visible file in the directories of a namespace below the given one. -/
def Gives (catalog : Catalog) (tree : FileTree) (root : String) (parts : List String)
    (listed : String) : Prop :=
  ∃ above name, above ≠ [] ∧ catalog.Shows tree root (String.intercalate "/" parts) above name ∧
    listed = String.intercalate "/" (parts ++ above.map (·.lossy))

/-- What an include path gives does not depend on the others. -/
theorem gives_below {only : String} :
    (catalog.below only).Gives tree root parts listed ↔ catalog.Gives tree root parts listed := by
  constructor
  · rintro ⟨above, name, hbelow, ⟨hfound, hvisible⟩, hlisted⟩
    exact ⟨above, name, hbelow, ⟨hfound, hvisible⟩, hlisted⟩
  · rintro ⟨above, name, hbelow, ⟨hfound, hvisible⟩, hlisted⟩
    exact ⟨above, name, hbelow, ⟨hfound, hvisible⟩, hlisted⟩

/-- The namespaces that are listed are those that the include paths give. -/
theorem mem_namespaces_iff_gives (hproper : tree.Everywhere ProperNames)
    (hlinks : tree.Everywhere NoLinks) (htext : tree.Everywhere TextNames)
    (hparts : ∀ part ∈ parts, isFileName part = true)
    (hfilter : normalizeNamespace (filter.getD "") = String.intercalate "/" parts) :
    listed ∈ catalog.namespaces tree filter ↔
      ∃ root ∈ catalog.includePaths, catalog.Gives tree root parts listed := by
  have hlisted {root : String} {above : List FileName} {name : FileName}
      (hshows : catalog.Shows tree root (String.intercalate "/" parts) above name) :
      joinParts (String.intercalate "/" parts :: above.map (·.lossy)) =
        String.intercalate "/" (parts ++ above.map (·.lossy)) := by
    obtain ⟨texts, rfl, hnames⟩ := hshows.exists_texts hproper hlinks htext hparts
    rw [FileName.map_lossy_map_ofText,
      ← joinParts_eq_intercalate (ne_empty_of_isFileName hparts), joinParts_joinParts_cons,
      joinParts_eq_intercalate (ne_empty_of_isFileName hnames)]
  rw [mem_namespaces_iff_shows hproper hlinks, hfilter]
  constructor
  · rintro ⟨root, hroot, above, name, hbelow, hshows, rfl⟩
    exact ⟨root, hroot, above, name, hbelow, hshows, hlisted hshows⟩
  · rintro ⟨root, hroot, above, name, hbelow, hshows, rfl⟩
    exact ⟨root, hroot, above, name, hbelow, hshows, (hlisted hshows).symm⟩

/-- What an include path gives is spelled by the names of directories. -/
theorem Gives.exists_texts (hproper : tree.Everywhere ProperNames)
    (hlinks : tree.Everywhere NoLinks) (htext : tree.Everywhere TextNames)
    (hparts : ∀ part ∈ parts, isFileName part = true) (h : catalog.Gives tree root parts listed) :
    ∃ (texts : List String) (name : FileName), texts ≠ [] ∧
      (∀ part ∈ parts ++ texts, isFileName part = true) ∧
      catalog.Shows tree root (String.intercalate "/" parts) (texts.map .ofText) name ∧
      listed = String.intercalate "/" (parts ++ texts) := by
  obtain ⟨above, name, hbelow, hshows, rfl⟩ := h
  obtain ⟨texts, rfl, hnames⟩ := hshows.exists_texts hproper hlinks htext hparts
  refine ⟨texts, name, fun hnil => hbelow (by rw [hnil, List.map_nil]), hnames, hshows, ?_⟩
  rw [FileName.map_lossy_map_ofText]

theorem gives_of_shows {texts : List String} (hne : texts ≠ [])
    (h : catalog.Shows tree root (String.intercalate "/" parts) (texts.map .ofText) name) :
    catalog.Gives tree root parts (String.intercalate "/" (parts ++ texts)) := by
  refine ⟨texts.map .ofText, name, by simpa using hne, h, ?_⟩
  rw [FileName.map_lossy_map_ofText]

theorem Gives.startsWith (hproper : tree.Everywhere ProperNames) (hlinks : tree.Everywhere NoLinks)
    (htext : tree.Everywhere TextNames) (hparts : ∀ part ∈ parts, isFileName part = true)
    (hne : parts ≠ []) (h : catalog.Gives tree root parts listed) :
    listed.startsWith (String.intercalate "/" parts ++ "/") = true := by
  obtain ⟨texts, name, hbelow, hnames, -, rfl⟩ := h.exists_texts hproper hlinks htext hparts
  exact (startsWith_intercalate_iff hparts hne hnames
    (List.append_ne_nil_of_left_ne_nil hne texts)).2 ⟨texts, hbelow, rfl⟩

/-- From the top, an include path gives a namespace below the given one when it has a directory and
nothing on the way to the given one is left out. -/
theorem gives_nil_iff (hproper : tree.Everywhere ProperNames) (hlinks : tree.Everywhere NoLinks)
    (htext : tree.Everywhere TextNames) (hparts : ∀ part ∈ parts, isFileName part = true)
    (hne : parts ≠ []) :
    catalog.Gives tree root [] listed ∧
        listed.startsWith (String.intercalate "/" parts ++ "/") = true ↔
      root ≠ "" ∧ catalog.Open (parts.map .ofText) ∧ catalog.Gives tree root parts listed := by
  have hcut {inner : List FileName} {name : FileName} :
      catalog.Shows tree root (String.intercalate "/" []) (parts.map .ofText ++ inner) name ↔
        (root = "" → [] ≠ []) ∧ catalog.Open (parts.map .ofText) ∧
          catalog.Shows tree root (String.intercalate "/" parts) inner name :=
    shows_cut_iff hproper hlinks hparts inner
  constructor
  · rintro ⟨hgives, hstarts⟩
    obtain ⟨texts, name, hbelow, hnames, hshows, rfl⟩ :=
      hgives.exists_texts hproper hlinks htext (List.forall_mem_nil _)
    obtain ⟨above, habove, rfl⟩ := (startsWith_intercalate_iff hparts hne hnames hbelow).1 hstarts
    rw [List.map_append] at hshows
    obtain ⟨hroot, hopen, hshows⟩ := hcut.1 hshows
    exact ⟨fun hempty => hroot hempty rfl, hopen, gives_of_shows habove hshows⟩
  · rintro ⟨hroot, hopen, hgives⟩
    refine ⟨?_, hgives.startsWith hproper hlinks htext hparts hne⟩
    obtain ⟨texts, name, hbelow, -, hshows, rfl⟩ := hgives.exists_texts hproper hlinks htext hparts
    have htop := hcut.2 ⟨fun hempty => absurd hempty hroot, hopen, hshows⟩
    rw [← List.map_append] at htop
    exact gives_of_shows (List.append_ne_nil_of_left_ne_nil hne texts) htop

/-- Of all namespaces, those below the given one are what the include paths other than the empty one
give below it, or none at all if a directory on the way is left out. -/
theorem mem_filter_namespaces_iff (hproper : tree.Everywhere ProperNames)
    (hlinks : tree.Everywhere NoLinks) (htext : tree.Everywhere TextNames)
    (hparts : ∀ part ∈ parts, isFileName part = true) (hne : parts ≠ []) :
    listed ∈ (catalog.namespaces tree none).filter
        (·.startsWith (String.intercalate "/" parts ++ "/")) ↔
      ∃ root ∈ catalog.includePaths, root ≠ "" ∧ catalog.Open (parts.map .ofText) ∧
        catalog.Gives tree root parts listed := by
  have htop : normalizeNamespace (Option.getD none "") = String.intercalate "/" [] :=
    normalized_empty.normalizeNamespace_eq
  rw [List.mem_filter, mem_namespaces_iff_gives hproper hlinks htext (List.forall_mem_nil _) htop]
  simp only [← gives_nil_iff hproper hlinks htext hparts hne]
  constructor
  · rintro ⟨⟨root, hroot, hgives⟩, hstarts⟩
    exact ⟨root, hroot, hgives, hstarts⟩
  · rintro ⟨root, hroot, hgives, hstarts⟩
    exact ⟨⟨root, hroot, hgives⟩, hstarts⟩

/-- When no directory on the way is left out, listing below a namespace adds to the part of all
namespaces what the empty include path gives there. -/
theorem mem_namespaces_iff_of_open (hproper : tree.Everywhere ProperNames)
    (hlinks : tree.Everywhere NoLinks) (htext : tree.Everywhere TextNames)
    (hparts : ∀ part ∈ parts, isFileName part = true) (hne : parts ≠ [])
    (hfilter : normalizeNamespace (filter.getD "") = String.intercalate "/" parts)
    (hopen : catalog.Open (parts.map .ofText)) :
    listed ∈ catalog.namespaces tree filter ↔
      listed ∈ (catalog.namespaces tree none).filter
          (·.startsWith (String.intercalate "/" parts ++ "/")) ∨
        "" ∈ catalog.includePaths ∧ listed ∈ (catalog.below "").namespaces tree filter := by
  rw [mem_filter_namespaces_iff hproper hlinks htext hparts hne,
    mem_namespaces_iff_gives hproper hlinks htext hparts hfilter,
    mem_namespaces_iff_gives hproper hlinks htext hparts hfilter]
  constructor
  · rintro ⟨root, hroot, hgives⟩
    by_cases hempty : root = ""
    · exact .inr ⟨hempty ▸ hroot, root, List.mem_singleton.2 hempty, gives_below.2 hgives⟩
    · exact .inl ⟨root, hroot, hempty, hopen, hgives⟩
  · rintro (⟨root, hroot, -, -, hgives⟩ | ⟨hroot, root, honly, hgives⟩)
    · exact ⟨root, hroot, hgives⟩
    · exact ⟨root, List.mem_singleton.1 honly ▸ hroot, gives_below.1 hgives⟩

/-- Listing below a namespace agrees with listing all namespaces. Every namespace of the longer list
that starts with the given one and a slash is listed below it, and whatever is listed below it
starts so. When no directory on the way is left out, nothing else is listed below it but what the
empty include path gives there. A namespace starts with another as its names are shown, so this is
told of names that texts spell. -/
theorem filtered_namespaces (catalog : Catalog) {tree : FileTree}
    (hproper : tree.Everywhere ProperNames) (hlinks : tree.Everywhere NoLinks)
    (htext : tree.Everywhere TextNames) {filter : String} {parts : List String}
    (hparts : ∀ part ∈ parts, isFileName part = true) (hne : parts ≠ [])
    (hfilter : normalizeNamespace filter = String.intercalate "/" parts) :
    (∀ listed ∈ catalog.namespaces tree none,
      listed.startsWith (normalizeNamespace filter ++ "/") = true →
        listed ∈ catalog.namespaces tree (some filter)) ∧
    (∀ listed ∈ catalog.namespaces tree (some filter),
      listed.startsWith (normalizeNamespace filter ++ "/") = true) ∧
    (catalog.Open (parts.map .ofText) →
      (∀ listed, listed ∈ catalog.namespaces tree (some filter) ↔
        listed ∈ (catalog.namespaces tree none).filter
            (·.startsWith (normalizeNamespace filter ++ "/")) ∨
          "" ∈ catalog.includePaths ∧
            listed ∈ (catalog.below "").namespaces tree (some filter)) ∧
      ("" ∉ catalog.includePaths → catalog.namespaces tree (some filter) =
        (catalog.namespaces tree none).filter
          (·.startsWith (normalizeNamespace filter ++ "/")))) := by
  have hbelow {listed : String} : listed ∈ catalog.namespaces tree (some filter) ↔
      ∃ root ∈ catalog.includePaths, catalog.Gives tree root parts listed :=
    mem_namespaces_iff_gives hproper hlinks htext hparts hfilter
  rw [hfilter]
  refine ⟨fun listed hlisted hstarts => ?_, fun listed hlisted => ?_, fun hopen => ?_⟩
  · obtain ⟨root, hroot, -, -, hgives⟩ :=
      (mem_filter_namespaces_iff hproper hlinks htext hparts hne).1
        (List.mem_filter.2 ⟨hlisted, hstarts⟩)
    exact hbelow.2 ⟨root, hroot, hgives⟩
  · obtain ⟨root, -, hgives⟩ := hbelow.1 hlisted
    exact hgives.startsWith hproper hlinks htext hparts hne
  · have hmem (listed : String) : listed ∈ catalog.namespaces tree (some filter) ↔ _ :=
      mem_namespaces_iff_of_open hproper hlinks htext hparts hne hfilter hopen
    refine ⟨hmem, fun hempty => ?_⟩
    refine (increasing_namespaces catalog tree _).eq_of_mem_iff
      ((increasing_namespaces catalog tree none).filter _) fun listed => ?_
    rw [hmem listed, or_iff_left fun hroot => hempty hroot.1]

/-- Two namespaces, the name of one of which begins like that of the other. -/
def siblingTree : FileTree where
  entries := [("src", .directory [
    ("app", .directory [("core", .directory [("Boot.php", .file .empty)])]),
    ("app2", .directory [("core", .directory [("Tool.php", .file .empty)])])])]

/-- The catalog of the two namespaces. -/
def siblingCatalog : Catalog where
  includePaths := ["src"]

theorem filtered_namespaces_sibling : siblingTree.Everywhere ProperNames ∧
    siblingTree.Everywhere NoLinks ∧ siblingTree.Everywhere TextNames ∧
    (∀ part ∈ ["app"], isFileName (.ofText part) = true) ∧ ["app"] ≠ [] ∧
    normalizeNamespace "\\app" = String.intercalate "/" ["app"] ∧
    siblingCatalog.Open (["app"].map .ofText) ∧
    "app/core" ∈ siblingCatalog.namespaces siblingTree (some "\\app") ∧
    "app2/core" ∈ siblingCatalog.namespaces siblingTree none ∧
    "app2/core" ∉ siblingCatalog.namespaces siblingTree (some "\\app") ∧
    siblingCatalog.namespaces siblingTree (some "\\app") =
      (siblingCatalog.namespaces siblingTree none).filter
        (·.startsWith (normalizeNamespace "\\app" ++ "/")) := by
  have hproper : siblingTree.Everywhere ProperNames := by decide
  have hlinks : siblingTree.Everywhere NoLinks := by decide
  have htext : siblingTree.Everywhere TextNames := by decide
  have hparts : ∀ part ∈ ["app"], isFileName (.ofText part) = true := by decide
  have hfilter : normalizeNamespace "\\app" = String.intercalate "/" ["app"] := by decide
  have hopen : siblingCatalog.Open (["app"].map .ofText) :=
    open_concat.2 ⟨open_nil, by decide, by decide⟩
  have happ : siblingCatalog.Gives siblingTree "src" ["app"] "app/core" := by
    refine ⟨["core"], "Boot.php", List.cons_ne_nil _ _, ⟨⟨["src", "app"], .empty, rfl, rfl⟩, ?_⟩,
      by decide⟩
    exact visible_cons.2 ⟨by decide, visible_nil.2 (by decide)⟩
  have hother : "app2/core" ∈ siblingCatalog.namespaces siblingTree none := by
    refine (mem_namespaces_iff_shows hproper hlinks).2 ⟨"src", List.mem_singleton_self _,
      ["app2", "core"], "Tool.php", List.cons_ne_nil _ _, ⟨⟨["src"], .empty, rfl, rfl⟩, ?_⟩,
      by decide⟩
    exact visible_cons.2 ⟨by decide, visible_cons.2 ⟨by decide, visible_nil.2 (by decide)⟩⟩
  obtain ⟨-, hstarts, hexact⟩ :=
    filtered_namespaces siblingCatalog hproper hlinks htext hparts (List.cons_ne_nil _ _) hfilter
  refine ⟨hproper, hlinks, htext, hparts, List.cons_ne_nil _ _, hfilter, hopen, ?_, hother, ?_, ?_⟩
  · have hiff : "app/core" ∈ siblingCatalog.namespaces siblingTree (some "\\app") ↔ _ :=
      mem_namespaces_iff_gives hproper hlinks htext hparts hfilter
    exact hiff.2 ⟨"src", List.mem_singleton_self _, happ⟩
  · intro hlisted
    have hbegins := hstarts _ hlisted
    rw [hfilter, String.startsWith_string_iff] at hbegins
    exact absurd hbegins (by decide)
  · exact (hexact hopen).2 (by decide)

/-- The empty include path gives a namespace that is not on the list of all namespaces. -/
theorem not_forall_filtered_eq : ¬ ∀ (catalog : Catalog) (tree : FileTree),
    tree.Everywhere ProperNames → tree.Everywhere NoLinks → tree.Everywhere TextNames →
    tree.Everywhere NoBackslashes →
    ∀ (filter : String) (parts : List String), (∀ part ∈ parts, isFileName part = true) →
    parts ≠ [] → normalizeNamespace filter = String.intercalate "/" parts →
    catalog.Open (parts.map .ofText) →
    catalog.namespaces tree (some filter) = (catalog.namespaces tree none).filter
      (·.startsWith (normalizeNamespace filter ++ "/")) := by
  intro h
  have htext : branchTree.Everywhere TextNames := by decide
  have hparts : ∀ part ∈ ["app"], isFileName (.ofText part) = true := by decide
  have hfilter : normalizeNamespace "app" = String.intercalate "/" ["app"] := by decide
  have hgives : (branchCatalog.below "").Gives branchTree "" ["app"] "app/core" := by
    refine ⟨["core"], "Boot.php", List.cons_ne_nil _ _, ⟨⟨["app"], .empty, rfl, rfl⟩, ?_⟩,
      by decide⟩
    exact visible_cons.2 ⟨by decide, visible_nil.2 (by decide)⟩
  have hiff : "app/core" ∈ (branchCatalog.below "").namespaces branchTree (some "app") ↔ _ :=
    mem_namespaces_iff_gives properNames_branchTree noLinks_branchTree htext hparts hfilter
  have hlisted := hiff.2 ⟨"", List.mem_singleton_self _, hgives⟩
  rw [h (branchCatalog.below "") branchTree properNames_branchTree noLinks_branchTree htext
    (by decide) "app" ["app"] hparts (List.cons_ne_nil _ _) hfilter
    (open_concat.2 ⟨open_nil, by decide, by decide⟩), hfilter] at hlisted
  obtain ⟨root, hroot, hnamed, -⟩ := (mem_filter_namespaces_iff properNames_branchTree
    noLinks_branchTree htext hparts (List.cons_ne_nil _ _)).1 hlisted
  exact hnamed (List.mem_singleton.1 hroot)

/-- A namespace on the list of all namespaces starts with the given one and a slash, but it is not
listed below it where the name of a directory is shown as a text that does not spell it. -/
theorem not_forall_filtered_of_startsWith : ¬ ∀ (catalog : Catalog) (tree : FileTree),
    tree.Everywhere ProperNames → tree.Everywhere NoLinks → tree.Everywhere NoBackslashes →
    ∀ filter, ∀ listed ∈ catalog.namespaces tree none,
      listed.startsWith (normalizeNamespace filter ++ "/") = true →
        listed ∈ catalog.namespaces tree (some filter) := by
  intro h
  have hlisted : "\uFFFD/core" ∈ strayCatalog.namespaces strayTree none :=
    (mem_namespaces_iff_shows properNames_strayTree noLinks_strayTree).2
      ⟨"src", by decide, _, _, List.cons_ne_nil _ _, shows_stray, by decide⟩
  have hstarts : "\uFFFD/core".startsWith (normalizeNamespace "\uFFFD" ++ "/") = true := by
    rw [String.startsWith_string_iff]
    decide
  obtain ⟨root, hroot, _, _, -, hshows, -⟩ :=
    (mem_namespaces_iff_shows properNames_strayTree noLinks_strayTree).1
      (h strayCatalog strayTree properNames_strayTree noLinks_strayTree (by decide) "\uFFFD" _
        hlisted hstarts)
  obtain ⟨place, content, hresolve, -⟩ := hshows.found
  have hnowhere : strayTree.resolve (directory "src" (normalizeNamespace "\uFFFD")) =
      .error .notFound := rfl
  cases hnowhere.symm.trans ((List.mem_singleton.1 hroot) ▸ hresolve)

end Catalog

end ClassDocs
