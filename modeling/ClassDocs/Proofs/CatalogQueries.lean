import ClassDocs.Proofs.CatalogKeys
import Mathlib.Data.List.Infix

/-!
# Queries

A query and a file name are brought to lower case apart from each other and then compared. Character
by character the lower case of a text does not depend on where it stands, but for the capital sigma,
whose form depends on the letters around it. So a file whose name holds the query is listed when the
sigmas of the query take the same forms in the name as in the query alone. This can only fail at the
ends of the query, where its neighbours in the name are seen.

## Main definitions

* `Text.isFinalSigma`: whether a capital sigma between two texts takes its final form.
* `Text.lowerIn`: the lower case of a text that stands between two others.
* `Text.SigmasAgree`: the sigmas of a text take the same forms between two others as alone.
* `Text.InnerSigmas`: texts without a capital sigma at their ends.
* `Catalog.Keeps`: a query keeps the class of a file.

## Main results

* `Text.toList_lowercase_append`: the lower case of a text in three parts.
* `Text.lowerIn_eq_iff`: the lower case of one text in two surroundings.
* `Text.holds_lowercase`: a text in another is found in lower case when its sigmas agree.
* `Text.InnerSigmas.agree`: sigmas inside a text agree wherever it stands.
* `Catalog.queries_keep_matches`: what a query keeps of a listing.
-/

namespace ClassDocs

namespace Text

variable {front back front' back' cs part text : List Char}

/-! ### Occurrences -/

theorem occursIn_iff : occursIn part text = true ↔ part <:+: text := by
  induction text with
  | nil => simp [occursIn]
  | cons c rest ih => simp [occursIn, ih, List.infix_cons_iff, List.isPrefixOf_iff_prefix]

/-! ### Lower case between other characters -/

/-- Whether a capital sigma between two texts takes its final form: a cased letter is seen before it
and none after it. -/
def isFinalSigma (before after : List Char) : Bool :=
  reachesCased before.reverse && !reachesCased after

/-- The lower case of some characters that stand between others. -/
def lowerIn (front back : List Char) : List Char → List Char
  | [] => []
  | c :: rest =>
    (if c = 'Σ' then [if isFinalSigma front (rest ++ back) then 'ς' else 'σ'] else lowerChar c) ++
      lowerIn (front ++ [c]) back rest

theorem lowerFrom_append (before cs back : List Char) : lowerFrom before (cs ++ back) =
    lowerIn before.reverse back cs ++ lowerFrom (cs.reverse ++ before) back := by
  induction cs generalizing before with
  | nil => rfl
  | cons c rest ih =>
    simp only [List.cons_append, lowerFrom, lowerIn, ih, isFinalSigma, List.reverse_reverse,
      List.reverse_cons, List.append_assoc, List.nil_append]

theorem lowerFrom_eq (before cs : List Char) :
    lowerFrom before cs = lowerIn before.reverse [] cs := by
  have h := lowerFrom_append before cs []
  rwa [List.append_nil, lowerFrom, List.append_nil] at h

/-- The lower case of a text in three parts. -/
theorem toList_lowercase_append (front part back : String) :
    (lowercase (front ++ part ++ back)).toList =
      lowerIn [] (part.toList ++ back.toList) front.toList ++
        lowerIn front.toList back.toList part.toList ++
          lowerIn (front.toList ++ part.toList) [] back.toList := by
  rw [lowercase, String.toList_ofList, String.toList_append, String.toList_append,
    List.append_assoc, lowerFrom_append, lowerFrom_append, lowerFrom_eq]
  simp only [List.reverse_append, List.reverse_reverse, List.reverse_nil, List.append_nil,
    List.append_assoc]

theorem lowerIn_cons_eq_iff {c : Char} {rest : List Char} :
    lowerIn front back (c :: rest) = lowerIn front' back' (c :: rest) ↔
      (c = 'Σ' → isFinalSigma front (rest ++ back) = isFinalSigma front' (rest ++ back')) ∧
        lowerIn (front ++ [c]) back rest = lowerIn (front' ++ [c]) back' rest := by
  rw [lowerIn, lowerIn]
  by_cases hc : c = 'Σ'
  · cases isFinalSigma front (rest ++ back) <;> cases isFinalSigma front' (rest ++ back') <;>
      simp [hc]
  · simp [hc]

/-- The lower case depends on what stands around a text exactly through the forms of its sigmas. -/
theorem lowerIn_eq_iff : lowerIn front back cs = lowerIn front' back' cs ↔
    ∀ before after, cs = before ++ 'Σ' :: after →
      isFinalSigma (front ++ before) (after ++ back) =
        isFinalSigma (front' ++ before) (after ++ back') := by
  induction cs generalizing front front' with
  | nil => simp [lowerIn]
  | cons c rest ih =>
    -- The first character goes over to what stands in front of the rest.
    rw [lowerIn_cons_eq_iff, ih]
    constructor
    · rintro ⟨hfirst, hrest⟩ (_ | ⟨d, before⟩) after hsplit
      · obtain ⟨hc, rfl⟩ := List.cons.inj hsplit
        simpa using hfirst hc
      · obtain ⟨rfl, rfl⟩ := List.cons.inj hsplit
        simpa using hrest before after rfl
    · intro h
      refine ⟨fun hc => ?_, fun before after hsplit => ?_⟩
      · simpa using h [] rest (by rw [hc, List.nil_append])
      · simpa using h (c :: before) after (by rw [hsplit, List.cons_append])

/-- Every capital sigma of a text takes the same form, final or not, between two others as alone. -/
def SigmasAgree (front cs back : List Char) : Prop :=
  ∀ before after, cs = before ++ 'Σ' :: after →
    isFinalSigma (front ++ before) (after ++ back) = isFinalSigma before after

theorem sigmasAgree_iff : SigmasAgree front cs back ↔ ∀ i < cs.length, cs[i]? = some 'Σ' →
    isFinalSigma (front ++ cs.take i) (cs.drop (i + 1) ++ back) =
      isFinalSigma (cs.take i) (cs.drop (i + 1)) := by
  constructor
  · intro h i hi hsigma
    refine h _ _ ?_
    obtain ⟨_, hsigma⟩ := List.getElem?_eq_some_iff.1 hsigma
    rw [← hsigma, ← List.drop_eq_getElem_cons hi, List.take_append_drop]
  · rintro h before after rfl
    simpa using h before.length (by simp) (by simp)

instance : Decidable (SigmasAgree front cs back) :=
  decidable_of_iff _ sigmasAgree_iff.symm

/-- The lower case of a text is the same between two others as alone where its sigmas agree, and
nowhere else. -/
theorem lowerIn_eq_lowercase_iff {text : String} :
    lowerIn front back text.toList = (lowercase text).toList ↔
      SigmasAgree front text.toList back := by
  rw [lowercase, String.toList_ofList, lowerFrom_eq, List.reverse_nil, lowerIn_eq_iff]
  simp only [SigmasAgree, List.nil_append, List.append_nil]

/-- A text that holds another holds it in lower case, where the sigmas agree. -/
theorem holds_lowercase {front part back : String}
    (h : SigmasAgree front.toList part.toList back.toList) :
    holds (lowercase (front ++ part ++ back)) (lowercase part) = true := by
  rw [holds, occursIn_iff, ← lowerIn_eq_lowercase_iff.2 h, toList_lowercase_append]
  exact List.infix_append _ _ _

/-! ### Sigmas inside a text -/

/-- Neither the first nor the last character that case rules do not look through is a capital
sigma. -/
def InnerSigmas (cs : List Char) : Prop :=
  cs.find? (!isCaseIgnorable ·) ≠ some 'Σ' ∧ cs.reverse.find? (!isCaseIgnorable ·) ≠ some 'Σ'

/-- Beyond a character that case rules do not look through nothing is seen. -/
theorem reachesCased_append {more : List Char} (h : ∃ c ∈ cs, isCaseIgnorable c = false) :
    reachesCased (cs ++ more) = reachesCased cs := by
  rw [reachesCased, reachesCased, List.dropWhile_append]
  cases hrest : cs.dropWhile isCaseIgnorable with
  | nil =>
    obtain ⟨c, hc, hseen⟩ := h
    exact absurd (List.dropWhile_eq_nil_iff.1 hrest c hc) (by simp [hseen])
  | cons c rest => rfl

/-- What stands before a sigma that is not the first character seen. -/
theorem exists_seen_of_find?_ne {before after : List Char}
    (h : (before ++ 'Σ' :: after).find? (!isCaseIgnorable ·) ≠ some 'Σ') :
    ∃ c ∈ before, isCaseIgnorable c = false := by
  by_contra hnone
  have hbefore : before.find? (!isCaseIgnorable ·) = none := by
    rw [List.find?_eq_none]
    intro c hc hseen
    exact hnone ⟨c, hc, by simpa using hseen⟩
  have hsigma : isCaseIgnorable 'Σ' = false := by decide +kernel
  rw [List.find?_append, hbefore, Option.none_or, List.find?_cons_of_pos (by simp [hsigma])] at h
  exact h rfl

/-- Sigmas inside a text take the same forms wherever it stands. -/
theorem InnerSigmas.agree (h : InnerSigmas cs) (front back : List Char) :
    SigmasAgree front cs back := by
  rintro before after rfl
  obtain ⟨hfirst, hlast⟩ := h
  rw [List.reverse_append, List.reverse_cons, List.append_assoc, List.singleton_append] at hlast
  obtain ⟨c, hc, hseen⟩ := exists_seen_of_find?_ne hfirst
  obtain ⟨d, hd, hseen'⟩ := exists_seen_of_find?_ne hlast
  rw [isFinalSigma, isFinalSigma, List.reverse_append,
    reachesCased_append ⟨c, List.mem_reverse.2 hc, hseen⟩,
    reachesCased_append ⟨d, List.mem_reverse.1 hd, hseen'⟩]

end Text

namespace Catalog

variable {catalog : Catalog} {tree : FileTree} {recursive : Bool} {parent query value : String}
  {name : FileName}

/-! ### What a query keeps -/

theorem matchesQuery_of_agree {front back : String}
    (h : Text.SigmasAgree front.toList query.toList back.toList) :
    matchesQuery (some query) (front ++ query ++ back) = true := by
  rw [matchesQuery, Text.holds_lowercase h, Bool.or_true]

theorem classOf?_some_iff : catalog.classOf? (some query) name = some value ↔
    catalog.classOf? none name = some value ∧
      ∃ text, name = .ofText text ∧ matchesQuery (some query) text = true := by
  simp only [classOf?_eq_some_iff, matchesQuery, true_and]
  constructor
  · rintro ⟨text, hname, hext, hquery, hstem⟩
    exact ⟨⟨text, hname, hext, hstem⟩, text, hname, hquery⟩
  · rintro ⟨⟨text, rfl, hext, hstem⟩, other, hother, hquery⟩
    obtain rfl := FileName.ofText_inj.1 hother
    exact ⟨text, rfl, hext, hquery, hstem⟩

/-- With a query, the classes listed are those of the source files that match it. -/
theorem get?_classes_some_iff (hproper : tree.Everywhere ProperNames) {key : String} :
    (catalog.classes tree parent recursive (some query)).get? key = some value ↔
      ∃ x ∈ catalog.files tree recursive (normalizeNamespace parent),
        (catalog.classOf? none x.2 = some value ∧
          ∃ text, x.2 = .ofText text ∧ matchesQuery (some query) text = true) ∧
          key = joinParts (normalizeNamespace parent :: x.1.map (·.lossy) ++ [value]) := by
  rw [get?_classes_iff_mem_files hproper]
  simp only [classOf?_some_iff]

/-- The class of a source file is listed under its key with the query as without one. -/
def Keeps (catalog : Catalog) (tree : FileTree) (parent : String) (recursive : Bool)
    (query : String) (x : List FileName × FileName) : Prop :=
  ∀ value, catalog.classOf? none x.2 = some value →
    (catalog.classes tree parent recursive (some query)).get?
      (joinParts (normalizeNamespace parent :: x.1.map (·.lossy) ++ [value])) = some value

theorem keeps_of_agree (hproper : tree.Everywhere ProperNames) {x : List FileName × FileName}
    (hx : x ∈ catalog.files tree recursive (normalizeNamespace parent)) {front back : String}
    (hname : x.2 = .ofText (front ++ query ++ back))
    (hagree : Text.SigmasAgree front.toList query.toList back.toList) :
    catalog.Keeps tree parent recursive query x := by
  intro value hclass
  exact (get?_classes_some_iff hproper).2
    ⟨x, hx, ⟨hclass, _, hname, matchesQuery_of_agree hagree⟩, rfl⟩

/-- What a query keeps of a listing. It adds nothing to the listing. It keeps the class of every
source file whose name holds the query at a place where the sigmas of the query take the same forms
as in the query alone. Where no sigma is at an end of the query, this is every place, so that no
file whose name holds the query is left out. The condition is exact for each place: in lower case,
what stands there is the lower case of the query alone if the sigmas agree, and only then. -/
theorem queries_keep_matches (catalog : Catalog) {tree : FileTree}
    (hproper : tree.Everywhere ProperNames) (parent : String) (recursive : Bool) (query : String) :
    (∀ key value, (catalog.classes tree parent recursive (some query)).get? key = some value →
      (catalog.classes tree parent recursive none).get? key = some value) ∧
    (∀ x ∈ catalog.files tree recursive (normalizeNamespace parent),
      ∀ front back, x.2 = .ofText (front ++ query ++ back) →
        (Text.SigmasAgree front.toList query.toList back.toList →
          catalog.Keeps tree parent recursive query x) ∧
        (Text.InnerSigmas query.toList → catalog.Keeps tree parent recursive query x)) ∧
    ∀ front back : String,
      (Text.lowercase (front ++ query ++ back)).toList =
        Text.lowerIn [] (query.toList ++ back.toList) front.toList ++
          Text.lowerIn front.toList back.toList query.toList ++
            Text.lowerIn (front.toList ++ query.toList) [] back.toList ∧
      (Text.lowerIn front.toList back.toList query.toList = (Text.lowercase query).toList ↔
        Text.SigmasAgree front.toList query.toList back.toList) := by
  refine ⟨fun key value hlisted => ?_, fun x hx front back hname => ⟨fun hagree => ?_,
    fun hinner => ?_⟩, fun front back => ⟨?_, Text.lowerIn_eq_lowercase_iff⟩⟩
  · obtain ⟨x, hx, ⟨hclass, -⟩, hkey⟩ := (get?_classes_some_iff hproper).1 hlisted
    exact (get?_classes_iff_mem_files hproper).2 ⟨x, hx, hclass, hkey⟩
  · exact keeps_of_agree hproper hx hname hagree
  · exact keeps_of_agree hproper hx hname (hinner.agree _ _)
  · exact Text.toList_lowercase_append front query back

/-- Two files whose names start with the same letters. -/
def streetTree : FileTree where
  entries := [("src", .directory [("ΟΔΟΣ-1.php", .file .empty), ("ΟΔΟΣ.php", .file .empty)])]

/-- The catalog of both files. -/
def streetCatalog : Catalog where
  includePaths := ["src"]

theorem files_street : streetCatalog.files streetTree false (normalizeNamespace "") =
    [([], .ofText "ΟΔΟΣ-1.php"), ([], .ofText "ΟΔΟΣ.php")] := by
  have hparent : normalizeNamespace "" = "" := normalized_empty.normalizeNamespace_eq
  have hlisting : streetTree.listing? "src" =
      some [(.ofText "ΟΔΟΣ-1.php", .file), (.ofText "ΟΔΟΣ.php", .file)] := by
    refine FileTree.listing?_eq_some_iff.2 ⟨["src"], _, rfl, rfl, ?_⟩
    simp only [FileTree.listEntries]
  simp [files, filesOf, directory, streetCatalog, hparent, hlisting, filesBelow]

theorem queries_keep_matches_street : streetTree.Everywhere ProperNames ∧
    ([], .ofText "ΟΔΟΣ-1.php") ∈ streetCatalog.files streetTree false (normalizeNamespace "") ∧
    Text.SigmasAgree "".toList "ΟΔΟΣ".toList "-1.php".toList ∧
    (streetCatalog.classes streetTree "" false (some "ΟΔΟΣ")).get? "ΟΔΟΣ-1" = some "ΟΔΟΣ-1" ∧
    (streetCatalog.classes streetTree "" false none).get? "ΟΔΟΣ-1" = some "ΟΔΟΣ-1" := by
  have hproper : streetTree.Everywhere ProperNames := by decide
  have hfile : ([], .ofText "ΟΔΟΣ-1.php") ∈
      streetCatalog.files streetTree false (normalizeNamespace "") := by
    rw [files_street]
    exact List.mem_cons_self
  have hagree : Text.SigmasAgree "".toList "ΟΔΟΣ".toList "-1.php".toList := by decide +kernel
  obtain ⟨hsub, hkeeps, -⟩ := queries_keep_matches streetCatalog hproper "" false "ΟΔΟΣ"
  have hkept : (streetCatalog.classes streetTree "" false (some "ΟΔΟΣ")).get? "ΟΔΟΣ-1" =
      some "ΟΔΟΣ-1" :=
    (hkeeps _ hfile "" "-1.php" (by decide)).1 hagree "ΟΔΟΣ-1" (by decide)
  exact ⟨hproper, hfile, hagree, hkept, hsub _ _ hkept⟩

/-- A query leaves out a file whose name starts with it. A sigma at the end of the query has the
final form there, but not in the name, where the letters of the extension follow. -/
theorem not_forall_keeps : ¬ ∀ (catalog : Catalog) (tree : FileTree),
    tree.Everywhere ProperNames → ∀ (parent : String) (recursive : Bool) (query : String),
    query ≠ "" → ∀ x ∈ catalog.files tree recursive (normalizeNamespace parent),
    ∀ front back, x.2 = .ofText (front ++ query ++ back) →
      catalog.Keeps tree parent recursive query x := by
  intro h
  have hproper : streetTree.Everywhere ProperNames := by decide
  have hfile : ([], .ofText "ΟΔΟΣ.php") ∈
      streetCatalog.files streetTree false (normalizeNamespace "") := by
    rw [files_street]
    exact List.mem_cons_of_mem _ List.mem_cons_self
  have hkept := h streetCatalog streetTree hproper "" false "ΟΔΟΣ" (by decide) _ hfile "" ".php"
    (by decide) "ΟΔΟΣ" (by decide)
  obtain ⟨x, hx, ⟨hclass, text, htext, hmatch⟩, -⟩ := (get?_classes_some_iff hproper).1 hkept
  rw [files_street, List.mem_cons, List.mem_singleton] at hx
  rcases hx with rfl | rfl
  · exact absurd hclass (by decide)
  · have hhidden : matchesQuery (some "ΟΔΟΣ") "ΟΔΟΣ.php" = false := by decide +kernel
    rw [← FileName.ofText_inj.1 htext, hhidden] at hmatch
    cases hmatch

end Catalog

end ClassDocs
