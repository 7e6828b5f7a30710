import ClassDocs.FileTree.Listing
import ClassDocs.Path
import ClassDocs.Proofs.FileNames
import ClassDocs.Proofs.KeyedMaps
import ClassDocs.Proofs.TextLines
import Mathlib.Data.List.Nodup

/-!
# Directory trees

What holds of every directory of a tree holds of every directory that a place leads to. The names in
a directory are distinct, and each can stand in a path. In a tree without links, names lead to the
place that they spell, if there is anything at that place, and a path leads where its parts lead one
after the other.

## Main definitions

* `Entry.Everywhere`, `FileTree.Everywhere`: what all directories of a tree satisfy.
* `isFileName`, `ProperNames`: the names that directories have.
* `NoLinks`, `NoBackslashes`, `TextNames`: directories without links, without backslashes in the
  names, and with names that texts spell.

## Main results

* `Entry.Everywhere.find?`: whatever is found in a tree satisfies what holds everywhere in it.
* `FileTree.forall_mem_of_find?`: so do the names that lead there.
* `FileTree.resolveWith_append`: names lead where they lead one after the other.
* `FileTree.resolveNames_eq_ok_iff`: ordinary names lead to the place that they spell.
* `FileTree.resolve_join`: a path below another.
-/

namespace ClassDocs

/-- Whether an entry is a link. -/
def Entry.isLink : Entry → Bool
  | .link _ => true
  | _ => false

/-- The entries of every directory in an entry, itself included, satisfy `p`. -/
inductive Entry.Everywhere (p : List (FileName × Entry) → Prop) : Entry → Prop
  | file (content : ByteArray) : Everywhere p (.file content)
  | link (target : Route) : Everywhere p (.link target)
  | directory {entries : List (FileName × Entry)} (here : p entries)
      (below : ∀ e ∈ entries, Everywhere p e.2) : Everywhere p (.directory entries)

namespace Entry

variable {p : List (FileName × Entry) → Prop} {entries : List (FileName × Entry)} {entry : Entry}

theorem everywhere_directory_iff : (directory entries).Everywhere p ↔
    p entries ∧ ∀ e ∈ entries, e.2.Everywhere p := by
  constructor
  · rintro ⟨⟩
    exact ⟨‹_›, ‹_›⟩
  · rintro ⟨here, below⟩
    exact .directory here below

mutual

/-- Decides what holds everywhere in an entry. -/
def decideEverywhere (p : List (FileName × Entry) → Prop) [DecidablePred p] :
    (entry : Entry) → Decidable (entry.Everywhere p)
  | .file content => .isTrue (.file content)
  | .link target => .isTrue (.link target)
  | .directory entries =>
    @decidable_of_iff _ _ everywhere_directory_iff.symm
      (@instDecidableAnd _ _ inferInstance (decideBelow p entries))

/-- Decides what holds everywhere in some entries. -/
def decideBelow (p : List (FileName × Entry) → Prop) [DecidablePred p] :
    (entries : List (FileName × Entry)) → Decidable (∀ e ∈ entries, e.2.Everywhere p)
  | [] => .isTrue fun _ h => (List.not_mem_nil h).elim
  | (name, entry) :: rest =>
    @decidable_of_iff _ _ (List.forall_mem_cons (a := (name, entry))).symm
      (@instDecidableAnd _ _ (decideEverywhere p entry) (decideBelow p rest))

end

instance [DecidablePred p] : Decidable (entry.Everywhere p) :=
  decideEverywhere p entry

theorem mem_of_lookup {name : FileName} (h : entries.lookup name = some entry) :
    (name, entry) ∈ entries := by
  obtain ⟨before, after, rfl, -⟩ := List.lookup_eq_some_iff.1 h
  exact List.mem_append_right _ List.mem_cons_self

theorem lookup_eq_some_iff (hnodup : (entries.map (·.1)).Nodup) {name : FileName} :
    entries.lookup name = some entry ↔ (name, entry) ∈ entries := by
  refine ⟨mem_of_lookup, fun hmem => ?_⟩
  cases hlookup : entries.lookup name with
  | none =>
    have hne := List.lookup_eq_none_iff.1 hlookup (name, entry) hmem
    simp at hne
  | some other =>
    have heq := List.inj_on_of_nodup_map hnodup (mem_of_lookup hlookup) hmem rfl
    exact congrArg (fun e => some e.2) heq

theorem find?_cons_eq_some_iff (hnodup : (entries.map (·.1)).Nodup) {name : FileName}
    {names : List FileName} {found : Entry} :
    (directory entries).find? (name :: names) = some found ↔
      ∃ entry, (name, entry) ∈ entries ∧ entry.find? names = some found := by
  simp only [find?, Option.bind_eq_some_iff, lookup_eq_some_iff hnodup]

theorem find?_append (entry : Entry) (names more : List FileName) :
    entry.find? (names ++ more) = (entry.find? names).bind (·.find? more) := by
  induction names generalizing entry with
  | nil => rfl
  | cons name names ih =>
    cases entry with
    | directory entries =>
      rw [List.cons_append, find?, find?]
      cases entries.lookup name with
      | none => rfl
      | some inner => exact ih inner
    | _ => rfl

/-- Whatever is found in an entry satisfies what holds everywhere in it. -/
theorem Everywhere.find? {found : Entry} {names : List FileName} (h : entry.Everywhere p)
    (hfound : entry.find? names = some found) : found.Everywhere p := by
  induction names generalizing entry with
  | nil => rwa [← Option.some.inj hfound]
  | cons name names ih =>
    cases h with
    | file => cases hfound
    | link => cases hfound
    | @directory entries here below =>
      obtain ⟨inner, hlookup, hinner⟩ := Option.bind_eq_some_iff.1 hfound
      exact ih (below _ (mem_of_lookup hlookup)) hinner

end Entry

/-! ### Names -/

/-- Whether a name can stand in a directory: it is not empty, `.` or `..`, it is not too long, and
it holds neither slashes nor null bytes. -/
def isFileName (name : FileName) : Bool :=
  name != "" && name != "." && name != ".." && decide (name.bytes.length ≤ FileTree.maxNameBytes) &&
    !name.bytes.contains Text.slash && !name.bytes.contains 0

/-- Names that are not empty, `.` or `..`, so that they lead further down. -/
def Ordinary (name : FileName) : Prop :=
  name ≠ "" ∧ name ≠ "." ∧ name ≠ ".."

theorem Ordinary.isIdle {name : FileName} (h : Ordinary name) : name.isIdle = false := by
  simp [FileName.isIdle, h.1, h.2.1]

theorem isFileName_iff {name : FileName} : isFileName name = true ↔
    Ordinary name ∧ name.bytes.length ≤ FileTree.maxNameBytes ∧ Text.slash ∉ name.bytes ∧
      0 ∉ name.bytes := by
  simp [isFileName, Ordinary, and_assoc]

/-- The names that can stand in a directory are shown without slashes and null characters. -/
theorem not_mem_lossy_of_isFileName {name : FileName} (h : isFileName name = true) :
    '/' ∉ name.lossy.toList ∧ ∀ c ∈ name.lossy.toList, c.toNat ≠ 0 := by
  obtain ⟨-, -, hslash, hnull⟩ := isFileName_iff.1 h
  refine ⟨fun hmem => hslash (FileName.mem_bytes_of_mem_lossy (by decide) hmem), ?_⟩
  intro c hc hzero
  obtain rfl : c = Char.ofNat 0 := by rw [← hzero, Char.ofNat_toNat]
  exact hnull (FileName.mem_bytes_of_mem_lossy (by decide) hc)

/-- A text that spells a name that can stand in a directory is not empty and holds neither slashes
nor null characters. -/
theorem text_of_isFileName {text : String} (h : isFileName text = true) :
    text ≠ "" ∧ '/' ∉ text.toList ∧ ∀ c ∈ text.toList, c.toNat ≠ 0 := by
  refine ⟨fun hempty => (isFileName_iff.1 h).1.1 (congrArg _ hempty), ?_⟩
  simpa only [FileName.lossy_ofText] using not_mem_lossy_of_isFileName h

/-- The entries of a directory have distinct names, each of which can stand in a directory. -/
def ProperNames (entries : List (FileName × Entry)) : Prop :=
  (entries.map (·.1)).Nodup ∧ ∀ e ∈ entries, isFileName e.1 = true

instance : DecidablePred ProperNames := fun _ => inferInstanceAs (Decidable (_ ∧ _))

/-- No entry of a directory is a link. -/
def NoLinks (entries : List (FileName × Entry)) : Prop :=
  ∀ e ∈ entries, e.2.isLink = false

instance : DecidablePred NoLinks := fun _ => inferInstanceAs (Decidable (∀ _ ∈ _, _))

/-- No name in a directory holds a backslash. -/
def NoBackslashes (entries : List (FileName × Entry)) : Prop :=
  ∀ e ∈ entries, '\\'.toUInt8 ∉ e.1.bytes

instance : DecidablePred NoBackslashes := fun _ => inferInstanceAs (Decidable (∀ _ ∈ _, _))

/-- Every name in a directory is spelled by a text. -/
def TextNames (entries : List (FileName × Entry)) : Prop :=
  ∀ e ∈ entries, e.1.IsText

instance : DecidablePred TextNames := fun _ => inferInstanceAs (Decidable (∀ _ ∈ _, _))

namespace FileTree

/-- The entries of every directory of a tree satisfy `p`. -/
def Everywhere (p : List (FileName × Entry) → Prop) (tree : FileTree) : Prop :=
  (Entry.directory tree.entries).Everywhere p

instance {p : List (FileName × Entry) → Prop} [DecidablePred p] {tree : FileTree} :
    Decidable (tree.Everywhere p) :=
  inferInstanceAs (Decidable (Entry.Everywhere p _))

variable {tree : FileTree} {p : List (FileName × Entry) → Prop} {entries : List (FileName × Entry)}
  {place next names : List FileName} {name : FileName} {entry : Entry}

theorem Everywhere.here (h : tree.Everywhere p)
    (hplace : tree.find? place = some (.directory entries)) : p entries :=
  (Entry.everywhere_directory_iff.1 (h.find? hplace)).1

theorem find?_append (tree : FileTree) (place names : List FileName) :
    tree.find? (place ++ names) = (tree.find? place).bind (·.find? names) :=
  Entry.find?_append _ place names

/-- Something is below a place only if there is a directory at that place. -/
theorem exists_directory_of_find? (h : tree.find? (place ++ name :: names) = some entry) :
    ∃ entries inner, tree.find? place = some (.directory entries) ∧
      entries.lookup name = some inner ∧ inner.find? names = some entry := by
  rw [find?_append] at h
  obtain ⟨found, hfound, hrest⟩ := Option.bind_eq_some_iff.1 h
  cases found with
  | directory entries =>
    obtain ⟨inner, hlookup, hinner⟩ := Option.bind_eq_some_iff.1 hrest
    exact ⟨entries, inner, hfound, hlookup, hinner⟩
  | _ => cases hrest

/-- What holds of the names in every directory holds of the names below a place. -/
theorem forall_mem_of_find? {q : FileName → Prop}
    (hnames : ∀ entries, p entries → ∀ e ∈ entries, q e.1) (hp : tree.Everywhere p)
    (h : tree.find? (place ++ names) = some entry) : ∀ name ∈ names, q name := by
  induction names generalizing place with
  | nil => exact fun _ hmem => (List.not_mem_nil hmem).elim
  | cons name names ih =>
    obtain ⟨entries, inner, hplace, hlookup, -⟩ := exists_directory_of_find? h
    have hname := hnames entries (hp.here hplace) _ (Entry.mem_of_lookup hlookup)
    rw [List.append_cons] at h
    exact List.forall_mem_cons.2 ⟨hname, ih h⟩

theorem isFileName_of_find? (hproper : tree.Everywhere ProperNames)
    (h : tree.find? (place ++ names) = some entry) : ∀ name ∈ names, isFileName name = true :=
  forall_mem_of_find? (fun _ hproper => hproper.2) hproper h

theorem backslash_not_mem_of_find? (hbackslash : tree.Everywhere NoBackslashes)
    (h : tree.find? (place ++ names) = some entry) : ∀ name ∈ names, '\\' ∉ name.lossy.toList :=
  forall_mem_of_find? (fun _ hbackslash e he hmem =>
    hbackslash e he (FileName.mem_bytes_of_mem_lossy (by decide) hmem)) hbackslash h

/-- Where all names are spelled by texts, the names that lead to something are. -/
theorem exists_texts_of_find? (htext : tree.Everywhere TextNames)
    (h : tree.find? (place ++ names) = some entry) :
    ∃ texts : List String, names = texts.map .ofText := by
  have hnames : ∀ name ∈ names, name.IsText :=
    forall_mem_of_find? (fun _ htext => htext) htext h
  refine ⟨names.map (·.lossy), ?_⟩
  calc names = names.map id := (List.map_id names).symm
    _ = (names.map (·.lossy)).map .ofText := by
      rw [List.map_map]
      exact List.map_congr_left fun name hname => FileName.isText_iff.1 (hnames name hname)

/-! ### Where names lead -/

section Names

variable {follow : List FileName → List FileName → Except FileError (List FileName)}

/-- In a tree without links, what a directory has under a name is no link. -/
theorem not_link_of_lookup (hlinks : tree.Everywhere NoLinks)
    (hplace : tree.find? place = some (.directory entries))
    (hlookup : entries.lookup name = some entry) : entry.isLink = false :=
  hlinks.here hplace _ (Entry.mem_of_lookup hlookup)

/-- Without links, names lead where they lead one after the other. -/
theorem resolveWith_append (hlinks : tree.Everywhere NoLinks) (place names more : List FileName) :
    tree.resolveWith follow place (names ++ more) =
      (tree.resolveWith follow place names).bind (tree.resolveWith follow · more) := by
  induction names generalizing place with
  | nil => rfl
  | cons name names ih =>
    rw [List.cons_append, resolveWith, resolveWith]
    cases hplace : tree.find? place with
    | none => rfl
    | some found =>
      cases found with
      | directory entries =>
        simp only
        split_ifs
        · exact ih place
        · exact ih place.dropLast
        · rfl
        · cases hlookup : entries.lookup name with
          | none => rfl
          | some entry =>
            have hlink := not_link_of_lookup hlinks hplace hlookup
            cases entry with
            | link target => cases hlink
            | _ => exact ih (place ++ [name])
      | _ => rfl

/-- An empty name leads nowhere else when more names come after it. -/
theorem resolveWith_empty_cons (place : List FileName) (hnames : names ≠ []) :
    tree.resolveWith follow place (.ofText "" :: names) = tree.resolveWith follow place names := by
  obtain ⟨name, rest, rfl⟩ := List.exists_cons_of_ne_nil hnames
  rw [resolveWith]
  cases hplace : tree.find? place with
  | none => rw [resolveWith, hplace]
  | some found =>
    cases found with
    | directory entries => rfl
    | _ => rw [resolveWith, hplace]

/-- Without links, an ordinary name leads to what stands under it. -/
theorem resolveWith_cons_eq_ok_iff (hproper : tree.Everywhere ProperNames)
    (hlinks : tree.Everywhere NoLinks) (hname : Ordinary name) :
    tree.resolveWith follow place (name :: names) = .ok next ↔
      (tree.find? (place ++ [name])).isSome = true ∧
        tree.resolveWith follow (place ++ [name]) names = .ok next := by
  have hdots := hname.2.2
  rw [resolveWith, find?_append, hname.isIdle]
  cases hplace : tree.find? place with
  | none => simp
  | some found =>
    cases found with
    | directory entries =>
      have hfind : (Entry.directory entries).find? [name] = entries.lookup name := by
        rw [Entry.find?]
        cases entries.lookup name <;> rfl
      simp only [Option.bind_some, hfind, hdots, beq_iff_eq, Bool.false_eq_true, ↓reduceIte]
      cases hlookup : entries.lookup name with
      | none =>
        split_ifs <;> simp
      | some entry =>
        have hlink := not_link_of_lookup hlinks hplace hlookup
        have hname := (hproper.here hplace).2 _ (Entry.mem_of_lookup hlookup)
        rw [if_neg (Nat.not_lt.2 (isFileName_iff.1 hname).2.1)]
        cases entry with
        | link target => cases hlink
        | _ => simp
    | _ => simp [Entry.find?]

/-- Without links, ordinary names lead to the place that they spell, if there is anything. -/
theorem resolveWith_eq_ok_iff (hproper : tree.Everywhere ProperNames)
    (hlinks : tree.Everywhere NoLinks) (hnames : ∀ name ∈ names, Ordinary name) :
    tree.resolveWith follow place names = .ok next ↔
      next = place ++ names ∧ (names = [] ∨ (tree.find? next).isSome = true) := by
  induction names generalizing place with
  | nil =>
    rw [resolveWith, List.append_nil]
    exact ⟨fun h => ⟨(Except.ok.inj h).symm, .inl rfl⟩, fun h => congrArg _ h.1.symm⟩
  | cons name names ih =>
    obtain ⟨hname, hrest⟩ := List.forall_mem_cons.1 hnames
    rw [resolveWith_cons_eq_ok_iff hproper hlinks hname, ih hrest, List.append_assoc,
      List.singleton_append]
    constructor
    · rintro ⟨hfound, rfl, rfl | hnext⟩
      · exact ⟨rfl, .inr hfound⟩
      · exact ⟨rfl, .inr hnext⟩
    · rintro ⟨rfl, hnil | hnext⟩
      · cases hnil
      · refine ⟨?_, rfl, .inr hnext⟩
        -- What is below a place shows that there is something at the place.
        rw [List.append_cons, find?_append] at hnext
        exact Option.isSome_of_isSome_bind hnext

end Names

/-! ### Where paths lead -/

theorem resolveNames_eq_ok_iff (hproper : tree.Everywhere ProperNames)
    (hlinks : tree.Everywhere NoLinks) (hnames : ∀ name ∈ names, Ordinary name) :
    tree.resolveNames maxLinks place names = .ok next ↔
      next = place ++ names ∧ (names = [] ∨ (tree.find? next).isSome = true) :=
  resolveWith_eq_ok_iff hproper hlinks hnames

/-- A relative path is put after a slash, be it the last character of the path in front. -/
theorem join_cases {root path : String} (hroot : root ≠ "")
    (hrelative : Path.isAbsolute path = false) :
    Path.join root path = root ++ "/" ++ path ∨
      ∃ front, root = front ++ "/" ∧ Path.join root path = root ++ path := by
  rw [Path.join, if_neg (by simp [hrelative])]
  split_ifs with hslash
  · refine .inr ?_
    rcases List.eq_nil_or_concat root.toList with hnil | ⟨front, c, hchars⟩
    · exact absurd (String.toList_eq_nil_iff.1 hnil) hroot
    · have hc : c = '/' := by simpa [hchars] using hslash
      refine ⟨String.ofList front, ?_, rfl⟩
      rw [← String.toList_inj, hchars, hc]
      simp
  · exact .inl rfl

/-- The names of a path below another one are those of the two paths. -/
theorem resolveWith_join (hlinks : tree.Everywhere NoLinks)
    {follow : List FileName → List FileName → Except FileError (List FileName)}
    (place : List FileName) {root path : String} (hroot : root ≠ "")
    (hrelative : Path.isAbsolute path = false) :
    tree.resolveWith follow place (Route.ofText (Path.join root path)).names =
      (tree.resolveWith follow place (Route.ofText root).names).bind
        (tree.resolveWith follow · (Route.ofText path).names) := by
  simp only [Route.ofText]
  rcases join_cases hroot hrelative with hjoin | ⟨front, hfront, hjoin⟩
  · have hsplit : Text.splitOn '/' (root ++ "/" ++ path) =
        Text.splitOn '/' root ++ Text.splitOn '/' path := Text.splitOn_append '/' root path
    rw [hjoin, hsplit, List.map_append, resolveWith_append hlinks]
  · have hsplit : Text.splitOn '/' (front ++ "/" ++ path) =
        Text.splitOn '/' front ++ Text.splitOn '/' path := Text.splitOn_append '/' front path
    have hslash : Text.splitOn '/' (front ++ "/") = Text.splitOn '/' front ++ [""] := by
      have happend := Text.splitOn_append '/' front ""
      rwa [String.append_empty] at happend
    rw [hjoin, hfront, hsplit, hslash, List.map_append, List.map_append,
      ← resolveWith_append hlinks, List.append_assoc, List.map_singleton, List.singleton_append,
      resolveWith_append hlinks, resolveWith_append hlinks]
    congr 1
    funext start
    refine (resolveWith_empty_cons start ?_).symm
    simpa using Text.splitOn_ne_nil '/' path

/-- A path below another one leads where its parts lead from there. -/
theorem resolve_join (hlinks : tree.Everywhere NoLinks) {root path : String} (hroot : root ≠ "")
    (hrelative : Path.isAbsolute path = false) (hnull : ∀ c ∈ path.toList, c.toNat ≠ 0) :
    tree.resolve (Path.join root path) = (tree.resolve root).bind
      fun start => tree.resolveNames maxLinks start (Route.ofText path).names := by
  obtain ⟨c, cs, hchars⟩ := List.exists_cons_of_ne_nil
    (fun h => hroot (String.toList_eq_nil_iff.1 h) : root.toList ≠ [])
  obtain ⟨gap, hgap, hjoin⟩ : ∃ gap : List Char, (∀ c ∈ gap, c.toNat ≠ 0) ∧
      (Path.join root path).toList = root.toList ++ (gap ++ path.toList) := by
    rcases join_cases hroot hrelative with hjoin | ⟨-, -, hjoin⟩
    · exact ⟨['/'], by simp, by simp [hjoin]⟩
    · exact ⟨[], by simp, by simp [hjoin]⟩
  have hnulls : (Path.join root path).toList.any (·.toNat == 0) =
      root.toList.any (·.toNat == 0) := by
    have hmore : (gap ++ path.toList).any (·.toNat == 0) = false := by
      simpa using ⟨hgap, hnull⟩
    rw [hjoin, List.any_append, hmore, Bool.or_false]
  have hempty : Path.join root path ≠ "" := by
    rw [Ne, ← String.toList_eq_nil_iff, hjoin, hchars]
    exact List.cons_ne_nil _ _
  -- The two paths start alike, and so from the same place.
  have horigin : (Route.ofText (Path.join root path)).origin =
      (Route.ofText root).origin := by
    funext place
    simp only [Route.origin, Route.ofText, Path.isAbsolute, hjoin, hchars, List.cons_append,
      List.head?_cons]
  rw [resolve, resolve, hnulls, if_neg hempty, if_neg hroot]
  split_ifs
  · rfl
  · simp only [horigin]
    exact resolveWith_join hlinks _ hroot hrelative

end FileTree

end ClassDocs
