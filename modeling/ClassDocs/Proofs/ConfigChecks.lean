import ClassDocs.Config
import Mathlib.Data.List.TakeWhile

/-!
# Configurations that pass the check

A configuration is checked once, when it is loaded, and used later by functions that read its
patterns, extensions and tags anew. What the check lets through they can all use, so that only a
lack of include paths can still be in the way. What the check refuses has a fault, and the first one
is reported: patterns come before extensions and these before tags.

## Main definitions

* `Config.AllDots`: extensions that have nothing but dots.
* `Config.FirstFault`: what is wrong first with a configuration.
* `Config.SetsUp`: configurations that everything can be set up from.

## Main results

* `mapM_eq_error_iff`: a list is read up to the first item that is refused.
* `foldlM_map`: the items of a list can be read first and put together afterwards.
* `Config.checkPatterns_eq`: the patterns that are checked are those that are used.
* `Config.validate_eq_ok_iff`, `Config.validate_eq_error_iff`: when a configuration passes the
  check, and what is reported otherwise.
* `Config.validate_of_load`: what is loaded passes the check.
* `Config.checked_configurations`: what the check tells.
-/

namespace ClassDocs

/-! ### Reading a list item by item -/

section Traversal

variable {α β ε : Type} {f : α → Except ε β}

theorem exists_mapM_eq_ok_iff {xs : List α} :
    (∃ ys, xs.mapM f = .ok ys) ↔ ∀ x ∈ xs, ∃ y, f x = .ok y := by
  induction xs with
  | nil => simp [pure, Except.pure]
  | cons x rest ih =>
    rw [List.mapM_cons, List.forall_mem_cons, ← ih]
    cases hx : f x with
    | error e => simp [bind, Except.bind]
    | ok y =>
      cases hrest : rest.mapM f with
      | error e => simp [bind, Except.bind]
      | ok ys => simp [bind, Except.bind, pure, Except.pure]

/-- A list is read up to the first item that is refused, and its refusal is the answer. -/
theorem mapM_eq_error_iff {xs : List α} {e : ε} :
    xs.mapM f = .error e ↔
      ∃ before x after, xs = before ++ x :: after ∧ (∀ y ∈ before, ∃ b, f y = .ok b) ∧
        f x = .error e := by
  induction xs with
  | nil => simp [pure, Except.pure]
  | cons x rest ih =>
    rw [List.mapM_cons]
    cases hx : f x with
    | error d =>
      change Except.error d = .error e ↔ _
      rw [Except.error.injEq]
      constructor
      · rintro rfl
        exact ⟨[], x, rest, rfl, by simp, hx⟩
      · rintro ⟨before, y, after, heq, hbefore, hy⟩
        cases before with
        | nil =>
          obtain ⟨rfl, -⟩ := List.cons.inj heq
          exact Except.error.inj (hx.symm.trans hy)
        | cons z before =>
          obtain ⟨rfl, -⟩ := List.cons.inj heq
          obtain ⟨b, hb⟩ := hbefore _ List.mem_cons_self
          cases hx.symm.trans hb
    | ok b =>
      have hstep : (do let y ← Except.ok b; let ys ← rest.mapM f; pure (y :: ys)) = .error e ↔
          rest.mapM f = .error e := by
        cases rest.mapM f <;> simp [bind, Except.bind, pure, Except.pure]
      rw [hstep, ih]
      constructor
      · rintro ⟨before, y, after, rfl, hbefore, hy⟩
        exact ⟨x :: before, y, after, rfl, List.forall_mem_cons.2 ⟨⟨b, hx⟩, hbefore⟩, hy⟩
      · rintro ⟨before, y, after, heq, hbefore, hy⟩
        cases before with
        | nil =>
          obtain ⟨rfl, -⟩ := List.cons.inj heq
          cases hx.symm.trans hy
        | cons z before =>
          obtain ⟨rfl, rfl⟩ := List.cons.inj heq
          exact ⟨before, y, after, rfl, (List.forall_mem_cons.1 hbefore).2, hy⟩

/-- What is read from a list is what is read from its items. -/
theorem mem_iff_of_mapM_eq_ok {xs : List α} {ys : List β} (h : xs.mapM f = .ok ys) {y : β} :
    y ∈ ys ↔ ∃ x ∈ xs, f x = .ok y := by
  induction xs generalizing ys with
  | nil =>
    obtain rfl := Except.ok.inj h
    simp
  | cons x rest ih =>
    rw [List.mapM_cons] at h
    cases hx : f x with
    | error e =>
      rw [hx] at h
      cases h
    | ok b =>
      cases hrest : rest.mapM f with
      | error e =>
        rw [hx, hrest] at h
        cases h
      | ok bs =>
        rw [hx, hrest] at h
        obtain rfl := Except.ok.inj h
        simp [ih hrest, hx, eq_comm]

/-- Where reading an item does not depend on what has been read, the items can all be read first and
put together afterwards. -/
theorem foldlM_map {σ : Type} (g : σ → β → σ) (s : σ) (xs : List α) :
    xs.foldlM (fun s x => (f x).map (g s)) s = (xs.mapM f).map (List.foldl g s) := by
  induction xs generalizing s with
  | nil => rfl
  | cons x rest ih =>
    rw [List.foldlM_cons, List.mapM_cons]
    cases f x with
    | error e => rfl
    | ok b =>
      change rest.foldlM _ (g s b) = _
      rw [ih]
      cases rest.mapM f <;> rfl

end Traversal

namespace Config

variable {config : Config}

/-! ### Patterns -/

theorem pattern_eq_ok_iff {text : String} {glob : Glob} :
    pattern text = .ok glob ↔ Glob.ofText text = .ok glob := by
  rw [pattern]
  cases Glob.ofText text <;> simp

theorem pattern_eq_error_iff {text : String} {e : ConfigError} :
    pattern text = .error e ↔ ∃ cause, Glob.ofText text = .error cause ∧
      e = .invalidPattern text cause := by
  rw [pattern]
  cases Glob.ofText text <;> simp [eq_comm]

/-- The patterns of excluded paths can be read when each of them can. -/
theorem exists_exclusions_iff :
    (∃ globs, config.exclusions = .ok globs) ↔
      ∀ text ∈ config.excludedPaths, ∃ glob, Glob.ofText text = .ok glob := by
  rw [exclusions, exists_mapM_eq_ok_iff]
  simp only [pattern_eq_ok_iff]

/-- The check of the patterns comes to what reading them comes to, but keeps none. -/
theorem checkPatterns_eq (texts : List String) :
    checkPatterns texts = (texts.mapM pattern).map fun _ => () := by
  induction texts with
  | nil => rfl
  | cons text rest ih =>
    rw [checkPatterns, List.mapM_cons, pattern]
    cases Glob.ofText text with
    | error cause => rfl
    | ok glob =>
      change checkPatterns rest = _
      rw [ih]
      cases rest.mapM pattern <;> rfl

/-! ### Extensions -/

/-- An extension that has nothing but dots, or nothing at all. -/
def AllDots (ext : String) : Prop :=
  ∀ c ∈ ext.toList, c = '.'

theorem bareExtension_eq_empty_iff {ext : String} : bareExtension ext = "" ↔ AllDots ext := by
  rw [bareExtension, AllDots, ← String.toList_inj, String.toList_ofList]
  simp [List.dropWhile_eq_nil_iff]

/-- Without the dots before it, an extension starts with none. -/
theorem head?_bareExtension_ne (ext : String) : (bareExtension ext).toList.head? ≠ some '.' := by
  rw [bareExtension, String.toList_ofList]
  intro hdot
  have hnot := List.head?_dropWhile_not (· == '.') ext.toList
  rw [hdot] at hnot
  simp at hnot

theorem extensions_ne_nil (config : Config) : config.extensions ≠ [] := by
  rw [extensions]
  split_ifs with hnone
  · decide
  · simpa using hnone

/-- Unless an extension has nothing but dots, all extensions are left with something, and that
starts with no dot. -/
theorem of_mem_extensions (h : ∀ ext ∈ config.sourceExtensions, ¬AllDots ext) {ext : String}
    (hext : ext ∈ config.extensions) : ext ≠ "" ∧ ext.toList.head? ≠ some '.' := by
  rw [extensions] at hext
  split_ifs at hext with hnone
  · have husual : ∀ ext ∈ defaultExtensions, ext ≠ "" ∧ ext.toList.head? ≠ some '.' := by
      decide
    exact husual ext hext
  · obtain ⟨written, hwritten, rfl⟩ := List.mem_map.1 hext
    exact ⟨fun hempty => h written hwritten (bareExtension_eq_empty_iff.1 hempty),
      head?_bareExtension_ne written⟩

/-! ### The check -/

/-- What is wrong first with a configuration. -/
inductive FirstFault (config : Config) : ConfigError → Prop
  /-- A pattern is malformed, and none before it is. -/
  | pattern {before after : List String} {text : String} {cause : GlobError}
      (hpatterns : config.excludedPaths = before ++ text :: after)
      (hbefore : ∀ p ∈ before, ∃ glob, Glob.ofText p = .ok glob)
      (htext : Glob.ofText text = .error cause) :
      FirstFault config (.invalidPattern text cause)
  /-- No pattern is malformed, but an extension has nothing but dots. -/
  | extension {ext : String}
      (hpatterns : ∀ p ∈ config.excludedPaths, ∃ glob, Glob.ofText p = .ok glob)
      (hext : ext ∈ config.sourceExtensions) (hdots : AllDots ext) :
      FirstFault config .emptyExtension
  /-- Patterns and extensions are as they should be, but the tags cannot be set up. -/
  | tags {e : ConfigError}
      (hpatterns : ∀ p ∈ config.excludedPaths, ∃ glob, Glob.ofText p = .ok glob)
      (hexts : ∀ ext ∈ config.sourceExtensions, ¬AllDots ext)
      (hregistry : config.registry = .error e) :
      FirstFault config e

theorem any_bareExtension_eq_true_iff :
    config.sourceExtensions.any (bareExtension · == "") = true ↔
      ∃ ext ∈ config.sourceExtensions, AllDots ext := by
  simp [bareExtension_eq_empty_iff]

theorem any_bareExtension_eq_false_iff :
    config.sourceExtensions.any (bareExtension · == "") = false ↔
      ∀ ext ∈ config.sourceExtensions, ¬AllDots ext := by
  simp [bareExtension_eq_empty_iff]

/-- The three steps of the check, one after the other. -/
theorem validate_eq (config : Config) :
    config.validate =
      match config.exclusions with
      | .error e => .error e
      | .ok _ =>
        if config.sourceExtensions.any (bareExtension · == "") then .error .emptyExtension
        else match config.registry with
          | .error e => .error e
          | .ok _ => .ok () := by
  rw [validate, checkPatterns_eq, ← exclusions]
  cases config.exclusions with
  | error e => rfl
  | ok globs =>
    cases hany : config.sourceExtensions.any (bareExtension · == "") with
    | true => rfl
    | false => cases config.registry <;> rfl

/-- What is reported is what is wrong first. -/
theorem firstFault_of_validate {e : ConfigError} (h : config.validate = .error e) :
    config.FirstFault e := by
  rw [validate_eq] at h
  cases hpatterns : config.exclusions with
  | error d =>
    rw [hpatterns] at h
    obtain ⟨before, text, after, heq, hbefore, htext⟩ := mapM_eq_error_iff.1 hpatterns
    obtain ⟨cause, hcause, rfl⟩ := pattern_eq_error_iff.1 htext
    obtain rfl := Except.error.inj h
    exact .pattern heq (fun p hp => (hbefore p hp).imp fun _ => pattern_eq_ok_iff.1) hcause
  | ok globs =>
    have haccepted := exists_exclusions_iff.1 ⟨globs, hpatterns⟩
    rw [hpatterns] at h
    cases hany : config.sourceExtensions.any (bareExtension · == "") with
    | true =>
      obtain ⟨ext, hext, hdots⟩ := any_bareExtension_eq_true_iff.1 hany
      rw [hany] at h
      obtain rfl := Except.error.inj h
      exact .extension haccepted hext hdots
    | false =>
      rw [hany] at h
      cases hregistry : config.registry with
      | error d =>
        rw [hregistry] at h
        obtain rfl := Except.error.inj h
        exact .tags haccepted (any_bareExtension_eq_false_iff.1 hany) hregistry
      | ok reg =>
        rw [hregistry] at h
        cases h

/-- What is wrong first is reported. -/
theorem FirstFault.validate_eq {e : ConfigError} (h : config.FirstFault e) :
    config.validate = .error e := by
  rw [Config.validate_eq]
  cases h with
  | @pattern before after text cause hpatterns hbefore htext =>
    have hfails : config.exclusions = .error (.invalidPattern text cause) :=
      mapM_eq_error_iff.2 ⟨before, text, after, hpatterns,
        fun p hp => (hbefore p hp).imp fun _ => pattern_eq_ok_iff.2,
        pattern_eq_error_iff.2 ⟨cause, htext, rfl⟩⟩
    rw [hfails]
  | extension hpatterns hext hdots =>
    obtain ⟨globs, hglobs⟩ := exists_exclusions_iff.2 hpatterns
    rw [hglobs, any_bareExtension_eq_true_iff.2 ⟨_, hext, hdots⟩]
    rfl
  | tags hpatterns hexts hregistry =>
    obtain ⟨globs, hglobs⟩ := exists_exclusions_iff.2 hpatterns
    rw [hglobs, any_bareExtension_eq_false_iff.2 hexts, hregistry]
    rfl

theorem validate_eq_error_iff {e : ConfigError} :
    config.validate = .error e ↔ config.FirstFault e :=
  ⟨firstFault_of_validate, FirstFault.validate_eq⟩

/-- Of two faults the one in the patterns is reported. -/
example : validate { excludedPaths := ["lib", "[a"], sourceExtensions := [".."] } =
    .error (.invalidPattern "[a" .unclosedClass) := rfl

/-- A configuration passes the check when its patterns can be read, its extensions have more than
dots and its tags can be set up. -/
theorem validate_eq_ok_iff :
    config.validate = .ok () ↔
      (∃ globs, config.exclusions = .ok globs) ∧
        (∀ ext ∈ config.sourceExtensions, ¬AllDots ext) ∧ ∃ reg, config.registry = .ok reg := by
  rw [← any_bareExtension_eq_false_iff, validate_eq]
  cases config.exclusions with
  | error e => simp
  | ok globs =>
    cases config.sourceExtensions.any (bareExtension · == "") with
    | true => simp
    | false => cases config.registry <;> simp

/-- The check fails on a malformed pattern, on an extension that has nothing but dots, and on tags
that cannot be set up, and on nothing else. -/
theorem exists_validate_eq_error_iff :
    (∃ e, config.validate = .error e) ↔
      (∃ text ∈ config.excludedPaths, ∃ cause, Glob.ofText text = .error cause) ∨
        (∃ ext ∈ config.sourceExtensions, AllDots ext) ∨ ∃ e, config.registry = .error e := by
  constructor
  · rintro ⟨e, he⟩
    cases validate_eq_error_iff.1 he with
    | pattern hpatterns _ htext => exact .inl ⟨_, by simp [hpatterns], _, htext⟩
    | extension _ hext hdots => exact .inr (.inl ⟨_, hext, hdots⟩)
    | tags _ _ hregistry => exact .inr (.inr ⟨e, hregistry⟩)
  · intro h
    cases hvalid : config.validate with
    | error e => exact ⟨e, rfl⟩
    | ok _ =>
      obtain ⟨hglobs, hexts, reg, hregistry⟩ := validate_eq_ok_iff.1 hvalid
      rcases h with ⟨text, htext, cause, hcause⟩ | ⟨ext, hext, hdots⟩ | ⟨e, he⟩
      · obtain ⟨glob, hglob⟩ := exists_exclusions_iff.1 hglobs text htext
        cases hcause.symm.trans hglob
      · exact absurd hdots (hexts ext hext)
      · cases he.symm.trans hregistry

/-! ### What is loaded -/

/-- A file is loaded when it can be read, holds a configuration, and this passes the check. -/
theorem loadFile_eq_ok_iff {tree : FileTree} {path : String} :
    loadFile tree path = .ok config ↔
      ∃ text, tree.readText path = .ok text ∧ ofText? text = some config ∧
        config.validate = .ok () := by
  rw [loadFile]
  cases tree.readText path with
  | error cause => simp
  | ok text =>
    simp only [Except.ok.injEq, exists_eq_left']
    cases ofText? text with
    | none => simp
    | some parsed =>
      simp only [Option.some.injEq]
      cases hvalid : parsed.validate with
      | error e =>
        simp only [reduceCtorEq, false_iff, not_and]
        rintro rfl
        simp [hvalid]
      | ok _ =>
        simp only [Except.ok.injEq, iff_self_and]
        rintro rfl
        exact hvalid

/-- A configuration passes the check when it is loaded, and so does the usual one, on which the
check is not run. -/
theorem validate_of_load {tree : FileTree} {candidates : List String} {path : Option String}
    (h : load tree candidates path = .ok config) : config.validate = .ok () := by
  rw [load] at h
  cases hpath : path <|> candidates.find? tree.hasPath with
  | none =>
    rw [hpath] at h
    obtain rfl := Except.ok.inj h
    rfl
  | some file =>
    rw [hpath] at h
    obtain ⟨-, -, -, hvalid⟩ := loadFile_eq_ok_iff.1 h
    exact hvalid

/-! ### What is set up -/

/-- Everything can be set up from a configuration, except that a catalog takes an include path. -/
structure SetsUp (config : Config) : Prop where
  registry : ∃ reg, config.registry = .ok reg
  exclusions : ∃ globs, config.exclusions = .ok globs
  /-- A catalog lacks nothing but include paths. -/
  catalog : ∀ paths, (∃ e, config.catalog paths = .error e) ↔ paths = [] ∧ config.includePaths = []
  /-- A catalog has extensions, which are not empty and start with no dot. -/
  extensions : ∀ paths catalog, config.catalog paths = .ok catalog →
    catalog.extensions ≠ [] ∧
      ∀ ext ∈ catalog.extensions, ext ≠ "" ∧ ext.toList.head? ≠ some '.'

theorem catalog_eq {globs : List Glob} (h : config.exclusions = .ok globs) (paths : List String) :
    config.catalog paths =
      if paths = [] ∧ config.includePaths = [] then .error .noIncludePaths
      else .ok {
        includePaths := if paths.isEmpty then config.includePaths else paths
        extensions := config.extensions
        isExcluded := fun path => globs.any (·.isMatch path) } := by
  rw [catalog, h]
  cases paths with
  | nil => cases hpaths : config.includePaths <;> rfl
  | cons path rest => rfl

/-- Everything can be set up from a configuration that passes the check. -/
theorem setsUp_of_validate (h : config.validate = .ok ()) : config.SetsUp := by
  obtain ⟨⟨globs, hglobs⟩, hexts, hregistry⟩ := validate_eq_ok_iff.1 h
  refine ⟨hregistry, ⟨globs, hglobs⟩, fun paths => ?_, fun paths catalog hcatalog => ?_⟩
  · rw [catalog_eq hglobs]
    split_ifs with hnone <;> simp [hnone]
  · have hcatalogExts : catalog.extensions = config.extensions := by
      rw [catalog_eq hglobs] at hcatalog
      split at hcatalog
      · cases hcatalog
      · rw [← Except.ok.inj hcatalog]
    rw [hcatalogExts]
    exact ⟨config.extensions_ne_nil, fun ext hext => of_mem_extensions hexts hext⟩

/-- Everything can be set up from a configuration that passes the check, as does each one that is
loaded. The check fails on a malformed pattern, on an extension that has nothing but dots, and on
tags that cannot be set up, and reports what is wrong first. -/
theorem checked_configurations (config : Config) :
    (config.validate = .ok () → config.SetsUp) ∧
    (∀ tree candidates path, load tree candidates path = .ok config → config.validate = .ok ()) ∧
    ((∃ e, config.validate = .error e) ↔
      (∃ text ∈ config.excludedPaths, ∃ cause, Glob.ofText text = .error cause) ∨
        (∃ ext ∈ config.sourceExtensions, AllDots ext) ∨ ∃ e, config.registry = .error e) ∧
    ∀ e, config.validate = .error e ↔ config.FirstFault e :=
  ⟨setsUp_of_validate, fun _ _ _ => validate_of_load, exists_validate_eq_error_iff,
    fun _ => validate_eq_error_iff⟩

/-- A configuration that makes use of all settings. -/
def allSettings : Config where
  includePaths := ["src", "vendor/lib"]
  sourceExtensions := ["php", ".inc"]
  excludedPaths := ["**/tests/**"]
  tags := { disabled := ["internal"], aliases := .ofList [("fixme", "todo")] }

/-- A configuration with patterns, dotted extensions and aliases passes the check. -/
theorem checked_configurations_allSettings :
    allSettings.validate = .ok () ∧ allSettings.SetsUp :=
  have hvalid : allSettings.validate = .ok () := rfl
  ⟨hvalid, (checked_configurations allSettings).1 hvalid⟩

end Config

end ClassDocs
