import ClassDocs.Proofs.KeyedMaps
import ClassDocs.Proofs.TagRuns
import Mathlib.Data.List.Induction

/-!
# What tags leave in a record

In a registry that binds names to built-in kinds, each field of a record depends on the runs of one
kind alone: lists take up all of them in order, texts take the last one, flags the presence of one.
A run that says nothing its kind can read changes nothing, so an earlier one still counts.

## Main definitions

* `Registry.BindsKinds`: registries of built-in kinds only.
* `Record.afterRuns`: the record after some runs, field by field.

## Main results

* `Record.afterRuns_concat`: one more run has the effect of its kind.
* `Registry.applyTags_eq_afterRuns`: reading lines gives the record after their runs.
-/

namespace ClassDocs

namespace Registry

/-- Every registered name stands for the built-in kind that `kindOf` gives it. -/
def BindsKinds (reg : Registry) (kindOf : String → TagKind) : Prop :=
  ∀ name handler, reg.find? name = some handler → handler = Handler.builtin name (kindOf name)

variable {kindOf : String → TagKind}

theorem bindsKinds_empty : empty.BindsKinds kindOf := by
  intro name handler h
  simp [empty, find?] at h

theorem BindsKinds.put {reg : Registry} (h : reg.BindsKinds kindOf) (name : String) :
    (reg.put (.builtin name (kindOf name))).BindsKinds kindOf := by
  intro other handler hfind
  rw [find?, Registry.put, SortedMap.get?_insert] at hfind
  split_ifs at hfind with heq
  · rw [← Option.some.inj hfind, heq]
    rfl
  · exact h other handler hfind

/-- Registering names with the kinds that `kindOf` gives them keeps to these kinds. -/
theorem BindsKinds.foldl_put {reg : Registry} (h : reg.BindsKinds kindOf)
    {bound : List (String × TagKind)} (hbound : ∀ b ∈ bound, kindOf b.1 = b.2) :
    (bound.foldl (fun reg (name, kind) => reg.put (.builtin name kind)) reg).BindsKinds kindOf := by
  induction bound generalizing reg with
  | nil => exact h
  | cons b rest ih =>
    rw [List.foldl_cons]
    refine ih ?_ fun b hb => hbound b (List.mem_cons_of_mem _ hb)
    have hkind := hbound b List.mem_cons_self
    simpa only [hkind] using h.put b.1

/-- The kind of a tag name known from the start. -/
def builtinKind (name : String) : TagKind :=
  (TagKind.builtinNames.lookup name).getD .global

theorem bindsKinds_builtin : builtin.BindsKinds builtinKind :=
  bindsKinds_empty.foldl_put (by decide)

/-- In such a registry a run has the effect of the kind of its tag. -/
theorem BindsKinds.dispatch_eq {reg : Registry} (h : reg.BindsKinds kindOf) {run : Run}
    {handler : Handler} (hfind : reg.find? run.tag = some handler) (r : Record) :
    reg.dispatch r run = (kindOf run.tag).apply r run.lines := by
  simp only [dispatch, hfind]
  rw [h run.tag handler hfind]
  rfl

/-- The lines of a run as one text. -/
def Run.text (run : Run) : String :=
  String.intercalate "\n" run.lines

/-- What a run says on the line that opens it. -/
def Run.first (run : Run) : String :=
  run.lines.headD ""

end Registry

/-! ### Access levels -/

/-- The level that a text spells. -/
def AccessLevel.spelled (text : String) : Option AccessLevel :=
  if text = "private" then some .privateLevel
  else if text = "protected" then some .protectedLevel
  else if text = "public" then some .publicLevel
  else none

theorem AccessLevel.ofName?_eq_spelled (text : String) : ofName? text = spelled text := by
  simp only [ofName?, spelled, List.find?_cons, List.find?_nil, name]
  by_cases hprivate : text = "private"
  · simp [hprivate]
  by_cases hprotected : text = "protected"
  · simp [hprotected]
  by_cases hpublic : text = "public"
  · simp [hpublic]
  · simp [hprivate, hprotected, hpublic, beq_false_of_ne (Ne.symm hprivate),
      beq_false_of_ne (Ne.symm hprotected), beq_false_of_ne (Ne.symm hpublic)]

/-! ### The record after some runs -/

namespace Record

open Registry (Run)

variable (kindOf : String → TagKind) (r : Record)

/-- The runs of a kind, in order. -/
def runsOf (runs : List Run) (kind : TagKind) : List Run :=
  runs.filter fun run => kindOf run.tag = kind

/-- The texts of the runs of a kind, in order. -/
def textsOf (runs : List Run) (kind : TagKind) : List String :=
  (runsOf kindOf runs kind).map Run.text

/-- The record after some runs of tags with these kinds, field by field. -/
def afterRuns (runs : List Run) : Record where
  description := r.description
  longDescription := r.longDescription
  isAbstract := r.isAbstract || !(runsOf kindOf runs .abstract).isEmpty
  isStatic := r.isStatic || !(runsOf kindOf runs .static).isEmpty
  isDeprecated := r.isDeprecated || !(runsOf kindOf runs .deprecated).isEmpty
  isIgnored := r.isIgnored || !(runsOf kindOf runs .ignore).isEmpty
  access :=
    (((runsOf kindOf runs .access).map Run.first).filterMap AccessLevel.spelled).getLast?.or
      r.access
  author := (textsOf kindOf runs .author).getLast?.or r.author
  copyright := (textsOf kindOf runs .copyright).getLast?.or r.copyright
  deprecatedMessage := (textsOf kindOf runs .deprecated).getLast?.or r.deprecatedMessage
  exampleText := (textsOf kindOf runs .exampleText).getLast?.or r.exampleText
  link := (textsOf kindOf runs .link).getLast?.or r.link
  name := (textsOf kindOf runs .name).getLast?.or r.name
  package := (textsOf kindOf runs .package).getLast?.or r.package
  subPackage := (textsOf kindOf runs .subPackage).getLast?.or r.subPackage
  see := (textsOf kindOf runs .see).getLast?.or r.see
  since := (textsOf kindOf runs .since).getLast?.or r.since
  version := (textsOf kindOf runs .version).getLast?.or r.version
  varType := (textsOf kindOf runs .var).getLast?.or r.varType
  parameters :=
    (((textsOf kindOf runs .param).map Parameter.ofParamText).foldl addParameter r).parameters
  returnValue :=
    ((textsOf kindOf runs .returnValue).filterMap Parameter.ofReturnText?).getLast?.or r.returnValue
  exceptions := r.exceptions ++ (textsOf kindOf runs .throws).map Parameter.ofThrowsText
  todos := r.todos ++ textsOf kindOf runs .todo

theorem afterRuns_nil : afterRuns kindOf r [] = r := by
  simp [afterRuns, runsOf, textsOf]

theorem runsOf_concat (runs : List Run) (run : Run) (kind : TagKind) :
    runsOf kindOf (runs ++ [run]) kind =
      runsOf kindOf runs kind ++ if kindOf run.tag = kind then [run] else [] := by
  simp only [runsOf, List.filter_append, List.filter_cons, List.filter_nil, decide_eq_true_eq]

theorem textsOf_concat (runs : List Run) (run : Run) (kind : TagKind) :
    textsOf kindOf (runs ++ [run]) kind =
      textsOf kindOf runs kind ++ if kindOf run.tag = kind then [run.text] else [] := by
  rw [textsOf, runsOf_concat, List.map_append]
  split_ifs <;> rfl

/-- One more run has the effect of its kind, whatever was read before. -/
theorem afterRuns_concat (runs : List Run) (run : Run) :
    afterRuns kindOf r (runs ++ [run]) =
      (kindOf run.tag).apply (afterRuns kindOf r runs) run.lines := by
  have htext : String.intercalate "\n" run.lines = run.text := rfl
  have hfirst : run.lines.head?.getD "" = run.first := List.headD_eq_head?_getD.symm
  cases hkind : kindOf run.tag
  case access =>
    cases hlevel : AccessLevel.spelled run.first <;>
      simp [TagKind.apply, afterRuns, runsOf_concat, textsOf_concat, hkind, hlevel, hfirst,
        AccessLevel.ofName?_eq_spelled]
  case returnValue =>
    cases hvalue : Parameter.ofReturnText? run.text <;>
      simp [TagKind.apply, afterRuns, runsOf_concat, textsOf_concat, hkind, hvalue, htext]
  all_goals
    simp [TagKind.apply, afterRuns, runsOf_concat, textsOf_concat, hkind, htext, addTodo,
      addException, addParameter]

/-- Runs, each with the effect of its kind, leave the record after all of them. -/
theorem foldl_apply_eq_afterRuns (runs : List Run) :
    runs.foldl (fun r run => (kindOf run.tag).apply r run.lines) r = afterRuns kindOf r runs := by
  induction runs using List.reverseRecOn with
  | nil => exact (afterRuns_nil kindOf r).symm
  | append_singleton runs run ih => rw [List.foldl_concat, ih, afterRuns_concat]

end Record

/-! ### Reading lines -/

namespace Registry

/-- Where all tags are of built-in kinds, reading lines leaves the record after the runs that the
lines are cut into from the first tag on. -/
theorem applyTags_eq_afterRuns (reg : Registry) (kindOf : String → TagKind)
    (hkinds : reg.BindsKinds kindOf) (r : Record) (lines : List String) :
    ∃ runs, reg.Cut (lines.dropWhile fun line => (reg.classify line).isNone) runs ∧
      reg.applyTags r lines = r.afterRuns kindOf runs := by
  have hcut := cut_runs reg lines
  refine ⟨reg.runs lines, hcut, ?_⟩
  have hdispatch : ∀ r, ∀ run ∈ reg.runs lines,
      reg.dispatch r run = (kindOf run.tag).apply r run.lines := by
    intro r run hrun
    obtain ⟨handler, hfind, -⟩ := hcut.exists_handler run hrun
    exact hkinds.dispatch_eq hfind r
  rw [applyTags_eq_foldl_runs, List.foldl_ext _ _ r hdispatch]
  exact Record.foldl_apply_eq_afterRuns kindOf r _

/-- The tags known from the start, with a level that is misspelt after one that is not, two names
of one kind, and a text over two lines. -/
theorem applyTags_eq_afterRuns_builtin :
    let lines := ["lead", "@access public", "@access Private", "@throws E a", "@exception F",
      "@todo first", "second", "@return null"]
    builtin.BindsKinds builtinKind ∧
      ∃ runs, builtin.Cut (lines.dropWhile fun line => (builtin.classify line).isNone) runs ∧
        builtin.applyTags {} lines = Record.afterRuns builtinKind {} runs :=
  ⟨bindsKinds_builtin, applyTags_eq_afterRuns builtin builtinKind bindsKinds_builtin {} _⟩

end Registry

end ClassDocs
