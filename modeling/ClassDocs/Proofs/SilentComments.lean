import ClassDocs.Proofs.ValueReading
import ClassDocs.Report.Pretty

/-!
# Comments that document nothing

A comment leaves the empty record when it has no description and none of its tags documents
anything. No tag takes back what stands in a record, and an empty text counts as documentation, so
these are tags without an effect: inert ones, access levels that are not spelled like one of the
three, and a bare `null` for a return value. A report says so for such comments and for no others,
and for every other comment it has something to show.

## Main definitions

* `TagKind.Silent`: occurrences of a tag that document nothing.

## Main results

* `TagKind.apply_eq_empty_iff`: what leaves the empty record, for one occurrence of a tag.
* `Registry.BindsKinds.foldl_dispatch_eq_empty_iff`: the same for the runs of some lines.
* `Record.lines_eq_nil_iff`: a record without lines in a report.
* `Registry.parse_isEmpty_iff`: the comments that document nothing.
-/

namespace ClassDocs

/-! ### Tags -/

theorem AccessLevel.ofName?_eq_none_iff {text : String} :
    ofName? text = none ↔ text ∉ ["private", "protected", "public"] := by
  rw [ofName?_eq_spelled, spelled]
  split_ifs <;> simp_all

theorem Record.putParameter_ne_nil (p : Parameter) (ps : List Parameter) :
    putParameter p ps ≠ [] := by
  cases ps with
  | nil => exact List.cons_ne_nil _ _
  | cons q rest =>
    rw [putParameter]
    split_ifs <;> exact List.cons_ne_nil _ _

namespace TagKind

/-- The occurrences of a tag that document nothing: of an inert tag, of an access level that is not
spelled like one of the three, and of a return value that is `null` and blanks. -/
def Silent (kind : TagKind) (lines : List String) : Prop :=
  match kind with
  | .global | .internal => True
  | .access => lines.headD "" ∉ ["private", "protected", "public"]
  | .returnValue =>
    ∃ blanks, Text.isBlankText blanks = true ∧ String.intercalate "\n" lines = "null" ++ blanks
  | _ => False

/-- One occurrence of a tag leaves the empty record only where it finds it, and only when it
documents nothing. A text that is set is told from one that is not even when it is empty. -/
theorem apply_eq_empty_iff (kind : TagKind) (r : Record) (lines : List String) :
    kind.apply r lines = {} ↔ r = {} ∧ kind.Silent lines := by
  cases kind
  case access =>
    simp only [apply, Silent, ← AccessLevel.ofName?_eq_none_iff]
    cases AccessLevel.ofName? (lines.headD "") with
    | none => simp
    | some level => simp
  case returnValue =>
    simp only [apply, Silent, ← Parameter.ofReturnText?_eq_none_iff]
    cases Parameter.ofReturnText? (String.intercalate "\n" lines) with
    | none => simp
    | some value => simp
  -- Every other kind is inert or puts something into a field that the empty record leaves unset.
  all_goals
    simp [apply, Silent, Record.addParameter, Record.putParameter_ne_nil, Record.addException,
      Record.addTodo]

end TagKind

/-! ### Comments -/

namespace Registry

variable {reg : Registry} {kindOf : String → TagKind} {lines : List String} {runs : List Run}

/-- Runs leave the empty record only where they find it, and only when all are silent: what one of
them documents, no later one takes back. -/
theorem BindsKinds.foldl_dispatch_eq_empty_iff (hkinds : reg.BindsKinds kindOf)
    (hcut : reg.Cut lines runs) (r : Record) :
    runs.foldl reg.dispatch r = {} ↔
      r = {} ∧ ∀ run ∈ runs, (kindOf run.tag).Silent run.lines := by
  induction hcut generalizing r with
  | nil => simp
  | @run line tag text body rest cut opens _ _ ih =>
    obtain ⟨handler, hfind⟩ := exists_handler_of_classify opens.1
    have hdispatch : reg.dispatch r ⟨tag, text :: body⟩ = (kindOf tag).apply r (text :: body) :=
      hkinds.dispatch_eq hfind r
    rw [List.foldl_cons, ih, hdispatch, TagKind.apply_eq_empty_iff, List.forall_mem_cons, and_assoc]

/-- The descriptions of a preamble are unset when all its lines are empty. -/
theorem described_eq_empty_iff {preamble : List String} :
    described preamble = {} ↔ ∀ line ∈ preamble, line = "" := by
  have hjoined (lines : List String) : Comment.joined lines = none ↔ lines = [] := by
    rw [Comment.joined]
    split_ifs with hnone <;> simp [hnone]
  have hunset : described preamble = {} ↔ preamble.takeWhile (· != "") = [] ∧
      (preamble.dropWhile (· != "")).filter (· != "") = [] := by
    rw [← hjoined, ← hjoined]
    simp [described]
  rw [hunset]
  constructor
  · rintro ⟨hshort, hlong⟩ line hline
    have hcut := List.takeWhile_append_dropWhile (p := (· != "")) (l := preamble)
    rw [hshort, List.nil_append] at hcut
    rw [hcut] at hlong
    simpa using List.filter_eq_nil_iff.1 hlong line hline
  · intro h
    refine ⟨List.eq_nil_iff_forall_not_mem.2 fun line hline => ?_,
      List.filter_eq_nil_iff.2 fun line hline => ?_⟩
    · have hset := List.mem_takeWhile_imp hline
      simp [h line ((List.takeWhile_prefix _).subset hline)] at hset
    · simp [h line ((List.dropWhile_suffix _).subset hline)]

end Registry

/-! ### Reports -/

theorem fieldLine_eq_nil_iff {color : Bool} {label : String} {value : Option String} :
    fieldLine color label value = [] ↔ value = none := by
  simp [fieldLine]

theorem listLines_eq_nil_iff {color : Bool} {label : String} {items : List String} :
    listLines color label items = [] ↔ items = [] := by
  simp [listLines]

namespace Record

theorem isEmpty_iff {r : Record} : r.isEmpty = true ↔ r = {} :=
  beq_iff_eq

theorem flagNames_eq_nil_iff {r : Record} :
    r.flagNames = [] ↔ r.isAbstract = false ∧ r.isStatic = false ∧ r.isIgnored = false := by
  cases habstract : r.isAbstract <;> cases hstatic : r.isStatic <;>
    cases hignored : r.isIgnored <;> simp [flagNames, habstract, hstatic, hignored]

/-- A report has a line for each field of a record that is set. The message of a deprecated element
is shown with the mark, so it must not stand alone. -/
theorem lines_eq_nil_iff {r : Record}
    (h : r.isDeprecated = true ↔ ∃ message, r.deprecatedMessage = some message) (color : Bool) :
    r.lines color = [] ↔ r = {} := by
  have hdeprecated (line : String) :
      (if r.isDeprecated = true then [line] else []) = [] ↔
        r.isDeprecated = false ∧ r.deprecatedMessage = none := by
    cases hmark : r.isDeprecated with
    | true => simp
    | false =>
      have hnone : r.deprecatedMessage = none := by
        simpa [hmark, Option.eq_none_iff_forall_ne_some] using h
      simp [hnone]
  have hflags :
      (if r.flagNames.isEmpty then none else some (String.intercalate ", " r.flagNames)) = none ↔
        r.flagNames = [] := by
    simp
  unfold lines
  simp only [List.append_eq_nil_iff, fieldLine_eq_nil_iff, listLines_eq_nil_iff,
    Option.toList_eq_nil_iff, Option.map_eq_none_iff, List.map_eq_nil_iff, hdeprecated, hflags,
    flagNames_eq_nil_iff]
  cases r
  simp only [mk.injEq]
  tauto

end Record

namespace Registry

/-- The record of a comment is that of its descriptions, changed by its runs. -/
theorem parse_eq_foldl_runs (reg : Registry) (comment : String) :
    reg.parse comment = (reg.runs (Comment.contentLines comment)).foldl reg.dispatch
      (described ((Comment.contentLines comment).takeWhile reg.continues)) := by
  have hcut := cut_runs reg (Comment.contentLines comment)
  rw [parse_eq_applyTags, applyTags_eq_foldl_runs, ← hcut.eq_runs]

/-- Where all tags are of built-in kinds, a comment documents nothing exactly when all lines before
its first tag are empty and all its runs are silent. The report on it then says that there is no
documentation; on any other comment it shows at least one line of what is documented. -/
theorem parse_isEmpty_iff (reg : Registry) (kindOf : String → TagKind)
    (hkinds : reg.BindsKinds kindOf) (comment : String) :
    let content := Comment.contentLines comment
    let preamble := content.takeWhile fun line => (reg.classify line).isNone
    let tagged := content.dropWhile fun line => (reg.classify line).isNone
    let r := reg.parse comment
    ∃ runs, reg.Cut tagged runs ∧
      (r.isEmpty = true ↔
        (∀ line ∈ preamble, line = "") ∧ ∀ run ∈ runs, (kindOf run.tag).Silent run.lines) ∧
      ∀ color,
        (r.isEmpty = true → r.pretty color =
          unlines ["", "  " ++ Style.dimmed.paint color "(no documentation)", ""]) ∧
        (r.isEmpty = false →
          r.lines color ≠ [] ∧ r.pretty color = unlines ([""] ++ r.lines color ++ [""])) := by
  intro content preamble tagged r
  have hcut : reg.Cut tagged (reg.runs content) := cut_runs reg content
  have hr : r = (reg.runs content).foldl reg.dispatch (described preamble) :=
    reg.parse_eq_foldl_runs comment
  refine ⟨reg.runs content, hcut, ?_, fun color => ⟨fun hempty => ?_, fun hset => ⟨?_, ?_⟩⟩⟩
  · rw [Record.isEmpty_iff, hr, hkinds.foldl_dispatch_eq_empty_iff hcut, described_eq_empty_iff]
  · rw [Record.pretty, if_pos hempty]
  · have hwell : r.WellFormed := by
      rw [show r = _ from reg.parse_eq_applyTags comment]
      refine hkinds.wellFormed_applyTags (wellFormed_described fun line hline => ?_) _
      exact Comment.content_of_mem_contentLines ((List.takeWhile_prefix _).subset hline)
    rw [ne_eq, Record.lines_eq_nil_iff hwell.deprecated_iff, ← Record.isEmpty_iff, hset]
    exact Bool.false_ne_true
  · rw [Record.pretty, if_neg (by simp [hset])]

/-- Tags that are silent, one of them with an empty line after `null`, and a tag alone that sets an
empty text. -/
theorem parse_isEmpty_iff_inert :
    let silent := ["", "@global $db", "@access Friend", "@return null", ""]
    builtin.BindsKinds builtinKind ∧
      (builtin.parse (Comment.canonical silent)).isEmpty = true ∧
      (builtin.parse (Comment.canonical ["@author"])).isEmpty = false := by
  intro silent
  have hread (lines : List String) (hlines : ∀ line ∈ lines, Comment.Content line) :
      Comment.contentLines (Comment.canonical lines) = lines :=
    (Comment.layout_canonical lines).contentLines_eq hlines
  have hglobal : builtinKind "global" = .global := by decide
  have haccess : builtinKind "access" = .access := by decide
  have hreturn : builtinKind "return" = .returnValue := by decide
  have hauthor : builtinKind "author" = .author := by decide
  refine ⟨bindsKinds_builtin, ?_, ?_⟩
  · obtain ⟨runs, hcut, hempty, -⟩ :=
      parse_isEmpty_iff builtin builtinKind bindsKinds_builtin (Comment.canonical silent)
    rw [hread silent (by decide)] at hcut hempty
    have hruns : runs = [⟨"global", ["$db"]⟩, ⟨"access", ["Friend"]⟩, ⟨"return", ["null", ""]⟩] :=
      hcut.eq_runs.trans (by decide +kernel)
    refine hempty.2 ⟨by decide +kernel, ?_⟩
    simp only [hruns, List.forall_mem_cons, hglobal, haccess, hreturn, TagKind.Silent]
    exact ⟨trivial, by simp, ⟨"\n", by decide, by decide⟩, by simp⟩
  · obtain ⟨runs, hcut, hempty, -⟩ :=
      parse_isEmpty_iff builtin builtinKind bindsKinds_builtin (Comment.canonical ["@author"])
    rw [hread ["@author"] (by decide)] at hcut hempty
    have hruns : runs = [⟨"author", [""]⟩] := hcut.eq_runs.trans (by decide +kernel)
    rw [← Bool.not_eq_true, hempty]
    simp [hruns, hauthor, TagKind.Silent]

end Registry

end ClassDocs
