import ClassDocs.Doc.Registry
import Mathlib.Data.List.TakeWhile

/-!
# Runs of tag lines

A list of lines is cut into runs: each starts at a line that opens a tag and goes on up to the next
such line. `Registry.Cut` says so without mentioning how lines are read, `Registry.runs` computes
the cut, and reading lines one by one with an open run (`Registry.applyTags`) hands over exactly
the runs of that cut, in their order.

## Main definitions

* `Registry.continues`: lines that open no tag.
* `Registry.Opens`: a line with the tag that it opens and what it says after it.
* `Registry.Cut`: the relation between lines and their runs.
* `Registry.runs`: the runs of a list of lines.
* `Registry.Run.source`: the lines of a run with the tag put back.

## Main results

* `Registry.applyTags_eq_foldl_runs`: reading lines hands over their runs.
* `Registry.cut_runs`, `Registry.Cut.eq_runs`: the runs are the only cut of the lines.
* `Registry.Cut.flatMap_source`: the runs of trimmed lines give the lines back.
-/

namespace ClassDocs.Registry

variable {reg : Registry} {line tag text : String} {lines : List String} {cut : List Run}

/-- Whether a line opens no tag. -/
def continues (reg : Registry) (line : String) : Bool :=
  (reg.classify line).isNone

theorem continues_iff : reg.continues line = true ↔ reg.classify line = none :=
  Option.isNone_iff_eq_none

theorem continues_of_classify (h : reg.classify line = some tag) : reg.continues line = false := by
  rw [continues, h]
  rfl

/-! ### Lines that open a tag -/

/-- A line that opens `tag` and says `text` after it: the marker and the name alone, or these with
one space and the text. -/
def Opens (reg : Registry) (line tag text : String) : Prop :=
  reg.classify line = some tag ∧
    (line = "@" ++ tag ∧ text = "" ∨ line = "@" ++ tag ++ " " ++ text)

/-- An offered name stands between the marker and the end of the line or its first space. -/
theorem candidate?_eq_some (h : candidate? line = some tag) :
    line.toList = '@' :: tag.toList ∨ ∃ rest, line.toList = '@' :: (tag.toList ++ ' ' :: rest) := by
  unfold candidate? at h
  split at h
  · rename_i rest hline
    simp only at h
    split_ifs at h
    obtain rfl := Option.some.inj h
    rw [String.toList_ofList, hline]
    have hcut := List.takeWhile_append_dropWhile (p := (· != ' ')) (l := rest)
    cases hrest : rest.dropWhile (· != ' ') with
    | nil =>
      rw [hrest, List.append_nil] at hcut
      exact .inl (by rw [hcut])
    | cons c more =>
      have hc := List.head?_dropWhile_not (· != ' ') rest
      rw [hrest] at hc hcut
      obtain rfl : c = ' ' := by simpa using hc
      exact .inr ⟨more, by rw [hcut]⟩
  · simp at h

theorem candidate?_of_classify (h : reg.classify line = some tag) : candidate? line = some tag :=
  (Option.filter_eq_some_iff.1 h).1

/-- The tag of a line that opens one is registered. -/
theorem exists_handler_of_classify (h : reg.classify line = some tag) :
    ∃ handler, reg.find? tag = some handler :=
  Option.isSome_iff_exists.1 (Option.filter_eq_some_iff.1 h).2

theorem classify_empty : reg.classify "" = none := rfl

theorem textAfter_of_bare (h : line.toList = '@' :: tag.toList) : textAfter tag line = "" := by
  simp [textAfter, h, ← String.length_toList]

theorem textAfter_of_space {rest : List Char}
    (h : line.toList = '@' :: (tag.toList ++ ' ' :: rest)) :
    textAfter tag line = String.ofList rest := by
  rw [textAfter, h, ← String.length_toList, List.drop_succ_cons,
    ← List.singleton_append, ← List.append_assoc]
  exact congrArg String.ofList (List.drop_left' (by simp))

theorem opens_textAfter (h : reg.classify line = some tag) :
    reg.Opens line tag (textAfter tag line) := by
  refine ⟨h, ?_⟩
  rcases candidate?_eq_some (candidate?_of_classify h) with hline | ⟨rest, hline⟩
  · refine .inl ⟨String.toList_injective (by simp [hline]), ?_⟩
    exact textAfter_of_bare hline
  · refine .inr (String.toList_injective ?_)
    rw [textAfter_of_space hline]
    simp [hline]

/-- What a line says after its tag is determined by the line. -/
theorem Opens.text_eq (h : reg.Opens line tag text) : text = textAfter tag line := by
  obtain ⟨-, ⟨rfl, rfl⟩ | rfl⟩ := h
  · exact (textAfter_of_bare (by simp)).symm
  · have hline :
        ("@" ++ tag ++ " " ++ text).toList = '@' :: (tag.toList ++ ' ' :: text.toList) := by
      simp
    rw [textAfter_of_space hline, String.ofList_toList]

/-! ### Cutting lines into runs -/

/-- The lines are the runs, one after the other, each starting at the line that opens its tag. -/
inductive Cut (reg : Registry) : List String → List Run → Prop
  | nil : Cut reg [] []
  | run {line tag text : String} {body rest : List String} {cut : List Run}
      (opens : reg.Opens line tag text) (continued : ∀ l ∈ body, reg.classify l = none)
      (later : Cut reg rest cut) :
      Cut reg (line :: (body ++ rest)) (⟨tag, text :: body⟩ :: cut)

/-- The runs of a list of lines. Lines before the first tag belong to none. -/
def runs (reg : Registry) : List String → List Run
  | [] => []
  | line :: rest =>
    match reg.classify line with
    | some tag => ⟨tag, textAfter tag line :: rest.takeWhile reg.continues⟩ :: runs reg rest
    | none => runs reg rest

theorem runs_cons_of_classify (h : reg.classify line = some tag) (rest : List String) :
    reg.runs (line :: rest) =
      ⟨tag, textAfter tag line :: rest.takeWhile reg.continues⟩ :: reg.runs rest := by
  rw [runs, h]

theorem runs_cons_of_continues (h : reg.classify line = none) (rest : List String) :
    reg.runs (line :: rest) = reg.runs rest := by
  rw [runs, h]

/-- Lines that open no tag add no run in front of others. -/
theorem runs_append_of_continues {body : List String} (h : ∀ l ∈ body, reg.classify l = none)
    (rest : List String) : reg.runs (body ++ rest) = reg.runs rest := by
  induction body with
  | nil => rfl
  | cons line body ih =>
    rw [List.cons_append, runs_cons_of_continues (h line List.mem_cons_self)]
    exact ih fun l hl => h l (List.mem_cons_of_mem _ hl)

theorem cut_runs (reg : Registry) (lines : List String) :
    reg.Cut (lines.dropWhile reg.continues) (reg.runs lines) := by
  induction lines with
  | nil => exact .nil
  | cons line rest ih =>
    cases h : reg.classify line with
    | none =>
      rw [runs_cons_of_continues h, List.dropWhile_cons_of_pos (continues_iff.2 h)]
      exact ih
    | some tag =>
      rw [runs_cons_of_classify h,
        List.dropWhile_cons_of_neg (by simp [continues_of_classify h])]
      have hbody : ∀ l ∈ rest.takeWhile reg.continues, reg.classify l = none := fun l hl =>
        continues_iff.1 (List.mem_takeWhile_imp hl)
      have hcut := Cut.run (opens_textAfter h) hbody ih
      rwa [List.takeWhile_append_dropWhile] at hcut

/-- Lines that have a cut are empty or start at a line that opens a tag. -/
theorem Cut.takeWhile_continues (h : reg.Cut lines cut) : lines.takeWhile reg.continues = [] := by
  cases h with
  | nil => rfl
  | run opens => exact List.takeWhile_cons_of_neg (by simp [continues_of_classify opens.1])

/-- There is no other cut of the lines than their runs. -/
theorem Cut.eq_runs (h : reg.Cut lines cut) : cut = reg.runs lines := by
  induction h with
  | nil => rfl
  | run opens continued later ih =>
    rw [runs_cons_of_classify opens.1, runs_append_of_continues continued, ← ih,
      List.takeWhile_append_of_pos fun l hl => continues_iff.2 (continued l hl),
      later.takeWhile_continues, List.append_nil, opens.text_eq]

/-- Each run of a cut goes to the handler that is registered for its tag. -/
theorem Cut.exists_handler (h : reg.Cut lines cut) :
    ∀ run ∈ cut, ∃ handler, reg.find? run.tag = some handler ∧
      ∀ r, reg.dispatch r run = handler.apply r run.lines := by
  induction h with
  | nil => simp
  | run opens continued later ih =>
    intro run hrun
    rcases List.mem_cons.1 hrun with rfl | hrun
    · obtain ⟨handler, hfind⟩ := exists_handler_of_classify opens.1
      exact ⟨handler, hfind, fun r => by simp only [dispatch, hfind]⟩
    · exact ih run hrun

/-! ### Putting the tags back -/

/-- A first line with its tag put back. A space stands before a text only. -/
def Run.reopened (tag text : String) : String :=
  if text = "" then "@" ++ tag else "@" ++ tag ++ " " ++ text

/-- The lines of a run with its tag put back. -/
def Run.source (run : Run) : List String :=
  match run.lines with
  | [] => []
  | first :: rest => Run.reopened run.tag first :: rest

/-- A line that does not end in a space is its tag put back in front of its text. -/
theorem Opens.reopened_eq (h : reg.Opens line tag text) (hend : line.toList.getLast? ≠ some ' ') :
    Run.reopened tag text = line := by
  obtain ⟨-, ⟨rfl, rfl⟩ | rfl⟩ := h
  · rfl
  · have htext : text ≠ "" := by
      rintro rfl
      exact hend (by simp [List.getLast?_cons, List.getLast?_append])
    rw [Run.reopened, if_neg htext]

/-- The runs of lines that do not end in a space give the lines back. -/
theorem Cut.flatMap_source (h : reg.Cut lines cut)
    (hend : ∀ l ∈ lines, l.toList.getLast? ≠ some ' ') : cut.flatMap Run.source = lines := by
  induction h with
  | nil => rfl
  | run opens continued later ih =>
    have hlater := ih fun l hl => hend l (by simp [hl])
    have hfirst := opens.reopened_eq (hend _ List.mem_cons_self)
    simp only [List.flatMap_cons, hlater, Run.source, hfirst, List.cons_append]

/-! ### Reading lines one by one -/

/-- A record with an open run that has more lines. -/
def Progress.extend (p : Progress) (lines : List String) : Progress :=
  { p with current := p.current.map fun run => { run with lines := run.lines ++ lines } }

@[simp] theorem Progress.extend_nil (p : Progress) : p.extend [] = p := by
  cases p with
  | mk record current => cases current <;> simp [extend]

theorem Progress.extend_extend (p : Progress) (xs ys : List String) :
    (p.extend xs).extend ys = p.extend (xs ++ ys) := by
  cases p with
  | mk record current => cases current <;> simp [extend]

theorem Progress.read_of_continues (h : reg.classify line = none) (p : Progress) :
    p.read reg line = p.extend [line] := by
  rw [read, h]
  rfl

theorem Progress.read_of_classify (h : reg.classify line = some tag) (p : Progress) :
    p.read reg line = { record := p.close reg, current := some ⟨tag, [textAfter tag line]⟩ } := by
  rw [read, h]

/-- Reading lines completes the open run by the lines up to the first tag, then hands over the runs
of the lines. The open run is what the induction carries along. -/
theorem Progress.close_foldl_read (reg : Registry) (lines : List String) (p : Progress) :
    (lines.foldl (Progress.read reg) p).close reg =
      (reg.runs lines).foldl reg.dispatch
        ((p.extend (lines.takeWhile reg.continues)).close reg) := by
  induction lines generalizing p with
  | nil => simp [runs]
  | cons line rest ih =>
    rw [List.foldl_cons, ih]
    cases h : reg.classify line with
    | none =>
      rw [read_of_continues h, runs_cons_of_continues h, extend_extend,
        List.takeWhile_cons_of_pos (continues_iff.2 h), List.singleton_append]
    | some tag =>
      rw [read_of_classify h, runs_cons_of_classify h, List.foldl_cons,
        List.takeWhile_cons_of_neg (by simp [continues_of_classify h]), extend_nil]
      rfl

/-- Reading lines hands over their runs, in their order. -/
theorem applyTags_eq_foldl_runs (reg : Registry) (r : Record) (lines : List String) :
    reg.applyTags r lines = (reg.runs lines).foldl reg.dispatch r :=
  Progress.close_foldl_read reg lines { record := r }

end ClassDocs.Registry
