import ClassDocs.Class.Source
import ClassDocs.Proofs.TextLines

/-!
# Lines between two lines of a file

Lines are counted from one, and a line ends at a line feed and nowhere else. The body of a method is
made of the lines behind the one that opens it and before the one that closes it. When there is no
room between the two the file is not looked at, so that the answer is the same for every file tree;
otherwise the answer is an error exactly when the file does not hold text. The line numbers are
64-bit words here, and the number behind the first one has to be a word too. Then no difference of
line numbers leaves the range of words either.

## Main definitions

* `FileTree.HoldsText`: a file with its text.
* `Text.lineAt?`: a line by its number.
* `linesBetween`: the lines strictly between two lines, by natural numbers.

## Main results

* `FileTree.readText_eq_ok_iff`: which files can be read.
* `linesBetween_append`: a line between two others parts the lines between them.
* `checkedAdd_one_of_lt`, `checkedSub_count`: sums and differences that stay in range.
* `FileTree.sliceLines_of_holdsText`: the lines that are cut out of a file that holds text.
* `Method.code_of_narrow`, `Method.code_of_wide`: the body of a method.
* `bodies_between_lines`: what is cut out of a file, and the body of a method.
-/

namespace ClassDocs

variable {tree : FileTree} {path text : String} {first last : UInt64}

/-! ### Files that hold text -/

namespace FileTree

/-- A path leads to a file, the bytes of which are the text in UTF-8. -/
def HoldsText (tree : FileTree) (path text : String) : Prop :=
  ∃ content, tree.entry path = .ok (.file content) ∧ String.fromUTF8? content = some text

theorem readText_eq_ok_iff : tree.readText path = .ok text ↔ tree.HoldsText path text := by
  rw [readText, HoldsText]
  cases tree.entry path with
  | error cause => simp [bind, Except.bind]
  | ok entry =>
    cases entry with
    | file content =>
      cases hdecoded : String.fromUTF8? content <;> simp [bind, Except.bind, hdecoded]
    | directory entries => simp [bind, Except.bind]
    | link target => simp [bind, Except.bind]

theorem exists_readText_eq_error_iff :
    (∃ cause, tree.readText path = .error cause) ↔ ¬ ∃ text, tree.HoldsText path text := by
  simp only [← readText_eq_ok_iff]
  cases tree.readText path <;> simp

end FileTree

/-! ### Lines by their numbers -/

/-- The line of a text with a number, counted from one. -/
def Text.lineAt? (text : String) : Nat → Option String
  | 0 => none
  | n + 1 => (lines text)[n]?

/-- The lines of a text strictly between two lines. -/
def linesBetween (text : String) (first last : Nat) : List String :=
  ((Text.lines text).drop first).take (last - first - 1)

theorem length_linesBetween (text : String) (first last : Nat) :
    (linesBetween text first last).length =
      min (last - first - 1) ((Text.lines text).length - first) := by
  rw [linesBetween, List.length_take, List.length_drop]

theorem getElem?_linesBetween {first last i : Nat} (h : i < (linesBetween text first last).length) :
    (linesBetween text first last)[i]? = Text.lineAt? text (first + 1 + i) := by
  rw [length_linesBetween, Nat.lt_min] at h
  rw [linesBetween, List.getElem?_take, if_pos h.1, List.getElem?_drop, Nat.add_right_comm,
    Text.lineAt?]

theorem linesBetween_of_le {first last : Nat} (h : last ≤ first + 1) :
    linesBetween text first last = [] := by
  have hcount : last - first - 1 = 0 := by omega
  rw [linesBetween, hcount, List.take_zero]

/-- A line between two others parts the lines between them. -/
theorem linesBetween_append {first middle last : Nat} (hfirst : first < middle)
    (hlast : middle < last) :
    linesBetween text first last =
      linesBetween text first middle ++ (Text.lineAt? text middle).toList ++
        linesBetween text middle last := by
  obtain ⟨n, rfl⟩ := Nat.exists_eq_add_of_lt hfirst
  have hcount : last - first - 1 = n + (1 + (last - (first + n + 1) - 1)) := by omega
  have hfront : first + n + 1 - first - 1 = n := by omega
  rw [linesBetween, hcount, List.take_add, List.take_add, List.take_one, List.drop_drop,
    List.drop_drop, List.head?_drop, linesBetween, hfront, linesBetween, Text.lineAt?,
    List.append_assoc]

/-! ### Line numbers as words -/

section Words

variable {ε : Type}

theorem checkedAdd_one_of_lt (h : first.toNat + 1 < UInt64.size) :
    (checkedAdd first 1 : Except (Fault ε) UInt64) = .ok (first + 1) := by
  rw [checkedAdd, UInt64.toNat_one, if_pos h]

theorem checkedAdd_one_of_eq (h : first.toNat + 1 = UInt64.size) :
    (checkedAdd first 1 : Except (Fault ε) UInt64) = .error .overflow := by
  rw [checkedAdd, UInt64.toNat_one, h, if_neg (Nat.lt_irrefl _)]

theorem le_next_iff (h : first.toNat + 1 < UInt64.size) :
    last ≤ first + 1 ↔ last.toNat ≤ first.toNat + 1 := by
  have hnext : (first + 1).toNat = first.toNat + 1 := by
    rw [UInt64.toNat_add, UInt64.toNat_one, Nat.mod_eq_of_lt h]
  rw [UInt64.le_iff_toNat_le, hnext]

theorem toNat_span (h : first.toNat ≤ last.toNat) :
    (last - first).toNat = last.toNat - first.toNat :=
  UInt64.toNat_sub_of_le _ _ (UInt64.le_iff_toNat_le.2 h)

theorem toNat_count (h : first.toNat + 1 < last.toNat) :
    (last - first - 1).toNat = last.toNat - first.toNat - 1 := by
  have hspan : (last - first).toNat = last.toNat - first.toNat := toNat_span (by omega)
  have hone : (1 : UInt64) ≤ last - first := by
    rw [UInt64.le_iff_toNat_le, hspan, UInt64.toNat_one]
    omega
  rw [UInt64.toNat_sub_of_le _ _ hone, hspan, UInt64.toNat_one]

/-- The number of lines to cut out is taken only where it is not negative. -/
theorem checkedSub_count (h : first.toNat + 1 < last.toNat) :
    (checkedSub last first : Except (Fault ε) UInt64) = .ok (last - first) ∧
      (checkedSub (last - first) 1 : Except (Fault ε) UInt64) = .ok (last - first - 1) := by
  have hspan : (last - first).toNat = last.toNat - first.toNat := toNat_span (by omega)
  constructor
  · rw [checkedSub, if_pos (by omega)]
  · rw [checkedSub, if_pos (by rw [hspan, UInt64.toNat_one]; omega)]

end Words

namespace FileTree

/-- Where there is no room between two lines, no file is looked at. -/
theorem sliceLines_of_narrow (hnext : first.toNat + 1 < UInt64.size)
    (h : last.toNat ≤ first.toNat + 1) (tree : FileTree) (path : String) :
    tree.sliceLines path first last = .ok [] := by
  rw [sliceLines, checkedAdd_one_of_lt hnext]
  exact if_pos ((le_next_iff hnext).2 h)

theorem sliceLines_of_wide (h : first.toNat + 1 < last.toNat) (tree : FileTree) (path : String) :
    tree.sliceLines path first last =
      match tree.readText path with
      | .ok text => .ok (linesBetween text first.toNat last.toNat)
      | .error cause => .error (.failure (.source path cause)) := by
  have hnext : first.toNat + 1 < UInt64.size := h.trans last.toNat_lt
  obtain ⟨hspan, hcount⟩ := checkedSub_count (ε := ClassError) h
  rw [sliceLines, checkedAdd_one_of_lt hnext]
  refine (if_neg (by rw [le_next_iff hnext]; omega)).trans ?_
  cases tree.readText path with
  | error cause => rfl
  | ok text =>
    simp only [hspan, hcount, bind, Except.bind, linesAfter, toNat_count h, linesBetween]
    rfl

/-- The lines that are cut out of a file that holds text, whether there is room between the two
lines or not. -/
theorem sliceLines_of_holdsText (hnext : first.toNat + 1 < UInt64.size)
    (htext : tree.HoldsText path text) :
    tree.sliceLines path first last = .ok (linesBetween text first.toNat last.toNat) := by
  by_cases h : last.toNat ≤ first.toNat + 1
  · rw [sliceLines_of_narrow hnext h, linesBetween_of_le h]
  · rw [sliceLines_of_wide (by omega), readText_eq_ok_iff.2 htext]

/-- Where there is room between two lines, cutting fails when the file does not hold text. -/
theorem exists_sliceLines_eq_error_iff (h : first.toNat + 1 < last.toNat) :
    (∃ e, tree.sliceLines path first last = .error e) ↔ ¬ ∃ text, tree.HoldsText path text := by
  rw [← exists_readText_eq_error_iff, sliceLines_of_wide h]
  cases tree.readText path <;> simp

theorem sliceLines_of_unreadable (h : first.toNat + 1 < last.toNat) {cause : FileError}
    (hread : tree.readText path = .error cause) :
    tree.sliceLines path first last = .error (.failure (.source path cause)) := by
  rw [sliceLines_of_wide h, hread]

end FileTree

/-! ### Bodies of methods -/

namespace Method

variable {m : Method} {location : Location}

theorem code_of_unknown (h : m.location = none) (tree : FileTree) : m.code tree = .ok "" := by
  rw [code, h]

/-- Bodies on one line are found before the lines are cut out, and these are found to be empty
otherwise. -/
theorem code_of_slice (h : m.location = some location) (tree : FileTree) :
    m.code tree =
      if location.startLine = location.endLine then .ok ""
      else (tree.sliceLines location.file location.startLine location.endLine).map dedent := by
  rw [code, h]

theorem code_of_narrow (h : m.location = some location)
    (hnext : location.startLine.toNat + 1 < UInt64.size)
    (hnarrow : location.endLine.toNat ≤ location.startLine.toNat + 1) (tree : FileTree) :
    m.code tree = .ok "" := by
  rw [code_of_slice h, FileTree.sliceLines_of_narrow hnext hnarrow]
  exact ite_self _

theorem code_of_wide (h : m.location = some location)
    (hwide : location.startLine.toNat + 1 < location.endLine.toNat) (tree : FileTree) :
    m.code tree =
      (tree.sliceLines location.file location.startLine location.endLine).map dedent := by
  have hne : location.startLine ≠ location.endLine := by
    intro heq
    rw [heq] at hwide
    omega
  rw [code_of_slice h, if_neg hne]

end Method

/-- What is cut out of a file when the number behind the first line is a word. Without room between
the two lines it is nothing, whatever the files are. Otherwise there is the error of the file when
it does not hold text, and else the lines behind the first one, in their order and as many as there
is room for; a line between the two parts what is cut out. The body of a method is empty, whatever
the files are, when nothing is known of where it is written or there is no room between its lines,
and what is cut out without its shared indentation otherwise. -/
theorem bodies_between_lines :
    (∀ (path : String) (first last : UInt64), first.toNat + 1 < UInt64.size →
      (last.toNat ≤ first.toNat + 1 →
        ∀ tree : FileTree, tree.sliceLines path first last = .ok []) ∧
      (first.toNat + 1 < last.toNat → ∀ tree : FileTree,
        ((∃ e, tree.sliceLines path first last = .error e) ↔
          ¬ ∃ text, tree.HoldsText path text) ∧
        (∀ cause, tree.readText path = .error cause →
          tree.sliceLines path first last = .error (.failure (.source path cause))) ∧
        ∀ text, tree.HoldsText path text → ∃ found,
          tree.sliceLines path first last = .ok found ∧
          found.length =
            min (last.toNat - first.toNat - 1) ((Text.lines text).length - first.toNat) ∧
          ∀ i < found.length, found[i]? = Text.lineAt? text (first.toNat + 1 + i)) ∧
      ∀ (tree : FileTree) (text : String) (middle : UInt64), tree.HoldsText path text →
        first < middle → middle < last → ∃ front back,
          tree.sliceLines path first middle = .ok front ∧
          tree.sliceLines path middle last = .ok back ∧
          tree.sliceLines path first last =
            .ok (front ++ (Text.lineAt? text middle.toNat).toList ++ back)) ∧
    ∀ m : Method,
      (m.location = none → ∀ tree, m.code tree = .ok "") ∧
      ∀ location, m.location = some location →
        (location.startLine.toNat + 1 < UInt64.size →
          location.endLine.toNat ≤ location.startLine.toNat + 1 →
          ∀ tree, m.code tree = .ok "") ∧
        (location.startLine.toNat + 1 < location.endLine.toNat → ∀ tree,
          m.code tree =
            (tree.sliceLines location.file location.startLine location.endLine).map dedent) := by
  constructor
  · intro path first last hnext
    refine ⟨fun h tree => FileTree.sliceLines_of_narrow hnext h tree path, fun h tree => ?_, ?_⟩
    · refine ⟨FileTree.exists_sliceLines_eq_error_iff h,
        fun cause => FileTree.sliceLines_of_unreadable h, fun text htext => ?_⟩
      exact ⟨_, FileTree.sliceLines_of_holdsText hnext htext, length_linesBetween _ _ _,
        fun i hi => getElem?_linesBetween hi⟩
    · intro tree text middle htext hfirst hlast
      rw [UInt64.lt_iff_toNat_lt] at hfirst hlast
      have hmiddle : middle.toNat + 1 < UInt64.size :=
        (Nat.succ_le_of_lt hlast).trans_lt last.toNat_lt
      refine ⟨_, _, FileTree.sliceLines_of_holdsText hnext htext,
        FileTree.sliceLines_of_holdsText hmiddle htext, ?_⟩
      rw [FileTree.sliceLines_of_holdsText hnext htext, linesBetween_append hfirst hlast]
  · intro m
    exact ⟨Method.code_of_unknown, fun location h =>
      ⟨fun hnext hnarrow => Method.code_of_narrow h hnext hnarrow, Method.code_of_wide h⟩⟩

/-- The text of a sample file. -/
def jobText : String :=
  "class Job\n  run\n    a;\n    b;\n    c;\n  end\nend"

/-- A tree with that file alone. -/
def jobFiles : FileTree :=
  { entries := [("Job.php", .file jobText.toUTF8)] }

theorem holdsText_jobFiles : jobFiles.HoldsText "Job.php" jobText :=
  ⟨jobText.toUTF8, rfl, dif_pos jobText.isValidUTF8⟩

/-- A method with lines between the one that opens it and the one that closes it. -/
def jobRun : Method :=
  { name := "run", declaringClass := "Job", location := some ⟨"Job.php", 2, 6⟩ }

/-- A method without room between its lines. -/
def jobStop : Method :=
  { name := "stop", declaringClass := "Job", location := some ⟨"Job.php", 4, 3⟩ }

/-- A method of which the lines are not known. -/
def jobWait : Method :=
  { name := "wait", declaringClass := "Job" }

theorem bodies_between_lines_job :
    (∀ tree : FileTree, tree.sliceLines "Job.php" 4 5 = .ok []) ∧
    (¬ ∃ e, jobFiles.sliceLines "Job.php" 2 6 = .error e) ∧
    (∃ found, jobFiles.sliceLines "Job.php" 2 6 = .ok found ∧ found.length = 3 ∧
      ∀ i < found.length, found[i]? = Text.lineAt? jobText (2 + 1 + i)) ∧
    (∃ front back, jobFiles.sliceLines "Job.php" 2 4 = .ok front ∧
      jobFiles.sliceLines "Job.php" 4 6 = .ok back ∧
      jobFiles.sliceLines "Job.php" 2 6 =
        .ok (front ++ (Text.lineAt? jobText 4).toList ++ back)) ∧
    (∀ tree, jobWait.code tree = .ok "") ∧ (∀ tree, jobStop.code tree = .ok "") ∧
    jobRun.code jobFiles = (jobFiles.sliceLines "Job.php" 2 6).map dedent := by
  obtain ⟨hslices, hbodies⟩ := bodies_between_lines
  obtain ⟨hnarrow, -, -⟩ := hslices "Job.php" 4 5 (by decide)
  obtain ⟨-, hwide, hparts⟩ := hslices "Job.php" 2 6 (by decide)
  obtain ⟨hfails, -, hfound⟩ := hwide (by decide) jobFiles
  refine ⟨hnarrow (by decide), fun h => hfails.1 h ⟨_, holdsText_jobFiles⟩, ?_,
    hparts jobFiles jobText 4 holdsText_jobFiles (by decide) (by decide),
    (hbodies jobWait).1 rfl, ((hbodies jobStop).2 _ rfl).1 (by decide) (by decide),
    ((hbodies jobRun).2 _ rfl).2 (by decide) jobFiles⟩
  obtain ⟨found, hslice, hlength, hlines⟩ := hfound jobText holdsText_jobFiles
  exact ⟨found, hslice, hlength.trans (by decide +kernel), hlines⟩

end ClassDocs
