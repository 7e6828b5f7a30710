import ClassDocs.Proofs.Flattening
import ClassDocs.Proofs.SourceLines

/-!
# Line numbers at the end of their range

A method can be said to be written at any two line numbers that are words. Whether there is room
between them is asked with the number behind the first one, which is no word after the last number
there is. For a method that opens there and closes elsewhere the program ends, although there is no
room between the lines and the body is empty. For every other method all sums and differences stay
in range, and the body is the one that natural numbers give.

## Main definitions

* `Location.Overflows`: locations for which the number behind the first line is asked for and is no
  word.
* `Location.Narrow`: locations without a line between their two lines.

## Main results

* `Method.code_eq_overflow_iff`: where the arithmetic leaves its range.
* `Method.code_of_not_narrow`: the body of a method with lines between its two lines.
* `code_in_range`: where the arithmetic stays in range, and what follows.
-/

namespace ClassDocs

variable {first last : UInt64}

namespace Location

variable {location : Location}

/-- The number behind the first line is asked for, and it is no word. -/
def Overflows (location : Location) : Prop :=
  location.startLine.toNat + 1 = UInt64.size ∧ location.endLine ≠ location.startLine

instance (location : Location) : Decidable location.Overflows :=
  inferInstanceAs (Decidable (_ ∧ _))

/-- No line stands strictly between the two lines of a location. -/
def Narrow (location : Location) : Prop :=
  ¬ ∃ line : Nat, location.startLine.toNat < line ∧ line < location.endLine.toNat

theorem narrow_iff :
    location.Narrow ↔ location.endLine.toNat ≤ location.startLine.toNat + 1 := by
  constructor
  · intro h
    by_contra hwide
    exact h ⟨location.startLine.toNat + 1, by omega, by omega⟩
  · rintro hle ⟨line, hfirst, hlast⟩
    omega

/-- Lines that differ leave room for the next number, unless it leaves the range. -/
theorem next_lt (hrange : ¬ location.Overflows) (hne : location.startLine ≠ location.endLine) :
    location.startLine.toNat + 1 < UInt64.size :=
  lt_of_le_of_ne location.startLine.toNat_lt fun hlast => hrange ⟨hlast, hne.symm⟩

/-- No line number is greater than the last one there is. -/
theorem Overflows.narrow (h : location.Overflows) : location.Narrow := by
  rw [narrow_iff, h.1]
  exact location.endLine.toNat_lt.le

end Location

/-- After the last number there is no lines are cut out, whatever the files are. -/
theorem FileTree.sliceLines_of_last (hlast : first.toNat + 1 = UInt64.size) (tree : FileTree)
    (path : String) : tree.sliceLines path first last = .error .overflow := by
  rw [sliceLines, checkedAdd_one_of_eq hlast]
  rfl

/-- Where the number behind the first line is a word, the arithmetic stays in range. -/
theorem FileTree.sliceLines_ne_overflow (hnext : first.toNat + 1 < UInt64.size) (tree : FileTree)
    (path : String) : tree.sliceLines path first last ≠ .error .overflow := by
  by_cases hnarrow : last.toNat ≤ first.toNat + 1
  · rw [sliceLines_of_narrow hnext hnarrow]
    exact nofun
  · rw [sliceLines_of_wide (by omega)]
    cases tree.readText path <;> exact nofun

/-! ### Bodies of methods -/

namespace Method

variable {m : Method} {location : Location}

theorem code_of_overflows (h : m.location = some location) (hrange : location.Overflows)
    (tree : FileTree) : m.code tree = .error .overflow := by
  rw [code_of_slice h, if_neg hrange.2.symm, FileTree.sliceLines_of_last hrange.1]
  rfl

/-- The arithmetic leaves its range where the number behind the first line is no word, and nowhere
else. -/
theorem code_eq_overflow_iff (h : m.location = some location) (tree : FileTree) :
    m.code tree = .error .overflow ↔ location.Overflows := by
  refine ⟨fun hcode => ?_, fun hrange => code_of_overflows h hrange tree⟩
  by_contra hrange
  rw [code_of_slice h] at hcode
  split_ifs at hcode with heq
  have hslice : tree.sliceLines location.file location.startLine location.endLine ≠
      .error .overflow :=
    FileTree.sliceLines_ne_overflow (Location.next_lt hrange heq) tree location.file
  cases hlines : tree.sliceLines location.file location.startLine location.endLine with
  | ok lines =>
    rw [hlines] at hcode
    cases hcode
  | error e =>
    rw [hlines] at hcode hslice
    cases hcode
    exact hslice rfl

/-- A body without a line between its lines is empty, unless the arithmetic leaves its range. -/
theorem code_of_narrow_in_range (h : m.location = some location) (hrange : ¬ location.Overflows)
    (hnarrow : location.Narrow) (tree : FileTree) : m.code tree = .ok "" := by
  by_cases heq : location.startLine = location.endLine
  · rw [code_of_slice h, if_pos heq]
  · exact code_of_narrow h (Location.next_lt hrange heq) (Location.narrow_iff.1 hnarrow) tree

/-- A body with lines between its lines is made of these lines, by natural numbers. -/
theorem code_of_not_narrow (h : m.location = some location) (hwide : ¬ location.Narrow)
    (tree : FileTree) :
    m.code tree =
      match tree.readText location.file with
      | .ok text =>
        .ok (dedent (linesBetween text location.startLine.toNat location.endLine.toNat))
      | .error cause => .error (.failure (.source location.file cause)) := by
  rw [Location.narrow_iff, Nat.not_le] at hwide
  rw [code_of_wide h hwide, FileTree.sliceLines_of_wide hwide]
  cases tree.readText location.file <;> rfl

end Method

/-- The arithmetic on line numbers leaves its range, and the program ends, for methods that open at
the last number there is and close elsewhere, and for no others, whatever the files are. These have
no line between their two lines. For all others the body is empty, whatever the files are, when no
line stands between the two, and otherwise made of the lines that natural numbers give. -/
theorem code_in_range (m : Method) (location : Location) (h : m.location = some location) :
    (∀ tree, m.code tree = .error .overflow ↔ location.Overflows) ∧
    (location.Overflows → location.Narrow) ∧
    (¬ location.Overflows → location.Narrow → ∀ tree, m.code tree = .ok "") ∧
    (¬ location.Narrow → ∀ tree, m.code tree =
      match tree.readText location.file with
      | .ok text =>
        .ok (dedent (linesBetween text location.startLine.toNat location.endLine.toNat))
      | .error cause => .error (.failure (.source location.file cause))) :=
  ⟨Method.code_eq_overflow_iff h, Location.Overflows.narrow, Method.code_of_narrow_in_range h,
    Method.code_of_not_narrow h⟩

/-- A method that opens at the last number there is and closes at line three. -/
def jobLoop : MethodEntry :=
  { name := "loop", lines := some (18446744073709551615, 3) }

/-- A class with that method. -/
def jobClass : ClassEntry :=
  { name := "Job", file := some "Job.php", methods := [jobLoop] }

/-- The class alone. -/
def jobs : Manifest :=
  Manifest.empty.put jobClass

theorem snapshot_jobs : jobs.snapshot "Job" = .ok (jobs.snapshotOf jobClass []) :=
  (Manifest.Lineage.of_chainFrom (by decide) (jobs.chainFrom_root _ rfl)).snapshot_eq

theorem get?_methods_jobs :
    (jobs.snapshotOf jobClass []).methods.get? "loop" = some (jobs.method jobClass jobLoop) := by
  rw [Manifest.get?_methods]
  rfl

/-- Where the method is written. -/
def loopLocation : Location :=
  { file := "Job.php", startLine := 18446744073709551615, endLine := 3 }

theorem location_loop : (jobs.method jobClass jobLoop).location = some loopLocation := rfl

theorem code_in_range_job :
    (jobs.method jobClass jobLoop).location = some loopLocation ∧ loopLocation.Overflows ∧
    loopLocation.Narrow ∧
    (∀ tree, (jobs.method jobClass jobLoop).code tree = .error .overflow) ∧
    (∀ tree, jobStop.code tree = .ok "") ∧
    jobRun.code jobFiles = .ok (dedent (linesBetween jobText 2 6)) := by
  have hrange : loopLocation.Overflows := by decide
  obtain ⟨hloop, hloopNarrow, -⟩ := code_in_range _ _ location_loop
  have hstop : (⟨"Job.php", 4, 3⟩ : Location).Narrow := Location.narrow_iff.2 (by decide)
  obtain ⟨-, -, hempty, -⟩ := code_in_range jobStop _ rfl
  obtain ⟨-, -, -, hrun⟩ := code_in_range jobRun ⟨"Job.php", 2, 6⟩ rfl
  refine ⟨location_loop, hrange, hloopNarrow hrange, fun tree => (hloop tree).2 hrange,
    hempty (by decide) hstop, ?_⟩
  rw [hrun (fun h => absurd (Location.narrow_iff.1 h) (by decide)) jobFiles,
    FileTree.readText_eq_ok_iff.2 holdsText_jobFiles]
  rfl

/-- Not every body that a manifest describes is computed within the range of line numbers, and not
every body without a line between its lines is empty. -/
theorem not_forall_code_in_range :
    (¬ ∀ (manifest : Manifest) (name key : String) (s : Snapshot) (m : Method) (tree : FileTree),
      manifest.snapshot name = .ok s → s.methods.get? key = some m →
        m.code tree ≠ .error .overflow) ∧
    ¬ ∀ (manifest : Manifest) (name key : String) (s : Snapshot) (m : Method)
        (location : Location) (tree : FileTree),
      manifest.snapshot name = .ok s → s.methods.get? key = some m →
        m.location = some location → location.Narrow → m.code tree = .ok "" := by
  have hcode : (jobs.method jobClass jobLoop).code {} = .error .overflow :=
    Method.code_of_overflows location_loop (by decide) {}
  constructor
  · intro hall
    exact hall jobs "Job" "loop" _ _ {} snapshot_jobs get?_methods_jobs hcode
  · intro hall
    have hnarrow : loopLocation.Narrow := Location.narrow_iff.2 (by decide)
    have hempty := hall jobs "Job" "loop" _ _ loopLocation {} snapshot_jobs get?_methods_jobs
      location_loop hnarrow
    rw [hcode] at hempty
    cases hempty

end ClassDocs
