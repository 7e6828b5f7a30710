import ClassDocs.Proofs.InterfaceMethods
import ClassDocs.Proofs.SharedMethods
import ClassDocs.Proofs.ViewCells
import Mathlib.Data.List.Nodup

/-!
# Two reports on one class

A class report lists the methods of a class by name, and an inheritance report lists them by the
ancestor that owns them. The first reads the methods of the class off its snapshot, the second takes
them from the buckets of the ancestors and looks their interfaces up by name. Both tell the same:
the ancestors share out the methods of the class, and none is lost or listed twice on the way.

## Main definitions

* `MethodReport.owned`: what an inheritance report tells of a method.
* `View.inheritanceWith`: the inheritance report of a view, given interfaces and ownership.
* `ReportsAgree`: two reports that tell the same about the methods of a class.

## Main results

* `View.exists_methodInterfaces`, `View.exists_classReport`: when there are reports on a class.
* `View.reports_agree`: the two reports on a class agree.
-/

namespace ClassDocs

/-! ### Owners of methods -/

namespace Ownership

variable {snapshot : Snapshot} {parents : List String}

/-- A method whose declaring class has a bucket is owned by that class. -/
theorem claimant_eq_declaringClass {a : Method}
    (h : a.declaringClass ∈ (resolve snapshot parents).buckets.map (·.owner)) :
    claimant snapshot.name parents a = a.declaringClass := by
  rw [map_owner_buckets, List.mem_append, List.mem_reverse, List.mem_singleton] at h
  rw [claimant]
  split_ifs with hparent
  · rfl
  · exact (h.resolve_left hparent).symm

end Ownership

/-- The ownership of a class that was found is that along its lineage. -/
theorem Manifest.Lineage.ownership_eq {m : Manifest} {name : String} {entry : ClassEntry}
    {chain : List ClassEntry} (h : m.Lineage name entry chain) {view : View}
    (hmanifest : view.manifest = m) (hsnapshot : view.snapshot = m.snapshotOf entry chain) :
    view.ownership = .ok (.resolve view.snapshot (chain.map (·.name))) := by
  have hname : view.name = name := by
    rw [View.name, hsnapshot, h.snapshotOf_name]
  rw [View.ownership, hmanifest, hname, h.parentChain_eq]
  rfl

/-- What an inheritance report tells of a method. -/
def MethodReport.owned (m : MethodReport) : OwnedMethod :=
  ⟨m.name, m.interface⟩

/-- A class report and an inheritance report on a class of this name tell the same. -/
structure ReportsAgree (name : String) (report : ClassReport) (inheritance : InheritanceReport) :
    Prop where
  /-- Methods are reported in strictly increasing order of their names. -/
  increasing : report.methods.Pairwise fun a b => a.name < b.name
  /-- The methods of the ancestors, one ancestor after the other, are the methods of the class in
  some order, each with the same interface. -/
  perm : (inheritance.ancestors.flatMap (·.methods)).Perm (report.methods.map (·.owned))
  /-- No name comes twice among them. -/
  nodup_names : ((inheritance.ancestors.flatMap (·.methods)).map (·.name)).Nodup
  /-- The last ancestor is the class itself. -/
  last_owner : inheritance.ancestors.getLast?.map (·.owner) = some name
  /-- A method that is not inherited is listed under the class. -/
  own : ∀ m ∈ report.methods, m.inherited = false →
    ∃ a ∈ inheritance.ancestors.getLast?, m.owned ∈ a.methods
  /-- A method that an ancestor declares is listed under that ancestor and no other. -/
  declared : ∀ m ∈ report.methods, ∀ a ∈ inheritance.ancestors, a.owner = m.declaredIn →
    ∀ b ∈ inheritance.ancestors, (∃ o ∈ b.methods, o.name = m.name) ↔ b = a

namespace View

variable {view : View} {interfaces bodies : SortedMap String} {ownership : Ownership}

/-- An ancestor with the methods of its bucket. -/
def ancestorReport (interfaces : SortedMap String) (bucket : Bucket) : AncestorReport where
  owner := bucket.owner
  methods := bucket.methods.keys.map fun name => ⟨name, interfaces.get? name⟩

/-- The report of who owns the methods of a class, given the interfaces and the ownership. -/
def inheritanceWith (view : View) (interfaces : SortedMap String) (ownership : Ownership) :
    InheritanceReport where
  name := view.name
  ancestors := ownership.buckets.map (ancestorReport interfaces)

theorem getLast?_inheritanceWith (view : View) (interfaces : SortedMap String)
    (ownership : Ownership) :
    (view.inheritanceWith interfaces ownership).ancestors.getLast? =
      some (ancestorReport interfaces ownership.own) := by
  simp [inheritanceWith, Ownership.buckets]

theorem inheritanceReport_eq_ok {inheritance : InheritanceReport}
    (h : view.inheritanceReport = .ok inheritance) :
    ∃ interfaces ownership, view.methodInterfaces = .ok interfaces ∧
      view.ownership = .ok ownership ∧ inheritance = view.inheritanceWith interfaces ownership := by
  rw [inheritanceReport] at h
  cases hinterfaces : view.methodInterfaces with
  | error e =>
    rw [hinterfaces] at h
    cases h
  | ok interfaces =>
    cases hownership : view.ownership with
    | error e =>
      rw [hinterfaces, hownership] at h
      cases h
    | ok ownership =>
      rw [hinterfaces, hownership] at h
      exact ⟨interfaces, ownership, rfl, rfl, (Except.ok.inj h).symm⟩

theorem classReport_eq_ok (hsound : view.Sound) {tree : FileTree} {next : View}
    {report : ClassReport} (h : view.classReport tree = (next, .ok report)) :
    ∃ interfaces bodies, view.methodInterfaces = .ok interfaces ∧
      report = view.reportWith interfaces bodies := by
  obtain ⟨_, _, _, bodies, result, heq, -, hcases⟩ := hsound.classReport_cases tree
  have hresult : result = .ok report := by
    rw [heq] at h
    exact congrArg Prod.snd h
  rcases hcases with ⟨e, -, -, herror⟩ | ⟨interfaces, hinterfaces, -, hok⟩ | ⟨e, -, herror⟩
  · cases hresult.symm.trans herror
  · exact ⟨interfaces, bodies, hinterfaces, Except.ok.inj (hresult.symm.trans hok)⟩
  · cases hresult.symm.trans herror

/-! ### Reports that there are -/

/-- Every method is attributed when the interfaces that are not found are not known. -/
theorem exists_methodInterfaces
    (h : ∀ i ∈ view.snapshot.interfaces, ∀ e, view.manifest.snapshot i = .error e →
      ∃ x, e = .unknownClass x) :
    ∃ interfaces, view.methodInterfaces = .ok interfaces := by
  rw [methodInterfaces]
  generalize SortedMap.empty = kept
  induction view.methods generalizing kept with
  | nil => exact ⟨kept, rfl⟩
  | cons m rest ih =>
    have hfound : ∃ found, view.methodInterface m.name = .ok found :=
      Manifest.exists_firstDeclaring h
    obtain ⟨found, hfound⟩ := hfound
    rw [List.foldlM_cons, hfound]
    cases found with
    | none => exact ih kept
    | some interface => exact ih (kept.insert m.name interface)

/-- There is a class report when the methods are attributed and all bodies can be read. -/
theorem exists_classReport (hsound : view.Sound) {tree : FileTree}
    (hinterfaces : view.methodInterfaces = .ok interfaces)
    (hcode : ∀ m ∈ view.methods, ∃ body, m.code tree = .ok body) :
    ∃ next bodies, view.classReport tree = (next, .ok (view.reportWith interfaces bodies)) := by
  obtain ⟨_, _, _, bodies, result, heq, -, hcases⟩ := hsound.classReport_cases tree
  rcases hcases with ⟨e, herror, -, -⟩ | ⟨others, hothers, -, rfl⟩ | ⟨e, hstops, -⟩
  · cases hinterfaces.symm.trans herror
  · obtain rfl := Except.ok.inj (hinterfaces.symm.trans hothers)
    exact ⟨_, bodies, heq⟩
  · obtain ⟨read, failed, rest, hmethods, -, hfailed⟩ := hstops
    obtain ⟨body, hbody⟩ := hcode failed (by simp [hmethods])
    cases hbody.symm.trans (bodyIn_eq_error_iff.1 hfailed).2

theorem inheritanceReport_of_ok (hinterfaces : view.methodInterfaces = .ok interfaces)
    (hownership : view.ownership = .ok ownership) :
    view.inheritanceReport = .ok (view.inheritanceWith interfaces ownership) := by
  rw [inheritanceReport, hinterfaces, hownership]
  rfl

/-! ### The same methods -/

/-- What an inheritance report tells of the methods in a class report is told under their names. -/
theorem Sound.map_owned (h : view.Sound) (interfaces bodies : SortedMap String) :
    (view.methodReportsWith interfaces bodies view.methods).map (·.owned) =
      view.snapshot.methods.entries.map fun e => ⟨e.1, interfaces.get? e.1⟩ := by
  rw [methodReportsWith, methods, SortedMap.values, List.map_map, List.map_map]
  refine List.map_congr_left fun e he => ?_
  have hname : e.2.name = e.1 := h.method_name e.1 e.2 (SortedMap.get?_eq_some_iff.2 he)
  simp only [Function.comp_apply, MethodReport.owned, methodReport, hname]

theorem flatMap_ancestorReport (interfaces : SortedMap String) (buckets : List Bucket) :
    ((buckets.map (ancestorReport interfaces)).flatMap (·.methods)) =
      (buckets.flatMap (·.methods.entries)).map fun e => ⟨e.1, interfaces.get? e.1⟩ := by
  induction buckets with
  | nil => rfl
  | cons bucket rest ih =>
    rw [List.map_cons, List.flatMap_cons, ih, List.flatMap_cons, List.map_append]
    congr 1
    simp only [ancestorReport, SortedMap.keys, List.map_map, Function.comp_def]

theorem exists_name_ancestorReport_iff {bucket : Bucket} {key : String} :
    (∃ o ∈ (ancestorReport interfaces bucket).methods, o.name = key) ↔
      bucket.methods.contains key = true := by
  rw [SortedMap.contains_iff, ← SortedMap.mem_keys_iff]
  simp [ancestorReport]

theorem mem_ancestorReport {bucket : Bucket} {key : String}
    (h : bucket.methods.contains key = true) :
    ⟨key, interfaces.get? key⟩ ∈ (ancestorReport interfaces bucket).methods :=
  List.mem_map_of_mem (SortedMap.mem_keys_iff.2 (SortedMap.contains_iff.1 h))

/-! ### Agreement -/

/-- Reports made from the same snapshot and the same interfaces agree, provided that the ancestors
are distinct from one another and from the class. -/
theorem Sound.agree (h : view.Sound) {parents : List String}
    (hnodup : (view.name :: parents).Nodup) (interfaces bodies : SortedMap String) :
    ReportsAgree view.name (view.reportWith interfaces bodies)
      (view.inheritanceWith interfaces (.resolve view.snapshot parents)) where
  increasing := List.pairwise_map.2 h.pairwise_methods
  perm := by
    rw [reportWith, h.map_owned, inheritanceWith, flatMap_ancestorReport]
    exact (Ownership.perm_buckets view.snapshot parents).map _
  nodup_names := by
    rw [inheritanceWith, flatMap_ancestorReport, List.map_map]
    exact ((Ownership.perm_buckets view.snapshot parents).map Prod.fst).nodup_iff.2
      view.snapshot.methods.nodup_keys
  last_owner := by
    rw [getLast?_inheritanceWith]
    rfl
  own := by
    intro m hm hinherited
    obtain ⟨info, hinfo, rfl⟩ := List.mem_map.1 hm
    have hdeclaring : info.declaringClass = view.name := by
      simpa [methodReport, isInherited, isDeclaredIn] using hinherited
    have hmem : (Ownership.resolve view.snapshot parents).own ∈
        (Ownership.resolve view.snapshot parents).buckets :=
      List.mem_append_right _ List.mem_cons_self
    have howner : Ownership.claimant view.snapshot.name parents info = view.snapshot.name := by
      rw [Ownership.claimant_eq_declaringClass, hdeclaring, name]
      rw [hdeclaring]
      exact List.mem_map_of_mem (f := (·.owner)) hmem
    have hcontains := (Ownership.contains_of_mem_buckets h.method_name hnodup hmem info.name).2
      ⟨info, h.get?_method hinfo, howner⟩
    exact ⟨_, getLast?_inheritanceWith _ _ _, mem_ancestorReport hcontains⟩
  declared := by
    intro m hm a ha hdeclared b hb
    obtain ⟨info, hinfo, rfl⟩ := List.mem_map.1 hm
    obtain ⟨first, hfirst, rfl⟩ := List.mem_map.1 ha
    obtain ⟨other, hother, rfl⟩ := List.mem_map.1 hb
    have hdeclaring : first.owner = info.declaringClass := hdeclared
    have howner : Ownership.claimant view.snapshot.name parents info = first.owner := by
      rw [Ownership.claimant_eq_declaringClass, hdeclaring]
      rw [← hdeclaring]
      exact List.mem_map_of_mem hfirst
    rw [exists_name_ancestorReport_iff, methodReport,
      Ownership.contains_of_mem_buckets h.method_name hnodup hother]
    constructor
    · rintro ⟨found, hfound, hclaims⟩
      obtain rfl := Option.some.inj ((h.get?_method hinfo).symm.trans hfound)
      rw [List.inj_on_of_nodup_map (Ownership.nodup_owners hnodup) hother hfirst
        (hclaims.symm.trans howner)]
    · intro heq
      exact ⟨info, h.get?_method hinfo, howner.trans (congrArg AncestorReport.owner heq).symm⟩

/-- Whenever there are both, the class report and the inheritance report on a class tell the same:
the ancestors list the methods of the class, each once, with the same interfaces, and each under
the class that declares it if that is one of them. -/
theorem reports_agree (reg : Registry) (manifest : Manifest) (name : String) (view : View)
    (hload : View.load reg manifest name = .ok view) (tree : FileTree) (next : View)
    (report : ClassReport) (hreport : view.classReport tree = (next, .ok report))
    (inheritance : InheritanceReport) (hinheritance : view.inheritanceReport = .ok inheritance) :
    ReportsAgree name report inheritance := by
  have hsound := sound_of_load hload
  obtain ⟨interfaces, bodies, hinterfaces, rfl⟩ := classReport_eq_ok hsound hreport
  obtain ⟨others, ownership, hothers, hownership, rfl⟩ := inheritanceReport_eq_ok hinheritance
  obtain rfl := Except.ok.inj (hinterfaces.symm.trans hothers)
  obtain ⟨snapshot, hsnapshot, rfl⟩ := load_eq_ok_iff.1 hload
  obtain ⟨entry, chain, hlineage, rfl⟩ := Manifest.snapshot_eq_ok_iff.1 hsnapshot
  obtain rfl := Except.ok.inj (hownership.symm.trans (hlineage.ownership_eq rfl rfl))
  have hname :
      View.name { registry := reg, manifest, snapshot := manifest.snapshotOf entry chain } =
      name := hlineage.entry_name
  rw [← hname]
  refine hsound.agree ?_ interfaces bodies
  rw [hname]
  exact hlineage.nodup

/-- A class with a method of its own, and others from its parent and its interface. -/
def boardChess : ClassEntry :=
  { name := "Chess", parent := some "Board", interfaces := ["Timed"],
    methods := [{ name := "castle" }] }

/-- The parent of the class. -/
def boardParent : ClassEntry :=
  { name := "Board", methods := [{ name := "reset" }] }

/-- The interface of the class. -/
def boardTimed : ClassEntry :=
  { name := "Timed", kind := .interfaceKind, methods := [{ name := "clock" }] }

/-- The sample classes. -/
def boards : Manifest :=
  ((Manifest.empty.put boardChess).put boardParent).put boardTimed

theorem lineage_boards : boards.Lineage "Chess" boardChess [boardParent] :=
  .of_chainFrom (by decide) (Manifest.chainFrom_parent rfl (by decide) (by decide)
    (boards.chainFrom_root _ rfl))

theorem lineage_timed : boards.Lineage "Timed" boardTimed [] :=
  .of_chainFrom (by decide) (boards.chainFrom_root _ rfl)

/-- The view of the class. -/
def boardView : View where
  registry := .builtin
  manifest := boards
  snapshot := boards.snapshotOf boardChess [boardParent]

theorem load_boards : View.load .builtin boards "Chess" = .ok boardView :=
  load_eq_ok_iff.2 ⟨_, lineage_boards.snapshot_eq, rfl⟩

theorem interfaces_boards : boardView.snapshot.interfaces = ["Timed"] := by
  have hnone : boards.interfacesOf "Timed" = [] := by decide
  change boards.closureFrom [] ["Timed"] = ["Timed"]
  rw [Manifest.closureFrom_expand (by simp), hnone, List.append_nil, Manifest.closureFrom_nil,
    List.nil_append]

theorem methods_boards : boardView.snapshot.methods =
    .firstWins (boards.methodsOf [boardChess, boardParent, boardTimed]) := by
  change SortedMap.firstWins (boards.methodsOf ([boardChess, boardParent] ++
    boardView.snapshot.interfaces.filterMap boards.classes.get?)) = _
  rw [interfaces_boards]
  rfl

/-- The two reports on a class with a method of its own, one of its parent, and one that only its
interface has. -/
theorem reports_agree_boards :
    ∃ view next report inheritance, View.load .builtin boards "Chess" = .ok view ∧
      view.classReport {} = (next, .ok report) ∧ view.inheritanceReport = .ok inheritance ∧
      report.methods.map (fun m => (m.name, m.declaredIn)) =
        [("castle", "Chess"), ("clock", "Timed"), ("reset", "Board")] ∧
      inheritance.ancestors.map (fun a => (a.owner, a.methods.map (·.name))) =
        [("Board", ["reset"]), ("Chess", ["castle", "clock"])] ∧
      ReportsAgree "Chess" report inheritance := by
  obtain ⟨interfaces, hinterfaces⟩ : ∃ interfaces, boardView.methodInterfaces = .ok interfaces := by
    refine exists_methodInterfaces fun i hi e he => ?_
    rw [interfaces_boards, List.mem_singleton] at hi
    subst hi
    cases lineage_timed.snapshot_eq.symm.trans he
  have hcode : ∀ m ∈ boardView.methods, ∃ body, m.code {} = .ok body := by
    have hnowhere : ∀ m ∈ boardView.methods, m.location = none := by
      rw [methods, methods_boards]
      decide
    intro m hm
    exact ⟨"", by rw [Method.code, hnowhere m hm]⟩
  obtain ⟨next, bodies, hreport⟩ :=
    exists_classReport (sound_of_load load_boards) hinterfaces hcode
  have hinheritance := inheritanceReport_of_ok hinterfaces (lineage_boards.ownership_eq rfl rfl)
  refine ⟨boardView, next, _, _, load_boards, hreport, hinheritance, ?_, ?_,
    reports_agree .builtin boards "Chess" boardView load_boards {} next _ hreport _ hinheritance⟩
  · rw [reportWith, methodReportsWith, List.map_map, methods, methods_boards]
    rfl
  · rw [inheritanceWith, List.map_map, Ownership.resolve, methods_boards]
    rfl

end View

end ClassDocs
