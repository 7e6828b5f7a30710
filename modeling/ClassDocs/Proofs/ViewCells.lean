import ClassDocs.Proofs.MethodOwnership
import ClassDocs.Report.Class

/-!
# What a view keeps

A view keeps the records of the comments and the bodies of the methods that it has read. Comments
do not change, so a record that is kept is the one that reading the comment again would give. Files
do change: a body that is kept need not be the one in the file any more, and until a body is kept
each reading looks at the file. A class report reads one method after the other and stops at the
first body that cannot be read, be it that its file is missing or that its line numbers leave their
range.

## Main definitions

* `SortedMap.Within`: maps that keep nothing but the values of a function.
* `View.Sound`: views whose records are those of the comments.
* `View.bodyIn`: the body that a method has for a view.
* `View.ReadFrom`: the bodies after those of some methods have been read.
* `View.Stops`: the bodies after a method could not be read.
* `View.reportWith`: the report of a class with these bodies, every comment read anew.

## Main results

* `View.Sound.methodReports_cases`: reading methods reaches the last or stops at the first failure.
* `View.Sound.classReport_cases`: all that a class report can do.
* `View.sound_of_load`: a view that was just loaded is sound.
-/

namespace ClassDocs

namespace SortedMap

variable {α : Type} {kept : SortedMap α} {value : String → Option α} {key : String} {a : α}

/-- Every value that is kept is the one that `value` has for its key. -/
def Within (kept : SortedMap α) (value : String → Option α) : Prop :=
  ∀ key a, kept.get? key = some a → value key = some a

theorem within_empty (value : String → Option α) : (empty : SortedMap α).Within value := by
  intro key a h
  simp at h

theorem Within.insert (h : kept.Within value) (ha : value key = some a) :
    (kept.insert key a).Within value := by
  intro other b hb
  rw [get?_insert] at hb
  split_ifs at hb with heq
  · rw [heq, ha, hb]
  · exact h other b hb

/-- Where nothing but right values is kept, the right value is recalled and kept. -/
theorem Within.getOrInsert (h : kept.Within value) (ha : value key = some a) :
    ∃ next, kept.getOrInsert key (fun _ => a) = (next, a) ∧ next.Within value := by
  rw [SortedMap.getOrInsert]
  cases hkept : kept.get? key with
  | none => exact ⟨_, rfl, h.insert ha⟩
  | some b =>
    have hb : b = a := Option.some.inj ((h key b hkept).symm.trans ha)
    exact ⟨kept, by rw [hb], h⟩

end SortedMap

/-- A reported property has the name that it stands under. -/
theorem Manifest.property_name_of_get? {manifest : Manifest} {entry : ClassEntry}
    {chain : List ClassEntry} {key : String} {p : Property}
    (h : (manifest.snapshotOf entry chain).properties.get? key = some p) : p.name = key := by
  rw [get?_properties] at h
  obtain ⟨found, hfind, rfl⟩ := Option.map_eq_some_iff.1 h
  have hname : found.2.name = key := by simpa using List.find?_some hfind
  exact hname

namespace View

variable {view : View} {m : Method} {tree : FileTree}

/-! ### Records -/

/-- The members of the class stand under their own names, and every record that the view keeps is
that of the comment. -/
structure Sound (view : View) : Prop where
  method_name : view.snapshot.methods.NamedByKey
  property_name : ∀ key p, view.snapshot.properties.get? key = some p → p.name = key
  classDoc : ∀ record, view.classDoc = some record → record = view.snapshot.doc view.registry
  methodDocs : view.methodDocs.Within fun key =>
    (view.snapshot.methods.get? key).map (·.doc view.registry)
  propertyDocs : view.propertyDocs.Within fun key =>
    (view.snapshot.properties.get? key).map (·.doc view.registry)

namespace Sound

theorem get?_method (h : view.Sound) (hm : m ∈ view.methods) :
    view.snapshot.methods.get? m.name = some m := by
  obtain ⟨key, hkey⟩ := SortedMap.mem_values_iff.1 hm
  rwa [h.method_name key m hkey]

/-- The name of a method leads to it alone. -/
theorem eq_of_name (h : view.Sound) {other : Method} (hm : m ∈ view.methods)
    (hother : other ∈ view.methods) (hname : other.name = m.name) : other = m := by
  have hfound := h.get?_method hother
  rw [hname, h.get?_method hm] at hfound
  exact (Option.some.inj hfound).symm

theorem get?_property (h : view.Sound) {p : Property} {filter : PropertyFilter}
    (hp : p ∈ view.properties filter) : view.snapshot.properties.get? p.name = some p := by
  obtain ⟨key, hkey⟩ := SortedMap.mem_values_iff.1 (List.mem_of_mem_filter hp)
  rwa [h.property_name key p hkey]

theorem method?_eq (h : view.Sound) (name : String) :
    view.method? name = view.snapshot.methods.get? name := by
  cases hfind : view.method? name with
  | some m =>
    have hname : m.name = name := by simpa using List.find?_some hfind
    rw [← hname, h.get?_method (List.mem_of_find?_eq_some hfind)]
  | none =>
    cases hget : view.snapshot.methods.get? name with
    | none => rfl
    | some m =>
      have hmem : m ∈ view.methods := SortedMap.mem_values_iff.2 ⟨name, hget⟩
      exact absurd (h.method_name name m hget) (by simpa using List.find?_eq_none.1 hfind m hmem)

/-- Methods are listed in strictly increasing order of their names. -/
theorem pairwise_methods (h : view.Sound) : view.methods.Pairwise fun a b => a.name < b.name := by
  rw [methods, SortedMap.values, List.pairwise_map]
  refine view.snapshot.methods.sorted.imp_of_mem fun {a b} ha hb hlt => ?_
  rw [h.method_name a.1 a.2 (SortedMap.get?_eq_some_iff.2 ha),
    h.method_name b.1 b.2 (SortedMap.get?_eq_some_iff.2 hb)]
  exact hlt

theorem doc_eq (h : view.Sound) :
    ∃ classDoc, view.doc = ({ view with classDoc }, view.snapshot.doc view.registry) ∧
      Sound { view with classDoc } := by
  rw [doc]
  cases hkept : view.classDoc with
  | none => exact ⟨_, rfl, { h with classDoc := fun _ hrecord => (Option.some.inj hrecord).symm }⟩
  | some record => exact ⟨view.classDoc, by rw [h.classDoc record hkept], h⟩

theorem methodDoc_eq (h : view.Sound) (hm : m ∈ view.methods) :
    ∃ methodDocs, view.methodDoc m = ({ view with methodDocs }, m.doc view.registry) ∧
      Sound { view with methodDocs } := by
  obtain ⟨methodDocs, hinsert, hwithin⟩ :=
    h.methodDocs.getOrInsert (show _ = some (m.doc view.registry) by rw [h.get?_method hm]; rfl)
  refine ⟨methodDocs, ?_, { h with methodDocs := hwithin }⟩
  rw [methodDoc, hinsert]

theorem propertyDoc_eq (h : view.Sound) {p : Property}
    (hp : view.snapshot.properties.get? p.name = some p) :
    ∃ propertyDocs, view.propertyDoc p = ({ view with propertyDocs }, p.doc view.registry) ∧
      Sound { view with propertyDocs } := by
  obtain ⟨propertyDocs, hinsert, hwithin⟩ :=
    h.propertyDocs.getOrInsert (show _ = some (p.doc view.registry) by rw [hp]; rfl)
  refine ⟨propertyDocs, ?_, { h with propertyDocs := hwithin }⟩
  rw [propertyDoc, hinsert]

theorem documented_eq (h : view.Sound) (ps : List Property)
    (hps : ∀ p ∈ ps, view.snapshot.properties.get? p.name = some p) :
    ∃ propertyDocs, view.documented ps =
        ({ view with propertyDocs }, ps.map fun p => (p, p.doc view.registry)) ∧
      Sound { view with propertyDocs } := by
  induction ps generalizing view with
  | nil => exact ⟨view.propertyDocs, rfl, h⟩
  | cons p rest ih =>
    obtain ⟨docs, heq, hsound⟩ := h.propertyDoc_eq (hps p List.mem_cons_self)
    obtain ⟨propertyDocs, hrest, hsound⟩ :=
      ih hsound fun q hq => hps q (List.mem_cons_of_mem _ hq)
    refine ⟨propertyDocs, ?_, hsound⟩
    rw [documented, heq]
    simp only [hrest, List.map_cons]

end Sound

/-! ### Bodies -/

/-- The body of a method: the one that is kept, or else the one in its file. -/
def bodyIn (tree : FileTree) (bodies : SortedMap String) (m : Method) :
    Except (Fault ClassError) String :=
  match bodies.get? m.name with
  | some text => .ok text
  | none => m.code tree

section Bodies

variable {bodies next : SortedMap String} {text : String} {e : Fault ClassError}

theorem bodyIn_of_kept (h : bodies.get? m.name = some text) : bodyIn tree bodies m = .ok text := by
  rw [bodyIn, h]

theorem bodyIn_of_none (h : bodies.get? m.name = none) : bodyIn tree bodies m = m.code tree := by
  rw [bodyIn, h]

/-- A body that fails is not kept, so that its file was looked at. -/
theorem bodyIn_eq_error_iff :
    bodyIn tree bodies m = .error e ↔ bodies.get? m.name = none ∧ m.code tree = .error e := by
  cases hkept : bodies.get? m.name with
  | none => simp [bodyIn_of_none hkept]
  | some text => simp [bodyIn_of_kept hkept]

/-- The bodies after those of some methods have been read, from the files where none was kept. -/
structure ReadFrom (tree : FileTree) (bodies : SortedMap String) (ms : List Method)
    (next : SortedMap String) : Prop where
  body : ∀ m ∈ ms, ∃ text, bodyIn tree bodies m = .ok text ∧ next.get? m.name = some text
  other : ∀ key, (∀ m ∈ ms, m.name ≠ key) → next.get? key = bodies.get? key

namespace ReadFrom

variable {ms : List Method}

theorem nil (tree : FileTree) (bodies : SortedMap String) : ReadFrom tree bodies [] bodies :=
  ⟨fun _ h => (List.not_mem_nil h).elim, fun _ _ => rfl⟩

/-- What was kept before is kept. -/
theorem kept (h : ReadFrom tree bodies ms next) {key : String}
    (hkey : bodies.get? key = some text) : next.get? key = some text := by
  by_cases hread : ∃ m ∈ ms, m.name = key
  · obtain ⟨m, hm, rfl⟩ := hread
    obtain ⟨read, hbody, hnext⟩ := h.body m hm
    rw [bodyIn_of_kept hkey] at hbody
    rw [hnext, Except.ok.inj hbody]
  · rw [h.other key fun m hm hname => hread ⟨m, hm, hname⟩, hkey]

/-- Reading methods at one moment changes the body of none of them. -/
theorem bodyIn_eq (h : ReadFrom tree bodies ms next)
    (hm : ∀ other ∈ ms, other.name = m.name → other = m) :
    bodyIn tree next m = bodyIn tree bodies m := by
  by_cases hread : ∃ other ∈ ms, other.name = m.name
  · obtain ⟨other, hmem, hname⟩ := hread
    obtain rfl := hm other hmem hname
    obtain ⟨text, hbody, hnext⟩ := h.body other hmem
    rw [bodyIn_of_kept hnext, hbody]
  · rw [bodyIn, h.other m.name fun other hmem hname => hread ⟨other, hmem, hname⟩, bodyIn]

/-- Methods that are read after others at the same moment. -/
theorem append {rest : List Method} {last : SortedMap String} (h : ReadFrom tree bodies ms next)
    (hrest : ReadFrom tree next rest last)
    (hnames : ∀ m ∈ rest, ∀ other ∈ ms, other.name = m.name → other = m) :
    ReadFrom tree bodies (ms ++ rest) last where
  body := by
    intro m hm
    rcases List.mem_append.1 hm with hm | hm
    · obtain ⟨text, hbody, hnext⟩ := h.body m hm
      exact ⟨text, hbody, hrest.kept hnext⟩
    · rw [← h.bodyIn_eq (hnames m hm)]
      exact hrest.body m hm
  other := by
    intro key hkey
    rw [hrest.other key fun m hm => hkey m (List.mem_append_right _ hm),
      h.other key fun m hm => hkey m (List.mem_append_left _ hm)]

end ReadFrom

/-- Methods are read one after the other, up to one that cannot be read. -/
def Stops (tree : FileTree) (bodies : SortedMap String) (ms : List Method)
    (next : SortedMap String) (e : Fault ClassError) : Prop :=
  ∃ read failed rest, ms = read ++ failed :: rest ∧ ReadFrom tree bodies read next ∧
    bodyIn tree bodies failed = .error e

theorem Stops.head (h : bodyIn tree bodies m = .error e) (rest : List Method) :
    Stops tree bodies (m :: rest) bodies e :=
  ⟨[], m, rest, rfl, .nil tree bodies, h⟩

theorem Stops.cons {ms : List Method} {last : SortedMap String}
    (hread : ReadFrom tree bodies [m] next) (h : Stops tree next ms last e)
    (hnames : ∀ other ∈ ms, ∀ first ∈ [m], first.name = other.name → first = other) :
    Stops tree bodies (m :: ms) last e := by
  obtain ⟨read, failed, rest, rfl, hrest, hfailed⟩ := h
  refine ⟨m :: read, failed, rest, rfl, ?_, ?_⟩
  · exact hread.append hrest fun other hother => hnames other (List.mem_append_left _ hother)
  · rw [← hfailed]
    refine (hread.bodyIn_eq (hnames failed ?_)).symm
    exact List.mem_append_right _ List.mem_cons_self

/-- A method that can be read is read, and its body is kept. -/
theorem code_of_ok (h : bodyIn tree view.bodies m = .ok text) :
    ∃ bodies, view.code tree m = ({ view with bodies }, .ok text) ∧
      ReadFrom tree view.bodies [m] bodies := by
  suffices hcode : ∃ bodies, view.code tree m = ({ view with bodies }, .ok text) ∧
      ∀ key, bodies.get? key = if key = m.name then some text else view.bodies.get? key by
    obtain ⟨bodies, hcode, hbodies⟩ := hcode
    refine ⟨bodies, hcode, fun other hother => ?_, fun key hkey => ?_⟩
    · obtain rfl := List.mem_singleton.1 hother
      exact ⟨text, h, (hbodies other.name).trans (if_pos rfl)⟩
    · exact (hbodies key).trans (if_neg (hkey m List.mem_cons_self).symm)
  rw [code]
  cases hkept : view.bodies.get? m.name with
  | none =>
    rw [bodyIn_of_none hkept] at h
    exact ⟨_, by rw [h], SortedMap.get?_insert view.bodies m.name text⟩
  | some kept =>
    rw [bodyIn_of_kept hkept] at h
    obtain rfl := Except.ok.inj h
    refine ⟨view.bodies, rfl, fun key => ?_⟩
    split_ifs with heq
    · rw [heq, hkept]
    · rfl

/-- A method that cannot be read leaves the view as it is. -/
theorem code_of_error (h : bodyIn tree view.bodies m = .error e) :
    view.code tree m = (view, .error e) := by
  obtain ⟨hkept, hcode⟩ := bodyIn_eq_error_iff.1 h
  rw [code, hkept, hcode]

end Bodies

/-! ### Reports -/

/-- The reports of some methods with these bodies, every comment read anew. -/
def methodReportsWith (view : View) (interfaces bodies : SortedMap String) (ms : List Method) :
    List MethodReport :=
  ms.map fun m => view.methodReport interfaces m (m.doc view.registry)
    ((bodies.get? m.name).getD "")

theorem methodReportsWith_cons (view : View) (interfaces : SortedMap String)
    {bodies : SortedMap String} {text : String} (h : bodies.get? m.name = some text)
    (ms : List Method) :
    view.methodReportsWith interfaces bodies (m :: ms) =
      view.methodReport interfaces m (m.doc view.registry) text ::
        view.methodReportsWith interfaces bodies ms := by
  rw [methodReportsWith, List.map_cons, h, Option.getD_some, methodReportsWith]

/-- Methods are read to the last, or up to the first that cannot be read. -/
theorem Sound.methodReports_cases (h : view.Sound) (tree : FileTree)
    (interfaces : SortedMap String) (ms : List Method) (hms : ∀ m ∈ ms, m ∈ view.methods) :
    ∃ methodDocs bodies result,
      methodReports tree interfaces view ms = ({ view with methodDocs, bodies }, result) ∧
      Sound { view with methodDocs, bodies } ∧
      (ReadFrom tree view.bodies ms bodies ∧
          result = .ok (view.methodReportsWith interfaces bodies ms) ∨
        ∃ e, Stops tree view.bodies ms bodies e ∧ result = .error e) := by
  induction ms generalizing view with
  | nil => exact ⟨view.methodDocs, view.bodies, _, rfl, h, .inl ⟨.nil tree view.bodies, rfl⟩⟩
  | cons m rest ih =>
    have hm := hms m List.mem_cons_self
    obtain ⟨docs, hdoc, hsound⟩ := h.methodDoc_eq hm
    cases hbody : bodyIn tree view.bodies m with
    | error e =>
      -- The record of the method was read before its body failed, and stays.
      have hcode : code { view with methodDocs := docs } tree m = (_, .error e) :=
        code_of_error hbody
      refine ⟨docs, view.bodies, .error e, ?_, hsound, .inr ⟨e, .head hbody rest, rfl⟩⟩
      rw [methodReports, hdoc]
      simp only [hcode]
    | ok text =>
      obtain ⟨bodies, hcode, hread⟩ :
          ∃ bodies, code { view with methodDocs := docs } tree m = (_, .ok text) ∧ _ :=
        code_of_ok hbody
      have hrest : ∀ other ∈ rest, other ∈ view.methods := fun other hother =>
        hms other (List.mem_cons_of_mem _ hother)
      have hnames : ∀ other ∈ rest, ∀ first ∈ [m], first.name = other.name → first = other := by
        intro other hother first hfirst hname
        obtain rfl := List.mem_singleton.1 hfirst
        exact h.eq_of_name (hrest other hother) hm hname
      have hnext : Sound { view with methodDocs := docs, bodies } := { hsound with }
      obtain ⟨methodDocs, last, result, heq, hsound, hcases⟩ := ih hnext hrest
      refine ⟨methodDocs, last,
        result.map (view.methodReport interfaces m (m.doc view.registry) text :: ·), ?_, hsound, ?_⟩
      · rw [methodReports, hdoc]
        simp only [hcode, heq]
        rfl
      · obtain ⟨hafter, rfl⟩ | ⟨e, hstops, rfl⟩ := hcases
        · have hlast : last.get? m.name = some text := by
            obtain ⟨read, hread, hkept⟩ := hread.body m List.mem_cons_self
            rw [hafter.kept hkept, Except.ok.inj (hread.symm.trans hbody)]
          refine .inl ⟨hread.append hafter hnames, ?_⟩
          rw [methodReportsWith_cons view interfaces hlast]
          rfl
        · exact .inr ⟨e, .cons hread hstops hnames, rfl⟩

/-- The report of a class with these bodies, every comment read anew. -/
def reportWith (view : View) (interfaces bodies : SortedMap String) : ClassReport where
  name := view.name
  typeText := view.snapshot.typeText
  doc := view.snapshot.doc view.registry
  interfaces := view.snapshot.interfaces
  constants := view.snapshot.constants
  properties := (view.properties .all).map fun p => p.report (p.doc view.registry)
  methods := view.methodReportsWith interfaces bodies view.methods

theorem properties_all (view : View) : view.properties .all = view.snapshot.properties.values := by
  refine List.filter_eq_self.2 fun p _ => ?_
  rw [PropertyFilter.accepts]
  cases p.visibility <;> rfl

/-- The records of a report are what the comments of the class and its members say. -/
theorem describes_reportWith (view : View) (interfaces bodies : SortedMap String) :
    (view.reportWith interfaces bodies).doc = view.registry.parseOption view.snapshot.docComment ∧
    ((view.reportWith interfaces bodies).properties.map fun p => (p.name, p.doc)) =
      view.snapshot.properties.values.map
        (fun p => (p.name, view.registry.parseOption p.docComment)) ∧
    ((view.reportWith interfaces bodies).methods.map fun m => (m.name, m.doc)) =
      view.methods.map (fun m => (m.name, view.registry.parseOption m.docComment)) := by
  refine ⟨rfl, ?_, ?_⟩
  · rw [reportWith, properties_all, List.map_map]
    rfl
  · rw [reportWith, methodReportsWith, List.map_map]
    rfl

/-- A class report fails before anything is read, reports the class with all its bodies, or stops
at the first body that cannot be read. -/
theorem Sound.classReport_cases (h : view.Sound) (tree : FileTree) :
    ∃ classDoc methodDocs propertyDocs bodies result,
      view.classReport tree =
        ({ view with classDoc, methodDocs, propertyDocs, bodies }, result) ∧
      Sound { view with classDoc, methodDocs, propertyDocs, bodies } ∧
      ((∃ e, view.methodInterfaces = .error e ∧ bodies = view.bodies ∧
          result = .error (.failure e)) ∨
        (∃ interfaces, view.methodInterfaces = .ok interfaces ∧
          ReadFrom tree view.bodies view.methods bodies ∧
          result = .ok (view.reportWith interfaces bodies)) ∨
        ∃ e, Stops tree view.bodies view.methods bodies e ∧ result = .error e) := by
  cases hinterfaces : view.methodInterfaces with
  | error e =>
    refine ⟨_, _, _, view.bodies, .error (.failure e), ?_, h, .inl ⟨e, rfl, rfl, rfl⟩⟩
    rw [classReport, hinterfaces]
  | ok interfaces =>
    obtain ⟨propertyDocs, hproperties, hsound⟩ :=
      h.documented_eq (view.properties .all) fun _ => h.get?_property
    obtain ⟨methodDocs, bodies, result, hmethods, hsound, hcases⟩ :=
      hsound.methodReports_cases tree interfaces (methods { view with propertyDocs }) fun _ => id
    obtain ⟨hread, rfl⟩ | ⟨e, hstops, rfl⟩ := hcases
    · obtain ⟨classDoc, hdoc, hsound⟩ := hsound.doc_eq
      refine ⟨classDoc, methodDocs, propertyDocs, bodies, _, ?_, hsound,
        .inr (.inl ⟨interfaces, rfl, hread, rfl⟩)⟩
      rw [classReport, hinterfaces]
      simp only [classReportWith, hproperties, hmethods, hdoc, List.map_map]
      rfl
    · refine ⟨view.classDoc, methodDocs, propertyDocs, bodies, _, ?_, hsound,
        .inr (.inr ⟨e, hstops, rfl⟩)⟩
      rw [classReport, hinterfaces]
      simp only [classReportWith, hproperties, hmethods]

/-- The view of a class that was found keeps nothing yet. -/
theorem load_eq_ok_iff {reg : Registry} {manifest : Manifest} {name : String} :
    View.load reg manifest name = .ok view ↔ ∃ snapshot, manifest.snapshot name = .ok snapshot ∧
      view = { registry := reg, manifest, snapshot } := by
  rw [load]
  cases manifest.snapshot name with
  | error e => exact ⟨nofun, nofun⟩
  | ok snapshot =>
    constructor
    · rintro ⟨⟩
      exact ⟨snapshot, rfl, rfl⟩
    · rintro ⟨_, ⟨⟩, rfl⟩
      rfl

theorem sound_of_load {reg : Registry} {manifest : Manifest} {name : String}
    (h : View.load reg manifest name = .ok view) : view.Sound := by
  obtain ⟨snapshot, hsnapshot, rfl⟩ := load_eq_ok_iff.1 h
  obtain ⟨entry, chain, -, rfl⟩ := Manifest.snapshot_eq_ok_iff.1 hsnapshot
  exact {
    method_name := manifest.namedByKey_snapshotOf entry chain
    property_name := fun _ _ => Manifest.property_name_of_get?
    classDoc := fun _ hrecord => by cases hrecord
    methodDocs := SortedMap.within_empty _
    propertyDocs := SortedMap.within_empty _ }

end View

end ClassDocs
