import ClassDocs.Proofs.ViewCells

/-!
# Sessions with a view

A view is asked for documentation, bodies and reports, in any order and as often as one likes, while
the files that the bodies stand in are written and removed. Records do not depend on any of this. A
body depends on the files up to the first time that it can be read, be it by a report that fails at
a later method, and not on them from then on. Where the arithmetic on line numbers leaves its range
the program ends; what a view has kept by then is kept, so that all this holds of a session that is
taken up again, and of every session up to the end of the program.

## Main definitions

* `Action`, `Answer`, `Event`: what happens in a session.
* `Session.perform`, `Session.run`: one action, and the events of several.
* `Event.Documented`: the records of an answer are those of the comments.
* `Event.Misses`, `Event.Reads`, `Event.Shows`: what becomes of the body of a method.
* `BodyStep`: what an event does to the body that is kept for a method.

## Main results

* `Session.Of.step`: what one action does, and what it is answered with.
* `Session.Of.run_documented`: records are those of the comments throughout.
* `Session.Of.run_body`: a body is missed until it is read, and the same from then on.
-/

namespace ClassDocs

/-- What is asked of a view, or done to the files. -/
inductive Action where
  | doc
  | methodDoc (name : String)
  | propertyDocs (filter : PropertyFilter)
  | code (name : String)
  | classReport
  | inheritanceReport
  | write (path : String) (content : ByteArray)
  | remove (path : String)

/-- The answer to an action. There is none about a method that the class does not have. -/
inductive Answer where
  | doc (record : Record)
  | methodDoc (record : Option Record)
  | propertyDocs (records : List (Property × Record))
  | code (result : Option (Except (Fault ClassError) String))
  | classReport (result : Except (Fault ClassError) ClassReport)
  | inheritanceReport (result : Except ClassError InheritanceReport)
  | done

/-- An action with its answer, and the files at that moment. -/
structure Event where
  tree : FileTree
  action : Action
  answer : Answer

/-- A view together with the files. -/
structure Session where
  tree : FileTree
  view : View

namespace Session

/-- What an action makes of a session, and its answer. -/
def perform (s : Session) : Action → Session × Answer
  | .doc =>
    let (view, record) := s.view.doc
    ({ s with view }, .doc record)
  | .methodDoc name =>
    match s.view.method? name with
    | some m =>
      let (view, record) := s.view.methodDoc m
      ({ s with view }, .methodDoc (some record))
    | none => (s, .methodDoc none)
  | .propertyDocs filter =>
    let (view, records) := s.view.documented (s.view.properties filter)
    ({ s with view }, .propertyDocs records)
  | .code name =>
    match s.view.method? name with
    | some m =>
      let (view, result) := s.view.code s.tree m
      ({ s with view }, .code (some result))
    | none => (s, .code none)
  | .classReport =>
    let (view, result) := s.view.classReport s.tree
    ({ s with view }, .classReport result)
  | .inheritanceReport => (s, .inheritanceReport s.view.inheritanceReport)
  | .write path content => ({ s with tree := s.tree.writeFile path content }, .done)
  | .remove path => ({ s with tree := s.tree.remove path }, .done)

/-- What happens when an action is performed. -/
def event (s : Session) (action : Action) : Event :=
  ⟨s.tree, action, (s.perform action).2⟩

/-- The events of some actions, one after the other. -/
def run : Session → List Action → List Event
  | _, [] => []
  | s, action :: rest => s.event action :: run (s.perform action).1 rest

end Session

namespace Event

/-- The records of an answer are what the comments of the class and its members say. -/
def Documented (view : View) (e : Event) : Prop :=
  match e.action with
  | .doc => e.answer = .doc (view.registry.parseOption view.snapshot.docComment)
  | .methodDoc name => e.answer = .methodDoc
      ((view.snapshot.methods.get? name).map fun m => view.registry.parseOption m.docComment)
  | .propertyDocs filter => e.answer = .propertyDocs
      ((view.properties filter).map fun p => (p, view.registry.parseOption p.docComment))
  | .classReport => ∀ report, e.answer = .classReport (.ok report) →
      report.doc = view.registry.parseOption view.snapshot.docComment ∧
      (report.properties.map fun p => (p.name, p.doc)) = view.snapshot.properties.values.map
        (fun p => (p.name, view.registry.parseOption p.docComment)) ∧
      (report.methods.map fun m => (m.name, m.doc)) = view.methods.map
        (fun m => (m.name, view.registry.parseOption m.docComment))
  | .inheritanceReport => e.answer = .inheritanceReport view.inheritanceReport
  | .code _ | .write _ _ | .remove _ => True

/-- The body of a method is not to be had: a request for it gives what the file gives, which is a
failure, and a class report fails at this method or before it. -/
structure Misses (view : View) (m : Method) (e : Event) : Prop where
  code : e.action = .code m.name →
    e.answer = .code (some (m.code e.tree)) ∧ ∃ err, m.code e.tree = .error err
  report : e.action = .classReport → ∃ err, e.answer = .classReport (.error err) ∧
    ((∃ cause, view.methodInterfaces = .error cause ∧ err = .failure cause) ∨
      ∃ failed ∈ view.methods, failed.name ≤ m.name ∧ failed.code e.tree = .error err)

/-- The body of a method is read from its file, by a request for it or by a class report, which may
still fail at a later method. -/
structure Reads (view : View) (m : Method) (text : String) (e : Event) : Prop where
  code : m.code e.tree = .ok text
  action : e.action = .code m.name ∨ e.action = .classReport
  report : ∀ err, e.answer = .classReport (.error err) →
    ∃ failed ∈ view.methods, m.name < failed.name ∧ failed.code e.tree = .error err

/-- The body of a method is this text, whatever is in the file: requests for it and class reports
give the text, and no class report fails because of this method. -/
structure Shows (view : View) (m : Method) (text : String) (e : Event) : Prop where
  code : e.action = .code m.name → e.answer = .code (some (.ok text))
  report : e.action = .classReport →
    (∃ report, e.answer = .classReport (.ok report) ∧ (∃ r ∈ report.methods, r.name = m.name) ∧
        ∀ r ∈ report.methods, r.name = m.name → r.code = text) ∨
      ∃ err, e.answer = .classReport (.error err) ∧
        ((∃ cause, view.methodInterfaces = .error cause ∧ err = .failure cause) ∨
          ∃ failed ∈ view.methods, failed.name ≠ m.name ∧ failed.code e.tree = .error err)

end Event

/-- What an event does to the body that is kept for a method. -/
inductive BodyStep (view : View) (m : Method) (e : Event) : Option String → Option String → Prop
  | missed (h : e.Misses view m) : BodyStep view m e none none
  | read {text : String} (hread : e.Reads view m text) (hshow : e.Shows view m text) :
      BodyStep view m e none (some text)
  | shown {text : String} (h : e.Shows view m text) : BodyStep view m e (some text) (some text)

namespace BodyStep

variable {view : View} {m : Method} {e : Event} {bodies next : SortedMap String}

/-- An event that reads no body of the method. -/
theorem unread (kept : Option String) (hmiss : kept = none → e.Misses view m)
    (hshow : ∀ text, kept = some text → e.Shows view m text) : BodyStep view m e kept kept := by
  cases kept with
  | none => exact .missed (hmiss rfl)
  | some text => exact .shown (hshow text rfl)

theorem idle (kept : Option String) (hcode : e.action ≠ .code m.name)
    (hreport : e.action ≠ .classReport) : BodyStep view m e kept kept :=
  unread kept (fun _ => ⟨fun h => absurd h hcode, fun h => absurd h hreport⟩)
    fun _ _ => ⟨fun h => absurd h hcode, fun h => absurd h hreport⟩

/-- An event that reads the method among others, if its body was not kept. -/
theorem of_readFrom {ms : List Method} (h : View.ReadFrom e.tree bodies ms next) (hm : m ∈ ms)
    (hread : ∀ text, m.code e.tree = .ok text → e.Reads view m text)
    (hshow : ∀ text, View.bodyIn e.tree bodies m = .ok text → next.get? m.name = some text →
      e.Shows view m text) :
    BodyStep view m e (bodies.get? m.name) (next.get? m.name) := by
  obtain ⟨text, hbody, hnext⟩ := h.body m hm
  have hshow := hshow text hbody hnext
  rw [hnext]
  cases hkept : bodies.get? m.name with
  | none =>
    rw [View.bodyIn_of_none hkept] at hbody
    exact .read (hread text hbody) hshow
  | some kept =>
    rw [View.bodyIn_of_kept hkept] at hbody
    obtain rfl := Except.ok.inj hbody
    exact .shown hshow

/-- A class report that fails before it reads anything. -/
theorem of_interfaces (kept : Option String) {err : ClassError}
    (hanswer : e.answer = .classReport (.error (.failure err))) (hcode : e.action ≠ .code m.name)
    (herr : view.methodInterfaces = .error err) : BodyStep view m e kept kept :=
  unread kept (fun _ => ⟨fun h => absurd h hcode, fun _ => ⟨_, hanswer, .inl ⟨err, herr, rfl⟩⟩⟩)
    fun _ _ => ⟨fun h => absurd h hcode, fun _ => .inr ⟨_, hanswer, .inl ⟨err, herr, rfl⟩⟩⟩

/-- A class report with all bodies shows the one of the method. -/
theorem of_reported {interfaces : SortedMap String} {other : View}
    (haction : e.action = .classReport)
    (hanswer : e.answer = .classReport (.ok (other.reportWith interfaces next)))
    (h : View.ReadFrom e.tree bodies other.methods next) (hm : m ∈ other.methods) :
    BodyStep view m e (bodies.get? m.name) (next.get? m.name) := by
  refine .of_readFrom h hm (fun text htext => ⟨htext, .inr haction, ?_⟩) fun text _ hnext =>
    ⟨?_, fun _ => .inl ⟨_, hanswer, ⟨_, List.mem_map_of_mem hm, rfl⟩, ?_⟩⟩
  · intro err herr
    cases hanswer.symm.trans herr
  · intro hcode
    cases haction.symm.trans hcode
  · intro r hr hname
    obtain ⟨found, -, rfl⟩ := List.mem_map.1 hr
    change (next.get? found.name).getD "" = text
    rw [show found.name = m.name from hname, hnext, Option.getD_some]

/-- A class report that stops at a method shows the bodies before it and misses the others. -/
theorem of_stops {err : Fault ClassError} (haction : e.action = .classReport)
    (hanswer : e.answer = .classReport (.error err))
    (hsorted : view.methods.Pairwise fun a b => a.name < b.name)
    (h : View.Stops e.tree bodies view.methods next err) (hm : m ∈ view.methods) :
    BodyStep view m e (bodies.get? m.name) (next.get? m.name) := by
  obtain ⟨read, failed, rest, hmethods, hread, hfailed⟩ := h
  obtain ⟨hmissing, herr⟩ := View.bodyIn_eq_error_iff.1 hfailed
  have hmem : failed ∈ view.methods := hmethods ▸ List.mem_append_right _ List.mem_cons_self
  have hcode : e.action ≠ .code m.name := by simp [haction]
  rw [hmethods] at hsorted hm
  obtain ⟨-, hlater, hbefore⟩ := List.pairwise_append.1 hsorted
  rcases List.mem_append.1 hm with hm | hm
  · have hlt : m.name < failed.name := hbefore m hm failed List.mem_cons_self
    refine .of_readFrom hread hm (fun text htext => ⟨htext, .inr haction, ?_⟩) fun text _ _ =>
      ⟨fun h => absurd h hcode, fun _ => .inr ⟨err, hanswer, .inr ⟨failed, hmem, ?_, herr⟩⟩⟩
    · intro err' herr'
      cases hanswer.symm.trans herr'
      exact ⟨failed, hmem, hlt, herr⟩
    · exact (String.ne_of_lt hlt).symm
  · have hle : failed.name ≤ m.name := by
      rcases List.mem_cons.1 hm with rfl | hm
      · exact String.le_refl _
      · exact Std.le_of_lt (List.rel_of_pairwise_cons hlater hm)
    rw [hread.other m.name fun earlier hearlier => String.ne_of_lt (hbefore earlier hearlier m hm)]
    refine unread _ (fun _ => ⟨fun h => absurd h hcode, fun _ =>
      ⟨err, hanswer, .inr ⟨failed, hmem, hle, herr⟩⟩⟩) fun text hkept =>
        ⟨fun h => absurd h hcode, fun _ => .inr ⟨err, hanswer, .inr ⟨failed, hmem, ?_, herr⟩⟩⟩
    -- A body that is kept did not fail, so that the report stopped at another method.
    intro hname
    rw [← hname, hmissing] at hkept
    cases hkept

end BodyStep

namespace Session

variable {view : View} {s : Session}

/-- A session with a view of the same class, whose records are those of the comments. -/
structure Of (view : View) (s : Session) : Prop where
  registry_eq : s.view.registry = view.registry
  manifest_eq : s.view.manifest = view.manifest
  snapshot_eq : s.view.snapshot = view.snapshot
  sound : s.view.Sound

/-- What one event does in a session. -/
structure Step (view : View) (s : Session) (e : Event) (next : Session) : Prop where
  of : next.Of view
  documented : e.Documented view
  body : ∀ m ∈ view.methods,
    BodyStep view m e (s.view.bodies.get? m.name) (next.view.bodies.get? m.name)

/-- An event that is about no body leaves the bodies as they are. -/
theorem Step.of_idle {e : Event} {next : Session} (hof : next.Of view)
    (hdocumented : e.Documented view) (hbodies : next.view.bodies = s.view.bodies)
    (hcode : ∀ name, e.action ≠ .code name) (hreport : e.action ≠ .classReport) :
    Step view s e next := by
  refine ⟨hof, hdocumented, fun m _ => ?_⟩
  rw [hbodies]
  exact .idle _ (hcode m.name) hreport

/-- An event that is about the body of one method leaves the others as they are. -/
theorem Step.of_code {next : Session} {answer : Answer} {m : Method} (hof : next.Of view)
    (huniq : ∀ other ∈ view.methods, other.name = m.name → other = m)
    (hother : ∀ key, m.name ≠ key → next.view.bodies.get? key = s.view.bodies.get? key)
    (hbody : BodyStep view m ⟨s.tree, .code m.name, answer⟩ (s.view.bodies.get? m.name)
      (next.view.bodies.get? m.name)) :
    Step view s ⟨s.tree, .code m.name, answer⟩ next := by
  refine ⟨hof, trivial, fun other hmem => ?_⟩
  by_cases hname : other.name = m.name
  · rw [huniq other hmem hname]
    exact hbody
  · rw [hother other.name (Ne.symm hname)]
    exact .idle _ (by simpa using Ne.symm hname) nofun

namespace Of

theorem methods_eq (h : s.Of view) : s.view.methods = view.methods := by
  rw [View.methods, h.snapshot_eq, View.methods]

theorem properties_eq (h : s.Of view) (filter : PropertyFilter) :
    s.view.properties filter = view.properties filter := by
  rw [View.properties, h.snapshot_eq, View.properties]

theorem methodInterfaces_eq (h : s.Of view) : s.view.methodInterfaces = view.methodInterfaces := by
  have hinterface : s.view.methodInterface = view.methodInterface := by
    funext name
    rw [View.methodInterface, h.manifest_eq, h.snapshot_eq, View.methodInterface]
  rw [View.methodInterfaces, h.methods_eq, hinterface, View.methodInterfaces]

theorem inheritanceReport_eq (h : s.Of view) :
    s.view.inheritanceReport = view.inheritanceReport := by
  have hownership : s.view.ownership = view.ownership := by
    rw [View.ownership, View.name, h.manifest_eq, h.snapshot_eq, View.ownership, View.name]
  rw [View.inheritanceReport, h.methodInterfaces_eq, hownership, View.name, h.snapshot_eq]
  rfl

theorem step_doc (h : s.Of view) :
    ∃ next answer, s.perform .doc = (next, answer) ∧ Step view s ⟨s.tree, .doc, answer⟩ next := by
  obtain ⟨classDoc, hdoc, hsound⟩ := h.sound.doc_eq
  refine ⟨⟨s.tree, { s.view with classDoc }⟩, .doc (s.view.snapshot.doc s.view.registry), ?_,
    .of_idle { h with sound := hsound } ?_ rfl nofun nofun⟩
  · rw [perform, hdoc]
  · simp only [Event.Documented, Snapshot.doc, h.snapshot_eq, h.registry_eq]

theorem step_methodDoc (h : s.Of view) (name : String) :
    ∃ next answer, s.perform (.methodDoc name) = (next, answer) ∧
      Step view s ⟨s.tree, .methodDoc name, answer⟩ next := by
  have hmethod := h.sound.method?_eq name
  cases hfound : s.view.snapshot.methods.get? name with
  | none =>
    refine ⟨s, .methodDoc none, ?_, .of_idle h ?_ rfl nofun nofun⟩
    · rw [perform, hmethod, hfound]
    · simp only [Event.Documented, ← h.snapshot_eq, hfound, Option.map_none]
  | some m =>
    obtain ⟨methodDocs, hdoc, hsound⟩ :=
      h.sound.methodDoc_eq (SortedMap.mem_values_iff.2 ⟨name, hfound⟩)
    refine ⟨⟨s.tree, { s.view with methodDocs }⟩, .methodDoc (some (m.doc s.view.registry)), ?_,
      .of_idle { h with sound := hsound } ?_ rfl nofun nofun⟩
    · simp only [perform, hmethod, hfound, hdoc]
    · simp only [Event.Documented, Method.doc, ← h.snapshot_eq, ← h.registry_eq, hfound,
        Option.map_some]

theorem step_propertyDocs (h : s.Of view) (filter : PropertyFilter) :
    ∃ next answer, s.perform (.propertyDocs filter) = (next, answer) ∧
      Step view s ⟨s.tree, .propertyDocs filter, answer⟩ next := by
  obtain ⟨propertyDocs, hdocs, hsound⟩ :=
    h.sound.documented_eq (s.view.properties filter) fun _ => h.sound.get?_property
  refine ⟨⟨s.tree, { s.view with propertyDocs }⟩, .propertyDocs _, by rw [perform, hdocs],
    .of_idle { h with sound := hsound } ?_ rfl nofun nofun⟩
  simp only [Event.Documented, Property.doc, h.properties_eq, h.registry_eq]

theorem step_code (h : s.Of view) (name : String) :
    ∃ next answer, s.perform (.code name) = (next, answer) ∧
      Step view s ⟨s.tree, .code name, answer⟩ next := by
  have hmethod := h.sound.method?_eq name
  cases hfound : s.view.snapshot.methods.get? name with
  | none =>
    refine ⟨s, .code none, ?_, h, trivial, fun m hm => .idle _ ?_ nofun⟩
    · rw [perform, hmethod, hfound]
    · rintro ⟨rfl⟩
      cases hfound.symm.trans (h.sound.get?_method (h.methods_eq ▸ hm))
  | some m =>
    have hm : m ∈ s.view.methods := SortedMap.mem_values_iff.2 ⟨name, hfound⟩
    obtain rfl : m.name = name := h.sound.method_name name m hfound
    have huniq : ∀ other ∈ view.methods, other.name = m.name → other = m := fun other hother =>
      h.sound.eq_of_name hm (h.methods_eq ▸ hother)
    cases hbody : View.bodyIn s.tree s.view.bodies m with
    | error err =>
      obtain ⟨hkept, herr⟩ := View.bodyIn_eq_error_iff.1 hbody
      refine ⟨s, .code (some (.error err)), ?_, .of_code h huniq (fun _ _ => rfl) ?_⟩
      · simp only [perform, hmethod, hfound, View.code_of_error hbody]
      · rw [hkept]
        exact .missed ⟨fun _ => ⟨by rw [herr], err, herr⟩, nofun⟩
    | ok text =>
      obtain ⟨bodies, hcode, hread⟩ := View.code_of_ok hbody
      refine ⟨⟨s.tree, { s.view with bodies }⟩, .code (some (.ok text)), ?_,
        .of_code { h with sound := { h.sound with } } huniq ?_ ?_⟩
      · simp only [perform, hmethod, hfound, hcode]
      · exact fun key hkey => hread.other key (by simpa using hkey)
      · refine .of_readFrom hread List.mem_cons_self (fun _ htext => ⟨htext, .inl rfl, nofun⟩) ?_
        intro text' hbody' _
        obtain rfl := Except.ok.inj (hbody.symm.trans hbody')
        exact ⟨fun _ => rfl, nofun⟩

theorem step_classReport (h : s.Of view) :
    ∃ next answer, s.perform .classReport = (next, answer) ∧
      Step view s ⟨s.tree, .classReport, answer⟩ next := by
  obtain ⟨classDoc, methodDocs, propertyDocs, bodies, result, hreport, hsound, hcases⟩ :=
    h.sound.classReport_cases s.tree
  refine ⟨⟨s.tree, { s.view with classDoc, methodDocs, propertyDocs, bodies }⟩,
    .classReport result, by rw [perform, hreport], { h with sound := hsound }, ?_, fun m hm => ?_⟩
  · intro report hanswer
    obtain ⟨err, -, -, rfl⟩ | ⟨interfaces, -, -, rfl⟩ | ⟨err, -, rfl⟩ := hcases
    · cases hanswer
    · cases hanswer
      rw [← h.registry_eq, ← h.snapshot_eq, ← h.methods_eq]
      exact s.view.describes_reportWith interfaces bodies
    · cases hanswer
  · obtain ⟨err, herr, rfl, rfl⟩ | ⟨interfaces, -, hread, rfl⟩ | ⟨err, hstops, rfl⟩ := hcases
    · exact .of_interfaces _ rfl nofun (h.methodInterfaces_eq ▸ herr)
    · exact .of_reported rfl rfl hread (h.methods_eq ▸ hm)
    · exact .of_stops rfl rfl (h.methods_eq ▸ h.sound.pairwise_methods) (h.methods_eq ▸ hstops) hm

/-- What one action does, and what it is answered with. -/
theorem step (h : s.Of view) (action : Action) :
    Step view s (s.event action) (s.perform action).1 := by
  suffices hstep : ∃ next answer, s.perform action = (next, answer) ∧
      Step view s ⟨s.tree, action, answer⟩ next by
    obtain ⟨next, answer, hperform, hstep⟩ := hstep
    rw [event, hperform]
    exact hstep
  cases action with
  | doc => exact h.step_doc
  | methodDoc name => exact h.step_methodDoc name
  | propertyDocs filter => exact h.step_propertyDocs filter
  | code name => exact h.step_code name
  | classReport => exact h.step_classReport
  | inheritanceReport =>
    refine ⟨s, .inheritanceReport s.view.inheritanceReport, rfl, .of_idle h ?_ rfl nofun nofun⟩
    rw [h.inheritanceReport_eq]
    rfl
  | write path content =>
    exact ⟨⟨_, s.view⟩, .done, rfl, .of_idle { h with } trivial rfl nofun nofun⟩
  | remove path => exact ⟨⟨_, s.view⟩, .done, rfl, .of_idle { h with } trivial rfl nofun nofun⟩

/-! ### Whole sessions -/

theorem run_documented (h : s.Of view) (actions : List Action) :
    ∀ e ∈ s.run actions, e.Documented view := by
  induction actions generalizing s with
  | nil => exact fun _ he => (List.not_mem_nil he).elim
  | cons action rest ih =>
    intro e he
    rcases List.mem_cons.1 he with rfl | he
    · exact (h.step action).documented
    · exact ih (h.step action).of e he

variable {m : Method}

/-- A body that is kept is shown for the rest of the session. -/
theorem run_shows (h : s.Of view) (hm : m ∈ view.methods) {text : String}
    (hkept : s.view.bodies.get? m.name = some text) (actions : List Action) :
    ∀ e ∈ s.run actions, e.Shows view m text := by
  induction actions generalizing s with
  | nil => exact fun _ he => (List.not_mem_nil he).elim
  | cons action rest ih =>
    have hstep := h.step action
    have hbody := hstep.body m hm
    rw [hkept] at hbody
    generalize hnext : (s.perform action).1.view.bodies.get? m.name = next at hbody
    cases hbody with
    | shown hshow =>
      intro e he
      rcases List.mem_cons.1 he with rfl | he
      · exact hshow
      · exact ih hstep.of hnext e he

/-- A body is missed until it is read, and the one that was read is shown from then on. -/
theorem run_body (h : s.Of view) (hm : m ∈ view.methods)
    (hnone : s.view.bodies.get? m.name = none) (actions : List Action) :
    (∀ e ∈ s.run actions, e.Misses view m) ∨
      ∃ before first after text, s.run actions = before ++ first :: after ∧
        (∀ e ∈ before, e.Misses view m) ∧ first.Reads view m text ∧
        ∀ e ∈ first :: after, e.Shows view m text := by
  induction actions generalizing s with
  | nil => exact .inl fun _ he => (List.not_mem_nil he).elim
  | cons action rest ih =>
    have hstep := h.step action
    have hbody := hstep.body m hm
    rw [hnone] at hbody
    -- What is kept after the action tells whether the body was missed or read.
    generalize hnext : (s.perform action).1.view.bodies.get? m.name = next at hbody
    rw [run]
    cases hbody with
    | missed hmiss =>
      obtain hrest | ⟨before, first, after, text, hrest, hbefore, hfirst, hafter⟩ :=
        ih hstep.of hnext
      · exact .inl (List.forall_mem_cons.2 ⟨hmiss, hrest⟩)
      · refine .inr ⟨s.event action :: before, first, after, text, ?_, ?_, hfirst, hafter⟩
        · rw [hrest, List.cons_append]
        · exact List.forall_mem_cons.2 ⟨hmiss, hbefore⟩
    | @read text hread hshow =>
      refine .inr ⟨[], s.event action, run _ rest, text, rfl, ?_, hread, ?_⟩
      · exact fun _ he => (List.not_mem_nil he).elim
      · exact List.forall_mem_cons.2 ⟨hshow, run_shows hstep.of hm hnext rest⟩

end Of

theorem map_action_run (s : Session) (actions : List Action) :
    (s.run actions).map (·.action) = actions := by
  induction actions generalizing s with
  | nil => rfl
  | cons action rest ih => exact congrArg _ (ih _)

/-- Whatever is asked of the view of a class, in whatever order, and whatever becomes of the files
meanwhile: records are those of the comments, and the body of a method is what its file gives up to
the first time that it can be read, and from then on the text that was read then. -/
theorem answers_of_load (reg : Registry) (manifest : Manifest) (name : String) (view : View)
    (hload : View.load reg manifest name = .ok view) (tree : FileTree) (actions : List Action) :
    let events := run ⟨tree, view⟩ actions
    events.map (·.action) = actions ∧
    (∀ e ∈ events, e.Documented view) ∧
    ∀ m ∈ view.methods,
      (∀ e ∈ events, e.Misses view m) ∨
        ∃ before first after text, events = before ++ first :: after ∧
          (∀ e ∈ before, e.Misses view m) ∧ first.Reads view m text ∧
          ∀ e ∈ first :: after, e.Shows view m text := by
  intro events
  have hof : Of view ⟨tree, view⟩ := ⟨rfl, rfl, rfl, View.sound_of_load hload⟩
  refine ⟨map_action_run _ actions, hof.run_documented actions, fun m hm => ?_⟩
  refine hof.run_body hm ?_ actions
  obtain ⟨snapshot, -, rfl⟩ := View.load_eq_ok_iff.1 hload
  rfl

/-- A method whose file is there at first. -/
def draftFold : MethodEntry :=
  { name := "fold", file := some "fold.txt", lines := some (1, 3) }

/-- A method whose file is missing at first. -/
def draftSeal : MethodEntry :=
  { name := "seal", file := some "seal.txt", lines := some (1, 3) }

/-- The class of the two methods. -/
def draftClass : ClassEntry :=
  { name := "Draft", methods := [draftFold, draftSeal] }

/-- The class alone. -/
def drafts : Manifest :=
  Manifest.empty.put draftClass

/-- The files at first. -/
def draftFiles : FileTree :=
  FileTree.writeFile {} "fold.txt" "open\n  crease\nclose".toUTF8

theorem lineage_drafts : drafts.Lineage "Draft" draftClass [] :=
  .of_chainFrom (by decide) (drafts.chainFrom_root _ rfl)

/-- A report that reads one body and fails at the next, after which the file that was read is taken
away and the one that was missing is written. -/
theorem answers_of_load_drafts :
    ∃ view fold failing, View.load .builtin drafts "Draft" = .ok view ∧
      fold ∈ view.methods ∧ failing ∈ view.methods ∧ fold.name < failing.name ∧
      fold.code draftFiles = .ok "crease" ∧
      failing.code draftFiles = .error (.failure (.source "seal.txt" .notFound)) ∧
      let actions := [.classReport, .remove "fold.txt", .code "fold",
        .write "seal.txt" "open\n  wax\nclose".toUTF8, .classReport]
      let events := run ⟨draftFiles, view⟩ actions
      events.map (·.action) = actions ∧ (∀ e ∈ events, e.Documented view) ∧
      ((∀ e ∈ events, e.Misses view fold) ∨
        ∃ before first after text, events = before ++ first :: after ∧
          (∀ e ∈ before, e.Misses view fold) ∧ first.Reads view fold text ∧
          ∀ e ∈ first :: after, e.Shows view fold text) := by
  have hload : View.load .builtin drafts "Draft" = .ok _ :=
    View.load_eq_ok_iff.2 ⟨_, Manifest.snapshot_eq_ok_iff.2 ⟨_, _, lineage_drafts, rfl⟩, rfl⟩
  have hfold : drafts.method draftClass draftFold ∈
      (drafts.snapshotOf draftClass []).methods.values := by
    rw [SortedMap.mem_values_iff]
    exact ⟨"fold", by rw [Manifest.get?_methods]; rfl⟩
  have hseal : drafts.method draftClass draftSeal ∈
      (drafts.snapshotOf draftClass []).methods.values := by
    rw [SortedMap.mem_values_iff]
    exact ⟨"seal", by rw [Manifest.get?_methods]; rfl⟩
  obtain ⟨hactions, hdocumented, hbody⟩ := answers_of_load .builtin drafts "Draft" _ hload
    draftFiles [.classReport, .remove "fold.txt", .code "fold",
      .write "seal.txt" "open\n  wax\nclose".toUTF8, .classReport]
  exact ⟨_, _, _, hload, hfold, hseal, by decide, by decide +kernel, by decide +kernel, hactions,
    hdocumented, hbody _ hfold⟩

end Session

end ClassDocs
