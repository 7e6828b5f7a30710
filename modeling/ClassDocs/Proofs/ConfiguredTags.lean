import ClassDocs.Proofs.ConfigChecks
import ClassDocs.Proofs.RegistryCalls

/-!
# Tags of a configuration

A configuration takes tags away from those known from the start and then adds its aliases in the
order of their names. Whether an alias can be added does not depend on the registry, so that the
aliases may all be read first. The tags that come out are told name by name: an alias counts before
a tag known from the start, and being disabled matters only to the latter.

## Main definitions

* `TagKind.Names`: the texts that name a kind.
* `Config.Addable`, `Config.AliasFault`: aliases that can be added, and what is wrong with others.
* `Config.Binds`: the kind of tag that a name stands for.

## Main results

* `Config.registry_eq`: the aliases may all be read before any is added.
* `Config.registry_eq_error_iff`: the smallest alias that cannot be added is reported.
* `Config.find?_of_registry`: what is found under a name.
* `Config.configured_tags`: the tags of a configuration.
-/

namespace ClassDocs

/-! ### Texts that name a kind -/

namespace TagKind

variable {text name : String} {kind : TagKind}

/-- A text names a kind when it is the spelling of the kind or a tag name of it. -/
def Names (text : String) (kind : TagKind) : Prop :=
  kind.spelling = text ∨ (text, kind) ∈ builtinNames

/-- Each kind is known under its own spelling. -/
theorem spelling_mem_builtinNames (kind : TagKind) : (kind.spelling, kind) ∈ builtinNames := by
  cases kind <;> simp [spelling, builtinNames]

theorem increasing_builtinNames : (builtinNames.map (·.1)).Pairwise (· < ·) := by
  decide

/-- A tag name known from the start has one kind. -/
theorem eq_of_mem_builtinNames {other : TagKind} (h : (name, kind) ∈ builtinNames)
    (hother : (name, other) ∈ builtinNames) : kind = other := by
  have hnodup : (builtinNames.map (·.1)).Nodup := increasing_builtinNames.imp String.ne_of_lt
  exact congrArg Prod.snd (List.inj_on_of_nodup_map hnodup h hother rfl)

theorem names_iff : Names text kind ↔ (text, kind) ∈ builtinNames := by
  refine ⟨?_, .inr⟩
  rintro (rfl | hmem)
  · exact spelling_mem_builtinNames kind
  · exact hmem

/-- The kind that is read from a text is the one that the text names. -/
theorem ofName_eq_ok_iff : ofName text = .ok kind ↔ Names text kind := by
  rw [ofName, names_iff]
  have hnames {e : String × TagKind} (he : e ∈ builtinNames)
      (hmatch : (e.1 == text || e.2.spelling == text) = true) : (text, e.2) ∈ builtinNames := by
    rcases Bool.or_eq_true_iff.1 hmatch with htag | hspelling
    · exact eq_of_beq htag ▸ he
    · exact names_iff.1 (.inl (eq_of_beq hspelling))
  cases hfind : builtinNames.find? fun e => e.1 == text || e.2.spelling == text with
  | none =>
    refine ⟨nofun, fun hmem => ?_⟩
    have hnone := List.find?_eq_none.1 hfind _ hmem
    simp at hnone
  | some e =>
    have hmatch := List.find?_some hfind
    have hmem := hnames (List.mem_of_find?_eq_some hfind) hmatch
    constructor
    · intro h
      exact Except.ok.inj h ▸ hmem
    · intro h
      exact congrArg Except.ok (eq_of_mem_builtinNames hmem h)

theorem ofName_eq_error_iff {e : DocError} :
    ofName text = .error e ↔ (∀ kind, ¬Names text kind) ∧ e = .unknownTagKind text := by
  simp only [← ofName_eq_ok_iff, ofName]
  cases builtinNames.find? fun e => e.1 == text || e.2.spelling == text <;> simp [eq_comm]

end TagKind

/-- The tags known from the start are found under their names. -/
theorem Registry.find?_builtin {name : String} {handler : Handler} :
    Registry.builtin.find? name = some handler ↔
      ∃ kind, (name, kind) ∈ TagKind.builtinNames ∧ handler = .builtin name kind := by
  have hnames : ∀ a ∈ TagKind.builtinNames.map fun b => Handler.builtin b.1 b.2,
      ∀ b ∈ TagKind.builtinNames.map fun b => Handler.builtin b.1 b.2,
        a.name = b.name → a = b := by
    intro a ha b hb hname
    obtain ⟨⟨first, kind⟩, hfirst, rfl⟩ := List.mem_map.1 ha
    obtain ⟨⟨second, other⟩, hsecond, rfl⟩ := List.mem_map.1 hb
    obtain rfl : first = second := hname
    rw [TagKind.eq_of_mem_builtinNames hfirst hsecond]
  rw [builtin_eq, find?_foldl_put hnames]
  simp only [empty, find?, SortedMap.get?_empty, reduceCtorEq, and_false, or_false, List.mem_map]
  constructor
  · rintro ⟨⟨⟨tag, kind⟩, hmem, rfl⟩, rfl⟩
    exact ⟨kind, hmem, rfl⟩
  · rintro ⟨kind, hmem, rfl⟩
    exact ⟨⟨(name, kind), hmem, rfl⟩, rfl⟩

namespace Config

open Registry (TagName)

variable {config : Config} {name text : String} {handler : Handler} {reg : Registry}

/-! ### One alias -/

/-- An alias that can be added: its text names a kind, and its name can name a tag. -/
def Addable (name text : String) : Prop :=
  (∃ kind, TagKind.Names text kind) ∧ TagName name

/-- What is wrong with an alias. The name is looked at only when there is a kind. -/
inductive AliasFault (name text : String) : ConfigError → Prop
  | kind (hkind : ∀ kind, ¬TagKind.Names text kind) :
      AliasFault name text (.invalidAlias name (.unknownTagKind text))
  | name {kind : TagKind} (hkind : TagKind.Names text kind) (hname : ¬TagName name) :
      AliasFault name text (.invalidTag (.invalidTagName name))

/-- The handler that an alias stands for. -/
def aliasHandler (entry : String × String) : Except ConfigError Handler :=
  match TagKind.ofName entry.2 with
  | .error cause => .error (.invalidAlias entry.1 cause)
  | .ok kind =>
    if Registry.isTagName entry.1 then .ok (.builtin entry.1 kind)
    else .error (.invalidTag (.invalidTagName entry.1))

/-- Adding an alias is reading it, whatever the registry, and then putting it in. -/
theorem addAlias_eq (reg : Registry) (entry : String × String) :
    addAlias reg entry = (aliasHandler entry).map reg.put := by
  rw [addAlias, aliasHandler]
  cases TagKind.ofName entry.2 with
  | error cause => rfl
  | ok kind =>
    simp only [Registry.addAlias, Registry.add, Handler.builtin]
    by_cases hname : Registry.isTagName entry.1 = true <;> simp [hname, Except.map]

theorem aliasHandler_eq_ok_iff : aliasHandler (name, text) = .ok handler ↔
    ∃ kind, TagKind.Names text kind ∧ TagName name ∧ handler = .builtin name kind := by
  simp only [← TagKind.ofName_eq_ok_iff, ← Registry.isTagName_iff, aliasHandler]
  cases TagKind.ofName text with
  | error cause => simp
  | ok kind =>
    simp only [Except.ok.injEq, exists_eq_left']
    cases Registry.isTagName name <;> simp [eq_comm]

theorem exists_aliasHandler_iff :
    (∃ handler, aliasHandler (name, text) = .ok handler) ↔ Addable name text := by
  simp only [aliasHandler_eq_ok_iff]
  constructor
  · rintro ⟨-, kind, hkind, hname, -⟩
    exact ⟨⟨kind, hkind⟩, hname⟩
  · rintro ⟨⟨kind, hkind⟩, hname⟩
    exact ⟨_, kind, hkind, hname, rfl⟩

theorem aliasHandler_eq_error_iff {e : ConfigError} :
    aliasHandler (name, text) = .error e ↔ AliasFault name text e := by
  rw [aliasHandler]
  constructor
  · intro h
    cases hkind : TagKind.ofName text with
    | error cause =>
      rw [hkind] at h
      obtain ⟨hnone, rfl⟩ := TagKind.ofName_eq_error_iff.1 hkind
      exact Except.error.inj h ▸ .kind hnone
    | ok kind =>
      simp only [hkind] at h
      split_ifs at h with hname
      exact Except.error.inj h ▸
        .name (TagKind.ofName_eq_ok_iff.1 hkind) (mt Registry.isTagName_iff.2 hname)
  · rintro (hnone | ⟨hkind, hname⟩)
    · simp only [TagKind.ofName_eq_error_iff.2 ⟨hnone, rfl⟩]
    · simp only [TagKind.ofName_eq_ok_iff.2 hkind]
      rw [if_neg (mt Registry.isTagName_iff.1 hname)]

/-! ### All aliases -/

/-- The aliases may all be read before any is added. -/
theorem registry_eq (config : Config) :
    config.registry = (config.tags.aliases.entries.mapM aliasHandler).map
      (List.foldl Registry.put (config.tags.disabled.foldl Registry.remove Registry.builtin)) := by
  have hadd : addAlias = fun reg entry => (aliasHandler entry).map reg.put :=
    funext fun reg => funext fun entry => addAlias_eq reg entry
  rw [registry, hadd, foldlM_map]

theorem registry_eq_ok_iff : config.registry = .ok reg ↔
    ∃ handlers, config.tags.aliases.entries.mapM aliasHandler = .ok handlers ∧
      reg = handlers.foldl Registry.put
        (config.tags.disabled.foldl Registry.remove Registry.builtin) := by
  rw [registry_eq]
  cases config.tags.aliases.entries.mapM aliasHandler <;> simp [Except.map, eq_comm]

/-- The tags can be set up when every alias can be added. -/
theorem exists_registry_iff : (∃ reg, config.registry = .ok reg) ↔
    ∀ name text, config.tags.aliases.get? name = some text → Addable name text := by
  simp only [registry_eq_ok_iff]
  rw [exists_comm]
  simp only [exists_and_left, exists_eq, and_true, exists_mapM_eq_ok_iff]
  simp only [SortedMap.get?_eq_some_iff, ← exists_aliasHandler_iff, Prod.forall]

/-- Of the aliases that cannot be added the one with the smallest name is reported. -/
theorem registry_eq_error_iff {e : ConfigError} : config.registry = .error e ↔
    ∃ name text, config.tags.aliases.get? name = some text ∧ AliasFault name text e ∧
      ∀ smaller other, smaller < name → config.tags.aliases.get? smaller = some other →
        Addable smaller other := by
  have herror : config.registry = .error e ↔
      config.tags.aliases.entries.mapM aliasHandler = .error e := by
    rw [registry_eq]
    cases config.tags.aliases.entries.mapM aliasHandler <;> simp [Except.map]
  rw [herror, mapM_eq_error_iff, SortedMap.exists_entries_eq_append_iff]
  simp only [aliasHandler_eq_error_iff, exists_aliasHandler_iff]

/-- Of an alias with two faults the kind is reported. -/
example : registry { tags := { aliases := .ofList [("z z", "todo"), ("9x", "none")] } } =
    .error (.invalidAlias "9x" (.unknownTagKind "none")) := rfl

/-! ### What is found under a name -/

/-- The kind of tag that a name stands for: that of its alias or else, unless the name is disabled,
the one it has from the start. -/
inductive Binds (config : Config) (name : String) (kind : TagKind) : Prop
  | aliased {text : String} (halias : config.tags.aliases.get? name = some text)
      (hkind : TagKind.Names text kind)
  | builtin (hfree : config.tags.aliases.get? name = none)
      (hbuiltin : (name, kind) ∈ TagKind.builtinNames) (henabled : name ∉ config.tags.disabled)

section Handlers

variable {handlers : List Handler}

/-- The handlers with a name are those of the alias with this name. -/
theorem mem_handlers_iff (h : config.tags.aliases.entries.mapM aliasHandler = .ok handlers) :
    handler ∈ handlers ∧ handler.name = name ↔
      ∃ text, config.tags.aliases.get? name = some text ∧
        aliasHandler (name, text) = .ok handler := by
  rw [mem_iff_of_mapM_eq_ok h]
  simp only [SortedMap.get?_eq_some_iff]
  constructor
  · rintro ⟨⟨⟨key, text⟩, hmem, hread⟩, rfl⟩
    obtain ⟨kind, -, -, rfl⟩ := aliasHandler_eq_ok_iff.1 hread
    exact ⟨text, hmem, hread⟩
  · rintro ⟨text, hmem, hread⟩
    obtain ⟨kind, -, -, rfl⟩ := aliasHandler_eq_ok_iff.1 hread
    exact ⟨⟨(name, text), hmem, hread⟩, rfl⟩

theorem handlers_inj (h : config.tags.aliases.entries.mapM aliasHandler = .ok handlers) :
    ∀ a ∈ handlers, ∀ b ∈ handlers, a.name = b.name → a = b := by
  intro a ha b hb hname
  obtain ⟨text, halias, hread⟩ := (mem_handlers_iff h).1 ⟨ha, hname⟩
  obtain ⟨other, halias', hread'⟩ := (mem_handlers_iff h).1 ⟨hb, rfl⟩
  obtain rfl : text = other := Option.some.inj (halias.symm.trans halias')
  exact Except.ok.inj (hread.symm.trans hread')

/-- No handler has a name that is not an alias. -/
theorem forall_handlers_ne_iff
    (h : config.tags.aliases.entries.mapM aliasHandler = .ok handlers) :
    (∀ other ∈ handlers, other.name ≠ name) ↔ config.tags.aliases.get? name = none := by
  constructor
  · intro hnone
    cases halias : config.tags.aliases.get? name with
    | none => rfl
    | some text =>
      obtain ⟨handler, hread⟩ := exists_mapM_eq_ok_iff.1 ⟨handlers, h⟩ (name, text)
        (SortedMap.get?_eq_some_iff.1 halias)
      obtain ⟨hmem, hname⟩ := (mem_handlers_iff h).2 ⟨text, halias, hread⟩
      exact absurd hname (hnone handler hmem)
  · intro hfree other hother hname
    obtain ⟨text, halias, -⟩ := (mem_handlers_iff h).1 ⟨hother, hname⟩
    cases hfree.symm.trans halias

end Handlers

/-- Under a name is found the handler of the kind that the name stands for. -/
theorem find?_of_registry (h : config.registry = .ok reg) :
    reg.find? name = some handler ↔
      ∃ kind, config.Binds name kind ∧ handler = .builtin name kind := by
  obtain ⟨handlers, hread, rfl⟩ := registry_eq_ok_iff.1 h
  rw [Registry.find?_foldl_put (handlers_inj hread), mem_handlers_iff hread,
    forall_handlers_ne_iff hread, Registry.find?_foldl_remove]
  constructor
  · rintro (⟨text, halias, hhandler⟩ | ⟨hfree, hfound⟩)
    · obtain ⟨kind, hkind, -, rfl⟩ := aliasHandler_eq_ok_iff.1 hhandler
      exact ⟨kind, .aliased halias hkind, rfl⟩
    · split_ifs at hfound with hdisabled
      obtain ⟨kind, hbuiltin, rfl⟩ := Registry.find?_builtin.1 hfound
      exact ⟨kind, .builtin hfree hbuiltin hdisabled, rfl⟩
  · rintro ⟨kind, ⟨halias, hkind⟩ | ⟨hfree, hbuiltin, henabled⟩, rfl⟩
    · obtain ⟨-, hname⟩ := exists_registry_iff.1 ⟨_, h⟩ name _ halias
      exact .inl ⟨_, halias, aliasHandler_eq_ok_iff.2 ⟨kind, hkind, hname, rfl⟩⟩
    · rw [if_neg henabled]
      exact .inr ⟨hfree, Registry.find?_builtin.2 ⟨kind, hbuiltin, rfl⟩⟩

/-- A name is registered when it is an alias, or known from the start and not disabled. -/
theorem contains_of_registry (h : config.registry = .ok reg) :
    reg.contains name = true ↔
      (∃ text, config.tags.aliases.get? name = some text) ∨
        (∃ kind, (name, kind) ∈ TagKind.builtinNames) ∧ name ∉ config.tags.disabled := by
  simp only [Registry.contains_iff_find?, find?_of_registry h]
  constructor
  · rintro ⟨-, kind, ⟨halias, -⟩ | ⟨-, hbuiltin, henabled⟩, -⟩
    · exact .inl ⟨_, halias⟩
    · exact .inr ⟨⟨kind, hbuiltin⟩, henabled⟩
  · intro hname
    cases halias : config.tags.aliases.get? name with
    | some text =>
      obtain ⟨⟨kind, hkind⟩, -⟩ := exists_registry_iff.1 ⟨reg, h⟩ name text halias
      exact ⟨_, kind, .aliased halias hkind, rfl⟩
    | none =>
      obtain ⟨⟨kind, hbuiltin⟩, henabled⟩ := hname.resolve_left (by simp [halias])
      exact ⟨_, kind, .builtin halias hbuiltin henabled, rfl⟩

/-- Of the disabled names only those known from the start matter. -/
theorem registry_congr {other : Config} (haliases : other.tags.aliases = config.tags.aliases)
    (hdisabled : ∀ b ∈ TagKind.builtinNames,
      b.1 ∈ other.tags.disabled ↔ b.1 ∈ config.tags.disabled) :
    other.registry = config.registry := by
  have hstart : other.tags.disabled.foldl Registry.remove Registry.builtin =
      config.tags.disabled.foldl Registry.remove Registry.builtin := by
    refine Registry.ext_find? fun name => ?_
    rw [Registry.find?_foldl_remove, Registry.find?_foldl_remove]
    cases hfind : Registry.builtin.find? name with
    | none => simp
    | some handler =>
      obtain ⟨kind, hbuiltin, -⟩ := Registry.find?_builtin.1 hfind
      simp only [hdisabled _ hbuiltin]
  rw [registry_eq, registry_eq, haliases, hstart]

/-- The tags of a configuration are those known from the start without the disabled ones, and the
aliases. They can be set up when every alias can be added, and otherwise what is wrong with the
smallest one that cannot is reported. An alias stands for its own kind, even if its name is disabled
or known from the start. Neither the order of the disabled names nor a name that is not known from
the start makes a difference. -/
theorem configured_tags (config : Config) :
    ((∃ reg, config.registry = .ok reg) ↔
      ∀ name text, config.tags.aliases.get? name = some text → Addable name text) ∧
    (∀ e, config.registry = .error e ↔
      ∃ name text, config.tags.aliases.get? name = some text ∧ AliasFault name text e ∧
        ∀ smaller other, smaller < name → config.tags.aliases.get? smaller = some other →
          Addable smaller other) ∧
    (∀ reg, config.registry = .ok reg → ∀ name,
      (reg.contains name = true ↔
        (∃ text, config.tags.aliases.get? name = some text) ∨
          (∃ kind, (name, kind) ∈ TagKind.builtinNames) ∧ name ∉ config.tags.disabled) ∧
      ∀ handler, reg.find? name = some handler ↔
        ∃ kind, config.Binds name kind ∧ handler = .builtin name kind) ∧
    ∀ other : Config, other.tags.aliases = config.tags.aliases →
      (∀ b ∈ TagKind.builtinNames, b.1 ∈ other.tags.disabled ↔ b.1 ∈ config.tags.disabled) →
      other.registry = config.registry :=
  ⟨exists_registry_iff, fun _ => registry_eq_error_iff,
    fun _ h _ => ⟨contains_of_registry h, fun _ => find?_of_registry h⟩,
    fun _ => registry_congr⟩

/-- Aliases over a disabled name and over one known from the start, and a disabled name that is not
known at all. -/
def overlapping : Config where
  tags := {
    disabled := ["todo", "fixme", "see", "todo"]
    aliases := .ofList [("link", "todo"), ("todo", "staticvar")] }

/-- The aliases count, the other disabled name is gone, and the tags would be the same without the
name that is not known. -/
theorem configured_tags_overlapping : ∃ reg, overlapping.registry = .ok reg ∧
    reg.find? "todo" = some (.builtin "todo" .static) ∧
    reg.find? "link" = some (.builtin "link" .todo) ∧ ¬reg.contains "see" = true ∧
    registry { tags := { overlapping.tags with disabled := ["see", "todo"] } } = .ok reg := by
  obtain ⟨hset, -, hnames, hsame⟩ := configured_tags overlapping
  have htodo : overlapping.tags.aliases.get? "todo" = some "staticvar" := by decide
  have hlink : overlapping.tags.aliases.get? "link" = some "todo" := by decide
  obtain ⟨reg, hreg⟩ := hset.2 fun name text halias => by
    have hentry : (name, text) ∈ [("link", "todo"), ("todo", "staticvar")] :=
      SortedMap.get?_eq_some_iff.1 halias
    simp only [List.mem_cons, Prod.mk.injEq, List.not_mem_nil, or_false] at hentry
    rcases hentry with ⟨rfl, rfl⟩ | ⟨rfl, rfl⟩
    · exact ⟨⟨.todo, .inl rfl⟩, by decide⟩
    · exact ⟨⟨.static, .inr (by decide)⟩, by decide⟩
  refine ⟨reg, hreg, ?_, ?_, ?_, ?_⟩
  · exact ((hnames reg hreg "todo").2 _).2 ⟨.static, .aliased htodo (.inr (by decide)), rfl⟩
  · exact ((hnames reg hreg "link").2 _).2 ⟨.todo, .aliased hlink (.inl rfl), rfl⟩
  · rw [(hnames reg hreg "see").1]
    rintro (⟨text, halias⟩ | ⟨-, henabled⟩)
    · exact absurd (SortedMap.mem_keys_of_get? halias) (by decide)
    · exact henabled (by decide)
  · rw [← hreg]
    exact hsame _ rfl (by decide)

end Config

end ClassDocs
