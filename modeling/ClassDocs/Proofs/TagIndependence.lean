import ClassDocs.Proofs.Lockstep
import ClassDocs.Proofs.RegistryCalls
import Mathlib.Data.List.Nodup

/-!
# What the record of a comment depends on

Two registries that do the same with every name that a line of a comment starts with, or do not know
it either of them, give the comment the same record: they cut it at the same lines and the handlers
of its runs have the same effect. So it does not matter in which order handlers of distinct names
are registered, nor whether a name is registered that no line opens.

## Main definitions

* `Registry.AgreeOn`: registries that do the same with a name.
* `Registry.registerAll`: the registry after some handlers are registered one after the other.

## Main results

* `Registry.parse_of_agreeOn`: registries that agree on what the lines of a comment offer.
* `Registry.find?_registerAll`: what stands under a name after some handlers are registered.
* `Registry.parse_depends_on_opened`: the record of a comment depends on what it opens alone.
-/

namespace ClassDocs.Registry

variable {reg other : Registry} {name line comment : String} {handlers : List Handler}

/-! ### Registries that agree on a name -/

/-- Neither registry knows the name, or both bind it to handlers of the same effect. -/
def AgreeOn (reg other : Registry) (name : String) : Prop :=
  (reg.find? name = none ∧ other.find? name = none) ∨
    ∃ handler handler', reg.find? name = some handler ∧ other.find? name = some handler' ∧
      ∀ r lines, handler.apply r lines = handler'.apply r lines

namespace AgreeOn

theorem of_find? (h : reg.find? name = other.find? name) : reg.AgreeOn other name := by
  cases hfind : other.find? name with
  | none => exact .inl ⟨h.trans hfind, hfind⟩
  | some handler => exact .inr ⟨handler, handler, h.trans hfind, hfind, fun _ _ => rfl⟩

theorem contains_eq (h : reg.AgreeOn other name) : reg.contains name = other.contains name := by
  change (reg.find? name).isSome = (other.find? name).isSome
  obtain ⟨hnone, hnone'⟩ | ⟨handler, handler', hfind, hfind', -⟩ := h
  · rw [hnone, hnone']
  · rw [hfind, hfind']
    rfl

theorem sameEffect (h : reg.AgreeOn other name) : SameEffect reg other name name := by
  intro r lines
  obtain ⟨hnone, hnone'⟩ | ⟨handler, handler', hfind, hfind', heffect⟩ := h
  · simp only [dispatch, hnone, hnone']
  · simp only [dispatch, hfind, hfind', heffect]

end AgreeOn

/-- A line is read the same way under registries that agree on the name that it offers. -/
theorem sameLine_of_agreeOn (h : ∀ name, candidate? line = some name → reg.AgreeOn other name) :
    SameLine reg other line line := by
  cases hname : candidate? line with
  | none => exact .continued (by rw [classify, hname]; rfl) (by rw [classify, hname]; rfl)
  | some name =>
    have hagree := h name hname
    have hcontains := hagree.contains_eq
    cases hreg : reg.contains name with
    | false =>
      rw [hreg] at hcontains
      refine .continued ?_ ?_
      · rw [classify, hname, Option.filter_some_neg hreg]
      · rw [classify, hname, Option.filter_some_neg hcontains.symm]
    | true =>
      rw [hreg] at hcontains
      refine .opened ?_ ?_ rfl hagree.sameEffect
      · rw [classify, hname, Option.filter_some_pos hreg]
      · rw [classify, hname, Option.filter_some_pos hcontains.symm]

theorem parse_of_agreeOn (h : ∀ line ∈ Comment.contentLines comment, ∀ name,
    candidate? line = some name → reg.AgreeOn other name) :
    reg.parse comment = other.parse comment :=
  parse_of_forall₂ (List.forall₂_same.2 fun line hline => sameLine_of_agreeOn (h line hline))

/-- An offered name is what the line has between its marker and the first space or the end. -/
theorem exists_of_candidate? (h : candidate? line = some name) :
    ∃ rest, line.toList = '@' :: rest ∧ name = String.ofList (rest.takeWhile (· != ' ')) := by
  unfold candidate? at h
  split at h
  · rename_i rest hline
    simp only at h
    split_ifs at h
    exact ⟨rest, hline, (Option.some.inj h).symm⟩
  · cases h

/-! ### Registering several handlers -/

/-- The registry after some handlers are registered, one after the other. Those whose name is
refused leave no trace. -/
def registerAll (reg : Registry) (handlers : List Handler) : Registry :=
  handlers.foldl (fun reg handler => reg.after (.add handler)) reg

/-- Of handlers with distinct names, the one that has the name is found under it if it is not
refused; without such a one, what was there before. -/
theorem find?_registerAll (hdistinct : (handlers.map (·.name)).Nodup) {found : Handler} :
    (reg.registerAll handlers).find? name = some found ↔
      (found ∈ handlers ∧ TagName found.name ∧ found.name = name) ∨
        ((∀ handler ∈ handlers, TagName handler.name → handler.name ≠ name) ∧
          reg.find? name = some found) := by
  induction handlers generalizing reg with
  | nil => simp [registerAll]
  | cons first rest ih =>
    obtain ⟨hfirst, hrest⟩ := List.nodup_cons.1 hdistinct
    have hother : ∀ handler ∈ rest, handler.name ≠ first.name := fun handler hmem heq =>
      hfirst (List.mem_map.2 ⟨handler, hmem, heq⟩)
    change ((reg.after (.add first)).registerAll rest).find? name = some found ↔ _
    rw [ih hrest, find?_after_add]
    by_cases hhit : TagName first.name ∧ first.name = name
    · obtain ⟨hvalid, rfl⟩ := hhit
      have hnone : ∀ handler ∈ rest, TagName handler.name → handler.name ≠ first.name :=
        fun handler hmem _ => hother handler hmem
      rw [if_pos ⟨hvalid, rfl⟩]
      constructor
      · rintro (⟨hmem, -, heq⟩ | ⟨-, heq⟩)
        · exact absurd heq (hother found hmem)
        · obtain rfl := Option.some.inj heq
          exact .inl ⟨List.mem_cons_self, hvalid, rfl⟩
      · rintro (⟨hmem, -, heq⟩ | ⟨hmiss, -⟩)
        · rcases List.mem_cons.1 hmem with rfl | hmem
          · exact .inr ⟨hnone, rfl⟩
          · exact absurd heq (hother found hmem)
        · exact absurd rfl (hmiss first List.mem_cons_self hvalid)
    · -- The first handler is refused or has another name, so that it adds nothing on either side.
      rw [if_neg hhit]
      simp only [List.mem_cons, forall_eq_or_imp]
      grind

/-- Under every name the same is found, in whatever order the handlers are registered. -/
theorem find?_registerAll_perm {handlers' : List Handler} (hperm : handlers.Perm handlers')
    (hdistinct : (handlers.map (·.name)).Nodup) (reg : Registry) (name : String) :
    (reg.registerAll handlers).find? name = (reg.registerAll handlers').find? name := by
  have hdistinct' : (handlers'.map (·.name)).Nodup := (hperm.map _).nodup_iff.1 hdistinct
  refine Option.ext fun found => ?_
  simp only [find?_registerAll hdistinct, find?_registerAll hdistinct', hperm.mem_iff]

/-! ### Names that no line opens -/

theorem parse_after_add {handler : Handler}
    (h : ∀ line ∈ Comment.contentLines comment,
      (reg.after (.add handler)).classify line ≠ some handler.name) :
    (reg.after (.add handler)).parse comment = reg.parse comment := by
  rw [after_add] at h ⊢
  split_ifs at h ⊢ with hvalid
  · refine parse_of_agreeOn fun line hline name hname => .of_find? ?_
    have hcontains : (reg.put handler).contains handler.name = true :=
      contains_iff_find?.2 ⟨handler, by rw [find?_put, if_pos rfl]⟩
    have hne : name ≠ handler.name := by
      rintro rfl
      exact h line hline (by rw [classify, hname, Option.filter_some_pos hcontains])
    rw [find?_put, if_neg hne]
  · rfl

theorem parse_remove (h : ∀ line ∈ Comment.contentLines comment, reg.classify line ≠ some name) :
    (reg.remove name).parse comment = reg.parse comment := by
  refine parse_of_agreeOn fun line hline offered hoffered => .of_find? ?_
  rw [find?_remove]
  split_ifs with hname
  · subst hname
    -- The line offers the name and does not open it, so that it was not registered.
    cases hfind : reg.find? offered with
    | none => rfl
    | some handler =>
      have hcontains := contains_iff_find?.2 ⟨handler, hfind⟩
      have hopen : reg.classify line = some offered := by
        rw [classify, hoffered, Option.filter_some_pos hcontains]
      exact absurd hopen (h line hline)
  · rfl

/-! ### The record of a comment -/

/-- Registries that agree on the names with which the lines of a comment start give it the same
record. In particular handlers of distinct names can be registered in any order, and a handler
whose name no line opens can be added or removed. -/
theorem parse_depends_on_opened :
    (∀ (reg other : Registry) (comment : String),
      (∀ line ∈ Comment.contentLines comment, ∀ rest, line.toList = '@' :: rest →
        reg.AgreeOn other (String.ofList (rest.takeWhile (· != ' ')))) →
      reg.parse comment = other.parse comment) ∧
    (∀ (reg : Registry) (handlers handlers' : List Handler) (comment : String),
      handlers.Perm handlers' → (handlers.map (·.name)).Nodup →
      (reg.registerAll handlers).parse comment = (reg.registerAll handlers').parse comment) ∧
    (∀ (reg : Registry) (handler : Handler) (comment : String),
      (∀ line ∈ Comment.contentLines comment,
        (reg.after (.add handler)).classify line ≠ some handler.name) →
      (reg.after (.add handler)).parse comment = reg.parse comment) ∧
    ∀ (reg : Registry) (name comment : String),
      (∀ line ∈ Comment.contentLines comment, reg.classify line ≠ some name) →
      (reg.after (.remove name)).parse comment = reg.parse comment := by
  refine ⟨?_, ?_, fun _ _ _ => parse_after_add, fun _ _ _ => parse_remove⟩
  · intro reg other comment h
    refine parse_of_agreeOn fun line hline name hname => ?_
    obtain ⟨rest, hrest, rfl⟩ := exists_of_candidate? hname
    exact h line hline rest hrest
  · intro reg handlers handlers' comment hperm hdistinct
    refine parse_of_agreeOn fun _ _ name _ => .of_find? ?_
    exact find?_registerAll_perm hperm hdistinct reg name

/-- A handler with the effect of the built-in kind of tasks, written out. -/
def noteHandler : Handler where
  name := "note"
  apply r lines := r.addTodo (String.intercalate "\n" lines)

/-- A comment with one tag that both registries have, by handlers of the same effect, and one that
neither has, while only one of them has a third. -/
theorem parse_depends_on_opened_note :
    let comment := "/**\n * Opens\n * @note leaks\n * memory\n * @other x\n */"
    let noted := empty.put noteHandler
    let richer := (empty.put (.builtin "note" .todo)).put (.builtin "see" .see)
    let see := Handler.builtin "see" .see
    noted.parse comment = richer.parse comment ∧
      (empty.registerAll [noteHandler, see]).parse comment =
        (empty.registerAll [see, noteHandler]).parse comment ∧
      (noted.after (.add see)).parse comment = noted.parse comment ∧
      (richer.after (.remove "see")).parse comment = richer.parse comment := by
  intro comment noted richer see
  have hcontent : Comment.contentLines comment =
      ["Opens", "@note leaks", "memory", "@other x"] := by decide
  obtain ⟨hagree, hperm, hadd, hremove⟩ := parse_depends_on_opened
  refine ⟨hagree _ _ _ fun line hline rest hrest => ?_,
    hperm _ _ _ _ (.swap _ _ _) (by decide), hadd _ _ _ (by decide), hremove _ _ _ (by decide)⟩
  have hnote : noted.AgreeOn richer "note" :=
    .inr ⟨noteHandler, .builtin "note" .todo, rfl, rfl, fun _ _ => rfl⟩
  have hother : noted.AgreeOn richer "other" := .inl ⟨rfl, rfl⟩
  rw [hcontent] at hline
  simp only [List.mem_cons, List.not_mem_nil, or_false] at hline
  rcases hline with rfl | rfl | rfl | rfl
  · simp at hrest
  · obtain rfl : "@note leaks".toList.tail = rest := congrArg List.tail hrest
    exact hnote
  · simp at hrest
  · obtain rfl : "@other x".toList.tail = rest := congrArg List.tail hrest
    exact hother

end ClassDocs.Registry
