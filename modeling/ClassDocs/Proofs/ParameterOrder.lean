import ClassDocs.Proofs.RecordInvariant
import Mathlib.Data.List.Nodup

/-!
# The order of parameters

Parameters are added to a record one after the other, and names may come again, also the missing
name. Where a parameter stands is decided by the first one that was added under its name, and what
it says by the last one. These two rules leave no choice, so they tell the parameters of a record
from the additions.

## Main definitions

* `Record.LastAdded`: a parameter that no later one of the same name replaces.
* `Record.firstPlace`: where a name is first added.
* `Record.Collected`: the parameters that are left of those added.

## Main results

* `Record.Collected.putParameter`: one addition.
* `Record.collected_foldl`: a sequence of additions.
* `Record.Collected.unique`: what is left is told by the additions.
* `Record.parameters_of_additions`: the parameters of a record and how they are found.
-/

namespace ClassDocs.Record

variable {added ps : List Parameter} {p q : Parameter} {name : Option String}

/-- Among the parameters added, no later one has the name of this one. -/
def LastAdded (added : List Parameter) (p : Parameter) : Prop :=
  ∃ before after, added = before ++ p :: after ∧ ∀ q ∈ after, q.name ≠ p.name

/-- The place of the first parameter that was added under a name. -/
def firstPlace (added : List Parameter) (name : Option String) : Nat :=
  (added.map (·.name)).idxOf name

/-- What is left of the parameters added: one of each name, in the order in which the names were
first added, and each of them the last one of its name. -/
structure Collected (added ps : List Parameter) : Prop where
  names : ∀ name, name ∈ ps.map (·.name) ↔ name ∈ added.map (·.name)
  ordered : (ps.map (·.name)).Pairwise fun m n => firstPlace added m < firstPlace added n
  last : ∀ p ∈ ps, LastAdded added p

/-! ### One more parameter -/

theorem not_lastAdded_nil : ¬ LastAdded [] p := by
  rintro ⟨before, after, h, -⟩
  simp at h

theorem lastAdded_concat_iff :
    LastAdded (added ++ [p]) q ↔ q = p ∨ LastAdded added q ∧ q.name ≠ p.name := by
  constructor
  · rintro ⟨before, after, hsplit, hafter⟩
    rcases List.eq_nil_or_concat after with rfl | ⟨after, x, rfl⟩
    · exact .inl (List.singleton_inj.1 (List.append_inj_right' hsplit rfl)).symm
    · rw [List.concat_eq_append] at hsplit hafter
      rw [← List.cons_append, ← List.append_assoc] at hsplit
      obtain ⟨rfl, hx⟩ := List.append_inj' hsplit rfl
      obtain rfl := List.singleton_inj.1 hx
      refine .inr ⟨⟨before, after, rfl, fun r hr => ?_⟩, ?_⟩
      · exact hafter r (List.mem_append_left _ hr)
      · exact (hafter p (List.mem_append_right _ (List.mem_singleton_self p))).symm
  · rintro (rfl | ⟨⟨before, after, rfl, hafter⟩, hname⟩)
    · exact ⟨added, [], rfl, by simp⟩
    · refine ⟨before, after ++ [p], by simp, fun r hr => ?_⟩
      rcases List.mem_append.1 hr with hr | hr
      · exact hafter r hr
      · rw [List.mem_singleton.1 hr]
        exact hname.symm

theorem LastAdded.unique (hp : LastAdded added p) (hq : LastAdded added q)
    (hname : p.name = q.name) : p = q := by
  induction added using List.reverseRecOn with
  | nil => exact absurd hp not_lastAdded_nil
  | append_singleton added r ih =>
    -- The last addition replaces what has its name, so it cannot be one of two.
    rcases lastAdded_concat_iff.1 hp with rfl | ⟨hp, hpr⟩ <;>
      rcases lastAdded_concat_iff.1 hq with rfl | ⟨hq, hqr⟩
    · rfl
    · exact absurd hname.symm hqr
    · exact absurd hname hpr
    · exact ih hp hq

theorem LastAdded.mem (h : LastAdded added p) : p ∈ added := by
  obtain ⟨before, after, rfl, -⟩ := h
  exact List.mem_append_right _ List.mem_cons_self

theorem firstPlace_concat_of_mem (h : name ∈ added.map (·.name)) :
    firstPlace (added ++ [p]) name = firstPlace added name := by
  rw [firstPlace, List.map_append, List.idxOf_append_of_mem h, firstPlace]

/-- A new name comes after all names added before. -/
theorem firstPlace_lt_firstPlace_concat (h : name ∈ added.map (·.name))
    (hnew : p.name ∉ added.map (·.name)) :
    firstPlace added name < firstPlace (added ++ [p]) p.name := by
  have hlt : firstPlace added name < (added.map (·.name)).length := List.idxOf_lt_length_iff.2 h
  rw [firstPlace, firstPlace, List.map_append, List.idxOf_append_of_notMem hnew]
  exact Nat.lt_add_right _ hlt

/-- Where names are distinct, a parameter takes the place of the one with its name, and all others
stay. -/
theorem mem_putParameter_iff (hnames : (ps.map (·.name)).Nodup) :
    q ∈ putParameter p ps ↔ q = p ∨ q ∈ ps ∧ q.name ≠ p.name := by
  induction ps with
  | nil => simp [putParameter]
  | cons first rest ih =>
    obtain ⟨hfirst, hrest⟩ := List.nodup_cons.1 hnames
    rw [putParameter]
    split_ifs with hname
    · have hothers : ∀ r ∈ rest, r.name ≠ p.name := by
        intro r hr heq
        exact hfirst (List.mem_map.2 ⟨r, hr, heq.trans hname.symm⟩)
      grind
    · rw [List.mem_cons, ih hrest, List.mem_cons]
      grind

namespace Collected

theorem nodup (h : Collected added ps) : (ps.map (·.name)).Nodup :=
  h.ordered.imp fun {m n} hlt (heq : m = n) => Nat.lt_irrefl _ (heq ▸ hlt)

/-- One more parameter, be its name new or not. -/
theorem putParameter (h : Collected added ps) (p : Parameter) :
    Collected (added ++ [p]) (putParameter p ps) where
  names := by
    intro name
    rw [map_name_putParameter, List.map_append, List.mem_append, ← h.names]
    split_ifs with hold
    · simp only [List.map_cons, List.map_nil, List.mem_singleton, iff_self_or]
      rintro rfl
      exact hold
    · simp
  ordered := by
    -- Names that are there keep their places, as a later addition is never the first.
    have hkept : (ps.map (·.name)).Pairwise fun m n =>
        firstPlace (added ++ [p]) m < firstPlace (added ++ [p]) n := by
      refine h.ordered.imp_of_mem fun {m n} hm hn hlt => ?_
      rw [firstPlace_concat_of_mem ((h.names m).1 hm), firstPlace_concat_of_mem ((h.names n).1 hn)]
      exact hlt
    rw [map_name_putParameter]
    split_ifs with hold
    · exact hkept
    · refine List.pairwise_append.2 ⟨hkept, List.pairwise_singleton _ _, fun m hm n hn => ?_⟩
      rw [List.mem_singleton.1 hn, firstPlace_concat_of_mem ((h.names m).1 hm)]
      exact firstPlace_lt_firstPlace_concat ((h.names m).1 hm) (mt (h.names p.name).2 hold)
  last := by
    intro q hq
    refine lastAdded_concat_iff.2 ?_
    exact ((mem_putParameter_iff h.nodup).1 hq).imp_right fun hkept => ⟨h.last q hkept.1, hkept.2⟩

theorem mem_iff (h : Collected added ps) : p ∈ ps ↔ LastAdded added p := by
  refine ⟨h.last p, fun hp => ?_⟩
  obtain ⟨q, hq, hname⟩ := List.mem_map.1 ((h.names p.name).2 (List.mem_map_of_mem hp.mem))
  rwa [hp.unique (h.last q hq) hname.symm]

theorem pairwise (h : Collected added ps) :
    ps.Pairwise fun p q => firstPlace added p.name < firstPlace added q.name := by
  simpa only [List.pairwise_map] using h.ordered

/-- The additions tell what is left of them. -/
theorem unique {others : List Parameter} (h : Collected added ps)
    (hothers : Collected added others) : ps = others := by
  have hperm : ps.Perm others := by
    refine (List.perm_ext_iff_of_nodup (.of_map _ h.nodup) (.of_map _ hothers.nodup)).2 fun p => ?_
    rw [h.mem_iff, hothers.mem_iff]
  refine hperm.eq_of_pairwise ?_ h.pairwise hothers.pairwise
  intro p q _ _ hpq hqp
  exact absurd hqp (Nat.lt_asymm hpq)

end Collected

/-! ### Looking parameters up -/

variable {r : Record} {text : String}

/-- The parameter of a name is the last that was added under it. -/
theorem parameter?_eq_some_iff (h : Collected added r.parameters) :
    r.parameter? text = some p ↔ p.name = some text ∧ LastAdded added p := by
  have hfound {q : Parameter} (hq : r.parameter? text = some q) :
      q.name = some text ∧ LastAdded added q :=
    ⟨by simpa using List.find?_some hq, h.last q (List.mem_of_find?_eq_some hq)⟩
  refine ⟨hfound, fun ⟨hname, hlast⟩ => ?_⟩
  have hsome : (r.parameter? text).isSome := by
    rw [parameter?, List.find?_isSome]
    exact ⟨p, h.mem_iff.2 hlast, by simpa using hname⟩
  obtain ⟨q, hq⟩ := Option.isSome_iff_exists.1 hsome
  obtain ⟨hqname, hqlast⟩ := hfound hq
  rw [hq, hqlast.unique hlast (hqname.trans hname.symm)]

theorem parameter?_eq_none_iff (h : Collected added r.parameters) :
    r.parameter? text = none ↔ some text ∉ added.map (·.name) := by
  rw [← h.names, parameter?, List.find?_eq_none, List.mem_map]
  simp

/-! ### Sequences of additions -/

theorem collected_nil : Collected [] [] where
  names := by simp
  ordered := List.Pairwise.nil
  last := by simp

/-- What a sequence of additions to an empty record leaves. -/
theorem collected_foldl (added : List Parameter) :
    Collected added (added.foldl addParameter {}).parameters := by
  induction added using List.reverseRecOn with
  | nil => exact collected_nil
  | append_singleton added p ih =>
    rw [List.foldl_concat]
    exact ih.putParameter p

/-- Parameters are kept in the order of their first addition. After any additions to an empty record
there is one for each name that was added, where having none counts as one name. They stand in the
order in which the names were first added, and each is the last that was added under its name. No
other list of parameters is so. The parameter found under a name is the last that was added under
it, and there is none exactly when none was added. -/
theorem parameters_of_additions (added : List Parameter) :
    Collected added (added.foldl addParameter {}).parameters ∧
    ((added.foldl addParameter {}).parameters.map (·.name)).Nodup ∧
    (∀ ps, Collected added ps → ps = (added.foldl addParameter {}).parameters) ∧
    ∀ text : String,
      (∀ p, (added.foldl addParameter {}).parameter? text = some p ↔
        p.name = some text ∧ LastAdded added p) ∧
      ((added.foldl addParameter {}).parameter? text = none ↔
        some text ∉ added.map (·.name)) := by
  have hadded := collected_foldl added
  refine ⟨hadded, hadded.nodup, fun ps hps => hps.unique hadded, fun text => ⟨fun p => ?_, ?_⟩⟩
  · exact parameter?_eq_some_iff hadded
  · exact parameter?_eq_none_iff hadded

-- The place comes from the first addition and the type from the last, also without a name.
example :
    (List.foldl addParameter {}
      [{ type := some "int", name := some "$a" }, { type := some "bool" },
        { type := some "string", name := some "$b" }, { type := some "float", name := some "$a" },
        { type := some "null" }]).parameters =
      [{ type := some "float", name := some "$a" }, { type := some "null" },
        { type := some "string", name := some "$b" }] := by
  decide

end ClassDocs.Record
