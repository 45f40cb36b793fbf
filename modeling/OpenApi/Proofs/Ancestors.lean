import Mathlib.Data.List.Nodup
import Mathlib.Data.List.Perm.Subperm
import OpenApi.Resolved.Api

/-!
# Lines of ancestors

A model may name a parent, and nothing keeps these names in order: a parent may be no model at
all, several models may share a class name, and parents may run in a circle. The ancestors of a
class name are found by going up from parent to parent, with the names in mind that have been
visited. The walk ends all the same, since it visits no name twice, and no line of ancestors goes
on where it stops.

## Main definitions

* `Api.Ascends`: models that go up from parent to parent.
* `Api.IsLine`: a line of ancestors of a class name, in which no name comes twice.
* `Api.Climbs`: the walk, with the names that it has visited.

## Main statements

* `climbs_parentsIn`: the walk ends.
* `Climbs.isPrefix_iff`: it stops only where every line does.
* `isLine_iff_isPrefix_ancestors`: the ancestors of a class name are its longest line.
-/
namespace OpenApi.Resolved.Api

variable {api : Api} {seen : List String} {parent : Option String} {name : String}
  {model : Model} {chain result : List Model}

/-! ## Lines -/

/-- The models go up from a parent: each is the one looked up under the parent of the one before. -/
def Ascends (api : Api) : Option String → List Model → Prop
  | _, [] => True
  | parent, model :: rest => parent.bind api.model? = some model ∧ Ascends api model.parent rest

/-- The parent that the model with a class name has. -/
def parent? (api : Api) (className : String) : Option String :=
  (api.model? className).bind (·.parent)

/-- A line of ancestors of a class name: it goes up from the parent of that name's model, and the
name and those of the ancestors are distinct. -/
structure IsLine (api : Api) (className : String) (chain : List Model) : Prop where
  ascends : api.Ascends (api.parent? className) chain
  distinct : (className :: chain.map (·.className)).Nodup

theorem className_of_model? (h : api.model? name = some model) : model.className = name := by
  simpa using List.find?_some h

/-- The models of a line are models of the API. -/
theorem Ascends.mem_models (h : api.Ascends parent chain) :
    ∀ model ∈ chain, model ∈ api.models := by
  induction chain generalizing parent with
  | nil => exact fun _ hmem => nomatch hmem
  | cons first rest ih =>
    obtain ⟨hfirst, hrest⟩ := h
    obtain ⟨name, -, hfound⟩ := Option.bind_eq_some_iff.1 hfirst
    exact List.forall_mem_cons.2 ⟨List.mem_of_find?_eq_some hfound, ih hrest⟩

/-- A line is no longer than there are models. -/
theorem IsLine.length_le {className : String} (h : api.IsLine className chain) :
    chain.length ≤ api.models.length := by
  have hnodup : chain.Nodup := List.Nodup.of_map _ (List.nodup_cons.1 h.distinct).2
  exact (List.subperm_of_subset hnodup h.ascends.mem_models).length_le

/-! ## The walk -/

/-- The walk up from a parent when some names have been visited: it stops at a model without a
parent, at a name that it has visited, and at one without a model. -/
inductive Climbs (api : Api) : (seen : List String) → Option String → List Model → Prop
  | top {seen : List String} : Climbs api seen none []
  | again {seen : List String} {name : String} (h : name ∈ seen) : Climbs api seen (some name) []
  | missing {seen : List String} {name : String} (hnew : name ∉ seen)
    (h : api.model? name = none) : Climbs api seen (some name) []
  | up {seen : List String} {name : String} {model : Model} {rest : List Model}
    (hnew : name ∉ seen) (h : api.model? name = some model)
    (hrest : Climbs api (name :: seen) model.parent rest) :
    Climbs api seen (some name) (model :: rest)

/-- The models whose names have not been visited. -/
def unseen (seen : List String) (models : List Model) : List Model :=
  models.filter (!seen.contains ·.className)

theorem others_unseen (name : String) (seen : List String) (models : List Model) :
    others name (unseen seen models) = unseen (name :: seen) models := by
  rw [others, unseen, unseen, List.filter_filter]
  refine List.filter_congr fun model _ => ?_
  by_cases h : model.className = name <;> simp [h]

/-- Leaving out the visited models changes the look-up of no other name. -/
theorem find?_unseen (hnew : name ∉ seen) :
    (unseen seen api.models).find? (·.className == name) = api.model? name := by
  rw [unseen, List.find?_filter, Api.model?]
  congr 1
  funext model
  by_cases h : model.className = name <;> simp [h, hnew]

theorem find?_unseen_of_mem (h : name ∈ seen) :
    (unseen seen api.models).find? (·.className == name) = none := by
  refine List.find?_eq_none.2 fun model hmodel heq => ?_
  obtain ⟨-, hunseen⟩ := List.mem_filter.1 hmodel
  obtain rfl : model.className = name := by simpa using heq
  simp [h] at hunseen

/-- **The walk ends**, with the models that are found among those not visited. -/
theorem climbs_parentsIn (api : Api) (seen : List String) (parent : Option String) :
    api.Climbs seen parent (parentsIn (unseen seen api.models) parent) := by
  generalize hfresh : unseen seen api.models = fresh
  fun_induction parentsIn fresh parent generalizing seen with
  | case1 => exact .top
  | case2 fresh name hnone =>
    subst hfresh
    by_cases hmem : name ∈ seen
    · exact .again hmem
    · exact .missing hmem (find?_unseen hmem ▸ hnone)
  | case3 fresh name model hfound _ ih =>
    subst hfresh
    have hnew : name ∉ seen := fun hmem => by
      rw [find?_unseen_of_mem hmem] at hfound
      nomatch hfound
    exact .up hnew (find?_unseen hnew ▸ hfound) (ih (name :: seen) (others_unseen ..).symm)

/-- The models have names that have not been visited, and no name twice. -/
def Fresh (seen : List String) (chain : List Model) : Prop :=
  (∀ model ∈ chain, model.className ∉ seen) ∧ (chain.map (·.className)).Nodup

/-- The first model is fresh, and the others are once it has been visited. -/
theorem fresh_cons_iff :
    Fresh seen (model :: chain) ↔
      model.className ∉ seen ∧ Fresh (model.className :: seen) chain := by
  have hdistinct : model.className ∉ chain.map (·.className) ↔
      ∀ other ∈ chain, other.className ≠ model.className := by
    simp
  simp only [Fresh, List.map_cons, List.nodup_cons, hdistinct, List.mem_cons, not_or]
  constructor
  · rintro ⟨hseen, hother, hnodup⟩
    exact ⟨hseen model (.inl rfl),
      fun other hmem => ⟨hother other hmem, hseen other (.inr hmem)⟩, hnodup⟩
  · rintro ⟨hmodel, hother, hnodup⟩
    refine ⟨?_, fun other hmem => (hother other hmem).1, hnodup⟩
    rintro other (rfl | hmem)
    · exact hmodel
    · exact (hother other hmem).2

/-- **The walk stops only where every line does**: the lines that go up from its start to names that
have not been visited are the beginnings of what it gives. -/
theorem Climbs.isPrefix_iff (h : api.Climbs seen parent result) (chain : List Model) :
    api.Ascends parent chain ∧ Fresh seen chain ↔ chain <+: result := by
  induction h generalizing chain with
  | top =>
    cases chain with
    | nil => simp [Ascends, Fresh]
    | cons model rest => simp [Ascends]
  | again h =>
    cases chain with
    | nil => simp [Ascends, Fresh]
    | cons model rest =>
      refine iff_of_false (fun ⟨⟨hfirst, _⟩, hfresh⟩ => ?_) (by simp)
      exact (fresh_cons_iff.1 hfresh).1 (className_of_model? hfirst ▸ h)
  | missing hnew h =>
    cases chain with
    | nil => simp [Ascends, Fresh]
    | cons model rest => simp [Ascends, h]
  | @up seen name model rest hnew h _ ih =>
    cases chain with
    | nil => simp [Ascends, Fresh]
    | cons first others =>
      obtain rfl := className_of_model? h
      rw [List.cons_prefix_cons, ← ih, fresh_cons_iff, Ascends, Option.bind_some, h]
      constructor
      · rintro ⟨⟨⟨⟩, hothers⟩, _, hfresh⟩
        exact ⟨rfl, hothers, hfresh⟩
      · rintro ⟨rfl, hothers, hfresh⟩
        exact ⟨⟨rfl, hothers⟩, hnew, hfresh⟩

/-! ## Ancestors -/

/-- **The ancestors of a class name are its longest line**: the walk from its parent, with the name
itself visited, ends with them; the lines of ancestors are their beginnings; and there are no more
of them than models. -/
theorem isLine_iff_isPrefix_ancestors (api : Api) (className : String) :
    api.Climbs [className] (api.parent? className) (api.ancestors className)
      ∧ (∀ chain, api.IsLine className chain ↔ chain <+: api.ancestors className)
      ∧ (api.ancestors className).length ≤ api.models.length := by
  have hclimbs : api.Climbs [className] (api.parent? className) (api.ancestors className) := by
    have hothers : others className api.models = unseen [className] api.models := by
      rw [← others_unseen, unseen]
      simp
    rw [ancestors, hothers]
    exact climbs_parentsIn api [className] _
  have hlines : ∀ chain, api.IsLine className chain ↔ chain <+: api.ancestors className := by
    intro chain
    rw [← hclimbs.isPrefix_iff]
    have hfresh : (className :: chain.map (·.className)).Nodup ↔ Fresh [className] chain := by
      simp [Fresh]
    exact ⟨fun ⟨hascends, hdistinct⟩ => ⟨hascends, hfresh.1 hdistinct⟩,
      fun ⟨hascends, hdistinct⟩ => ⟨hascends, hfresh.2 hdistinct⟩⟩
  exact ⟨hclimbs, hlines, ((hlines _).2 List.prefix_rfl).length_le⟩

end OpenApi.Resolved.Api
