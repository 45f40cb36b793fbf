import Mathlib.Tactic.ByContra
import Mathlib.Tactic.Push
import OpenApi.Proofs.References

/-!
# What a chain of references comes to

A reference leads on to the component that it names, so each start has one chain, and the components
alone decide how that goes: it reaches an object, it breaks off at a reference that leads nowhere,
or it goes on for ever because it comes back to a reference. Looking up a start finds out which,
although it remembers only the components that it has not been at.

## Main definitions

* `Leads`, `LeadsNowhere`: where a reference leads, and why it does not.
* `LinkAt`: what a chain comes to in some number of steps.
* `ChainResult`: what becomes of a chain.

## Main statements

* `ChainResult.unique`: a chain has one result.
* `follow_eq_iff`: a look-up gives the result of the chain.
* `followsChains_document`: so do the look-ups in all sections of a document.
-/
namespace OpenApi

variable {α : Type}

/-! ## Chains -/

section Chains

variable (sectionName : String) (all : Dict (Referable α))

/-- A reference leads on to the component that it names. -/
inductive Leads : Referable α → Referable α → Prop
  | component {name : String} {next : Referable α} (h : all.get? name = some next) :
    Leads (.reference (componentPath sectionName name)) next

/-- Why a reference leads nowhere. -/
inductive LeadsNowhere : (path : String) → ReferenceError → Prop
  /-- The path is not that of a component of any section. -/
  | invalidPath {path : String}
    (h : ∀ found name, '/' ∉ found.toList → path ≠ componentPath found name) :
    LeadsNowhere path (.invalidPath path)
  | wrongSection {found name : String} (hfound : '/' ∉ found.toList) (h : found ≠ sectionName) :
    LeadsNowhere (componentPath found name)
      (.wrongSection sectionName found (componentPath found name))
  | targetNotFound {name : String} (h : all.get? name = none) :
    LeadsNowhere (componentPath sectionName name)
      (.targetNotFound (componentPath sectionName name))

variable (start : Referable α)

/-- What the chain from `start` comes to in some number of steps. -/
inductive LinkAt : Nat → Referable α → Prop
  | start : LinkAt 0 start
  | step {n : Nat} {link next : Referable α} : LinkAt n link → Leads sectionName all link next →
    LinkAt (n + 1) next

/-- At step `n` the chain comes to a reference that it has been at before. -/
def Again (n : Nat) (path : String) : Prop :=
  LinkAt sectionName all start n (.reference path)
    ∧ ∃ i < n, LinkAt sectionName all start i (.reference path)

/-- What becomes of the chain from `start`. -/
inductive ChainResult : Except ReferenceError α → Prop
  /-- It reaches an object. -/
  | reaches {n : Nat} {value : α} (h : LinkAt sectionName all start n (.inline value)) :
    ChainResult (.ok value)
  /-- It goes on from reference to reference, and `path` is the first that it comes to again. -/
  | circles {n : Nat} {path : String}
    (hforever : ∀ k, ∃ other, LinkAt sectionName all start k (.reference other))
    (hagain : Again sectionName all start n path)
    (hfirst : ∀ j < n, ∀ other, ¬Again sectionName all start j other) :
    ChainResult (.error (.circular path))
  /-- It breaks off at a reference that leads nowhere. -/
  | breaks {n : Nat} {path : String} {e : ReferenceError}
    (h : LinkAt sectionName all start n (.reference path))
    (hnowhere : LeadsNowhere sectionName all path e) : ChainResult (.error e)

end Chains

variable {sectionName : String} {all : Dict (Referable α)}

/-! ## One step -/

section Steps

variable {path : String}

theorem leads_reference_iff (hsection : '/' ∉ sectionName.toList) {next : Referable α} :
    Leads sectionName all (.reference path) next ↔
      ∃ name, componentName sectionName path = .ok name ∧ all.get? name = some next := by
  constructor
  · rintro ⟨hnext⟩
    exact ⟨_, (componentName_eq_ok_iff hsection).2 rfl, hnext⟩
  · rintro ⟨name, hname, hnext⟩
    obtain rfl := (componentName_eq_ok_iff hsection).1 hname
    exact .component hnext

/-- A reference leads nowhere when its path names no component of the section, or one that is not
there. -/
theorem leadsNowhere_iff (hsection : '/' ∉ sectionName.toList) {e : ReferenceError} :
    LeadsNowhere sectionName all path e ↔
      componentName sectionName path = .error e
        ∨ ∃ name, componentName sectionName path = .ok name ∧ all.get? name = none
          ∧ e = .targetNotFound path := by
  constructor
  · intro h
    cases h with
    | invalidPath h =>
      left
      have hnone : (afterPrefix? componentsPath.toList path.toList).bind splitAtSlash? = none := by
        refine Option.eq_none_iff_forall_ne_some.2 fun parts hparts => ?_
        obtain ⟨hslash, heq⟩ := splitPath_eq_some_iff.1 hparts
        exact h _ _ (by simpa using hslash) heq
      rw [componentName, hnone]
    | wrongSection hfound h =>
      left
      rw [componentName_componentPath hfound, if_neg h]
    | targetNotFound h =>
      right
      exact ⟨_, (componentName_eq_ok_iff hsection).2 rfl, h, rfl⟩
  · rintro (herror | ⟨name, hname, hnone, rfl⟩)
    · unfold componentName at herror
      split at herror
      case h_1 hnone =>
        obtain rfl := Except.error.inj herror
        refine .invalidPath fun found name hfound heq => ?_
        rw [heq, splitPath_componentPath hfound] at hnone
        cases hnone
      case h_2 found name hparts =>
        obtain ⟨hfound, rfl⟩ := splitPath_eq_some_iff.1 hparts
        split at herror
        · cases herror
        · rename_i hother
          obtain rfl := Except.error.inj herror
          exact .wrongSection (by simpa using hfound) hother
    · obtain rfl := (componentName_eq_ok_iff hsection).1 hname
      exact .targetNotFound hnone

theorem Leads.unique (hsection : '/' ∉ sectionName.toList) {link next other : Referable α}
    (h : Leads sectionName all link next) (h' : Leads sectionName all link other) :
    next = other := by
  cases link with
  | inline value => cases h
  | reference path =>
    obtain ⟨name, hname, hnext⟩ := (leads_reference_iff hsection).1 h
    obtain ⟨name', hname', hother⟩ := (leads_reference_iff hsection).1 h'
    obtain rfl := Except.ok.inj (hname.symm.trans hname')
    exact Option.some.inj (hnext.symm.trans hother)

theorem LeadsNowhere.unique (hsection : '/' ∉ sectionName.toList) {e e' : ReferenceError}
    (h : LeadsNowhere sectionName all path e) (h' : LeadsNowhere sectionName all path e') :
    e = e' := by
  rw [leadsNowhere_iff hsection] at h h'
  rcases h with h | ⟨name, hname, _, rfl⟩
  · rcases h' with h' | ⟨name', hname', _⟩
    · exact Except.error.inj (h.symm.trans h')
    · cases h.symm.trans hname'
  · rcases h' with h' | ⟨_, _, _, rfl⟩
    · cases hname.symm.trans h'
    · rfl

theorem LeadsNowhere.not_leads (hsection : '/' ∉ sectionName.toList) {e : ReferenceError}
    (h : LeadsNowhere sectionName all path e) (next : Referable α) :
    ¬Leads sectionName all (.reference path) next := by
  intro hleads
  obtain ⟨name, hname, hnext⟩ := (leads_reference_iff hsection).1 hleads
  rcases (leadsNowhere_iff hsection).1 h with herror | ⟨name', hname', hnone, _⟩
  · cases herror.symm.trans hname
  · obtain rfl := Except.ok.inj (hname.symm.trans hname')
    cases hnone.symm.trans hnext

end Steps

/-! ## Many steps -/

section Links

variable {start link : Referable α} {n : Nat}

theorem LinkAt.unique (hsection : '/' ∉ sectionName.toList) {other : Referable α}
    (h : LinkAt sectionName all start n link) (h' : LinkAt sectionName all start n other) :
    link = other := by
  induction h generalizing other with
  | start => cases h'; rfl
  | step _ hleads ih =>
    cases h' with
    | step hprev hleads' =>
      obtain rfl := ih hprev
      exact hleads.unique hsection hleads'

theorem LinkAt.add {next : Referable α} {k : Nat} (h : LinkAt sectionName all start n link)
    (h' : LinkAt sectionName all link k next) : LinkAt sectionName all start (n + k) next := by
  induction h' with
  | start => exact h
  | step _ hleads ih => exact .step ih hleads

/-- A chain that comes to something has come to a reference at each step before. -/
theorem LinkAt.exists_leads (h : LinkAt sectionName all start n link) {k : Nat} (hk : k < n) :
    ∃ path next, LinkAt sectionName all start k (.reference path)
      ∧ Leads sectionName all (.reference path) next := by
  induction h with
  | start => omega
  | step hlink hleads ih =>
    rcases Nat.lt_succ_iff_lt_or_eq.1 hk with hlt | rfl
    · exact ih hlt
    · cases hleads with
      | component hnext => exact ⟨_, _, hlink, .component hnext⟩

/-- The part of a chain behind one of its links is the chain from there. -/
theorem LinkAt.of_add (hsection : '/' ∉ sectionName.toList) {next : Referable α} {k : Nat}
    (h : LinkAt sectionName all start n link) (h' : LinkAt sectionName all start (n + k) next) :
    LinkAt sectionName all link k next := by
  induction k generalizing next with
  | zero =>
    obtain rfl := h.unique hsection h'
    exact .start
  | succ k ih =>
    cases h' with
    | step hprev hleads => exact .step (ih hprev) hleads

/-- A chain does not go on where it stops, so there is no second place where it stops. -/
theorem LinkAt.not_lt_of_stops (hsection : '/' ∉ sectionName.toList) {other : Referable α} {m : Nat}
    (h : LinkAt sectionName all start n link) (hstops : ∀ next, ¬Leads sectionName all link next)
    (h' : LinkAt sectionName all start m other) : ¬n < m := by
  intro hlt
  obtain ⟨path, next, hpath, hleads⟩ := h'.exists_leads hlt
  obtain rfl := h.unique hsection hpath
  exact hstops next hleads

theorem LinkAt.eq_of_stops (hsection : '/' ∉ sectionName.toList) {other : Referable α} {m : Nat}
    (h : LinkAt sectionName all start n link) (hstops : ∀ next, ¬Leads sectionName all link next)
    (h' : LinkAt sectionName all start m other)
    (hstops' : ∀ next, ¬Leads sectionName all other next) : link = other := by
  have hle := h.not_lt_of_stops hsection hstops h'
  have hge := h'.not_lt_of_stops hsection hstops' h
  obtain rfl : n = m := by omega
  exact h.unique hsection h'

/-- A chain that comes back to a reference goes on for ever. -/
theorem Again.exists_reference (hsection : '/' ∉ sectionName.toList) {path : String}
    (h : Again sectionName all start n path) (k : Nat) :
    ∃ other, LinkAt sectionName all start k (.reference other) := by
  obtain ⟨hlink, i, hi, hbefore⟩ := h
  have hround : LinkAt sectionName all (.reference path) (n - i) (.reference path) :=
    hbefore.of_add hsection (by rwa [Nat.add_sub_cancel' (Nat.le_of_lt hi)])
  -- Going round once more shortens the way that is left.
  have hbehind : ∀ k, ∃ other, LinkAt sectionName all (.reference path) k (.reference other) := by
    intro k
    induction k using Nat.strongRecOn with
    | _ k ih =>
      rcases Nat.lt_or_ge k (n - i) with hlt | hge
      · obtain ⟨other, _, hother, _⟩ := hround.exists_leads hlt
        exact ⟨other, hother⟩
      · obtain ⟨other, hother⟩ := ih (k - (n - i)) (by omega)
        refine ⟨other, ?_⟩
        have hadd := hround.add hother
        rwa [Nat.add_sub_cancel' hge] at hadd
  rcases Nat.lt_or_ge k n with hlt | hge
  · obtain ⟨other, _, hother, _⟩ := hlink.exists_leads hlt
    exact ⟨other, hother⟩
  · obtain ⟨other, hother⟩ := hbehind (k - n)
    refine ⟨other, ?_⟩
    have hadd := hlink.add hother
    rwa [Nat.add_sub_cancel' hge] at hadd

/-- A chain that goes on for ever stops nowhere. -/
theorem LinkAt.exists_leads_of_forever (hsection : '/' ∉ sectionName.toList)
    (hforever : ∀ k, ∃ other, LinkAt sectionName all start k (.reference other))
    (h : LinkAt sectionName all start n link) : ∃ next, Leads sectionName all link next := by
  obtain ⟨_, hnext⟩ := hforever (n + 1)
  obtain ⟨path, next, hpath, hleads⟩ := hnext.exists_leads (Nat.lt_succ_self n)
  obtain rfl := h.unique hsection hpath
  exact ⟨next, hleads⟩

end Links

/-! ## Results -/

variable {start : Referable α} {result : Except ReferenceError α}

theorem not_leads_inline (value : α) (next : Referable α) :
    ¬Leads sectionName all (.inline value) next := fun h => nomatch h

/-- **A chain has one result.** -/
theorem ChainResult.unique (hsection : '/' ∉ sectionName.toList)
    {other : Except ReferenceError α} (h : ChainResult sectionName all start result)
    (h' : ChainResult sectionName all start other) : result = other := by
  cases h with
  | reaches h =>
    cases h' with
    | reaches h' =>
      have heq := h.eq_of_stops hsection (not_leads_inline _) h' (not_leads_inline _)
      rw [Referable.inline.inj heq]
    | circles hforever =>
      obtain ⟨next, hleads⟩ := h.exists_leads_of_forever hsection hforever
      cases hleads
    | breaks h' hnowhere =>
      cases h.eq_of_stops hsection (not_leads_inline _) h' (hnowhere.not_leads hsection)
  | circles hforever hagain hfirst =>
    cases h' with
    | reaches h' =>
      obtain ⟨next, hleads⟩ := h'.exists_leads_of_forever hsection hforever
      cases hleads
    | @circles m path' hforever' hagain' hfirst' =>
      rename_i n path
      have hle : ¬m < n := fun hlt => hfirst m hlt path' hagain'
      have hge : ¬n < m := fun hlt => hfirst' n hlt path hagain
      obtain rfl : n = m := by omega
      rw [Referable.reference.inj (hagain.1.unique hsection hagain'.1)]
    | breaks h' hnowhere =>
      obtain ⟨next, hleads⟩ := h'.exists_leads_of_forever hsection hforever
      exact absurd hleads (hnowhere.not_leads hsection next)
  | breaks h hnowhere =>
    cases h' with
    | reaches h' =>
      cases h.eq_of_stops hsection (hnowhere.not_leads hsection) h' (not_leads_inline _)
    | circles hforever =>
      obtain ⟨next, hleads⟩ := h.exists_leads_of_forever hsection hforever
      exact absurd hleads (hnowhere.not_leads hsection next)
    | breaks h' hnowhere' =>
      have heq := h.eq_of_stops hsection (hnowhere.not_leads hsection) h'
        (hnowhere'.not_leads hsection)
      obtain rfl := Referable.reference.inj heq
      rw [hnowhere.unique hsection hnowhere']

/-! ## Looking up -/

/-- A look-up that has come `n` steps far: the components that are left are those that no reference
so far has named, and no reference has come again. -/
structure Followed (sectionName : String) (all : Dict (Referable α)) (start : Referable α) (n : Nat)
    (fresh : List (String × Referable α)) : Prop where
  lookup_named : ∀ name, ∀ i < n,
    LinkAt sectionName all start i (.reference (componentPath sectionName name)) →
      fresh.lookup name = none
  lookup_unnamed : ∀ name,
    (∀ i < n, ¬LinkAt sectionName all start i (.reference (componentPath sectionName name))) →
      fresh.lookup name = all.get? name
  not_again : ∀ j < n, ∀ path, ¬Again sectionName all start j path

/-- What a look-up does in one step: the component that the reference names is left no longer. -/
theorem Followed.step (hsection : '/' ∉ sectionName.toList) {n : Nat} {name : String}
    {fresh : List (String × Referable α)} {next : Referable α}
    (h : Followed sectionName all start n fresh)
    (hlink : LinkAt sectionName all start n (.reference (componentPath sectionName name)))
    (hnext : fresh.lookup name = some next) :
    Followed sectionName all start (n + 1) (without name fresh) := by
  have hname : ∀ other,
      LinkAt sectionName all start n (.reference (componentPath sectionName other)) →
        other = name := by
    intro other hother
    have hpath := Referable.reference.inj (hother.unique hsection hlink)
    have hok := (componentName_eq_ok_iff hsection).2 hpath.symm
    rw [componentName_componentPath hsection, if_pos rfl] at hok
    exact (Except.ok.inj hok).symm
  constructor
  case lookup_named =>
    intro other i hi hother
    rw [lookup_without]
    split
    · rfl
    · rename_i hne
      rcases Nat.lt_succ_iff_lt_or_eq.1 hi with hlt | rfl
      · exact h.lookup_named other i hlt hother
      · exact absurd (hname other hother) hne
  case lookup_unnamed =>
    intro other hother
    have hne : other ≠ name := by
      rintro rfl
      exact hother n (Nat.lt_succ_self n) hlink
    rw [lookup_without, if_neg hne]
    exact h.lookup_unnamed other fun i hi => hother i (Nat.lt_succ_of_lt hi)
  case not_again =>
    intro j hj path hagain
    rcases Nat.lt_succ_iff_lt_or_eq.1 hj with hlt | rfl
    · exact h.not_again j hlt path hagain
    · obtain ⟨hat, i, hi, hbefore⟩ := hagain
      obtain rfl := Referable.reference.inj (hat.unique hsection hlink)
      cases hnext.symm.trans (h.lookup_named name i hi hbefore)

/-- **A look-up that has come some way gives the result of the chain.** -/
theorem chainResult_followFresh (hsection : '/' ∉ sectionName.toList) {n : Nat}
    {fresh : List (String × Referable α)} {current : Referable α}
    (hlink : LinkAt sectionName all start n current) (h : Followed sectionName all start n fresh) :
    ChainResult sectionName all start (followFresh sectionName all fresh current) := by
  fun_induction followFresh sectionName all fresh current generalizing n with
  | case1 fresh value => exact .reaches hlink
  | case2 fresh path e hname =>
    exact .breaks hlink ((leadsNowhere_iff hsection).2 (.inl hname))
  | case3 fresh path name hname next hnext _ ih =>
    obtain rfl := (componentName_eq_ok_iff hsection).1 hname
    have hnamed : all.get? name = some next := by
      rw [← h.lookup_unnamed name fun i hi hbefore => ?_, hnext]
      cases hnext.symm.trans (h.lookup_named name i hi hbefore)
    exact ih (hlink.step (.component hnamed)) (h.step hsection hlink hnext)
  | case4 fresh path name hname hnext hsome =>
    obtain rfl := (componentName_eq_ok_iff hsection).1 hname
    -- The component is there and not left, so a reference has named it before.
    have hbefore : ∃ i < n,
        LinkAt sectionName all start i (.reference (componentPath sectionName name)) := by
      by_contra hnone
      push Not at hnone
      rw [← h.lookup_unnamed name hnone, hnext] at hsome
      cases hsome
    have hagain : Again sectionName all start n (componentPath sectionName name) :=
      ⟨hlink, hbefore⟩
    exact .circles (hagain.exists_reference hsection) hagain h.not_again
  | case5 fresh path name hname hnext hmissing =>
    have hnone : all.get? name = none := by simpa using hmissing
    exact .breaks hlink ((leadsNowhere_iff hsection).2 (.inr ⟨name, hname, hnone, rfl⟩))

/-- **A look-up gives the result of the chain**, and nothing else. -/
theorem follow_eq_iff (hsection : '/' ∉ sectionName.toList) :
    follow sectionName all start = result ↔ ChainResult sectionName all start result := by
  have hresult : ChainResult sectionName all start (follow sectionName all start) := by
    refine chainResult_followFresh hsection .start ⟨?_, ?_, ?_⟩
    · intro _ _ hi
      omega
    · intro _ _
      rfl
    · intro _ hj
      omega
  constructor
  · rintro rfl
    exact hresult
  · exact hresult.unique hsection

/-- A chain that comes to a circle from outside is refused at the first reference of the circle. -/
example : follow "headers"
      (Dict.ofEntries [("Quota", .reference "#/components/headers/Rate"),
        ("Rate", .reference "#/components/headers/Limit"),
        ("Limit", .reference "#/components/headers/Rate")] : Dict (Referable Header))
      (.reference "#/components/headers/Quota") =
    .error (.circular "#/components/headers/Rate") := by
  cbv

/-- A look-up that gives, for every start, the result of its chain through the components of
a section. -/
def FollowsChains (sectionName : String) (components : Dict (Referable α))
    (lookUp : Referable α → Except ReferenceError α) : Prop :=
  ∀ start result, lookUp start = result ↔ ChainResult sectionName components start result

/-- **The look-ups of a document follow chains exactly**, each in its own section. -/
theorem followsChains_document (document : Document) :
    FollowsChains "schemas" document.parts.schemas document.schema
      ∧ FollowsChains "parameters" document.parts.parameters document.parameter
      ∧ FollowsChains "requestBodies" document.parts.requestBodies document.requestBody
      ∧ FollowsChains "responses" document.parts.responses document.response
      ∧ FollowsChains "headers" document.parts.headers document.header :=
  ⟨fun _ _ => follow_eq_iff (by decide), fun _ _ => follow_eq_iff (by decide),
    fun _ _ => follow_eq_iff (by decide), fun _ _ => follow_eq_iff (by decide),
    fun _ _ => follow_eq_iff (by decide)⟩

end OpenApi
