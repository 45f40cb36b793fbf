import OpenApi.Proofs.Validity

/-!
# Chains of aliases

A component schema may be a reference to another one, so its body is looked up along a chain.
When the look-up fails, its model is untyped. Validation looks at each component by itself and
asks whether the paths in it name components. That finds a chain that breaks off, at the
component where it does. It does not find a chain that runs in a circle: every reference of a
circle names a component.

## Main definitions

* `OnChain`: the names that the references from a component lead to.

## Main statements

* `exists_dangling_of_follow`: a chain that breaks off has a reference that names no component.
* `named_of_onChain_circular`: every reference of a chain that runs in a circle names a component.
* `model_eq_untyped_and_reported_iff`: the model of a failed chain is untyped, and validation
  reports the chain exactly when it does not run in a circle.
-/
namespace OpenApi

/-! ## Chains that fail -/

section Follow

variable {α : Type}

/-- The names on the chain from the component `first` of a section: its own, and those that
references lead to from there. -/
inductive OnChain (sectionName : String) (all : Dict (Referable α)) (first : String) :
    String → Prop
  | start : OnChain sectionName all first first
  | step {name path next : String} : OnChain sectionName all first name →
      all.get? name = some (.reference path) → componentName sectionName path = .ok next →
      OnChain sectionName all first next

variable {sectionName first : String} {all : Dict (Referable α)}
  {fresh : List (String × Referable α)} {start : Referable α} {e : ReferenceError}

/-- A chain that breaks off has a component with a reference to nothing. The chain has come to the
component `current`, and goes on to those in `fresh`. -/
theorem exists_dangling_of_followFresh (hfresh : fresh ⊆ all.entries) {current : String}
    (hcurrent : OnChain sectionName all first current) (hstart : all.get? current = some start)
    (h : followFresh sectionName all fresh start = .error e)
    (hbreaks : ∀ path, e ≠ .circular path) :
    ∃ name path, OnChain sectionName all first name ∧ all.get? name = some (.reference path)
      ∧ ∀ next, componentName sectionName path = .ok next → all.get? next = none := by
  fun_induction followFresh sectionName all fresh start generalizing current with
  | case1 => cases h
  | case2 fresh path problem hname =>
    refine ⟨current, path, hcurrent, hstart, fun next hnext => ?_⟩
    rw [hname] at hnext
    cases hnext
  | case3 fresh path name hname next hnext _ ih =>
    have hnamed : all.get? name = some next :=
      Dict.mem_entries_iff.1 (hfresh (mem_of_lookup_eq_some hnext))
    exact ih (fun entry hmem => hfresh (mem_without.1 hmem).1)
      (hcurrent.step hstart hname) hnamed h
  | case4 fresh path => exact absurd (Except.error.inj h).symm (hbreaks path)
  | case5 fresh path name hname hnext hmissing =>
    refine ⟨current, path, hcurrent, hstart, fun next hother => ?_⟩
    obtain rfl : name = next := Except.ok.inj (hname.symm.trans hother)
    simpa using hmissing

/-- **A chain that breaks off has a reference that names no component.** -/
theorem exists_dangling_of_follow (hstart : all.get? first = some start)
    (h : follow sectionName all start = .error e) (hbreaks : ∀ path, e ≠ .circular path) :
    ∃ name path, OnChain sectionName all first name ∧ all.get? name = some (.reference path)
      ∧ ∀ next, componentName sectionName path = .ok next → all.get? next = none :=
  exists_dangling_of_followFresh (List.Subset.refl _) .start hstart h hbreaks

/-- A chain that comes back to a component has a list of components, `current` among them, that
refer to each other or to one that the chain was at before, which is one that is not in `fresh`. -/
theorem exists_names_of_followFresh_circular (hfresh : fresh ⊆ all.entries) {current path : String}
    (hstart : all.get? current = some start)
    (h : followFresh sectionName all fresh start = .error (.circular path)) :
    ∃ names : List String, current ∈ names ∧ ∀ name ∈ names, ∃ path next,
      all.get? name = some (.reference path) ∧ componentName sectionName path = .ok next
        ∧ (all.get? next).isSome ∧ (next ∈ names ∨ fresh.lookup next = none) := by
  fun_induction followFresh sectionName all fresh start generalizing current with
  | case1 => cases h
  | case2 fresh path problem hname =>
    obtain rfl := Except.error.inj h
    exact absurd hname (componentName_ne_circular sectionName path _)
  | case3 fresh path name hname next hnext _ ih =>
    have hnamed : all.get? name = some next :=
      Dict.mem_entries_iff.1 (hfresh (mem_of_lookup_eq_some hnext))
    obtain ⟨names, hmem, hnames⟩ := ih (fun entry hmem => hfresh (mem_without.1 hmem).1) hnamed h
    refine ⟨current :: names, List.mem_cons_self, fun other hother => ?_⟩
    rcases List.mem_cons.1 hother with rfl | hother
    · exact ⟨path, name, hstart, hname, by simp [hnamed], .inl (List.mem_cons_of_mem _ hmem)⟩
    · obtain ⟨path', next', href, hname', hsome, hin⟩ := hnames other hother
      refine ⟨path', next', href, hname', hsome, ?_⟩
      rw [lookup_without] at hin
      by_cases heq : next' = name
      · exact .inl (List.mem_cons_of_mem _ (heq ▸ hmem))
      · rw [if_neg heq] at hin
        exact hin.imp_left (List.mem_cons_of_mem _)
  | case4 fresh path name hname hnext hsome =>
    exact ⟨[current], List.mem_singleton_self _, fun other hother =>
      ⟨path, name, List.mem_singleton.1 hother ▸ hstart, hname, hsome, .inr hnext⟩⟩
  | case5 => cases h

/-- **Every reference of a chain that runs in a circle names a component.** -/
theorem named_of_onChain_circular {path : String} (hstart : all.get? first = some start)
    (h : follow sectionName all start = .error (.circular path)) {name : String}
    (hname : OnChain sectionName all first name) :
    ∃ path next, all.get? name = some (.reference path)
      ∧ componentName sectionName path = .ok next ∧ (all.get? next).isSome := by
  obtain ⟨names, hfirst, hnames⟩ :=
    exists_names_of_followFresh_circular (List.Subset.refl _) hstart h
  -- no component has been left at the start, so the list is closed under references
  have hmem : name ∈ names := by
    induction hname with
    | start => exact hfirst
    | step _ href hnext ih =>
      obtain ⟨path', next', href', hnext', hsome, hin⟩ := hnames _ ih
      obtain rfl := Referable.reference.inj (Option.some.inj (href.symm.trans href'))
      obtain rfl := Except.ok.inj (hnext.symm.trans hnext')
      refine hin.resolve_right fun hnone => ?_
      rw [Dict.get?, hnone] at hsome
      cases hsome
  obtain ⟨path', next', href, hnext, hsome, _⟩ := hnames name hmem
  exact ⟨path', next', href, hnext, hsome⟩

end Follow

/-! ## What validation reports -/

variable {document : Document}

/-- The errors at a component schema are its paths that name no component schema. -/
theorem exists_error_at_schema_iff {name : String} :
    (∃ issue ∈ document.issues, issue.isError = true ∧ issue.location = .schema name) ↔
      ∃ schema, document.schemas.get? name = some schema
        ∧ ∃ path ∈ schemaPaths schema, document.hasSchema path = false := by
  constructor
  · rintro ⟨issue, hmem, herror, hlocation⟩
    rcases List.mem_append.1 hmem with hmem | hmem
    · rcases List.mem_append.1 hmem with hmem | hmem
      · obtain ⟨⟨other, schema⟩, hentry, hissue⟩ := List.mem_flatMap.1 hmem
        obtain ⟨path, hpath, rfl⟩ := List.mem_map.1 hissue
        obtain ⟨hpath, hmissing⟩ := List.mem_filter.1 hpath
        obtain rfl := Location.schema.inj hlocation
        exact ⟨schema, Dict.mem_entries_iff.1 hentry, path, hpath, by simpa using hmissing⟩
      · exact absurd hlocation ((error_of_mem_siteIssues hmem).2 name)
    · obtain ⟨other, _, rfl⟩ := List.mem_map.1 hmem
      cases herror
  · rintro ⟨schema, hschema, path, hpath, hmissing⟩
    refine ⟨⟨.schema name, .unresolvedSchema path⟩, ?_, rfl, rfl⟩
    refine List.mem_append_left _ (List.mem_append_left _ (List.mem_flatMap.2 ?_))
    refine ⟨(name, schema), Dict.mem_entries_iff.2 hschema, List.mem_map_of_mem ?_⟩
    exact List.mem_filter.2 ⟨hpath, by simp [hmissing]⟩

theorem hasSchema_eq_false_iff {path : String} : document.hasSchema path = false ↔
    ∀ name, componentName "schemas" path = .ok name → document.schemas.get? name = none := by
  unfold Document.hasSchema
  cases componentName "schemas" path <;> simp

/-- The component schema `name` is on the chain of aliases that starts at the component schema
`first`. -/
def Document.AliasChain (document : Document) (first name : String) : Prop :=
  OnChain "schemas" document.schemas first name

/-- **A component schema whose chain of aliases fails** has an untyped model, and validation reports
an error at a component of the chain exactly when the chain does not run in a circle. -/
theorem model_eq_untyped_and_reported_iff {name : String} {schema : Referable Schema}
    {e : ReferenceError} (hschema : document.schemas.get? name = some schema)
    (hfails : document.schema schema = .error e) :
    (∀ dialect : Dialect, dialect.model document name schema = dialect.untypedModel name)
      ∧ ((∃ issue ∈ document.issues, issue.isError = true
            ∧ ∃ link, document.AliasChain name link ∧ issue.location = .schema link) ↔
          ∀ path, e ≠ .circular path) := by
  refine ⟨fun dialect => by rw [Dialect.model, hfails], ?_, fun hbreaks => ?_⟩
  · rintro ⟨issue, hissue, herror, link, hlink, hlocation⟩ path rfl
    obtain ⟨entry, hentry, bad, hbad, hmissing⟩ :=
      exists_error_at_schema_iff.1 ⟨issue, hissue, herror, hlocation⟩
    obtain ⟨target, next, hlinked, hnext, hsome⟩ := named_of_onChain_circular hschema hfails hlink
    obtain rfl : entry = .reference target := Option.some.inj (hentry.symm.trans hlinked)
    obtain rfl : bad = target := by simpa [schemaPaths] using hbad
    rw [hasSchema_eq_false_iff.1 hmissing next hnext] at hsome
    cases hsome
  · obtain ⟨link, bad, hlink, hlinked, hmissing⟩ := exists_dangling_of_follow hschema hfails hbreaks
    obtain ⟨issue, hissue, herror, hlocation⟩ := exists_error_at_schema_iff.2
      ⟨_, hlinked, bad, by simp [schemaPaths], hasSchema_eq_false_iff.2 hmissing⟩
    exact ⟨issue, hissue, herror, link, hlink, hlocation⟩

/-- An alias of an alias of a schema that is not there. -/
def danglingDocument : Document where
  openapi := "3.0.3"
  info := { title := "pets", version := "1" }
  components := some
    { schemas := Dict.ofEntries
        [("Pet", .reference "#/components/schemas/Animal"),
          ("Animal", .reference "#/components/schemas/Creature")] }

theorem model_eq_untyped_and_reported_danglingDocument :
    danglingDocument.schemas.get? "Pet" = some (.reference "#/components/schemas/Animal")
      ∧ danglingDocument.schema (.reference "#/components/schemas/Animal") =
          .error (.targetNotFound "#/components/schemas/Creature")
      ∧ ∃ issue ∈ danglingDocument.issues, issue.isError = true
          ∧ ∃ link, danglingDocument.AliasChain "Pet" link ∧ issue.location = .schema link := by
  have hschema : danglingDocument.schemas.get? "Pet" =
      some (.reference "#/components/schemas/Animal") := by rfl
  have hfails : danglingDocument.schema (.reference "#/components/schemas/Animal") =
      .error (.targetNotFound "#/components/schemas/Creature") := by
    rw [Document.schema, follow, followFresh_reference]
    exact followFresh_reference ..
  exact ⟨hschema, hfails,
    (model_eq_untyped_and_reported_iff hschema hfails).2.2 fun _ => by simp⟩

/-- A component schema that is an alias of itself. -/
def loopDocument : Document where
  openapi := "3.0.3"
  info := { title := "pets", version := "1" }
  components := some
    { schemas := Dict.ofEntries [("Loop", .reference "#/components/schemas/Loop")] }

/-- An alias of itself leads nowhere, and validation finds no error. -/
theorem loopDocument_not_reported :
    loopDocument.schemas.get? "Loop" = some (.reference "#/components/schemas/Loop")
      ∧ loopDocument.schema (.reference "#/components/schemas/Loop") =
          .error (.circular "#/components/schemas/Loop")
      ∧ ¬∃ issue ∈ loopDocument.issues, issue.isError = true
          ∧ ∃ link, loopDocument.AliasChain "Loop" link ∧ issue.location = .schema link := by
  refine ⟨by rfl, ?_, ?_⟩
  · rw [Document.schema, follow, followFresh_reference]
    exact followFresh_reference ..
  · have hvalid : loopDocument.Valid := by decide +kernel
    exact fun ⟨issue, hissue, herror, _⟩ => hvalid.not_mem_issues herror hissue

end OpenApi
