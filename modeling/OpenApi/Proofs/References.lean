import OpenApi.Reference

/-!
# Component paths and chains

A path to a component is the section and the name behind a fixed beginning, so the name can be read
back, and it is the last segment of the path when it has no slash of its own. A chain of references
ends at the object it starts with or at one that a component holds.

## Main statements

* `componentName_eq_ok_iff`: which paths name a component of a section.
* `referenceTail_componentPath`: the last segment of a path is the name of its component.
* `follow_eq_ok`: where a chain ends.
-/
namespace OpenApi

/-! ## Paths -/

theorem afterPrefix?_eq_some_iff {front cs rest : List Char} :
    afterPrefix? front cs = some rest ↔ cs = front ++ rest := by
  induction front generalizing cs with
  | nil => simp [afterPrefix?, eq_comm]
  | cons p front ih =>
    cases cs with
    | nil => simp [afterPrefix?]
    | cons c cs =>
      by_cases h : p = c
      · simp [afterPrefix?, h, ih]
      · simp [afterPrefix?, h, Ne.symm h]

theorem splitAtSlash?_eq_some_iff {cs found name : List Char} :
    splitAtSlash? cs = some (found, name) ↔ '/' ∉ found ∧ cs = found ++ '/' :: name := by
  induction cs generalizing found with
  | nil => simp [splitAtSlash?]
  | cons c rest ih =>
    by_cases hc : c = '/'
    · subst hc
      cases found with
      | nil => simp [splitAtSlash?]
      | cons d found => simp +contextual [splitAtSlash?, eq_comm]
    · cases found with
      | nil => simp [splitAtSlash?, hc]
      | cons d found =>
        simp only [splitAtSlash?, hc, if_false, Option.map_eq_some_iff, Prod.exists,
          Prod.mk.injEq, List.cons.injEq, List.mem_cons, List.cons_append]
        grind

/-- The path to a component. -/
def componentPath (sectionName name : String) : String :=
  componentsPath ++ sectionName ++ "/" ++ name

/-- A path falls into a section and a name exactly when it is the path to that component. -/
theorem splitPath_eq_some_iff {path : String} {found name : List Char} :
    (afterPrefix? componentsPath.toList path.toList).bind splitAtSlash? = some (found, name) ↔
      '/' ∉ found ∧ path = componentPath (String.ofList found) (String.ofList name) := by
  have hpath : path = componentPath (String.ofList found) (String.ofList name) ↔
      path.toList = componentsPath.toList ++ (found ++ '/' :: name) := by
    rw [← String.toList_inj]
    simp [componentPath]
  simp only [Option.bind_eq_some_iff, afterPrefix?_eq_some_iff, splitAtSlash?_eq_some_iff, hpath]
  grind

theorem splitPath_componentPath {found : String} (hfound : '/' ∉ found.toList) (name : String) :
    (afterPrefix? componentsPath.toList (componentPath found name).toList).bind splitAtSlash? =
      some (found.toList, name.toList) :=
  splitPath_eq_some_iff.2 ⟨hfound, by simp⟩

/-- The path to a component of a section is in that section, and in no other. -/
theorem componentName_componentPath {found : String} (hfound : '/' ∉ found.toList)
    (sectionName name : String) : componentName sectionName (componentPath found name) =
      if found = sectionName then .ok name
      else .error (.wrongSection sectionName found (componentPath found name)) := by
  rw [componentName, splitPath_componentPath hfound]
  simp

/-- **A path names a component of a section** exactly when it is the path to it. -/
theorem componentName_eq_ok_iff {sectionName path name : String}
    (hsection : '/' ∉ sectionName.toList) :
    componentName sectionName path = .ok name ↔ path = componentPath sectionName name := by
  constructor
  · intro h
    unfold componentName at h
    split at h
    · nomatch h
    · rename_i found rest heq
      split at h
      · rename_i hfound
        obtain rfl := Except.ok.inj h
        rw [← hfound]
        exact (splitPath_eq_some_iff.1 heq).2
      · nomatch h
  · rintro rfl
    rw [componentName_componentPath hsection, if_pos rfl]

/-- A path by itself runs in no circle. -/
theorem componentName_ne_circular (sectionName path other : String) :
    componentName sectionName path ≠ .error (.circular other) := by
  unfold componentName
  split
  · exact fun h => nomatch h
  · split <;> exact fun h => nomatch h

/-- **The last segment of the path to a component is its name**, if that has no slash. -/
theorem referenceTail_componentPath {sectionName name : String} (h : '/' ∉ name.toList) :
    referenceTail (componentPath sectionName name) = name := by
  have htail (front rest : List Char) (hrest : '/' ∉ rest) :
      tailChars (front ++ '/' :: rest) = rest := by
    have hall : ∀ c ∈ rest.reverse, (c != '/') = true := by
      intro c hc
      simpa using fun heq : c = '/' => hrest (heq ▸ List.mem_reverse.1 hc)
    rw [tailChars, List.reverse_append, List.reverse_cons, List.append_assoc,
      List.takeWhile_append_of_pos hall]
    simp
  have hchars : (componentPath sectionName name).toList =
      (componentsPath ++ sectionName).toList ++ '/' :: name.toList := by
    simp [componentPath]
  rw [referenceTail, hchars, htail _ _ h, String.ofList_toList]

/-! ## Chains -/

section Follow

variable {α : Type} {sectionName : String} {all : Dict (Referable α)} {value : α}

theorem mem_without {name : String} {entries : List (String × Referable α)}
    {entry : String × Referable α} :
    entry ∈ without name entries ↔ entry ∈ entries ∧ entry.1 ≠ name := by
  simp [without]

theorem lookup_without (name other : String) (entries : List (String × α)) :
    (without name entries).lookup other =
      if other = name then none else entries.lookup other := by
  induction entries with
  | nil => simp [without]
  | cons entry rest ih =>
    obtain ⟨first, value⟩ := entry
    rw [without] at ih ⊢
    by_cases hfirst : first = name
    · subst hfirst
      simp only [List.filter_cons, bne_self_eq_false, Bool.false_eq_true, if_false, ih]
      by_cases hother : other = first
      · simp [hother]
      · simp [hother, List.lookup_cons, beq_eq_false_iff_ne.2 hother]
    · have hkept : (first != name) = true := by simpa using hfirst
      simp only [List.filter_cons, hkept, if_true, List.lookup_cons, ih]
      by_cases hother : other = first
      · simp [hother, hfirst]
      · simp [beq_eq_false_iff_ne.2 hother]

theorem mem_of_lookup_eq_some {name : String} {entries : List (String × Referable α)}
    {found : Referable α} (h : entries.lookup name = some found) : (name, found) ∈ entries := by
  obtain ⟨front, back, rfl, _⟩ := List.lookup_eq_some_iff.1 h
  exact List.mem_append_right front List.mem_cons_self

theorem followFresh_eq_ok {fresh : List (String × Referable α)} {start : Referable α}
    (h : followFresh sectionName all fresh start = .ok value) :
    start = .inline value ∨ ∃ name, (name, Referable.inline value) ∈ fresh := by
  fun_induction followFresh sectionName all fresh start with
  | case1 fresh found => exact Or.inl (congrArg _ (Except.ok.inj h))
  | case2 => nomatch h
  | case3 fresh path name hname next hnext _ ih =>
    rcases ih h with rfl | ⟨other, hmem⟩
    · exact Or.inr ⟨name, mem_of_lookup_eq_some hnext⟩
    · exact Or.inr ⟨other, (mem_without.1 hmem).1⟩
  | case4 => nomatch h
  | case5 => nomatch h

/-- **A chain ends** at the object it starts with or at one that a component holds. -/
theorem follow_eq_ok {start : Referable α} (h : follow sectionName all start = .ok value) :
    start = .inline value ∨ ∃ name, all.get? name = some (.inline value) := by
  refine (followFresh_eq_ok h).imp_right fun ⟨name, hmem⟩ => ⟨name, ?_⟩
  exact Dict.mem_entries_iff.1 hmem

end Follow

/-! ## Component schemas -/

theorem Document.hasSchema_iff {document : Document} {path : String} :
    document.hasSchema path = true ↔
      ∃ name schema, path = componentPath "schemas" name
        ∧ document.schemas.get? name = some schema := by
  have hsection : '/' ∉ "schemas".toList := by decide
  unfold hasSchema
  constructor
  · intro h
    split at h
    · rename_i name heq
      obtain ⟨schema, hschema⟩ := Option.isSome_iff_exists.1 h
      exact ⟨name, schema, (componentName_eq_ok_iff hsection).1 heq, hschema⟩
    · nomatch h
  · rintro ⟨name, schema, hpath, hschema⟩
    rw [(componentName_eq_ok_iff hsection).2 hpath]
    simp [hschema]

end OpenApi
