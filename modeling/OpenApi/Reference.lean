import OpenApi.Document.Basic

/-!
# References

A reference names a component: `#/components/<section>/<name>`. The component may be a reference
itself, so looking one up follows a chain. A chain ends at an object, at a reference that names
nothing, or where it comes back to a reference that it has followed before.

## Main definitions

* `referenceTail`: the last segment of a path.
* `componentName`: the name in a path to one section.
* `follow`: the object at the end of a chain.
* `Document.schema`, `Document.parameter`, …: the same in the sections of a document.
-/
namespace OpenApi

/-! ## Errors -/

/-- Why a reference leads nowhere. -/
inductive ReferenceError where
  /-- The path is no path to a component. -/
  | invalidPath (path : String)
  /-- The path leads to another section than the expected one. -/
  | wrongSection (expected found path : String)
  /-- No component has the name. -/
  | targetNotFound (path : String)
  /-- The reference has been followed before. -/
  | circular (path : String)
deriving DecidableEq, Repr

namespace ReferenceError

/-- The wording of an error. -/
def message : ReferenceError → String
  | invalidPath path => "invalid reference format: " ++ path
  | wrongSection expected found path =>
    "invalid reference format: expected section '" ++ expected ++ "', got '" ++ found ++ "' in "
      ++ path
  | targetNotFound path => "reference target not found: " ++ path
  | circular path => "circular reference detected: " ++ path

end ReferenceError

/-! ## Paths -/

/-- The characters behind the last slash. -/
def tailChars (cs : List Char) : List Char := (cs.reverse.takeWhile (· != '/')).reverse

/-- The last segment of a path; a path without a slash is its own last segment. -/
def referenceTail (path : String) : String := String.ofList (tailChars path.toList)

/-- The text behind a beginning. -/
def afterPrefix? : List Char → List Char → Option (List Char)
  | [], cs => some cs
  | _ :: _, [] => none
  | p :: front, c :: cs => if p = c then afterPrefix? front cs else none

/-- The text in front of the first slash and the text behind it. -/
def splitAtSlash? : List Char → Option (List Char × List Char)
  | [] => none
  | c :: rest =>
    if c = '/' then some ([], rest)
    else (splitAtSlash? rest).map fun parts => (c :: parts.1, parts.2)

/-- What every path to a component starts with. -/
def componentsPath : String := "#/components/"

/-- The name in a path to the component `name` of a section. -/
def componentName (sectionName path : String) : Except ReferenceError String :=
  match (afterPrefix? componentsPath.toList path.toList).bind splitAtSlash? with
  | none => .error (.invalidPath path)
  | some (found, name) =>
    if String.ofList found = sectionName then .ok (String.ofList name)
    else .error (.wrongSection sectionName (String.ofList found) path)

/-! ## Chains -/

section Follow

variable {α : Type}

/-- The entries with another name. -/
def without (name : String) (entries : List (String × α)) : List (String × α) :=
  entries.filter (·.1 != name)

theorem length_without_lt {name : String} {entries : List (String × α)} {value : α}
    (h : entries.lookup name = some value) : (without name entries).length < entries.length := by
  induction entries with
  | nil => simp at h
  | cons entry rest ih =>
    obtain ⟨first, old⟩ := entry
    by_cases hname : name = first
    · subst hname
      simpa [without] using Nat.lt_succ_of_le (List.length_filter_le _ rest)
    · rw [List.lookup_cons, beq_eq_false_iff_ne.2 hname] at h
      have : (first != name) = true := by simpa [bne_iff_ne] using Ne.symm hname
      simpa [without, this] using ih h

/-- Follow a chain through the entries that no reference of the chain has named yet. -/
def followFresh (sectionName : String) (all : Dict (Referable α))
    (fresh : List (String × Referable α)) : Referable α → Except ReferenceError α
  | .inline value => .ok value
  | .reference path =>
    match componentName sectionName path with
    | .error e => .error e
    | .ok name =>
      match h : fresh.lookup name with
      | some next =>
        have _ := length_without_lt h
        followFresh sectionName all (without name fresh) next
      | none =>
        if (all.get? name).isSome then .error (.circular path)
        else .error (.targetNotFound path)
termination_by fresh.length

/-- A reference leads on to an entry that the chain has not been at, or nowhere. -/
theorem followFresh_reference (sectionName : String) (all : Dict (Referable α))
    (fresh : List (String × Referable α)) (path : String) :
    followFresh sectionName all fresh (.reference path) =
      match componentName sectionName path with
      | .error e => .error e
      | .ok name =>
        match fresh.lookup name with
        | some next => followFresh sectionName all (without name fresh) next
        | none =>
          if (all.get? name).isSome then .error (.circular path)
          else .error (.targetNotFound path) := by
  rw [followFresh]
  cases componentName sectionName path with
  | error e => rfl
  | ok name =>
    dsimp only
    split <;> simp [*]

/-- The object at the end of the chain that starts here, through the components of a section. -/
def follow (sectionName : String) (components : Dict (Referable α)) (start : Referable α) :
    Except ReferenceError α :=
  followFresh sectionName components components.entries start

end Follow

/-! ## Sections of a document -/

namespace Document

/-- The schema that a reference or schema comes to. -/
def schema (document : Document) : Referable Schema → Except ReferenceError Schema :=
  follow "schemas" document.schemas

/-- The parameter that a reference or parameter comes to. -/
def parameter (document : Document) : Referable Parameter → Except ReferenceError Parameter :=
  follow "parameters" document.parts.parameters

/-- The request body that a reference or request body comes to. -/
def requestBody (document : Document) :
    Referable RequestBody → Except ReferenceError RequestBody :=
  follow "requestBodies" document.parts.requestBodies

/-- The response that a reference or response comes to. -/
def response (document : Document) : Referable Response → Except ReferenceError Response :=
  follow "responses" document.parts.responses

/-- The header that a reference or header comes to. -/
def header (document : Document) : Referable Header → Except ReferenceError Header :=
  follow "headers" document.parts.headers

/-- Whether a path names a component schema. -/
def hasSchema (document : Document) (path : String) : Bool :=
  match componentName "schemas" path with
  | .ok name => (document.schemas.get? name).isSome
  | .error _ => false

end Document

end OpenApi
