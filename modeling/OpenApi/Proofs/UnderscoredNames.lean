import OpenApi.Proofs.Identifiers
import OpenApi.Proofs.ParameterBuckets

/-!
# Names with an underscore in front

A name with an underscore in front keeps its form, so that `_id` and `id` stay apart. But a name
that clashes is escaped with an underscore in front, so `_class` and `class` do not: they have the
same identifier whenever the case style leaves the plain name as it is and the plain name clashes.
Of two parameters with such names an operation keeps one.

## Main definitions

* `Naming.EscapedAsIs`: the words whose identifier is the word behind an underscore.
* `Operation.DeclaresBoth`: an operation has two parameters, and no third one with their
  identifiers.

## Main statements

* `identifier_underscore_eq_iff`: when the identifiers of `_word` and `word` are the same.
* `both_mem_settleParameters_iff`: when two parameters of an operation are both kept.
* `underscored_eq_iff`: both, for the fields and the parameters named `_word` and `word`.
-/
namespace OpenApi

open Text

/-! ## Identifiers -/

namespace Naming

variable {naming : Naming} {style : CaseStyle} {word : List Char}

/-- A word that is escaped without being changed: the style leaves it as it is, and it clashes. -/
def EscapedAsIs (naming : Naming) (style : CaseStyle) (word : List Char) : Prop :=
  style.apply word = word ∧ naming.clashes word = true

instance : Decidable (naming.EscapedAsIs style word) :=
  inferInstanceAs (Decidable (style.apply word = word ∧ naming.clashes word = true))

/-- With an underscore in front a word is its own identifier. -/
theorem identifier_underscore (hword : ∀ c ∈ word, c.isAlphanum = true) :
    naming.identifier style ('_' :: word) = '_' :: word := by
  have hsanitized : sanitize ('_' :: word) = '_' :: word :=
    sanitize_eq_self (List.forall_mem_cons.2
      ⟨rfl, fun c hc => isIdentifierChar_of_isAlphanum (hword c hc)⟩)
  rw [identifier, hsanitized]
  rfl

/-- A word by itself is put into the case style and escaped. -/
theorem identifier_word (hword : ∀ c ∈ word, c.isAlphanum = true) :
    naming.identifier style word = naming.escapeIdentifier (style.apply word) := by
  have hsanitized : sanitize word = word :=
    sanitize_eq_self fun c hc => isIdentifierChar_of_isAlphanum (hword c hc)
  have houter : hasOuterUnderscore word = false :=
    Bool.eq_false_iff.2 fun houter =>
      ne_underscore_of_isAlphanum (hword '_' (underscore_mem_of_hasOuterUnderscore houter)) rfl
  rw [identifier, hsanitized]
  simp [houter]

/-- **`_word` and `word` have the same identifier** exactly when the word is escaped as it is. -/
theorem identifier_underscore_eq_iff (hne : word ≠ []) (hword : ∀ c ∈ word, c.isAlphanum = true) :
    naming.identifier style ('_' :: word) = naming.identifier style word ↔
      naming.EscapedAsIs style word := by
  obtain ⟨c, rest, rfl⟩ := List.exists_cons_of_ne_nil hne
  obtain ⟨first, hfirst, halphanum⟩ := exists_head?_apply style (hword c List.mem_cons_self) rest
  obtain ⟨others, hstyled⟩ := List.head?_eq_some_iff.1 hfirst
  rw [identifier_underscore hword, identifier_word hword, EscapedAsIs, hstyled, escapeIdentifier,
    List.isEmpty_cons, Bool.false_or]
  cases hclashes : naming.clashes (first :: others) with
  | true =>
    rw [if_pos rfl, List.cons_inj_right]
    constructor
    · intro heq
      exact ⟨heq.symm, heq ▸ hclashes⟩
    · exact fun h => h.1.symm
  | false =>
    -- The styled word starts with no underscore, and a word that is left as it is does not clash.
    rw [if_neg Bool.false_ne_true]
    constructor
    · intro heq
      exact absurd (List.cons.inj heq).1.symm (ne_underscore_of_isAlphanum halphanum)
    · rintro ⟨heq, hclash⟩
      rw [← heq, hclashes] at hclash
      nomatch hclash

theorem ofList_identifier_underscore_eq_iff (naming : Naming) {word : String} (hne : word ≠ "")
    (hword : ∀ c ∈ word.toList, c.isAlphanum = true) (style : CaseStyle) :
    String.ofList (naming.identifier style ("_" ++ word).toList) =
        String.ofList (naming.identifier style word.toList) ↔
      naming.EscapedAsIs style word.toList := by
  have hcons : ("_" ++ word).toList = '_' :: word.toList := String.toList_append
  rw [String.ofList_inj, hcons]
  exact identifier_underscore_eq_iff (mt String.toList_eq_nil_iff.1 hne) hword

end Naming

/-! ## Parameters -/

section Parameters

variable {first second : Resolved.Parameter}

/-- An operation has two parameters, and no third one with the identifier of either. -/
structure Resolved.Operation.DeclaresBoth (operation : Resolved.Operation)
    (first second : Resolved.Parameter) : Prop where
  ne : first ≠ second
  mem_first : first ∈ operation.parameters
  mem_second : second ∈ operation.parameters
  others : ∀ parameter ∈ operation.parameters,
    parameter.names.identifier = first.names.identifier
      ∨ parameter.names.identifier = second.names.identifier →
    parameter = first ∨ parameter = second

/-- **Two parameters of an operation both stay** exactly when their identifiers differ. -/
theorem both_mem_settleParameters_iff {operation : Resolved.Operation}
    (h : operation.DeclaresBoth first second) :
    (first ∈ operation.settleParameters.parameters
        ∧ second ∈ operation.settleParameters.parameters) ↔
      first.names.identifier ≠ second.names.identifier := by
  constructor
  · rintro ⟨hfirst, hsecond⟩ hsame
    exact h.ne (List.inj_on_of_nodup_map
      (nodup_identifiersOf_distinctParameters operation.parameters) hfirst hsecond hsame)
  · intro hdiffer
    constructor
    · refine mem_distinctParameters_of_only h.mem_first fun parameter hmem hsame => ?_
      refine (h.others parameter hmem (Or.inl hsame)).resolve_right ?_
      rintro rfl
      exact hdiffer hsame.symm
    · refine mem_distinctParameters_of_only h.mem_second fun parameter hmem hsame => ?_
      refine (h.others parameter hmem (Or.inr hsame)).resolve_left ?_
      rintro rfl
      exact hdiffer hsame

end Parameters

/-! ## Names with an underscore -/

/-- **An underscore in front keeps two names apart** unless the plain one is escaped as it is: the
identifiers of two fields, those of two parameters, and two parameters of an operation. -/
theorem underscored_eq_iff {word : String} (hne : word ≠ "")
    (hword : ∀ c ∈ word.toList, c.isAlphanum = true) (dialect : Dialect) :
    (dialect.naming.fieldName ("_" ++ word) = dialect.naming.fieldName word ↔
        dialect.naming.EscapedAsIs dialect.naming.fieldStyle word.toList)
      ∧ (dialect.naming.parameterName ("_" ++ word) = dialect.naming.parameterName word ↔
        dialect.naming.EscapedAsIs .camel word.toList)
      ∧ ∀ (plain underscored : Parameter) (operation : Resolved.Operation),
        plain.name = word → underscored.name = "_" ++ word →
        operation.DeclaresBoth (dialect.parameter plain) (dialect.parameter underscored) →
        ((dialect.parameter plain ∈ operation.settleParameters.parameters
            ∧ dialect.parameter underscored ∈ operation.settleParameters.parameters) ↔
          ¬dialect.naming.EscapedAsIs .camel word.toList) := by
  have hsame := Naming.ofList_identifier_underscore_eq_iff dialect.naming hne hword
  refine ⟨hsame dialect.naming.fieldStyle, hsame .camel, ?_⟩
  intro plain underscored operation hplain hunderscored hdeclares
  rw [both_mem_settleParameters_iff hdeclares, ne_comm]
  have hidentifiers : (dialect.parameter underscored).names.identifier =
        (dialect.parameter plain).names.identifier ↔
      dialect.naming.EscapedAsIs .camel word.toList := by
    change dialect.naming.parameterName underscored.name =
      dialect.naming.parameterName plain.name ↔ _
    rw [hplain, hunderscored]
    exact hsame .camel
  exact hidentifiers.not

/-- A parameter of a query. -/
def queryParameter (name : String) : Resolved.Parameter :=
  Dialect.parameter {} { name, location := .query }

/-- An operation that takes a word, the word with an underscore in front, and a limit. -/
def searchOperation (word : String) : Resolved.Operation where
  names := .of "search"
  path := "/pets"
  method := .get
  tag := "pets"
  tags := ["pets"]
  parameters := [word, "limit", "_" ++ word].map queryParameter

theorem underscored_eq_iff_petId :
    Naming.fieldName {} "_petId" ≠ Naming.fieldName {} "petId"
      ∧ Naming.parameterName {} "_petId" ≠ Naming.parameterName {} "petId"
      ∧ (searchOperation "petId").DeclaresBoth (queryParameter "petId") (queryParameter "_petId")
      ∧ queryParameter "petId" ∈ (searchOperation "petId").settleParameters.parameters
      ∧ queryParameter "_petId" ∈ (searchOperation "petId").settleParameters.parameters := by
  have hkept : ¬Naming.EscapedAsIs {} .camel "petId".toList := by decide +kernel
  have hword : "petId".toList.all Char.isAlphanum = true := by decide
  obtain ⟨hfield, hparameter, hboth⟩ :=
    underscored_eq_iff (show "petId" ≠ "" by decide) (List.all_eq_true.1 hword) {}
  have hdeclares : (searchOperation "petId").DeclaresBoth (queryParameter "petId")
      (queryParameter "_petId") := by
    refine ⟨fun heq => ?_, by simp [searchOperation], by simp [searchOperation], ?_⟩
    · exact absurd (congrArg (·.names.base) heq) (by decide)
    · intro parameter hmem hsame
      simp only [searchOperation, List.map_cons, List.map_nil, List.mem_cons, List.not_mem_nil,
        or_false] at hmem
      rcases hmem with rfl | rfl | rfl
      · exact Or.inl rfl
      · exact absurd hsame (by decide +kernel)
      · exact Or.inr rfl
  exact ⟨mt hfield.1 hkept, mt hparameter.1 hkept, hdeclares,
    (hboth _ _ (searchOperation "petId") rfl rfl hdeclares).2 hkept⟩

/-- A reserved word in small letters is escaped as it is, and only one of the two
parameters stays. -/
theorem searchOperation_class_not_kept :
    Naming.fieldName {} "_class" = Naming.fieldName {} "class"
      ∧ Naming.parameterName {} "_class" = Naming.parameterName {} "class"
      ∧ ((searchOperation "class").parameters.map (·.names.base)) = ["class", "limit", "_class"]
      ∧ ((searchOperation "class").settleParameters.parameters.map (·.names.base)) =
        ["_class", "limit"] := by
  decide +kernel

end OpenApi
