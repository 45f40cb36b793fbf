import OpenApi.Proofs.CaseStyles

/-!
# Identifiers of fields and parameters

An identifier holds letters, digits and underscores, starts with no digit, and is no word that means
something else. A name is sanitized, put into a case style, and escaped with an underscore in front
if it clashes. A name that is sanitized to one with an outer underscore skips the last two steps. An
underscore keeps it apart from all reserved words and built-in types, since none of those has one,
but an underscore at the end does not help against a digit at the beginning.

## Main definitions

* `endsWithSeparator`: the names that end with neither a letter nor a digit.
* `Naming.HasUsualWords`: a project that adds no words of its own.
* `Naming.FreeName`: what an identifier is, its first character apart.

## Main statements

* `freeName_identifier`: every name gives a free one.
* `startsWithDigit_identifier_iff`: when an identifier starts with a digit.
* `freeName_and_startsWithDigit_iff`: both, for fields and parameters.
-/
namespace OpenApi

open Text

variable {name : List Char} {c : Char}

/-! ## Sanitized names -/

namespace Text

/-- A name is sanitized character by character, the two reaction names apart. -/
theorem sanitize_eq_map (h : reactionName? name = none) :
    sanitize name = name.map fun c => if isIdentifierChar c then c else '_' := by
  rw [sanitize, h]

/-- The reaction names. -/
theorem eq_of_reactionName?_eq_some {spelled : List Char} (h : reactionName? name = some spelled) :
    name = ['+', '1'] ∨ name = ['-', '1'] := by
  unfold reactionName? at h
  split at h
  · exact Or.inl rfl
  · exact Or.inr rfl
  · nomatch h

/-- A statement of the sanitized form of a name holds if it holds of the two reaction names and of
the names that are sanitized character by character. -/
theorem sanitize_induction {P : List Char → List Char → Prop}
    (hplus : P ['+', '1'] "plus1".toList) (hminus : P ['-', '1'] "minus1".toList)
    (hmap : ∀ name, P name (name.map fun c => if isIdentifierChar c then c else '_'))
    (name : List Char) : P name (sanitize name) := by
  cases hreaction : reactionName? name with
  | none =>
    rw [sanitize_eq_map hreaction]
    exact hmap name
  | some spelled =>
    rcases eq_of_reactionName?_eq_some hreaction with rfl | rfl
    · exact hplus
    · exact hminus

theorem isIdentifierChar_of_mem_sanitize (h : c ∈ sanitize name) : isIdentifierChar c = true := by
  induction name using sanitize_induction with
  | hplus => exact List.all_eq_true.1 (by decide : "plus1".toList.all isIdentifierChar = true) c h
  | hminus => exact List.all_eq_true.1 (by decide : "minus1".toList.all isIdentifierChar = true) c h
  | hmap name =>
    obtain ⟨d, -, rfl⟩ := List.mem_map.1 h
    split
    · assumption
    · rfl

/-- A name starts with a digit when its sanitized form does. -/
theorem startsWithDigit_sanitize (name : List Char) :
    startsWithDigit (sanitize name) = startsWithDigit name := by
  induction name using sanitize_induction with
  | hplus => rfl
  | hminus => rfl
  | hmap name =>
    cases name with
    | nil => rfl
    | cons c rest =>
      change (if isIdentifierChar c then c else '_').isDigit = c.isDigit
      split
      · rfl
      · rename_i hc
        have hdigit : c.isDigit = false := by
          simp only [isIdentifierChar, Char.isAlphanum, Bool.or_eq_true, not_or,
            Bool.not_eq_true] at hc
          exact hc.1.2
        rw [hdigit]
        rfl

/-- Whether a name ends with a character that is neither a letter nor a digit. -/
def endsWithSeparator (name : List Char) : Bool := name.getLast?.any (!·.isAlphanum)

/-- A sanitized name ends with an underscore when the name ends with a separator. -/
theorem getLast?_sanitize_eq_underscore_iff (name : List Char) :
    (sanitize name).getLast? = some '_' ↔ endsWithSeparator name = true := by
  induction name using sanitize_induction with
  | hplus => decide
  | hminus => decide
  | hmap name =>
    rw [endsWithSeparator, List.getLast?_map, Option.map_eq_some_iff, Option.any_eq_true]
    refine exists_congr fun last => and_congr_right fun _ => ?_
    cases halphanum : last.isAlphanum with
    | true =>
      have hne := ne_underscore_of_isAlphanum halphanum
      simp [isIdentifierChar_of_isAlphanum halphanum, hne]
    | false => simp [isIdentifierChar, halphanum]

/-- A name of letters and digits is sanitized already. -/
theorem sanitize_eq_self (h : ∀ c ∈ name, isIdentifierChar c = true) : sanitize name = name := by
  have hreaction : reactionName? name = none := by
    cases hspelled : reactionName? name with
    | none => rfl
    | some spelled =>
      rcases eq_of_reactionName?_eq_some hspelled with rfl | rfl
      · exact absurd (h '+' (by simp)) (by decide)
      · exact absurd (h '-' (by simp)) (by decide)
  rw [sanitize_eq_map hreaction]
  exact (List.map_congr_left fun c hc => by simp [h c hc]).trans (List.map_id name)

/-! ## Small letters -/

/-- The small letter of each ASCII character of a text is in the text in small letters. -/
theorem toLower_mem_smallLettersAfter {cs : List Char} (hc : c.toNat < 128) (hmem : c ∈ cs)
    (before : List Char) : c.toLower ∈ smallLettersAfter before cs := by
  induction cs generalizing before with
  | nil => nomatch hmem
  | cons first rest ih =>
    rw [smallLettersAfter]
    rcases List.mem_cons.1 hmem with rfl | hrest
    · have hne : c ≠ 'Σ' := by
        rintro rfl
        exact absurd hc (by decide)
      rw [if_neg hne, smallForm_of_ascii hc]
      exact List.mem_cons_self
    · exact List.mem_append_right _ (ih hrest _)

end Text

/-! ## Free names -/

namespace Naming

variable {naming : Naming}

/-- A project that adds no words of its own to the reserved words and the built-in types. -/
structure HasUsualWords (naming : Naming) : Prop where
  extraReserved : naming.extraReserved = []
  extraBuiltins : naming.extraBuiltins = []

/-- What an identifier is, its first character apart: it has characters, all of which may stand in
an identifier, and it is no reserved word, however it is capitalized, and no built-in type. -/
structure FreeName (naming : Naming) (name : String) : Prop where
  ne_empty : name ≠ ""
  isIdentifierChar : ∀ c ∈ name.toList, isIdentifierChar c = true
  not_reserved : naming.isReserved name = false
  not_builtin : naming.isBuiltin name = false

/-- No reserved word has an underscore. -/
theorem HasUsualWords.isReserved_eq_false (h : naming.HasUsualWords) (hmem : '_' ∈ name) :
    naming.isReserved (String.ofList name) = false := by
  have hsmall : '_' ∈ (toSmall (String.ofList name)).toList := by
    rw [toSmall, String.toList_ofList, String.toList_ofList]
    exact toLower_mem_smallLettersAfter (c := '_') (by decide) hmem []
  have hnone : ∀ word ∈ reservedWords, '_' ∉ word.toList := by decide +kernel
  have hnot : toSmall (String.ofList name) ∉ reservedWords := fun hword => hnone _ hword hsmall
  simp [isReserved, h.extraReserved, hnot]

/-- No built-in type has an underscore. -/
theorem HasUsualWords.isBuiltin_eq_false (h : naming.HasUsualWords) (hmem : '_' ∈ name) :
    naming.isBuiltin (String.ofList name) = false := by
  have hnone : ∀ word ∈ builtinTypes, '_' ∉ word.toList := by decide +kernel
  have hnot : String.ofList name ∉ builtinTypes := fun hword =>
    hnone _ hword (by rwa [String.toList_ofList])
  simp [isBuiltin, h.extraBuiltins, hnot]

/-- An underscore makes a name free. -/
theorem HasUsualWords.freeName_of_mem (h : naming.HasUsualWords) (hmem : '_' ∈ name)
    (hname : ∀ c ∈ name, Text.isIdentifierChar c = true) :
    naming.FreeName (String.ofList name) where
  ne_empty := mt String.ofList_eq_empty_iff.1 (List.ne_nil_of_mem hmem)
  isIdentifierChar := by rwa [String.toList_ofList]
  not_reserved := h.isReserved_eq_false hmem
  not_builtin := h.isBuiltin_eq_false hmem

/-- A name that needs no escape is free. -/
theorem freeName_of_not_clashes (hne : name ≠ []) (hclashes : naming.clashes name = false)
    (hname : ∀ c ∈ name, Text.isIdentifierChar c = true) :
    naming.FreeName (String.ofList name) := by
  simp only [clashes, Bool.or_eq_false_iff] at hclashes
  exact ⟨mt String.ofList_eq_empty_iff.1 hne, by rwa [String.toList_ofList], hclashes.1.1,
    hclashes.2⟩

theorem HasUsualWords.freeName_escapeIdentifier (h : naming.HasUsualWords)
    (hname : ∀ c ∈ name, Text.isIdentifierChar c = true) :
    naming.FreeName (String.ofList (naming.escapeIdentifier name)) := by
  unfold escapeIdentifier
  split
  · exact h.freeName_of_mem List.mem_cons_self (List.forall_mem_cons.2 ⟨rfl, hname⟩)
  · rename_i hkept
    simp only [Bool.or_eq_true, not_or, Bool.not_eq_true, List.isEmpty_eq_false_iff] at hkept
    exact freeName_of_not_clashes hkept.1 hkept.2 hname

/-- An escaped name starts with no digit. -/
theorem startsWithDigit_escapeIdentifier (naming : Naming) (name : List Char) :
    startsWithDigit (naming.escapeIdentifier name) = false := by
  unfold escapeIdentifier
  split
  · rfl
  · rename_i hkept
    simp only [clashes, Bool.or_eq_true, not_or, Bool.not_eq_true] at hkept
    exact hkept.2.1.2

/-! ## Identifiers -/

theorem underscore_mem_of_hasOuterUnderscore (h : hasOuterUnderscore name = true) :
    '_' ∈ name := by
  simp only [hasOuterUnderscore, Bool.or_eq_true, beq_iff_eq] at h
  exact h.elim List.mem_of_head? List.mem_of_getLast?

/-- **Every name gives a free one**, in any case style. -/
theorem HasUsualWords.freeName_identifier (h : naming.HasUsualWords) (style : CaseStyle)
    (name : List Char) : naming.FreeName (String.ofList (naming.identifier style name)) := by
  have hsanitized : ∀ c ∈ sanitize name, Text.isIdentifierChar c = true := fun _ =>
    isIdentifierChar_of_mem_sanitize
  unfold identifier
  dsimp only
  split
  · rename_i houter
    exact h.freeName_of_mem (underscore_mem_of_hasOuterUnderscore houter) hsanitized
  · exact h.freeName_escapeIdentifier fun _ => isIdentifierChar_of_mem_apply style hsanitized

/-- **An identifier starts with a digit** exactly when its name does and ends with a separator: then
the sanitized name has an underscore at its end, and is not escaped. -/
theorem startsWithDigit_identifier_iff (naming : Naming) (style : CaseStyle) (name : List Char) :
    startsWithDigit (naming.identifier style name) = true ↔
      startsWithDigit name = true ∧ endsWithSeparator name = true := by
  rw [← getLast?_sanitize_eq_underscore_iff, ← startsWithDigit_sanitize name]
  unfold identifier
  dsimp only
  cases houter : hasOuterUnderscore (sanitize name) with
  | true =>
    rw [if_pos rfl]
    refine ⟨fun hdigit => ⟨hdigit, ?_⟩, And.left⟩
    simp only [hasOuterUnderscore, Bool.or_eq_true, beq_iff_eq] at houter
    refine houter.resolve_left fun hhead => ?_
    obtain ⟨rest, hrest⟩ := List.head?_eq_some_iff.1 hhead
    rw [hrest] at hdigit
    nomatch hdigit
  | false =>
    rw [if_neg Bool.false_ne_true, startsWithDigit_escapeIdentifier]
    simp only [hasOuterUnderscore, Bool.or_eq_false_iff, beq_eq_false_iff_ne] at houter
    exact ⟨fun h => absurd h Bool.false_ne_true, fun h => absurd h.2 houter.2⟩

/-- **The identifiers of fields and parameters are free**, and they start with no digit but for a
name that starts with one and ends with a separator. -/
theorem freeName_and_startsWithDigit_iff (h : naming.HasUsualWords) (name : String) :
    ∀ identifier ∈ [naming.fieldName name, naming.parameterName name],
      naming.FreeName identifier
        ∧ (startsWithDigit identifier.toList = true ↔
          startsWithDigit name.toList = true ∧ endsWithSeparator name.toList = true) := by
  have hstyle : ∀ style, naming.FreeName (String.ofList (naming.identifier style name.toList))
      ∧ (startsWithDigit (String.ofList (naming.identifier style name.toList)).toList = true ↔
        startsWithDigit name.toList = true ∧ endsWithSeparator name.toList = true) := by
    intro style
    rw [String.toList_ofList]
    exact ⟨h.freeName_identifier style name.toList,
      startsWithDigit_identifier_iff naming style name.toList⟩
  intro identifier hidentifier
  rcases List.mem_cons.1 hidentifier with rfl | hparameter
  · exact hstyle naming.fieldStyle
  · obtain rfl := List.mem_singleton.1 hparameter
    exact hstyle .camel

theorem freeName_and_startsWithDigit_iff_secondClass :
    HasUsualWords { fieldStyle := .snake }
      ∧ ∀ identifier ∈ ["_2nd_class", "_2ndClass"],
        FreeName { fieldStyle := .snake } identifier
          ∧ startsWithDigit identifier.toList = false := by
  have husual : HasUsualWords { fieldStyle := .snake } := ⟨rfl, rfl⟩
  have hfield : fieldName { fieldStyle := .snake } "2nd class" = "_2nd_class" := by decide +kernel
  have hparameter : parameterName { fieldStyle := .snake } "2nd class" = "_2ndClass" := by
    decide +kernel
  refine ⟨husual, fun identifier hidentifier => ?_⟩
  rw [← hfield, ← hparameter] at hidentifier
  obtain ⟨hfree, hdigit⟩ :=
    freeName_and_startsWithDigit_iff husual "2nd class" identifier hidentifier
  exact ⟨hfree, Bool.eq_false_iff.2 (mt hdigit.1 (by decide +kernel))⟩

/-- The last character becomes an underscore, which keeps the digit in front. -/
theorem startsWithDigit_fieldName_oneDash :
    fieldName {} "1-" = "1_" ∧ parameterName {} "1-" = "1_"
      ∧ startsWithDigit "1_".toList = true := by
  decide +kernel

end Naming

end OpenApi
