import OpenApi.Proofs.CaseStyles
import OpenApi.Proofs.PropertyTypes

/-!
# Identifiers of enumerated values

The identifier of an enumerated value is its text in capital letters, with some characters written
in another way and all others that no identifier holds dropped. A digit that leads the text gets an
underscore in front. What is dropped is dropped after that, so a digit that comes to lead the
identifier only then does lead it.

## Main definitions

* `isDropped`: the characters of which nothing is left.
* `SpellsMember`: what the identifier of an enumerated value is.

## Main statements

* `startsWithDigit_enumMember_iff`: when the identifier of a value starts with a digit.
* `spellsMember_members`: the identifiers of all enumerations, of properties and of models.
-/
namespace OpenApi

open Resolved (Enumeration)

/-! ## Spelling -/

namespace Text

/-- Whether nothing is left of a character of a text in capital letters. -/
def isDropped (c : Char) : Bool := !isIdentifierChar c && !" -.+".toList.contains c

variable {c : Char}

/-- A character that is dropped is not written in another way. -/
theorem memberSpelling_of_isDropped (h : isDropped c = true) :
    memberSpelling c = [c] ∧ isIdentifierChar c = false := by
  obtain ⟨hchar, hother⟩ : isIdentifierChar c = false ∧ c ∉ " -.+".toList := by
    simpa [isDropped] using h
  refine ⟨?_, hchar⟩
  unfold memberSpelling
  rw [if_neg, if_neg]
  · rintro rfl
    exact hother (by decide)
  · rintro (rfl | rfl | rfl) <;> exact hother (by decide)

/-- Of any other character the identifier has all that is written for it, and it starts with a digit
only if the character is one. -/
theorem memberSpelling_of_not_isDropped (h : isDropped c = false) :
    ∃ first rest, memberSpelling c = first :: rest
      ∧ (∀ d ∈ first :: rest, isIdentifierChar d = true) ∧ first.isDigit = c.isDigit := by
  unfold memberSpelling
  split
  · rename_i hc
    refine ⟨'_', [], rfl, List.forall_mem_singleton.2 rfl, ?_⟩
    rcases hc with rfl | rfl | rfl <;> rfl
  · split
    · rename_i hc
      subst hc
      have hkept : "PLUS".toList.all isIdentifierChar = true := by decide
      exact ⟨'P', "LUS".toList, rfl, List.all_eq_true.1 hkept, rfl⟩
    · rename_i hseparator hplus
      obtain ⟨hspace, hdash, hdot⟩ : c ≠ ' ' ∧ c ≠ '-' ∧ c ≠ '.' := by simpa using hseparator
      refine ⟨c, [], rfl, List.forall_mem_singleton.2 ?_, rfl⟩
      simpa [isDropped, hspace, hdash, hdot, hplus] using h

/-- What is written for a text starts with a digit when the text does. -/
theorem startsWithDigit_flatMap_memberSpelling (cs : List Char) :
    startsWithDigit (cs.flatMap memberSpelling) = startsWithDigit cs := by
  cases cs with
  | nil => rfl
  | cons c rest =>
    rw [List.flatMap_cons]
    cases hdropped : isDropped c with
    | true => rw [(memberSpelling_of_isDropped hdropped).1]; rfl
    | false =>
      obtain ⟨first, others, hspelled, -, hdigit⟩ := memberSpelling_of_not_isDropped hdropped
      rw [hspelled]
      exact hdigit

/-- What is left of a text starts with a digit when the first character that is not
dropped is one. -/
theorem startsWithDigit_filter_memberSpelling (cs : List Char) :
    startsWithDigit ((cs.flatMap memberSpelling).filter isIdentifierChar) =
      startsWithDigit (cs.dropWhile isDropped) := by
  induction cs with
  | nil => rfl
  | cons c rest ih =>
    rw [List.flatMap_cons, List.filter_append, List.dropWhile_cons]
    cases hdropped : isDropped c with
    | true =>
      obtain ⟨hspelled, hchar⟩ := memberSpelling_of_isDropped hdropped
      have hnone : [c].filter isIdentifierChar = [] := List.filter_cons_of_neg (by simp [hchar])
      rw [hspelled, hnone]
      exact ih
    | false =>
      obtain ⟨first, others, hspelled, hkept, hdigit⟩ := memberSpelling_of_not_isDropped hdropped
      rw [hspelled, List.filter_eq_self.2 hkept]
      exact hdigit

/-! ## Identifiers -/

theorem enumMember_ne_nil (value : List Char) : enumMember value ≠ [] := by
  unfold enumMember
  dsimp only
  split
  · exact List.cons_ne_nil _ _
  · assumption

theorem isIdentifierChar_of_mem_enumMember {value : List Char} (h : c ∈ enumMember value) :
    isIdentifierChar c = true := by
  unfold enumMember at h
  dsimp only at h
  split at h
  · exact List.all_eq_true.1 (by decide : "VALUE".toList.all isIdentifierChar = true) c h
  · exact (List.mem_filter.1 h).2

/-- **The identifier of a value starts with a digit** exactly when the value in capital letters does
not, but does once the characters are taken from its beginning that are dropped. -/
theorem startsWithDigit_enumMember_iff (value : List Char) :
    startsWithDigit (enumMember value) = true ↔
      startsWithDigit (capitalLetters value) = false
        ∧ startsWithDigit ((capitalLetters value).dropWhile isDropped) = true := by
  rw [← startsWithDigit_filter_memberSpelling]
  unfold enumMember
  dsimp only
  rw [startsWithDigit_flatMap_memberSpelling]
  cases startsWithDigit (capitalLetters value) with
  | true => simp [isIdentifierChar, startsWithDigit]
  | false =>
    rw [if_neg Bool.false_ne_true]
    split
    · rename_i hnone
      rw [hnone]
      decide
    · simp

end Text

/-! ## Enumerations -/

/-- What the identifier of an enumerated value with some text is. -/
structure SpellsMember (text name : String) : Prop where
  ne_empty : name ≠ ""
  isIdentifierChar : ∀ c ∈ name.toList, Text.isIdentifierChar c = true
  startsWithDigit_iff : Text.startsWithDigit name.toList = true ↔
    Text.startsWithDigit (Text.capitalLetters text.toList) = false
      ∧ Text.startsWithDigit ((Text.capitalLetters text.toList).dropWhile Text.isDropped) = true

theorem spellsMember_enumMember (text : String) :
    SpellsMember text (String.ofList (Text.enumMember text.toList)) where
  ne_empty := mt String.ofList_eq_empty_iff.1 (Text.enumMember_ne_nil text.toList)
  isIdentifierChar := by
    rw [String.toList_ofList]
    exact fun _ => Text.isIdentifierChar_of_mem_enumMember
  startsWithDigit_iff := by
    rw [String.toList_ofList]
    exact Text.startsWithDigit_enumMember_iff text.toList

/-- Each member of an enumeration has the identifier of the text of its value. -/
def SpellsMembers (info : Enumeration) : Prop :=
  ∀ member ∈ info.members, SpellsMember (literalText member.literal) member.name

theorem spellsMembers_enumerationOf (name : String) (keywords : Keywords) :
    SpellsMembers (enumerationOf name keywords) := by
  intro member hmember
  obtain ⟨literal, -, rfl⟩ := List.mem_map.1 hmember
  exact spellsMember_enumMember (literalText literal)

namespace Dialect

variable {dialect : Dialect}

/-- Of the types that schemas get only those of enumerations have members, so what holds of every
enumeration of a schema holds of theirs. -/
theorem builds_of_enumerationOf {P : Enumeration → Prop}
    (h : ∀ name keywords, P (enumerationOf name keywords)) :
    dialect.Builds fun type => ∀ info, type.kind = .enumeration info → P info where
  any := fun _ hkind => nomatch hkind
  model := fun _ _ hkind => nomatch hkind
  freeForm := fun _ hkind => nomatch hkind
  scalar := by
    intro scalar format info hkind
    cases scalar <;> nomatch hkind
  enumeration := by
    rintro name keywords info ⟨⟩
    exact h _ keywords
  array := fun _ _ _ hkind => nomatch hkind
  map := fun _ _ _ hkind => nomatch hkind

theorem of_kind_modelKind {P : Enumeration → Prop}
    (h : ∀ name keywords, P (enumerationOf name keywords)) {className : String} {hasMembers : Bool}
    {body : Schema} {info : Enumeration}
    (hkind : (dialect.modelKind className hasMembers body).1 = .enumeration info) : P info := by
  revert hkind
  refine dialect.modelKind_cases className hasMembers body
    (P := fun kind => kind = .enumeration info → P info)
    ?enumeration nofun nofun (fun _ => nofun) nofun
  case enumeration =>
    rintro ⟨⟩
    exact h className body.toKeywords

/-- The same of the models that are enumerations. -/
theorem of_kind_model {P : Enumeration → Prop}
    (h : ∀ name keywords, P (enumerationOf name keywords)) {document : Document} {name : String}
    {schema : Referable Schema} {info : Enumeration}
    (hkind : (dialect.model document name schema).kind = .enumeration info) : P info := by
  unfold model at hkind
  split at hkind
  · exact of_kind_modelKind h hkind
  · nomatch hkind

theorem builds_spellsMembers :
    dialect.Builds fun type => ∀ info, type.kind = .enumeration info → SpellsMembers info :=
  builds_of_enumerationOf spellsMembers_enumerationOf

theorem spellsMembers_model {document : Document} {name : String} {schema : Referable Schema}
    {info : Enumeration} (h : (dialect.model document name schema).kind = .enumeration info) :
    SpellsMembers info :=
  of_kind_model spellsMembers_enumerationOf h

end Dialect

/-- **The identifiers of enumerated values**: that of any text, and so those of the members of all
enumerations, be they of properties at any depth or of models. -/
theorem spellsMember_members (dialect : Dialect) (text : String) :
    SpellsMember text (String.ofList (Text.enumMember text.toList))
      ∧ (∀ (name : String) (required : Bool) (schema : Referable Schema),
          ∀ property ∈ (dialect.property name required schema).nested,
            ∀ info, property.type.kind = .enumeration info → SpellsMembers info)
      ∧ ∀ (document : Document) (name : String) (schema : Referable Schema) (info : Enumeration),
          (dialect.model document name schema).kind = .enumeration info → SpellsMembers info :=
  ⟨spellsMember_enumMember text, Dialect.builds_spellsMembers.forall_nested_property,
    fun _ _ _ _ => Dialect.spellsMembers_model⟩

/-- A list of reactions. -/
def reactionsSchema : Referable Schema :=
  .inline
    { items := some (.inline
        { type := some (.single .string)
          enumValues := [.string "+1", .string "in-progress", .string "2 hearts"] }) }

theorem spellsMember_members_reactions :
    ∃ property ∈ (Dialect.property {} "reactions" false reactionsSchema).nested, ∃ info,
      property.type.kind = .enumeration info
        ∧ info.members.map (·.name) = ["PLUS1", "IN_PROGRESS", "_2_HEARTS"]
        ∧ SpellsMembers info := by
  have hitem : ∃ property ∈ (Dialect.property {} "reactions" false reactionsSchema).nested, ∃ info,
      property.type.kind = .enumeration info
        ∧ info.members.map (·.name) = ["PLUS1", "IN_PROGRESS", "_2_HEARTS"] :=
    ⟨_, List.mem_cons_of_mem _ List.mem_cons_self, _, rfl, by decide +kernel⟩
  obtain ⟨property, hmem, info, hkind, hnames⟩ := hitem
  exact ⟨property, hmem, info, hkind, hnames,
    (spellsMember_members {} "+1").2.1 "reactions" false reactionsSchema property hmem info hkind⟩

/-- A dollar sign is dropped, and the digit behind it comes to lead the identifier. -/
theorem startsWithDigit_enumMember_dollarOne :
    Text.enumMember "$1".toList = ['1']
      ∧ (enumMemberOf (.string "$1")).name = "1"
      ∧ Text.startsWithDigit "1".toList = true := by
  decide +kernel

end OpenApi
