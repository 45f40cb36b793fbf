import OpenApi.Proofs.Identifiers

/-!
# Class names

A class name is a name in Pascal case, so it holds letters and digits only. Where that is empty or
means something else, a prefix goes in front. The prefix makes it a class name if no reserved word
and no built-in type starts with it: whatever follows the prefix, the whole is none of them then.

## Main definitions

* `Naming.SafePrefixApart`: the prefix is a name, and no word that is taken starts with it.
* `Naming.UsableClassName`: what a class name is.

## Main statements

* `isReserved_iff`: a word is reserved when it differs from a listed one in capital letters only.
* `SafePrefixApart.clashes_append_eq_false`: whatever follows the prefix, the whole does not clash.
* `SafePrefixApart.usableClassName_className`: every name gives a usable class name.
* `usableClassName_modelName`: so does the name of every schema that is given none outright.
-/
namespace OpenApi

open Text

/-! ## Small letters -/

namespace Text

/-- A letter is no digit. -/
theorem isDigit_eq_false_of_isAlpha {c : Char} (h : c.isAlpha = true) : c.isDigit = false := by
  have halphanum : c.isAlphanum = true := by simp [Char.isAlphanum, h]
  exact forall_of_ascii (P := fun c => c.isAlpha = true → c.isDigit = false) (by decide +kernel)
    (toNat_lt_of_isAlphanum halphanum) h

/-- Whether a word starts with another one, in any mixture of capital and small letters. -/
def startsIgnoringCase (start word : String) : Bool :=
  (smallLetters start.toList).isPrefixOf (smallLetters word.toList)

/-- On ASCII text small letters are made part by part. -/
theorem smallLetters_append_of_ascii {front back : List Char} (hfront : ∀ c ∈ front, c.toNat < 128)
    (hback : ∀ c ∈ back, c.toNat < 128) :
    smallLetters (front ++ back) = smallLetters front ++ smallLetters back := by
  rw [smallLetters_of_ascii hfront, smallLetters_of_ascii hback, smallLetters_of_ascii,
    List.map_append]
  exact List.forall_mem_append.2 ⟨hfront, hback⟩

/-- What starts with a text starts with it in any mixture of capital and small letters. -/
theorem startsIgnoringCase_append {start : String} {rest : List Char} {word : String}
    (hstart : ∀ c ∈ start.toList, c.isAlphanum = true) (hrest : ∀ c ∈ rest, c.isAlphanum = true)
    (hword : toSmall word = toSmall (String.ofList (start.toList ++ rest))) :
    startsIgnoringCase start word = true := by
  have hletters : smallLetters word.toList = smallLetters start.toList ++ smallLetters rest := by
    rw [← smallLetters_append_of_ascii (fun c hc => toNat_lt_of_isAlphanum (hstart c hc))
      fun c hc => toNat_lt_of_isAlphanum (hrest c hc)]
    simpa [toSmall] using congrArg String.toList hword
  rw [startsIgnoringCase, hletters, List.isPrefixOf_iff_prefix]
  exact List.prefix_append _ _

end Text

namespace Naming

variable {naming : Naming} {name : List Char}

/-! ## Words that are taken -/

/-- A word is reserved when it differs from a listed one in capital letters only. -/
theorem isReserved_iff {word : String} : naming.isReserved word = true ↔
    ∃ listed ∈ reservedWords ++ naming.extraReserved, toSmall listed = toSmall word := by
  have hsmall : ∀ listed ∈ reservedWords, toSmall listed = listed := by decide +kernel
  simp only [isReserved, Bool.or_eq_true, List.contains_iff_mem, List.mem_map, List.mem_append,
    or_and_right, exists_or]
  refine or_congr_left ⟨fun hmem => ⟨_, hmem, hsmall _ hmem⟩, ?_⟩
  rintro ⟨listed, hlisted, heq⟩
  exact heq ▸ (hsmall listed hlisted).symm ▸ hlisted

/-- The words that no class name may equal: the reserved ones and the built-in types. -/
def takenWords (naming : Naming) : List String :=
  reservedWords ++ naming.extraReserved ++ (builtinTypes ++ naming.extraBuiltins)

/-- The safe prefix is made of letters and digits and starts with a letter, and no word that is
taken starts with it, in any mixture of capital and small letters. -/
structure SafePrefixApart (naming : Naming) : Prop where
  startsWithLetter : naming.safePrefix.toList.head?.any Char.isAlpha = true
  isAlphanum : ∀ c ∈ naming.safePrefix.toList, c.isAlphanum = true
  apart : ∀ word ∈ naming.takenWords, startsIgnoringCase naming.safePrefix word = false

/-- What a class name is: a free name of letters and digits that starts with no digit. -/
structure UsableClassName (naming : Naming) (name : String) : Prop extends
    naming.FreeName name where
  isAlphanum : ∀ c ∈ name.toList, c.isAlphanum = true
  no_digit : startsWithDigit name.toList = false

/-- The usual prefix is apart from the usual words, whatever the other choices are. -/
theorem safePrefixApart_of_usual (hwords : naming.HasUsualWords)
    (husual : naming.safePrefix = "Model") : naming.SafePrefixApart where
  startsWithLetter := by rw [husual]; decide
  isAlphanum := by
    rw [husual]
    exact List.all_eq_true.1 (by decide : "Model".toList.all Char.isAlphanum = true)
  apart := by
    rw [takenWords, hwords.extraReserved, hwords.extraBuiltins, husual]
    decide +kernel

/-! ## Class names -/

/-- A name of letters and digits that does not clash is a class name. -/
theorem usableClassName_of_not_clashes (hne : name ≠ []) (hclashes : naming.clashes name = false)
    (hname : ∀ c ∈ name, c.isAlphanum = true) : naming.UsableClassName (String.ofList name) where
  toFreeName := freeName_of_not_clashes hne hclashes fun c hc =>
    isIdentifierChar_of_isAlphanum (hname c hc)
  isAlphanum := by rwa [String.toList_ofList]
  no_digit := by
    rw [String.toList_ofList]
    simp only [clashes, Bool.or_eq_false_iff] at hclashes
    exact hclashes.1.2

namespace SafePrefixApart

theorem exists_letter (h : naming.SafePrefixApart) :
    ∃ first rest, naming.safePrefix.toList = first :: rest ∧ first.isAlpha = true := by
  obtain ⟨first, hfirst, hletter⟩ := (Option.any_eq_true _ _).1 h.startsWithLetter
  obtain ⟨rest, hrest⟩ := List.head?_eq_some_iff.1 hfirst
  exact ⟨first, rest, hrest, hletter⟩

/-- **Whatever follows the safe prefix, the whole does not clash.** -/
theorem clashes_append_eq_false (h : naming.SafePrefixApart)
    (hname : ∀ c ∈ name, c.isAlphanum = true) :
    naming.clashes (naming.safePrefix.toList ++ name) = false := by
  have hapart : ∀ word ∈ naming.takenWords,
      toSmall word ≠ toSmall (String.ofList (naming.safePrefix.toList ++ name)) := by
    intro word hword heq
    have hstarts := startsIgnoringCase_append h.isAlphanum hname heq
    rw [h.apart word hword] at hstarts
    nomatch hstarts
  have hreserved :
      naming.isReserved (String.ofList (naming.safePrefix.toList ++ name)) = false := by
    refine Bool.eq_false_iff.2 fun hreserved => ?_
    obtain ⟨listed, hlisted, heq⟩ := isReserved_iff.1 hreserved
    exact hapart listed (List.mem_append_left _ hlisted) heq
  have hbuiltin :
      naming.isBuiltin (String.ofList (naming.safePrefix.toList ++ name)) = false := by
    refine Bool.eq_false_iff.2 fun hbuiltin => ?_
    refine hapart _ (List.mem_append_right _ ?_) rfl
    simpa [isBuiltin] using hbuiltin
  have hdigit : startsWithDigit (naming.safePrefix.toList ++ name) = false := by
    obtain ⟨first, rest, hrest, hletter⟩ := h.exists_letter
    rw [hrest]
    exact isDigit_eq_false_of_isAlpha hletter
  rw [clashes, hreserved, hdigit, hbuiltin]
  rfl

/-- **Every name gives a usable class name.** -/
theorem usableClassName_className (h : naming.SafePrefixApart) (name : List Char) :
    naming.UsableClassName (String.ofList (naming.className name)) := by
  unfold className
  dsimp only
  generalize hpascal : pascalCase _ = pascal
  have halphanum : ∀ c ∈ pascal, c.isAlphanum = true := fun c hc =>
    isAlphanum_of_mem_pascalCase (hpascal ▸ hc)
  split
  · obtain ⟨first, rest, hrest, -⟩ := h.exists_letter
    refine usableClassName_of_not_clashes ?_ (h.clashes_append_eq_false halphanum)
      (List.forall_mem_append.2 ⟨h.isAlphanum, halphanum⟩)
    rw [hrest]
    exact List.cons_ne_nil _ _
  · rename_i hkept
    simp only [Bool.or_eq_true, not_or, Bool.not_eq_true, List.isEmpty_eq_false_iff] at hkept
    exact usableClassName_of_not_clashes hkept.1 hkept.2 halphanum

end SafePrefixApart

/-- **The class name of every schema that is given none outright is usable**, if the safe prefix is
apart from the words that are taken. The usual prefix is apart from the usual words. -/
theorem usableClassName_modelName :
    (∀ naming : Naming, naming.HasUsualWords → naming.safePrefix = "Model" →
        naming.SafePrefixApart)
      ∧ ∀ naming : Naming, naming.SafePrefixApart →
        ∀ name, naming.modelNames.get? name = none →
          naming.UsableClassName (naming.modelName name) := by
  refine ⟨fun _ => safePrefixApart_of_usual, fun naming h name hnone => ?_⟩
  rw [modelName, hnone]
  exact h.usableClassName_className name.toList

/-- A project that reserves a word of its own, with a suffix of which nothing is left. -/
def recordNaming : Naming where
  safePrefix := "Dto"
  modelSuffix := some "?"
  extraReserved := ["Record"]

theorem usableClassName_modelName_record :
    recordNaming.SafePrefixApart
      ∧ recordNaming.modelNames.get? "record" = none
      ∧ recordNaming.modelName "record" = "DtoRecord"
      ∧ recordNaming.UsableClassName (recordNaming.modelName "record")
      ∧ SafePrefixApart {} := by
  have hapart : recordNaming.SafePrefixApart :=
    ⟨by decide, List.all_eq_true.1 (by decide : "Dto".toList.all Char.isAlphanum = true),
      by decide +kernel⟩
  have hnone : recordNaming.modelNames.get? "record" = none := rfl
  exact ⟨hapart, hnone, by decide +kernel,
    usableClassName_modelName.2 recordNaming hapart "record" hnone,
    usableClassName_modelName.1 {} ⟨rfl, rfl⟩ rfl⟩

end Naming

end OpenApi
