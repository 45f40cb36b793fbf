import OpenApi.Proofs.Identifiers
import OpenApi.Proofs.WordBoundaries

/-!
# Names in snake case

In snake case a name is its words in small letters with underscores between them. Words in small
letters hold no boundary and an underscore is one, so the words are read back. The case styles write
words without regard to their capitals, so each of them makes the same of a name and of its form in
snake case. The other styles lose boundaries: `a_b_c` is `ABC` in Pascal case, which is one word.

## Main definitions

* `SameWords`: two names have the same words, apart from capital letters.

## Main statements

* `splitWords_snakeCase`: the words of a name in snake case.
* `snakeCase_eq_iff`: two names are the same in snake case when they have the same words.
* `SameWords.apply_eq`: then they are the same in every other case style.
* `camelCase_snakeCase_eq_iff`: which names are the same in camel case as their form in snake case.
* `identifier_eq_escapeIdentifier_snakeCase`: the identifier of a name without an outer underscore.
-/
namespace OpenApi

namespace Text

variable {c : Char} {word name other : List Char} {words : List (List Char)}

/-! ## Small letters -/

theorem isUpper_toLower_eq_false (h : c.isAlphanum = true) : c.toLower.isUpper = false :=
  forall_of_isAlphanum (P := fun c => c.toLower.isUpper = false) (by decide +kernel) h

theorem toLower_toLower_of_isAlphanum (h : c.isAlphanum = true) : c.toLower.toLower = c.toLower :=
  forall_of_isAlphanum (P := fun c => c.toLower.toLower = c.toLower) (by decide +kernel) h

theorem toUpper_toLower_of_isAlphanum (h : c.isAlphanum = true) : c.toLower.toUpper = c.toUpper :=
  forall_of_isAlphanum (P := fun c => c.toLower.toUpper = c.toUpper) (by decide +kernel) h

theorem isWord_lowerWord (h : IsWord word) : IsWord (lowerWord word) where
  ne_nil := mt List.map_eq_nil_iff.1 h.ne_nil
  isAlphanum := fun _ hmem => isAlphanum_of_mem_lowerWord h hmem

/-- A word in small letters has no capital for a boundary. -/
theorem isChain_lowerWord (h : IsWord word) : (lowerWord word).IsChain fun c d => ¬IsHump c d := by
  refine (List.pairwise_of_forall_mem_list fun c _ d hd => ?_).isChain
  obtain ⟨e, he, rfl⟩ := List.mem_map.1 hd
  rintro ⟨-, hupper⟩
  rw [isUpper_toLower_eq_false (h.isAlphanum e he)] at hupper
  nomatch hupper

theorem lowerWord_lowerWord (h : ∀ c ∈ word, c.isAlphanum = true) :
    lowerWord (lowerWord word) = lowerWord word := by
  unfold lowerWord
  rw [List.map_map]
  exact List.map_congr_left fun c hc => toLower_toLower_of_isAlphanum (h c hc)

theorem titleWord_lowerWord (h : ∀ c ∈ word, c.isAlphanum = true) :
    titleWord (lowerWord word) = titleWord word := by
  cases word with
  | nil => rfl
  | cons first rest =>
    obtain ⟨hfirst, hrest⟩ := List.forall_mem_cons.1 h
    change first.toLower.toUpper :: lowerWord (lowerWord rest) = first.toUpper :: lowerWord rest
    rw [toUpper_toLower_of_isAlphanum hfirst, lowerWord_lowerWord hrest]

/-! ## Words between underscores -/

/-- Words in small letters are read back from a text with underscores between them. -/
theorem splitWords_flatten_intersperse (h : ∀ word ∈ words, IsWord word) :
    splitWords ((words.map lowerWord).intersperse ['_']).flatten = words.map lowerWord := by
  induction words with
  | nil => rfl
  | cons word rest ih =>
    obtain ⟨hword, hrest⟩ := List.forall_mem_cons.1 h
    have hfirst : ∀ more, (∀ c, continuesWord c more = false) →
        splitWords (lowerWord word ++ more) = lowerWord word :: splitWords more := by
      intro more hends
      exact splitWords_append_of_isWord (isWord_lowerWord hword) (isChain_lowerWord hword)
        fun c _ => hends c
    cases rest with
    | nil => exact hfirst [] fun _ => rfl
    | cons next rest =>
      have hgap : ∀ c ∈ ['_'], c.isAlphanum = false := List.forall_mem_singleton.2 rfl
      rw [List.map_cons, List.map_cons, List.intersperse_cons_cons, List.flatten_cons,
        List.flatten_cons, hfirst _ fun _ => rfl, splitWords_append_of_forall hgap]
      exact congrArg _ (ih hrest)

/-- **The words of a name in snake case are its words in small letters.** -/
theorem splitWords_snakeCase (name : List Char) :
    splitWords (snakeCase name) = (splitWords name).map lowerWord :=
  splitWords_flatten_intersperse fun _ => isWord_of_mem_splitWords

/-! ## Names with the same words -/

/-- Two names have the same words, apart from capital letters. -/
def SameWords (name other : List Char) : Prop :=
  (splitWords name).map lowerWord = (splitWords other).map lowerWord

theorem map_lowerWord_map_lowerWord (name : List Char) :
    ((splitWords name).map lowerWord).map lowerWord = (splitWords name).map lowerWord := by
  rw [List.map_map]
  exact List.map_congr_left fun word hword =>
    lowerWord_lowerWord (isWord_of_mem_splitWords hword).isAlphanum

/-- A name has the same words in snake case. -/
theorem sameWords_snakeCase (name : List Char) : SameWords (snakeCase name) name := by
  rw [SameWords, splitWords_snakeCase, map_lowerWord_map_lowerWord]

/-- Pascal case looks at words in small letters only. -/
theorem pascalCase_eq_flatMap (name : List Char) :
    pascalCase name = ((splitWords name).map lowerWord).flatMap titleWord := by
  rw [pascalCase, List.flatMap_map]
  exact List.flatMap_congr fun word hword =>
    (titleWord_lowerWord (isWord_of_mem_splitWords hword).isAlphanum).symm

/-- Camel case looks at words in small letters only, if there is any word. -/
theorem camelCase_eq_of_splitWords {first : List Char} (h : splitWords name = first :: words) :
    camelCase name = lowerWord first ++ (words.map lowerWord).flatMap titleWord := by
  have hwords : ∀ word ∈ words, IsWord word := fun word hmem =>
    isWord_of_mem_splitWords (h ▸ List.mem_cons_of_mem first hmem)
  rw [camelCase, h, List.flatMap_map]
  exact congrArg _ (List.flatMap_congr fun word hword =>
    (titleWord_lowerWord (hwords word hword).isAlphanum).symm)

namespace SameWords

theorem snakeCase_eq (h : SameWords name other) : snakeCase name = snakeCase other := by
  rw [snakeCase, snakeCase, h]

theorem pascalCase_eq (h : SameWords name other) : pascalCase name = pascalCase other := by
  rw [pascalCase_eq_flatMap, pascalCase_eq_flatMap, h]

theorem camelCase_eq (h : SameWords name other) (hword : splitWords name ≠ []) :
    camelCase name = camelCase other := by
  obtain ⟨first, words, hname⟩ := List.exists_cons_of_ne_nil hword
  rw [SameWords, hname, List.map_cons] at h
  obtain ⟨first', words', hother, hfirst, hwords⟩ := List.map_eq_cons_iff.1 h.symm
  rw [camelCase_eq_of_splitWords hname, camelCase_eq_of_splitWords hother, hfirst, hwords]

/-- **Names with the same words are the same in every case style** but the original one. -/
theorem apply_eq (h : SameWords name other) (hword : splitWords name ≠ []) {style : CaseStyle}
    (hstyle : style ≠ .original) : style.apply name = style.apply other := by
  cases style with
  | original => exact absurd rfl hstyle
  | camel => exact h.camelCase_eq hword
  | pascal => exact h.pascalCase_eq
  | snake => exact h.snakeCase_eq

end SameWords

/-- **Two names are the same in snake case** exactly when they have the same words. -/
theorem snakeCase_eq_iff : snakeCase name = snakeCase other ↔ SameWords name other := by
  constructor
  · intro heq
    rw [SameWords, ← splitWords_snakeCase, ← splitWords_snakeCase, heq]
  · exact SameWords.snakeCase_eq

/-! ## Styles of a name in snake case -/

theorem snakeCase_snakeCase (name : List Char) : snakeCase (snakeCase name) = snakeCase name :=
  (sameWords_snakeCase name).snakeCase_eq

theorem pascalCase_snakeCase (name : List Char) : pascalCase (snakeCase name) = pascalCase name :=
  (sameWords_snakeCase name).pascalCase_eq

-- Pascal case by itself loses boundaries between words of one letter.
example : pascalCase (pascalCase "a_b_c".toList) ≠ pascalCase "a_b_c".toList := by decide

/-- The words of a name hold its letters and digits. -/
theorem flatten_splitWords (name : List Char) :
    (splitWords name).flatten = name.filter Char.isAlphanum := by
  obtain ⟨pieces, ending, h⟩ := exists_splitting name
  rw [h.splitWords_eq, h.flatten_eq]

/-- A name has no word when it has no letter or digit. -/
theorem splitWords_eq_nil_iff : splitWords name = [] ↔ ∀ c ∈ name, c.isAlphanum = false := by
  constructor
  · intro hnil
    have hnone : name.filter Char.isAlphanum = [] := by rw [← flatten_splitWords, hnil]; rfl
    simpa using hnone
  · intro hnone
    have hskip := splitWords_append_of_forall hnone []
    rwa [List.append_nil] at hskip

theorem splitWords_ne_nil_iff : splitWords name ≠ [] ↔ ∃ c ∈ name, c.isAlphanum = true := by
  rw [Ne, splitWords_eq_nil_iff]
  simp

/-- **The form of a name in camel case is that of its form in snake case** if there is any word. A
name without one stays as it is in camel case, while nothing is left of it in snake case. -/
theorem camelCase_snakeCase_eq_iff :
    camelCase (snakeCase name) = camelCase name ↔
      name = [] ∨ ∃ c ∈ name, c.isAlphanum = true := by
  rw [← splitWords_ne_nil_iff]
  cases hsplit : splitWords name with
  | nil =>
    have hempty : snakeCase name = [] := by rw [snakeCase, hsplit]; rfl
    have hsame : camelCase name = name := by rw [camelCase, hsplit]
    rw [hempty, hsame]
    simp [camelCase, splitWords, eq_comm]
  | cons first rest =>
    have hwords : splitWords (snakeCase name) ≠ [] := by
      rw [splitWords_snakeCase, hsplit]
      exact List.cons_ne_nil _ _
    have hcamel := (sameWords_snakeCase name).camelCase_eq hwords
    exact iff_of_true hcamel (Or.inr (List.cons_ne_nil _ _))

/-! ## Other characters -/

/-- Only letters and digits decide on the words: the other characters may be exchanged for
each other. -/
theorem splitWords_map {f : Char → Char} (hkeep : ∀ c, c.isAlphanum = true → f c = c)
    (hother : ∀ c, c.isAlphanum = false → (f c).isAlphanum = false) (name : List Char) :
    splitWords (name.map f) = splitWords name := by
  induction name with
  | nil => rfl
  | cons c rest ih =>
    rw [List.map_cons, splitWords, splitWords, ih]
    cases hc : c.isAlphanum with
    | false => rw [hother c hc, Bool.not_false, if_pos rfl, if_pos rfl]
    | true =>
      have hgoes : continuesWord c (rest.map f) = continuesWord c rest := by
        cases rest with
        | nil => rfl
        | cons d rest =>
          cases hd : d.isAlphanum with
          | false => simp [continuesWord, hd, hother d hd]
          | true => rw [List.map_cons, continuesWord, continuesWord, hkeep d hd]
      rw [hkeep c hc, hc, hgoes]

/-- The name that the forms of a name are made of: the two reaction names are spelled out first. -/
def spelledOut (name : List Char) : List Char := (reactionName? name).getD name

/-- A statement of a name that is spelled out holds if it holds of the two reaction names and of the
names that are left as they are. -/
theorem spelledOut_induction {P : List Char → List Char → Prop}
    (hplus : P ['+', '1'] "plus1".toList) (hminus : P ['-', '1'] "minus1".toList)
    (hself : ∀ name, P name name) (name : List Char) : P name (spelledOut name) := by
  cases hreaction : reactionName? name with
  | none =>
    rw [spelledOut, hreaction]
    exact hself name
  | some spelled =>
    rcases eq_of_reactionName?_eq_some hreaction with rfl | rfl
    · exact hplus
    · exact hminus

theorem spelledOut_eq_nil_iff (name : List Char) : spelledOut name = [] ↔ name = [] := by
  induction name using spelledOut_induction with
  | hplus => decide
  | hminus => decide
  | hself name => exact Iff.rfl

theorem exists_isAlphanum_spelledOut_iff (name : List Char) :
    (∃ c ∈ spelledOut name, c.isAlphanum = true) ↔ ∃ c ∈ name, c.isAlphanum = true := by
  induction name using spelledOut_induction with
  | hplus => exact iff_of_true ⟨'1', by decide⟩ ⟨'1', by decide⟩
  | hminus => exact iff_of_true ⟨'1', by decide⟩ ⟨'1', by decide⟩
  | hself name => exact Iff.rfl

/-- A sanitized name has the words of the name that is spelled out. -/
theorem splitWords_sanitize (name : List Char) :
    splitWords (sanitize name) = splitWords (spelledOut name) := by
  cases hreaction : reactionName? name with
  | some spelled => rw [sanitize, spelledOut, hreaction]; rfl
  | none =>
    rw [sanitize_eq_map hreaction, spelledOut, hreaction, Option.getD_none]
    refine splitWords_map (fun c hc => ?_) (fun c hc => ?_) name
    · rw [if_pos (isIdentifierChar_of_isAlphanum hc)]
    · split
      · exact hc
      · rfl

end Text

/-! ## Identifiers -/

open Text

/-- **The identifier of a name without an outer underscore** is that of its form in snake case, so
names with the same words have the same one. -/
theorem Naming.identifier_eq_escapeIdentifier_snakeCase (naming : Naming) {style : CaseStyle}
    {name : List Char} (hstyle : style ≠ .original)
    (houter : hasOuterUnderscore (sanitize name) = false)
    (hword : ∃ c ∈ name, c.isAlphanum = true) :
    naming.identifier style name =
      naming.escapeIdentifier (style.apply (snakeCase (spelledOut name))) := by
  have hwords : splitWords (sanitize name) ≠ [] := by
    rwa [splitWords_sanitize, splitWords_ne_nil_iff, exists_isAlphanum_spelledOut_iff]
  have hsame : SameWords (sanitize name) (snakeCase (spelledOut name)) := by
    rw [SameWords, splitWords_sanitize]
    exact (sameWords_snakeCase (spelledOut name)).symm
  rw [identifier, houter, hsame.apply_eq hwords hstyle]
  rfl

end OpenApi
