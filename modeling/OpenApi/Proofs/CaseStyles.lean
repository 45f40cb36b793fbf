import OpenApi.Naming

/-!
# Words and the case styles

What a case style does to the characters of a name. A word holds letters and digits only and has at
least one of them, so a name in any style holds nothing that no identifier holds, and it starts with
a letter or digit if the name does.

## Main definitions

* `IsWord`: the lists of characters that are words.

## Main statements

* `isWord_of_mem_splitWords`: a name is split into words.
* `isIdentifierChar_of_mem_apply`: the characters of a name in a case style.
* `exists_head?_apply`: the first character of a name in a case style.
-/
namespace OpenApi.Text

/-! ## Characters -/

/-- What holds of every ASCII character, checked one by one. -/
theorem forall_of_ascii {P : Char → Prop} (h : ∀ n < 128, P (Char.ofNat n)) {c : Char}
    (hc : c.toNat < 128) : P c := by
  have hchecked := h c.toNat hc
  rwa [Char.ofNat_toNat] at hchecked

variable {c : Char}

/-- Letters and digits are ASCII characters here. -/
theorem toNat_lt_of_isAlphanum (h : c.isAlphanum = true) : c.toNat < 128 := by
  delta Char.isAlphanum Char.isAlpha Char.isUpper Char.isLower Char.isDigit at h
  simp only [Bool.or_eq_true, Bool.and_eq_true, decide_eq_true_eq, UInt32.le_iff_toNat_le,
    ge_iff_le] at h
  change ((65 ≤ c.toNat ∧ c.toNat ≤ 90) ∨ (97 ≤ c.toNat ∧ c.toNat ≤ 122)) ∨
    (48 ≤ c.toNat ∧ c.toNat ≤ 57) at h
  omega

/-- What holds of every letter and digit, checked one by one. -/
theorem forall_of_isAlphanum {P : Char → Prop}
    (h : ∀ n < 128, (Char.ofNat n).isAlphanum = true → P (Char.ofNat n))
    (hc : c.isAlphanum = true) : P c :=
  forall_of_ascii (P := fun c => c.isAlphanum = true → P c) h (toNat_lt_of_isAlphanum hc) hc

theorem isAlphanum_toLower (h : c.isAlphanum = true) : c.toLower.isAlphanum = true :=
  forall_of_isAlphanum (P := fun c => c.toLower.isAlphanum = true) (by decide +kernel) h

theorem isAlphanum_toUpper (h : c.isAlphanum = true) : c.toUpper.isAlphanum = true :=
  forall_of_isAlphanum (P := fun c => c.toUpper.isAlphanum = true) (by decide +kernel) h

theorem isIdentifierChar_of_isAlphanum (h : c.isAlphanum = true) : isIdentifierChar c = true := by
  simp [isIdentifierChar, h]

theorem ne_underscore_of_isAlphanum (h : c.isAlphanum = true) : c ≠ '_' := by
  rintro rfl
  exact absurd h (by decide)

/-! ## Words -/

/-- A word is one or more letters and digits. -/
structure IsWord (word : List Char) : Prop where
  ne_nil : word ≠ []
  isAlphanum : ∀ c ∈ word, c.isAlphanum = true

variable {name word rest : List Char} {words : List (List Char)}

theorem IsWord.cons (hc : c.isAlphanum = true) (h : ∀ d ∈ word, d.isAlphanum = true) :
    IsWord (c :: word) :=
  ⟨List.cons_ne_nil c word, List.forall_mem_cons.2 ⟨hc, h⟩⟩

theorem isWord_of_mem_consToFirst (hc : c.isAlphanum = true) (hwords : ∀ word ∈ words, IsWord word)
    (h : word ∈ consToFirst c words) : IsWord word := by
  cases words with
  | nil =>
    obtain rfl := List.mem_singleton.1 h
    exact .cons hc (by simp)
  | cons first others =>
    obtain ⟨hfirst, hothers⟩ := List.forall_mem_cons.1 hwords
    rcases List.mem_cons.1 h with rfl | hmem
    · exact .cons hc hfirst.isAlphanum
    · exact hothers word hmem

/-- **A name is split into words.** -/
theorem isWord_of_mem_splitWords (h : word ∈ splitWords name) : IsWord word := by
  induction name generalizing word with
  | nil => nomatch h
  | cons c rest ih =>
    unfold splitWords at h
    split at h
    · exact ih h
    · rename_i hc
      replace hc : c.isAlphanum = true := by simpa using hc
      split at h
      · exact isWord_of_mem_consToFirst hc (fun _ hmem => ih hmem) h
      · rcases List.mem_cons.1 h with rfl | hmem
        · exact .cons hc (by simp)
        · exact ih hmem

/-- A letter or digit in front starts the first word. -/
theorem exists_splitWords_cons (hc : c.isAlphanum = true) (rest : List Char) :
    ∃ word words, splitWords (c :: rest) = (c :: word) :: words := by
  unfold splitWords
  simp only [hc, Bool.not_true, Bool.false_eq_true, if_false]
  split
  · cases splitWords rest with
    | nil => exact ⟨[], [], rfl⟩
    | cons word words => exact ⟨word, words, rfl⟩
  · exact ⟨[], splitWords rest, rfl⟩

/-! ## Characters of words -/

theorem isAlphanum_of_mem_lowerWord (hword : IsWord word) (h : c ∈ lowerWord word) :
    c.isAlphanum = true := by
  obtain ⟨d, hd, rfl⟩ := List.mem_map.1 h
  exact isAlphanum_toLower (hword.isAlphanum d hd)

theorem isAlphanum_of_mem_titleWord (hword : IsWord word) (h : c ∈ titleWord word) :
    c.isAlphanum = true := by
  cases word with
  | nil => nomatch h
  | cons first rest =>
    obtain ⟨hfirst, hrest⟩ := List.forall_mem_cons.1 hword.isAlphanum
    rcases List.mem_cons.1 h with rfl | hmem
    · exact isAlphanum_toUpper hfirst
    · obtain ⟨d, hd, rfl⟩ := List.mem_map.1 hmem
      exact isAlphanum_toLower (hrest d hd)

theorem isAlphanum_of_mem_titleWords (hwords : ∀ word ∈ words, IsWord word)
    (h : c ∈ words.flatMap titleWord) : c.isAlphanum = true := by
  obtain ⟨word, hword, hc⟩ := List.mem_flatMap.1 h
  exact isAlphanum_of_mem_titleWord (hwords word hword) hc

/-! ## Characters of styled names -/

/-- A name in Pascal case holds letters and digits only. -/
theorem isAlphanum_of_mem_pascalCase (h : c ∈ pascalCase name) : c.isAlphanum = true :=
  isAlphanum_of_mem_titleWords (fun _ => isWord_of_mem_splitWords) h

/-- In camel case a name without a word stays as it is; any other holds letters and digits only. -/
theorem isAlphanum_or_mem_of_mem_camelCase (h : c ∈ camelCase name) :
    c.isAlphanum = true ∨ c ∈ name := by
  unfold camelCase at h
  split at h
  · exact Or.inr h
  · rename_i first others hsplit
    have hwords : ∀ word ∈ first :: others, IsWord word := fun word hmem =>
      isWord_of_mem_splitWords (hsplit ▸ hmem)
    obtain ⟨hfirst, hothers⟩ := List.forall_mem_cons.1 hwords
    left
    rcases List.mem_append.1 h with hlower | htitle
    · exact isAlphanum_of_mem_lowerWord hfirst hlower
    · exact isAlphanum_of_mem_titleWords hothers htitle

theorem mem_or_eq_of_mem_intersperse {α : Type} {x separator : α} :
    ∀ {xs : List α}, x ∈ xs.intersperse separator → x ∈ xs ∨ x = separator
  | [], h => Or.inl h
  | [_], h => Or.inl h
  | first :: second :: rest, h => by
    rw [List.intersperse_cons_cons] at h
    rcases List.mem_cons.1 h with rfl | h
    · exact Or.inl List.mem_cons_self
    rcases List.mem_cons.1 h with rfl | h
    · exact Or.inr rfl
    · exact (mem_or_eq_of_mem_intersperse h).imp_left (List.mem_cons_of_mem first)

/-- A name in snake case holds underscores besides letters and digits. -/
theorem isIdentifierChar_of_mem_snakeCase (h : c ∈ snakeCase name) : isIdentifierChar c = true := by
  obtain ⟨part, hpart, hc⟩ := List.mem_flatten.1 h
  rcases mem_or_eq_of_mem_intersperse hpart with hword | rfl
  · obtain ⟨word, hmem, rfl⟩ := List.mem_map.1 hword
    exact isIdentifierChar_of_isAlphanum
      (isAlphanum_of_mem_lowerWord (isWord_of_mem_splitWords hmem) hc)
  · obtain rfl := List.mem_singleton.1 hc
    rfl

/-- **No case style adds a character that no identifier holds.** -/
theorem isIdentifierChar_of_mem_apply (style : CaseStyle)
    (hname : ∀ c ∈ name, isIdentifierChar c = true) (h : c ∈ style.apply name) :
    isIdentifierChar c = true := by
  cases style with
  | original => exact hname c h
  | camel =>
    rcases isAlphanum_or_mem_of_mem_camelCase h with hc | hmem
    · exact isIdentifierChar_of_isAlphanum hc
    · exact hname c hmem
  | pascal => exact isIdentifierChar_of_isAlphanum (isAlphanum_of_mem_pascalCase h)
  | snake => exact isIdentifierChar_of_mem_snakeCase h

/-! ## First characters -/

/-- **A name that starts with a letter or digit does so in every case style.** -/
theorem exists_head?_apply (style : CaseStyle) (hc : c.isAlphanum = true) (rest : List Char) :
    ∃ first, (style.apply (c :: rest)).head? = some first ∧ first.isAlphanum = true := by
  obtain ⟨word, words, hsplit⟩ := exists_splitWords_cons hc rest
  cases style with
  | original => exact ⟨c, rfl, hc⟩
  | camel =>
    refine ⟨c.toLower, ?_, isAlphanum_toLower hc⟩
    simp [CaseStyle.apply, camelCase, hsplit, lowerWord]
  | pascal =>
    refine ⟨c.toUpper, ?_, isAlphanum_toUpper hc⟩
    simp [CaseStyle.apply, pascalCase, hsplit, titleWord]
  | snake =>
    refine ⟨c.toLower, ?_, isAlphanum_toLower hc⟩
    cases words <;> simp [CaseStyle.apply, snakeCase, hsplit, lowerWord]

end OpenApi.Text
