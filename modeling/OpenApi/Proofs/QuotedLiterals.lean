import Mathlib.Data.List.DropRight
import OpenApi.Proofs.EnumMembers

/-!
# Enumerated values in single quotes

The value of an enumerated member is its text with a backslash in front of every single quote, for a
literal in single quotes. In such a literal a backslash makes the next character literal, so it is
the text's own backslashes that decide what is read: without one the text is read back, and with one
it is not. Behind an odd number of them a quote ends the literal, and at the end of the text they
keep the literal open.

## Main definitions

* `readLiteral`: reading a literal in single quotes.
* `EndsInEscape`: the text's backslashes make the character behind it literal.
* `LeavesQuoteBare`: a quote of the text ends the literal.
* `ReadInQuotes`: what is read of the value for a text.

## Main statements

* `readLiteral_of_not_leavesQuoteBare`, `readLiteral_of_leavesQuoteBare`: what is read of any text.
* `unescaped_eq_self_iff`: it is the text exactly when this has no backslash.
* `readInQuotes_members`: so for all enumerations, of properties and of models.
-/
namespace OpenApi

open Resolved (Enumeration)

namespace Text

/-! ## Reading literals -/

/-- Put characters in front of a text that was read, which comes with what follows it. -/
def readBehind (front : List Char) (read : Option (List Char × List Char)) :
    Option (List Char × List Char) :=
  read.map fun (text, rest) => (front ++ text, rest)

@[simp] theorem readBehind_nil (read : Option (List Char × List Char)) :
    readBehind [] read = read := by
  cases read <;> rfl

@[simp] theorem readBehind_none (front : List Char) : readBehind front none = none := rfl

@[simp] theorem readBehind_some (front text rest : List Char) :
    readBehind front (some (text, rest)) = some (front ++ text, rest) := rfl

theorem readBehind_readBehind (front back : List Char) (read : Option (List Char × List Char)) :
    readBehind front (readBehind back read) = readBehind (front ++ back) read := by
  rcases read with _ | ⟨text, rest⟩
  · rfl
  · simp

/-- Read the inside of a literal up to the quote that ends it; with `escaped` the next character is
literal. -/
def readQuoted : (escaped : Bool) → List Char → Option (List Char × List Char)
  | _, [] => none
  | true, c :: rest => readBehind [c] (readQuoted false rest)
  | false, c :: rest =>
    if c = '\'' then some ([], rest)
    else if c = '\\' then readQuoted true rest
    else readBehind [c] (readQuoted false rest)

/-- Read a literal in single quotes: its text, and what follows it. -/
def readLiteral : List Char → Option (List Char × List Char)
  | '\'' :: rest => readQuoted false rest
  | _ => none

/-- The characters between two single quotes. -/
def inQuotes (value : List Char) : List Char := '\'' :: (value ++ ['\''])

/-! ## Backslashes -/

/-- Whether a character makes the next one literal: a backslash that is not literal itself. -/
def escapes (escaped : Bool) (c : Char) : Bool := !escaped && c == '\\'

@[simp] theorem escapes_backslash (escaped : Bool) : escapes escaped '\\' = !escaped := by
  simp [escapes]

theorem escapes_of_ne {c : Char} (h : c ≠ '\\') (escaped : Bool) : escapes escaped c = false := by
  simp [escapes, h]

/-- Whether the character behind a text is literal. -/
def escapesNext (escaped : Bool) (text : List Char) : Bool := text.foldl escapes escaped

/-- What is left of a character: nothing of a backslash that makes the next one literal. -/
def remaining (escaped : Bool) (c : Char) : List Char := if escapes escaped c then [] else [c]

/-- What is left of a text. -/
def unescaped : (escaped : Bool) → List Char → List Char
  | _, [] => []
  | escaped, c :: rest => remaining escaped c ++ unescaped (escapes escaped c) rest

/-- An odd number of backslashes ends the text. -/
def EndsInEscape (text : List Char) : Prop := (text.rtakeWhile (· == '\\')).length % 2 = 1

instance (text : List Char) : Decidable (EndsInEscape text) := inferInstanceAs (Decidable (_ = _))

/-- A single quote of the text stands behind an odd number of backslashes. -/
def LeavesQuoteBare (text : List Char) : Prop :=
  ∃ front back, text = front ++ '\'' :: back ∧ EndsInEscape front

variable {text : List Char} {escaped : Bool} {c : Char}

/-- The character behind a text is literal when an odd number of backslashes ends the text. -/
theorem escapesNext_false_iff : escapesNext false text = true ↔ EndsInEscape text := by
  induction text using List.reverseRecOn with
  | nil => simp [escapesNext, EndsInEscape]
  | append_singleton text c ih =>
    rw [EndsInEscape] at ih
    rw [escapesNext, List.foldl_append, EndsInEscape, List.rtakeWhile_concat]
    change escapes (escapesNext false text) c = true ↔ _
    by_cases hc : c = '\\'
    · subst hc
      rw [escapes_backslash, Bool.not_eq_true', ← Bool.not_eq_true, ih, if_pos (beq_self_eq_true _),
        List.length_append, List.length_singleton]
      omega
    · simp [escapes_of_ne hc, hc]

theorem mem_of_endsInEscape (h : EndsInEscape text) : '\\' ∈ text := by
  have hne : text.rtakeWhile (· == '\\') ≠ [] := by
    intro hnil
    rw [EndsInEscape, hnil] at h
    nomatch h
  obtain ⟨c, hc⟩ := List.exists_mem_of_ne_nil _ hne
  obtain rfl : c = '\\' := by simpa using List.mem_rtakeWhile_imp hc
  exact (List.rtakeWhile_suffix _ _).subset hc

/-! ## What is read -/

/-- A character is read, and the rest behind it, unless it is a quote behind a backslash. -/
theorem readQuoted_escapeQuotes_cons (h : c = '\'' → escaped = false) (rest : List Char) :
    readQuoted escaped (escapeQuotes (c :: text) ++ rest) =
      readBehind (remaining escaped c)
        (readQuoted (escapes escaped c) (escapeQuotes text ++ rest)) := by
  rw [escapeQuotes, List.flatMap_cons, List.append_assoc, ← escapeQuotes]
  by_cases hquote : c = '\''
  · obtain rfl := h hquote
    subst hquote
    rfl
  · rw [if_neg hquote, List.singleton_append, remaining]
    by_cases hbackslash : c = '\\'
    · subst hbackslash
      cases escaped <;> simp [readQuoted]
    · rw [escapes_of_ne hbackslash]
      cases escaped <;> simp [readQuoted, hquote, hbackslash]

/-- A text is read without the backslashes that make a character literal, as far as no
quote is bare. -/
theorem readQuoted_escapeQuotes_append
    (h : ∀ front back, text = front ++ '\'' :: back → escapesNext escaped front = false)
    (rest : List Char) :
    readQuoted escaped (escapeQuotes text ++ rest) =
      readBehind (unescaped escaped text) (readQuoted (escapesNext escaped text) rest) := by
  induction text generalizing escaped with
  | nil => simp [escapeQuotes, escapesNext, unescaped]
  | cons c text ih =>
    have hfirst : c = '\'' → escaped = false := by
      rintro rfl
      exact h [] text rfl
    have hrest : ∀ front back, text = front ++ '\'' :: back →
        escapesNext (escapes escaped c) front = false := by
      rintro front back rfl
      exact h (c :: front) back rfl
    rw [readQuoted_escapeQuotes_cons hfirst, ih hrest, readBehind_readBehind]
    rfl

/-- The first bare quote ends the reading. -/
theorem exists_readQuoted_eq_of_bare
    (h : ∃ front back, text = front ++ '\'' :: back ∧ escapesNext escaped front = true)
    (after : List Char) :
    ∃ read rest, readQuoted escaped (escapeQuotes text ++ after) = some (read, rest ++ after) := by
  induction text generalizing escaped with
  | nil =>
    obtain ⟨front, back, hnil, -⟩ := h
    simp at hnil
  | cons c text ih =>
    by_cases hbare : c = '\'' ∧ escaped = true
    · obtain ⟨rfl, rfl⟩ := hbare
      exact ⟨['\\'], escapeQuotes text, by simp [escapeQuotes, readQuoted]⟩
    · obtain ⟨front, back, htext, hfront⟩ := h
      cases front with
      | nil =>
        obtain ⟨rfl, -⟩ := List.cons.inj htext
        exact absurd ⟨rfl, hfront⟩ hbare
      | cons d front =>
        obtain ⟨rfl, rfl⟩ := List.cons.inj htext
        obtain ⟨read, rest, hread⟩ := ih ⟨front, back, rfl, hfront⟩
        rw [readQuoted_escapeQuotes_cons (by simpa using hbare), hread]
        exact ⟨_, rest, rfl⟩

/-- **What is read of a text that leaves no quote bare**: all of it but its escaping backslashes,
unless the last of these makes the closing quote literal. -/
theorem readLiteral_of_not_leavesQuoteBare (h : ¬LeavesQuoteBare text) :
    readLiteral (inQuotes (escapeQuotes text)) =
      if EndsInEscape text then none else some (unescaped false text, []) := by
  have hquotes : ∀ front back, text = front ++ '\'' :: back → escapesNext false front = false := by
    intro front back htext
    rw [← Bool.not_eq_true, escapesNext_false_iff]
    exact fun hfront => h ⟨front, back, htext, hfront⟩
  rw [inQuotes, readLiteral, readQuoted_escapeQuotes_append hquotes]
  simp only [← escapesNext_false_iff]
  cases escapesNext false text <;> simp [readQuoted]

/-- **What is read of a text that leaves a quote bare** ends before the closing quote. -/
theorem readLiteral_of_leavesQuoteBare (h : LeavesQuoteBare text) :
    ∃ read rest, readLiteral (inQuotes (escapeQuotes text)) = some (read, rest) ∧ rest ≠ [] := by
  obtain ⟨front, back, htext, hfront⟩ := h
  obtain ⟨read, rest, hread⟩ := exists_readQuoted_eq_of_bare
    ⟨front, back, htext, escapesNext_false_iff.2 hfront⟩ ['\'']
  exact ⟨read, rest ++ ['\''], hread, by simp⟩

theorem length_unescaped_le (escaped : Bool) (text : List Char) :
    (unescaped escaped text).length ≤ text.length := by
  induction text generalizing escaped with
  | nil => exact Nat.le_refl 0
  | cons c text ih =>
    have hrest := ih (escapes escaped c)
    have hfirst : (remaining escaped c).length ≤ 1 := by
      unfold remaining
      split <;> simp
    rw [unescaped, List.length_append, List.length_cons]
    omega

/-- **Only a text without a backslash is left as it is.** -/
theorem unescaped_eq_self_iff : unescaped false text = text ↔ '\\' ∉ text := by
  induction text with
  | nil => simp [unescaped]
  | cons c text ih =>
    by_cases hc : c = '\\'
    · subst hc
      refine iff_of_false (fun heq => ?_) (by simp)
      have hshort : (unescaped true text).length = (text.length + 1) := congrArg List.length heq
      have hle := length_unescaped_le true text
      omega
    · rw [unescaped, remaining, escapes_of_ne hc, if_neg Bool.false_ne_true, List.singleton_append]
      simp [ih, Ne.symm hc]

end Text

/-! ## Enumerations -/

open Text (escapeQuotes inQuotes readLiteral EndsInEscape LeavesQuoteBare)

/-- What is read of the value for a text, in single quotes. -/
structure ReadInQuotes (text value : List Char) : Prop where
  /-- It is a complete literal and reads as the text exactly when this has no backslash. -/
  eq_text_iff : readLiteral (inQuotes value) = some (text, []) ↔ '\\' ∉ text
  /-- It ends too early exactly when a quote of the text is bare. -/
  ends_early_iff : (∃ read rest, readLiteral (inQuotes value) = some (read, rest) ∧ rest ≠ []) ↔
    LeavesQuoteBare text
  /-- It does not end exactly when the text's last backslash makes the closing quote literal. -/
  eq_none_iff : readLiteral (inQuotes value) = none ↔ ¬LeavesQuoteBare text ∧ EndsInEscape text

theorem readInQuotes_escapeQuotes (text : List Char) : ReadInQuotes text (escapeQuotes text) := by
  by_cases hbare : LeavesQuoteBare text
  case pos =>
    obtain ⟨front, back, htext, hfront⟩ := id hbare
    have hmem : '\\' ∈ text := htext ▸ List.mem_append_left _ (Text.mem_of_endsInEscape hfront)
    obtain ⟨read, rest, hread, hrest⟩ := Text.readLiteral_of_leavesQuoteBare hbare
    constructor
    case eq_text_iff => simp [hread, hrest, hmem]
    case ends_early_iff => exact iff_of_true ⟨read, rest, hread, hrest⟩ hbare
    case eq_none_iff => simp [hread, hbare]
  case neg =>
    have hread := Text.readLiteral_of_not_leavesQuoteBare hbare
    by_cases hends : EndsInEscape text
    · rw [if_pos hends] at hread
      have hmem := Text.mem_of_endsInEscape hends
      constructor <;> simp [hread, hbare, hends, hmem]
    · rw [if_neg hends] at hread
      constructor <;> simp [hread, hbare, hends, Text.unescaped_eq_self_iff]

/-- Each member of an enumeration has a value for the text of its literal. -/
def ReadsInQuotes (info : Enumeration) : Prop :=
  ∀ member ∈ info.members,
    ReadInQuotes (literalText member.literal).toList member.value.toList

theorem readsInQuotes_enumerationOf (name : String) (keywords : Keywords) :
    ReadsInQuotes (enumerationOf name keywords) := by
  intro member hmember
  obtain ⟨literal, -, rfl⟩ := List.mem_map.1 hmember
  rw [enumMemberOf, String.toList_ofList]
  exact readInQuotes_escapeQuotes (literalText literal).toList

/-- **What is read of enumerated values in single quotes**: of the value for any text, and so of
those of the members of all enumerations, be they of properties at any depth or of models. -/
theorem readInQuotes_members (dialect : Dialect) (text : List Char) :
    ReadInQuotes text (escapeQuotes text)
      ∧ (∀ (name : String) (required : Bool) (schema : Referable Schema),
          ∀ property ∈ (dialect.property name required schema).nested,
            ∀ info, property.type.kind = .enumeration info → ReadsInQuotes info)
      ∧ ∀ (document : Document) (name : String) (schema : Referable Schema) (info : Enumeration),
          (dialect.model document name schema).kind = .enumeration info → ReadsInQuotes info :=
  ⟨readInQuotes_escapeQuotes text,
    (Dialect.builds_of_enumerationOf readsInQuotes_enumerationOf).forall_nested_property,
    fun _ _ _ _ => Dialect.of_kind_model readsInQuotes_enumerationOf⟩

/-- A list of paths and quotations. -/
def quotationsSchema : Referable Schema :=
  .inline
    { items := some (.inline
        { type := some (.single .string)
          enumValues := [.string "it's", .string "C:\\", .string "\\'"] }) }

theorem readInQuotes_members_quotations :
    ∃ property ∈ (Dialect.property {} "quotations" false quotationsSchema).nested, ∃ info,
      property.type.kind = .enumeration info
        ∧ info.members.map (·.value) = ["it\\'s", "C:\\", "\\\\'"]
        ∧ info.members.map (fun member => readLiteral (inQuotes member.value.toList)) =
          [some ("it's".toList, []), none, some (['\\'], ['\''])]
        ∧ ReadsInQuotes info := by
  have hitem : ∃ property ∈ (Dialect.property {} "quotations" false quotationsSchema).nested,
      ∃ info, property.type.kind = .enumeration info
        ∧ info.members.map (·.value) = ["it\\'s", "C:\\", "\\\\'"]
        ∧ info.members.map (fun member => readLiteral (inQuotes member.value.toList)) =
          [some ("it's".toList, []), none, some (['\\'], ['\''])] :=
    ⟨_, List.mem_cons_of_mem _ List.mem_cons_self, _, rfl, by decide +kernel, by decide +kernel⟩
  obtain ⟨property, hmem, info, hkind, hvalues, hread⟩ := hitem
  exact ⟨property, hmem, info, hkind, hvalues, hread,
    (readInQuotes_members {} []).2.1 "quotations" false quotationsSchema property hmem info hkind⟩

/-- The value for a backslash makes the closing quote literal, so the literal does not end. -/
theorem readLiteral_enumMemberOf_backslash :
    (enumMemberOf (.string "\\")).value = "\\"
      ∧ readLiteral (inQuotes (escapeQuotes ['\\'])) = none
      ∧ readLiteral (inQuotes (escapeQuotes ['\\'])) ≠ some (['\\'], []) := by
  decide +kernel

end OpenApi
