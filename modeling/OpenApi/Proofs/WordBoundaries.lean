import Mathlib.Data.List.Chain
import OpenApi.Proofs.CaseStyles

/-!
# Where words end

The words of a name are what is left of it between its other characters, cut once more at every
capital behind a small letter. Nothing else is cut: runs of capitals, and digits next to letters,
stay together. A name is laid out in only one way like this, so the conditions on the cuts
determine the words.

## Main definitions

* `Piece`: a word of a name, with the characters in front of it.
* `Splitting`: how a name is laid out in words.
* `SplitsInto`: the words of some layout.

## Main statements

* `Splitting.splitWords_eq`: a name with a layout is split into the words of it.
* `exists_splitting`: a layout of each name.
* `splitsInto_iff_eq_splitWords`: the words of a name are the only ones it can be laid out in.
-/
namespace OpenApi.Text

/-! ## Layouts -/

/-- A small letter with a capital behind it. -/
def IsHump (c d : Char) : Prop := c.isLower = true ∧ d.isUpper = true

instance (c d : Char) : Decidable (IsHump c d) := inferInstanceAs (Decidable (_ ∧ _))

/-- A word of a name, with the characters between the word before it and this one. -/
structure Piece where
  gap : List Char
  word : List Char

/-- The part of the name a piece stands for. -/
def Piece.text (piece : Piece) : List Char := piece.gap ++ piece.word

/-- There is a boundary between two successive words: some character that is no letter or digit, or
else nothing, with a small letter before it and a capital behind it. -/
def Separated (first second : Piece) : Prop :=
  (∃ c ∈ second.gap, c.isAlphanum = false) ∨
    second.gap = [] ∧
      ∃ c d, first.word.getLast? = some c ∧ second.word.head? = some d ∧ IsHump c d

/-- How a name is laid out in words. -/
structure Splitting (name : List Char) (pieces : List Piece) (ending : List Char) : Prop where
  /-- The pieces stand for the name from its start, with an ending behind the last word. -/
  name_eq : name = pieces.flatMap Piece.text ++ ending
  isWord : ∀ piece ∈ pieces, IsWord piece.word
  /-- The words hold all letters and digits of the name. -/
  flatten_eq : (pieces.map Piece.word).flatten = name.filter Char.isAlphanum
  no_hump : ∀ piece ∈ pieces, piece.word.IsChain fun c d => ¬IsHump c d
  separated : pieces.IsChain Separated

/-- The name is laid out in these words. -/
def SplitsInto (name : List Char) (words : List (List Char)) : Prop :=
  ∃ pieces ending, Splitting name pieces ending ∧ pieces.map Piece.word = words

variable {name word rest gap ending : List Char} {pieces : List Piece} {c d : Char}

/-! ## Between the words -/

/-- The letters and digits of a name are those of its words and those between them. -/
theorem countP_flatMap_text (pieces : List Piece) :
    (pieces.flatMap Piece.text).countP Char.isAlphanum =
      (pieces.map Piece.word).flatten.countP Char.isAlphanum +
        (pieces.flatMap Piece.gap).countP Char.isAlphanum := by
  induction pieces with
  | nil => rfl
  | cons piece pieces ih =>
    simp only [List.flatMap_cons, List.map_cons, List.flatten_cons, Piece.text,
      List.countP_append, ih]
    omega

/-- No letter or digit stands between the words of a layout. -/
theorem Splitting.isAlphanum_between (h : Splitting name pieces ending) :
    ∀ c ∈ pieces.flatMap Piece.gap ++ ending, c.isAlphanum = false := by
  -- The words hold all letters and digits of the name, so the count leaves none for the rest.
  have hall : (pieces.map Piece.word).flatten.countP Char.isAlphanum =
      name.countP Char.isAlphanum := by
    rw [h.flatten_eq, List.countP_filter]
    simp
  rw [h.name_eq, List.countP_append, countP_flatMap_text] at hall
  have hnone : (pieces.flatMap Piece.gap ++ ending).countP Char.isAlphanum = 0 := by
    rw [List.countP_append]
    omega
  simpa using List.countP_eq_zero.1 hnone

/-! ## A layout determines the words -/

theorem continuesWord_cons_iff :
    continuesWord c (d :: rest) = true ↔ d.isAlphanum = true ∧ ¬IsHump c d := by
  simp only [continuesWord, IsHump, Bool.and_eq_true, Bool.not_eq_true', ← Bool.not_eq_true]

/-- A word ends where no letter or digit follows, or just a capital behind a small letter. -/
theorem continuesWord_eq_false_iff :
    continuesWord c rest = false ↔ ∀ d ∈ rest.head?, d.isAlphanum = true → IsHump c d := by
  cases rest with
  | nil => simp [continuesWord]
  | cons d rest => simp [← Bool.not_eq_true, continuesWord_cons_iff]

/-- What stands between words is skipped. -/
theorem splitWords_append_of_forall (hgap : ∀ c ∈ gap, c.isAlphanum = false) (rest : List Char) :
    splitWords (gap ++ rest) = splitWords rest := by
  induction gap with
  | nil => rfl
  | cons c gap ih =>
    obtain ⟨hc, hgap⟩ := List.forall_mem_cons.1 hgap
    rw [List.cons_append, splitWords, hc, Bool.not_false, if_pos rfl, ih hgap]

/-- A word is split off if its last letter or digit ends it. -/
theorem splitWords_append_of_isWord (hword : IsWord word)
    (hhump : word.IsChain fun c d => ¬IsHump c d)
    (hlast : ∀ c ∈ word.getLast?, continuesWord c rest = false) :
    splitWords (word ++ rest) = word :: splitWords rest := by
  -- Only at the last character does it matter what the rest is.
  induction word with
  | nil => exact absurd rfl hword.ne_nil
  | cons c word ih =>
    obtain ⟨hc, hothers⟩ := List.forall_mem_cons.1 hword.isAlphanum
    rw [List.cons_append, splitWords, hc, Bool.not_true, if_neg Bool.false_ne_true]
    cases word with
    | nil => rw [List.nil_append, hlast c rfl, if_neg Bool.false_ne_true]
    | cons d word =>
      obtain ⟨hfirst, hhump⟩ := List.isChain_cons_cons.1 hhump
      have hgoes : continuesWord c (d :: word ++ rest) = true :=
        continuesWord_cons_iff.2 ⟨(List.forall_mem_cons.1 hothers).1, hfirst⟩
      rw [if_pos hgoes, ih ⟨List.cons_ne_nil d word, hothers⟩ hhump hlast, consToFirst]

/-- The last letter or digit of a word ends it if the word behind it is separated from it. -/
theorem continuesWord_getLast_eq_false {piece : Piece}
    (hnext : ∀ next ∈ pieces.head?, Separated piece next)
    (hbetween : ∀ c ∈ pieces.flatMap Piece.gap ++ ending, c.isAlphanum = false)
    (hc : c ∈ piece.word.getLast?) :
    continuesWord c (pieces.flatMap Piece.text ++ ending) = false := by
  rw [continuesWord_eq_false_iff]
  intro d hd hdalnum
  cases pieces with
  | nil =>
    have hmem : d ∈ ending := List.mem_of_mem_head? hd
    simp [hbetween d hmem] at hdalnum
  | cons next pieces =>
    simp only [List.flatMap_cons, Piece.text, List.append_assoc] at hd hbetween
    -- With a gap, its first character follows; without one, the next word does.
    rcases hnext next rfl with ⟨g, hg, -⟩ | ⟨hgap, last, first, hlast, hfirst, hhump⟩
    · cases hgap : next.gap with
      | nil => simp [hgap] at hg
      | cons b gap =>
        rw [hgap] at hd hbetween
        obtain rfl : b = d := by simpa using hd
        simp [hbetween b (by simp)] at hdalnum
    · obtain rfl : last = c := Option.some.inj (hlast.symm.trans hc)
      obtain rfl : first = d := by simpa [hgap, hfirst] using hd
      exact hhump

theorem splitWords_flatMap_text (hwords : ∀ piece ∈ pieces, IsWord piece.word)
    (hhumps : ∀ piece ∈ pieces, piece.word.IsChain fun c d => ¬IsHump c d)
    (hseparated : pieces.IsChain Separated)
    (hbetween : ∀ c ∈ pieces.flatMap Piece.gap ++ ending, c.isAlphanum = false) :
    splitWords (pieces.flatMap Piece.text ++ ending) = pieces.map Piece.word := by
  induction pieces with
  | nil => simpa [splitWords] using splitWords_append_of_forall hbetween []
  | cons piece pieces ih =>
    obtain ⟨hword, hwords⟩ := List.forall_mem_cons.1 hwords
    obtain ⟨hhump, hhumps⟩ := List.forall_mem_cons.1 hhumps
    obtain ⟨hnext, hseparated⟩ := List.isChain_cons.1 hseparated
    rw [List.flatMap_cons, List.append_assoc, List.forall_mem_append] at hbetween
    obtain ⟨hgap, hbetween⟩ := hbetween
    rw [List.flatMap_cons, Piece.text, List.append_assoc, List.append_assoc,
      splitWords_append_of_forall hgap, splitWords_append_of_isWord hword hhump
        fun c hc => continuesWord_getLast_eq_false hnext hbetween hc,
      ih hwords hhumps hseparated hbetween, List.map_cons]

/-- **A name with a layout is split into the words of it.** -/
theorem Splitting.splitWords_eq (h : Splitting name pieces ending) :
    splitWords name = pieces.map Piece.word := by
  rw [h.name_eq]
  exact splitWords_flatMap_text h.isWord h.no_hump h.separated h.isAlphanum_between

/-! ## Each name has a layout -/

namespace Splitting

theorem nil : Splitting [] [] [] where
  name_eq := rfl
  isWord := by simp
  flatten_eq := rfl
  no_hump := by simp
  separated := .nil

/-- A letter or digit in front of a name starts its first word. -/
theorem exists_eq_cons (hc : c.isAlphanum = true) (h : Splitting (c :: rest) pieces ending) :
    ∃ word others, pieces = ⟨[], c :: word⟩ :: others := by
  have hname := h.name_eq
  have hbetween := h.isAlphanum_between
  rcases pieces with _ | ⟨⟨gap, word⟩, others⟩
  · obtain rfl : ending = c :: rest := hname.symm
    simp [hbetween c (by simp)] at hc
  rcases gap with _ | ⟨b, gap⟩
  · obtain ⟨d, word, rfl⟩ := List.exists_cons_of_ne_nil (h.isWord _ List.mem_cons_self).ne_nil
    obtain rfl : c = d := (List.cons.inj hname).1
    exact ⟨word, others, rfl⟩
  · obtain rfl : c = b := (List.cons.inj hname).1
    simp [hbetween c (by simp)] at hc

/-- What is in front of a first word's last character does not matter to the word behind it. -/
theorem isChain_separated_of_getLast?_eq {piece other : Piece}
    (h : (piece :: pieces).IsChain Separated)
    (hlast : other.word.getLast? = piece.word.getLast?) : (other :: pieces).IsChain Separated := by
  rw [List.isChain_cons] at h ⊢
  refine ⟨fun next hnext => ?_, h.2⟩
  rw [Separated, hlast]
  exact h.1 next hnext

/-- A character between words goes in front of the first word, or to the ending. -/
theorem exists_skip (hc : c.isAlphanum = false) (h : Splitting rest pieces ending) :
    ∃ pieces ending, Splitting (c :: rest) pieces ending := by
  obtain ⟨hname, hwords, hflatten, hhumps, hseparated⟩ := h
  cases pieces with
  | nil =>
    refine ⟨[], c :: ending, ?_, hwords, ?_, hhumps, hseparated⟩
    · simpa using hname
    · simpa [hc] using hflatten
  | cons piece pieces =>
    refine ⟨⟨c :: piece.gap, piece.word⟩ :: pieces, ending, ?_, ?_, ?_, ?_,
      isChain_separated_of_getLast?_eq hseparated rfl⟩
    · simpa [Piece.text] using hname
    · simpa using hwords
    · simpa [hc] using hflatten
    · simpa using hhumps

/-- A letter or digit that goes on in the same word goes in front of the first one. -/
theorem exists_extend (hc : c.isAlphanum = true) (hgoes : continuesWord c rest = true)
    (h : Splitting rest pieces ending) : ∃ pieces ending, Splitting (c :: rest) pieces ending := by
  cases rest with
  | nil => nomatch hgoes
  | cons d rest =>
    obtain ⟨hd, hhump⟩ := continuesWord_cons_iff.1 hgoes
    obtain ⟨word, others, rfl⟩ := h.exists_eq_cons hd
    obtain ⟨hname, hwords, hflatten, hhumps, hseparated⟩ := h
    rw [List.forall_mem_cons] at hwords hhumps
    refine ⟨⟨[], c :: d :: word⟩ :: others, ending, ?_, ?_, ?_, ?_,
      isChain_separated_of_getLast?_eq hseparated (by simp)⟩
    · simpa [Piece.text] using hname
    · exact List.forall_mem_cons.2 ⟨.cons hc hwords.1.isAlphanum, hwords.2⟩
    · simpa [hc] using hflatten
    · exact List.forall_mem_cons.2 ⟨List.isChain_cons_cons.2 ⟨hhump, hhumps.1⟩, hhumps.2⟩

/-- A letter or digit that ends its word is a word of its own in front of the others. -/
theorem exists_single (hc : c.isAlphanum = true) (hends : continuesWord c rest = false)
    (h : Splitting rest pieces ending) : ∃ pieces ending, Splitting (c :: rest) pieces ending := by
  have hnext : ∀ next ∈ pieces.head?, Separated ⟨[], [c]⟩ next := by
    intro next hmem
    obtain ⟨others, rfl⟩ : ∃ others, pieces = next :: others := List.head?_eq_some_iff.1 hmem
    -- What ends the word is the first character between it and the next, or the capital there.
    cases hgap : next.gap with
    | cons b gap =>
      exact Or.inl ⟨b, by simp [hgap], h.isAlphanum_between b (by simp [hgap])⟩
    | nil =>
      obtain ⟨hne, halnum⟩ := h.isWord next List.mem_cons_self
      obtain ⟨d, word, hword⟩ := List.exists_cons_of_ne_nil hne
      have hhead : rest.head? = some d := by simp [h.name_eq, Piece.text, hgap, hword]
      have hhump := continuesWord_eq_false_iff.1 hends d hhead (halnum d (by simp [hword]))
      exact Or.inr ⟨hgap, c, d, rfl, by simp [hword], hhump⟩
  obtain ⟨hname, hwords, hflatten, hhumps, hseparated⟩ := h
  refine ⟨⟨[], [c]⟩ :: pieces, ending, ?_, ?_, ?_, ?_, List.isChain_cons.2 ⟨hnext, hseparated⟩⟩
  · simp [Piece.text, hname]
  · exact List.forall_mem_cons.2 ⟨.cons hc (by simp), hwords⟩
  · simpa [hc] using hflatten
  · exact List.forall_mem_cons.2 ⟨List.isChain_singleton c, hhumps⟩

end Splitting

/-- **Each name has a layout.** -/
theorem exists_splitting (name : List Char) : ∃ pieces ending, Splitting name pieces ending := by
  induction name with
  | nil => exact ⟨[], [], .nil⟩
  | cons c rest ih =>
    obtain ⟨pieces, ending, hrest⟩ := ih
    cases hc : c.isAlphanum with
    | false => exact hrest.exists_skip hc
    | true =>
      cases hgoes : continuesWord c rest with
      | false => exact hrest.exists_single hc hgoes
      | true => exact hrest.exists_extend hc hgoes

/-- **The words of a name are the only ones it can be laid out in.** -/
theorem splitsInto_iff_eq_splitWords (name : List Char) (words : List (List Char)) :
    SplitsInto name words ↔ words = splitWords name := by
  constructor
  · rintro ⟨pieces, ending, hsplit, rfl⟩
    exact hsplit.splitWords_eq.symm
  · rintro rfl
    obtain ⟨pieces, ending, hsplit⟩ := exists_splitting name
    exact ⟨pieces, ending, hsplit, hsplit.splitWords_eq.symm⟩

example : splitWords "/v2/getHTTPServer_9a".toList =
    ["v2".toList, "get".toList, "HTTPServer".toList, "9a".toList] := by decide

end OpenApi.Text
