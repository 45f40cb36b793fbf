import Mathlib.Algebra.Group.Int.Defs
import Mathlib.Data.List.DropRight
import OpenApi.Json.Printer
import OpenApi.Json.Reader

/-!
# Scalars are read from their texts

A number is read up to the character that ends it, so what is read of its text alone is read of the
text in front of a comma or a closing bracket too. A whole number of 64 bits is read from its
decimal digits, and a string from its escaped characters.

## Main definitions

* `Json.Ends`: what may follow a value in a compact text.

## Main statements

* `readValue_number_append`: a number is read whatever follows it.
* `readValue_int`: a whole number is read from its text.
* `readString_escaped`: so is a string.
-/
namespace OpenApi.Json

/-! ## The ends of values -/

/-- What may follow a value in a compact text: nothing, a comma, or a closing bracket. -/
def Ends (rest : List Char) : Prop := ∀ c ∈ rest.head?, c = ',' ∨ c = ']' ∨ c = '\x7d'

theorem ends_nil : Ends [] := by simp [Ends]

theorem ends_comma (rest : List Char) : Ends (',' :: rest) := by simp [Ends]

theorem ends_bracket (rest : List Char) : Ends (']' :: rest) := by simp [Ends]

theorem ends_brace (rest : List Char) : Ends ('\x7d' :: rest) := by simp [Ends]

variable {cs rest left : List Char}

/-! ## Blanks -/

theorem skipBlanks_skipBlanks (cs : List Char) : skipBlanks (skipBlanks cs) = skipBlanks cs :=
  List.dropWhile_idempotent _ _

theorem skipBlanks_append (h : skipBlanks cs ≠ []) (rest : List Char) :
    skipBlanks (cs ++ rest) = skipBlanks cs ++ rest := by
  induction cs with
  | nil => exact absurd rfl h
  | cons c cs ih =>
    rw [skipBlanks, List.dropWhile_cons] at h
    rw [skipBlanks, skipBlanks, List.cons_append, List.dropWhile_cons, List.dropWhile_cons]
    split
    · rename_i hblank
      rw [if_pos hblank] at h
      exact ih h
    · rfl

theorem skipBlanks_digit {c : Char} (hc : c.isDigit = true) (cs : List Char) :
    skipBlanks (c :: cs) = c :: cs := by
  have hblank : ¬ isBlank c = true := by
    simp only [isBlank, Bool.or_eq_true, beq_iff_eq]
    rintro (((rfl | rfl) | rfl) | rfl) <;> cases hc
  rw [skipBlanks, List.dropWhile_cons, if_neg hblank]

/-- Blanks in front of a value make no difference. -/
theorem readValue_skipBlanks (fuel room : Nat) (cs : List Char) :
    readValue fuel room (skipBlanks cs) = readValue fuel room cs := by
  cases fuel with
  | zero => rfl
  | succ fuel => rw [readValue, readValue, skipBlanks_skipBlanks]

/-! ## Numbers in front of more text -/

theorem spanDigits_append (hrest : Ends rest) (cs : List Char) :
    spanDigits (cs ++ rest) = ((spanDigits cs).1, (spanDigits cs).2 ++ rest) := by
  induction cs with
  | nil =>
    cases rest with
    | nil => rfl
    | cons c rest => rcases hrest c rfl with rfl | rfl | rfl <;> rfl
  | cons c cs ih =>
    obtain ⟨hdigits, hleft⟩ := Prod.mk.inj ih
    by_cases hc : c.isDigit = true
    · simp [spanDigits, hc, hdigits, hleft]
    · simp [spanDigits, hc]

theorem readFraction_append (hrest : Ends rest) (cs : List Char) :
    readFraction (cs ++ rest) = ((readFraction cs).1, (readFraction cs).2 ++ rest) := by
  cases cs with
  | nil =>
    cases rest with
    | nil => rfl
    | cons c rest => rcases hrest c rfl with rfl | rfl | rfl <;> rfl
  | cons c cs =>
    by_cases hc : c = '.'
    · subst hc
      simp only [List.cons_append, readFraction, spanDigits_append hrest]
    · simp [readFraction, hc]

theorem takeSign_append (h : cs ≠ []) (rest : List Char) :
    takeSign (cs ++ rest) = ((takeSign cs).1, (takeSign cs).2 ++ rest) := by
  obtain ⟨c, cs, rfl⟩ := List.exists_cons_of_ne_nil h
  unfold takeSign
  split <;> simp_all

theorem readExponent_append (hrest : Ends rest) {exponent : Option (Bool × List Char)}
    (h : readExponent cs = some (exponent, left)) :
    readExponent (cs ++ rest) = some (exponent, left ++ rest) := by
  cases cs with
  | nil =>
    obtain ⟨rfl, rfl⟩ := Prod.mk.inj (Option.some.inj h)
    cases rest with
    | nil => rfl
    | cons c rest => rcases hrest c rfl with rfl | rfl | rfl <;> rfl
  | cons c cs =>
    rw [List.cons_append]
    rw [readExponent] at h ⊢
    split at h
    · rename_i hc
      -- an exponent that was read has digits, so its sign is not looked for in the rest
      have hcs : cs ≠ [] := by
        rintro rfl
        cases h
      rw [if_pos hc, takeSign_append hcs]
      dsimp only at h ⊢
      rw [spanDigits_append hrest]
      dsimp only
      split at h
      · cases h
      · rename_i hdigits
        rw [if_neg hdigits]
        obtain ⟨rfl, rfl⟩ := Prod.mk.inj (Option.some.inj h)
        rfl
    · rename_i hc
      rw [if_neg hc]
      obtain ⟨rfl, rfl⟩ := Prod.mk.inj (Option.some.inj h)
      rfl

theorem readUnsigned_append (hrest : Ends rest) {negative : Bool} {node : Node}
    (h : readUnsigned negative cs = (node, some left)) :
    readUnsigned negative (cs ++ rest) = (node, some (left ++ rest)) := by
  unfold readUnsigned at h ⊢
  rw [spanDigits_append hrest]
  dsimp only at h ⊢
  rw [readFraction_append hrest]
  dsimp only
  split at h
  · cases h
  · rename_i hshape
    rw [if_neg hshape]
    split at h
    · cases h
    · rename_i hexponent
      obtain ⟨rfl, hleft⟩ := Prod.mk.inj h
      obtain rfl := Option.some.inj hleft
      rw [readExponent_append hrest hexponent]

/-- A text that starts with a digit is read as a number. -/
theorem readValue_digit {c : Char} (hc : c.isDigit = true) (fuel room : Nat) (cs : List Char) :
    readValue (fuel + 1) room (c :: cs) = readUnsigned false (c :: cs) := by
  rw [readValue, skipBlanks_digit hc]
  split
  all_goals try (rename_i heq; obtain ⟨rfl, rfl⟩ := List.cons.inj heq)
  · cases hc
  · cases hc
  · cases hc
  · cases hc
  · rw [if_pos hc]
  · rename_i heq
    cases heq

/-- Only a text that starts with a minus or a digit is read as a number. -/
theorem readValue_eq_number {fuel room : Nat} {number : Number}
    (h : readValue (fuel + 1) room cs = (.number number, some left)) :
    (∃ tail, skipBlanks cs = '-' :: tail ∧ readUnsigned true tail = (.number number, some left)) ∨
      ∃ c tail, skipBlanks cs = c :: tail ∧ c.isDigit = true ∧
        readUnsigned false (c :: tail) = (.number number, some left) := by
  rw [readValue] at h
  split at h
  · have hnode := congrArg Prod.fst h
    dsimp only at hnode
    split at hnode <;> cases hnode
  · have hnode := congrArg Prod.fst h
    dsimp only at hnode
    split at hnode <;> cases hnode
  · rename_i tail _
    rcases hs : readString [] true tail with ⟨_ | text, _ | rest⟩ <;> rw [hs] at h <;> cases h
  · rename_i tail heq
    exact .inl ⟨tail, heq, h⟩
  · rename_i c tail _ _ _ _ heq
    split at h
    · rename_i hc
      exact .inr ⟨c, tail, heq, hc, h⟩
    · split at h
      · cases h
      · split at h
        · cases h
        · split at h <;> cases h
  · cases h

/-- **A number is read whatever follows it.** -/
theorem readValue_number_append {fuel room : Nat} {number : Number}
    (h : readValue (fuel + 1) room cs = (.number number, some left)) (hrest : Ends rest)
    (more other : Nat) :
    readValue (more + 1) other (cs ++ rest) = (.number number, some (left ++ rest)) := by
  rw [← readValue_skipBlanks]
  rcases readValue_eq_number h with ⟨tail, hcs, hread⟩ | ⟨c, tail, hcs, hc, hread⟩
  · rw [skipBlanks_append (by rw [hcs]; exact List.cons_ne_nil _ _), hcs]
    exact readUnsigned_append hrest hread
  · rw [skipBlanks_append (by rw [hcs]; exact List.cons_ne_nil _ _), hcs, List.cons_append,
      readValue_digit hc]
    exact readUnsigned_append hrest hread

/-! ## Whole numbers -/

/-- Digits that fit are taken before the digits behind them. -/
theorem takeDigits_append {total n : Nat} {digits : List Char}
    (h : takeDigits total digits = (n, [])) (more : List Char) :
    takeDigits total (digits ++ more) = takeDigits n more := by
  induction digits generalizing total with
  | nil =>
    obtain ⟨rfl, -⟩ := Prod.mk.inj h
    rfl
  | cons c digits ih =>
    rw [takeDigits] at h
    rw [List.cons_append, takeDigits]
    split at h
    · cases (Prod.mk.inj h).2
    · rename_i hfits
      rw [if_neg hfits]
      exact ih h

/-- The decimal digits of a number of 64 bits are taken to that number. -/
theorem takeDigits_toDigits {n : Nat} (h : n ≤ greatestWord) :
    takeDigits 0 (Nat.toDigits 10 n) = (n, []) := by
  induction n using Nat.strongRecOn with
  | ind n ih =>
    by_cases hn : n < 10
    · rw [Nat.toDigits_of_lt_base hn, takeDigits, Nat.toNat_digitChar_sub_48_of_lt_ten hn,
        Nat.mul_zero, Nat.zero_add, if_neg (by omega), takeDigits]
    · rw [Nat.toDigits_of_base_le (by decide) (by omega),
        takeDigits_append (ih (n / 10) (by omega) (by omega)), takeDigits,
        Nat.toNat_digitChar_sub_48_of_lt_ten (by omega), Nat.div_add_mod, if_neg (by omega),
        takeDigits]

theorem head?_toDigits_ne {n : Nat} (h : n ≠ 0) : (Nat.toDigits 10 n).head? ≠ some '0' := by
  induction n using Nat.strongRecOn with
  | ind n ih =>
    by_cases hn : n < 10
    · rw [Nat.toDigits_of_lt_base hn]
      simpa using h
    · rw [Nat.toDigits_of_base_le (by decide) (by omega),
        List.head?_append_of_ne_nil _ Nat.toDigits_ne_nil]
      exact ih (n / 10) (by omega) (by omega)

theorem isDigit_of_mem_toDigits {n : Nat} {c : Char} (hc : c ∈ Nat.toDigits 10 n) :
    c.isDigit = true :=
  Nat.isDigit_of_mem_toDigits (by decide) (by decide) hc

theorem spanDigits_toDigits (n : Nat) :
    spanDigits (Nat.toDigits 10 n) = (Nat.toDigits 10 n, []) := by
  have hdigits : ∀ c ∈ Nat.toDigits 10 n, c.isDigit = true := fun _ hc => isDigit_of_mem_toDigits hc
  rw [spanDigits, List.takeWhile_eq_self_iff.2 hdigits, List.dropWhile_eq_nil_iff.2 hdigits]

/-- Decimal digits are well formed: there is one at least, and no zero in front of others. -/
theorem readUnsigned_toDigits (negative : Bool) (n : Nat) :
    readUnsigned negative (Nat.toDigits 10 n)
      = (NumberParts.node ⟨negative, Nat.toDigits 10 n, none, none⟩, some []) := by
  have hshape : ((Nat.toDigits 10 n).isEmpty
      || ((Nat.toDigits 10 n).length != 1 && (Nat.toDigits 10 n).head? == some '0')
      || (none : Option (List Char)) == some []) = false := by
    by_cases hn : n = 0
    · subst hn
      decide
    · simp [Nat.toDigits_ne_nil, head?_toDigits_ne hn]
  unfold readUnsigned
  rw [spanDigits_toDigits]
  dsimp only [readFraction]
  rw [hshape, if_neg Bool.false_ne_true]
  rfl

theorem node_toDigits {n : Nat} (h : n ≤ greatestWord) :
    NumberParts.node ⟨false, Nat.toDigits 10 n, none, none⟩ = .number (.int n) := by
  rw [NumberParts.node, takeDigits_toDigits h]
  rfl

theorem node_toDigits_negative {n : Nat} (hpos : 0 < n) (h : n ≤ twoTo 63) :
    NumberParts.node ⟨true, Nat.toDigits 10 n, none, none⟩ = .number (.int (-n)) := by
  rw [NumberParts.node, takeDigits_toDigits (h.trans (by decide))]
  simp
  omega

/-- **A whole number of 64 bits is read from its text.** -/
theorem readValue_int {value : Int} (least : -2 ^ 63 ≤ value) (greatest : value < 2 ^ 64)
    (fuel room : Nat) :
    readValue (fuel + 1) room (toString value).toList = (.number (.int value), some []) := by
  cases value with
  | ofNat n =>
    have htext : (toString (Int.ofNat n)).toList = Nat.toDigits 10 n := Nat.toList_repr
    have hfits : n ≤ greatestWord := by
      have hlt : (n : Int) < 2 ^ 64 := greatest
      show n ≤ 2 ^ 64 - 1
      omega
    cases hdigits : Nat.toDigits 10 n with
    | nil => exact absurd hdigits Nat.toDigits_ne_nil
    | cons c tail =>
      have hc : c.isDigit = true := isDigit_of_mem_toDigits (hdigits ▸ List.mem_cons_self)
      rw [htext, hdigits, readValue_digit hc, ← hdigits, readUnsigned_toDigits, node_toDigits hfits]
      rfl
  | negSucc n =>
    have htext : (toString (Int.negSucc n)).toList = '-' :: Nat.toDigits 10 (n + 1) := by
      show ("-" ++ Nat.repr (n + 1)).toList = _
      rw [String.toList_append, Nat.toList_repr]
      rfl
    have hfits : n + 1 ≤ twoTo 63 := by
      show n + 1 ≤ 2 ^ 63
      omega
    rw [htext]
    show readUnsigned true (Nat.toDigits 10 (n + 1)) = _
    rw [readUnsigned_toDigits, node_toDigits_negative (Nat.succ_pos n) hfits]
    rfl

/-! ## Strings -/

/-- The escape of a control character spells its code. -/
theorem hexWord?_escape :
    ∀ n < 32, hexWord? ['0', '0', hexDigit (n / 16), hexDigit (n % 16)] = some n := by
  decide

/-- A character is read back as it is escaped. -/
theorem readString_escapeChar_append (back : List Char) (whole : Bool) (c : Char)
    (rest : List Char) :
    readString back whole (escapeChar c ++ rest) = readString (c :: back) whole rest := by
  unfold escapeChar
  split
  -- a character without an escape of its own
  case h_8 hquote hslash _ _ _ _ _ =>
    split
    · rename_i hcontrol
      have hfirst : isFirstHalf c.toNat = false := by simp [isFirstHalf]; omega
      have hsecond : isSecondHalf c.toNat = false := by simp [isSecondHalf]; omega
      show readString back whole ('\\' :: 'u' :: '0' :: '0' :: hexDigit (c.toNat / 16)
        :: hexDigit (c.toNat % 16) :: rest) = _
      rw [readString, hexWord?_escape c.toNat hcontrol]
      dsimp only
      rw [hfirst, hsecond, if_neg Bool.false_ne_true, if_neg Bool.false_ne_true, Char.ofNat_toNat]
    · rename_i hprintable
      have hplain : ¬ (decide (c.toNat < 32) || decide (c = '\\')) = true := by
        simpa using And.intro (Nat.le_of_not_lt hprintable) hslash
      rw [List.singleton_append, readString, if_neg hplain]
      · exact hquote
      · exact fun _ _ _ _ _ heq => absurd heq hslash
      · exact fun _ _ heq => absurd heq hslash
  all_goals simp [readString, escaped?]

/-- **A string is read from its escaped characters**, behind the characters read so far. -/
theorem readString_escaped (back cs rest : List Char) :
    readString back true (cs.flatMap escapeChar ++ '"' :: rest)
      = (some (String.ofList (back.reverse ++ cs)), some rest) := by
  induction cs generalizing back with
  | nil => simp [readString]
  | cons c cs ih =>
    rw [List.flatMap_cons, List.append_assoc, readString_escapeChar_append, ih, List.reverse_cons,
      List.append_assoc, List.singleton_append]

theorem readString_toList (text : String) (rest : List Char) :
    readString [] true (text.toList.flatMap escapeChar ++ '"' :: rest) =
      (some text, some rest) := by
  rw [readString_escaped, List.reverse_nil, List.nil_append, String.ofList_toList]

end OpenApi.Json
