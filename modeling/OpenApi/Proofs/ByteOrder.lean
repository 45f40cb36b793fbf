import OpenApi.Order

/-!
# Texts by their bytes

Names are listed in the order of their UTF-8 bytes. Sorting compares them character by character;
the two orders agree, since a larger character has a larger encoding and no encoding is a beginning
of another one.

## Main definitions

* `bytes text`: the UTF-8 bytes of a text.

## Main statements

* `bytes_lt_bytes_iff`: texts compare as their bytes do.
-/
namespace OpenApi

/-- The UTF-8 bytes of a text. -/
def bytes (text : String) : List UInt8 := text.toUTF8.data.toList

theorem bytes_eq_flatMap (text : String) :
    bytes text = text.toList.flatMap String.utf8EncodeChar := by
  unfold bytes
  rw [String.toUTF8_eq_toByteArray, ← String.utf8Encode_toList]
  simp [List.utf8Encode]

/-- The encoding of a smaller character is smaller, whatever comes behind the two. -/
theorem utf8EncodeChar_append_lt {c d : Char} (h : c < d) (xs ys : List UInt8) :
    String.utf8EncodeChar c ++ xs < String.utf8EncodeChar d ++ ys := by
  have hcd : c.val.toNat < d.val.toNat := h
  have hd : d.val.toNat < 0x110000 := by
    rcases d.valid with hlow | hhigh
    · exact Nat.lt_trans hlow (by decide)
    · exact hhigh.2
  unfold String.utf8EncodeChar
  generalize c.val.toNat = m at *
  generalize d.val.toNat = n at *
  have hm : m / 4096 = m / 64 / 64 ∧ m / 262144 = m / 64 / 64 / 64 := by omega
  have hn : n / 4096 = n / 64 / 64 ∧ n / 262144 = n / 64 / 64 / 64 := by omega
  simp only [hm, hn]
  -- The bytes behind the first are digits to the base 64, so they compare as the numbers do.
  have hdigits : m / 64 / 64 / 64 < n / 64 / 64 / 64
      ∨ m / 64 / 64 / 64 = n / 64 / 64 / 64 ∧ (m / 64 / 64 % 64 < n / 64 / 64 % 64
        ∨ m / 64 / 64 % 64 = n / 64 / 64 % 64 ∧ (m / 64 % 64 < n / 64 % 64
          ∨ m / 64 % 64 = n / 64 % 64 ∧ m % 64 < n % 64)) := by
    omega
  repeat' split
  all_goals
    simp (disch := omega) only [List.cons_append, List.nil_append, List.cons_lt_cons_iff,
      UInt8.lt_iff_toNat_lt, ← UInt8.toNat_inj, UInt8.toNat_ofNat', Nat.mod_eq_of_lt]
    omega

theorem flatMap_utf8EncodeChar_lt {cs ds : List Char} (h : cs < ds) :
    cs.flatMap String.utf8EncodeChar < ds.flatMap String.utf8EncodeChar := by
  induction h with
  | nil =>
    rename_i d ds
    rw [List.flatMap_nil, List.flatMap_cons]
    cases hbytes : String.utf8EncodeChar d with
    | nil => exact absurd hbytes String.utf8EncodeChar_ne_nil
    | cons byte rest => exact List.Lex.nil
  | rel hlt =>
    simp only [List.flatMap_cons]
    exact utf8EncodeChar_append_lt hlt _ _
  | cons _ ih =>
    simp only [List.flatMap_cons]
    exact List.append_left_lt ih

theorem bytes_lt_bytes {a b : String} (h : a < b) : bytes a < bytes b := by
  rw [bytes_eq_flatMap, bytes_eq_flatMap]
  exact flatMap_utf8EncodeChar_lt (String.lt_iff.1 h)

/-- **Texts compare as their bytes do.** -/
theorem bytes_lt_bytes_iff {a b : String} : bytes a < bytes b ↔ a < b := by
  refine ⟨fun h => String.not_le.1 fun hle => ?_, bytes_lt_bytes⟩
  by_cases heq : b = a
  · subst heq
    exact List.lt_irrefl _ h
  · have hlt : b < a := String.not_le.1 fun hge => heq (String.le_antisymm hle hge)
    exact List.lt_asymm h (bytes_lt_bytes hlt)

/-- The distinct names of a list come in the order of their bytes. -/
theorem pairwise_bytes_distinctSorted (names : List String) :
    (distinctSorted names).Pairwise (bytes · < bytes ·) :=
  (pairwise_distinctSorted names).imp bytes_lt_bytes

end OpenApi
