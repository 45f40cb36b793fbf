import OpenApi.Text.CaseTable

/-!
# Small and capital letters

Full case conversion of a text: a character may turn into several, and a capital sigma turns into
the final form at the end of a word. On ASCII both conversions are the familiar one-to-one maps.

## Main definitions

* `smallLetters`, `capitalLetters`: conversion of a list of characters.
* `toSmall`: small letters of a `String`.
-/
namespace OpenApi.Text

/-! ## One character -/

/-- Apply the first span that covers `c`; a character that no span covers stays. -/
def shiftBy (spans : List CaseSpan) (c : Char) : Char :=
  match spans.find? (·.covers c.toNat) with
  | some span => Char.ofNat (c.toNat + span.shift).toNat
  | none => c

/-- Whether `c` lies in one of the ranges. -/
def inRanges (ranges : List (Nat × Nat)) (c : Char) : Bool :=
  ranges.any fun range => range.1 ≤ c.toNat && c.toNat ≤ range.2

/-- The dotted capital I, the one character whose small form has two characters. -/
def dottedCapitalI : Char := 'İ'

/-- The small form of one character, away from any context. -/
def smallForm (c : Char) : List Char :=
  if c.toNat < 128 then [c.toLower]
  else if c = dottedCapitalI then ['i', '\u0307']
  else [shiftBy smallSpans c]

/-- The capital form of one character. -/
def capitalForm (c : Char) : List Char :=
  if c.toNat < 128 then [c.toUpper]
  else match capitalExpansions.lookup c.toNat with
    | some codes => codes.map Char.ofNat
    | none => [shiftBy capitalSpans c]

/-! ## Words -/

/-- Whether the first character that is not case-ignorable is a cased letter. -/
def meetsCased (cs : List Char) : Bool :=
  match cs.dropWhile (inRanges caseIgnorableRanges) with
  | c :: _ => inRanges casedRanges c
  | [] => false

/-- The small form of a sigma: final when a cased letter stands before it in the word and none
after it. `before` is the text in front, nearest character first. -/
def smallSigma (before after : List Char) : Char :=
  if meetsCased before && !meetsCased after then 'ς' else 'σ'

/-- Conversion to small letters of the rest of a text, `before` being what precedes it, nearest
character first. -/
def smallLettersAfter (before : List Char) : List Char → List Char
  | [] => []
  | c :: rest =>
    (if c = 'Σ' then [smallSigma before rest] else smallForm c)
      ++ smallLettersAfter (c :: before) rest

/-- The text in small letters. -/
def smallLetters (cs : List Char) : List Char := smallLettersAfter [] cs

/-- The text in capital letters. -/
def capitalLetters (cs : List Char) : List Char := cs.flatMap capitalForm

/-- The text in small letters. -/
def toSmall (text : String) : String := String.ofList (smallLetters text.toList)

/-! ## ASCII -/

theorem smallForm_of_ascii {c : Char} (h : c.toNat < 128) : smallForm c = [c.toLower] := by
  simp [smallForm, h]

/-- On ASCII text the context of a letter does not matter. -/
theorem smallLettersAfter_of_ascii {cs : List Char} (h : ∀ c ∈ cs, c.toNat < 128)
    (before : List Char) : smallLettersAfter before cs = cs.map Char.toLower := by
  induction cs generalizing before with
  | nil => rfl
  | cons c rest ih =>
    have hc : c.toNat < 128 := h c (by simp)
    have hne : c ≠ 'Σ' := by rintro rfl; revert hc; decide
    simp [smallLettersAfter, hne, smallForm_of_ascii hc, ih (fun d hd => h d (by simp [hd]))]

theorem smallLetters_of_ascii {cs : List Char} (h : ∀ c ∈ cs, c.toNat < 128) :
    smallLetters cs = cs.map Char.toLower :=
  smallLettersAfter_of_ascii h []

end OpenApi.Text
