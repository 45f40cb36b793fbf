import OpenApi.Text.Case

/-!
# Words and case styles

A name is a sequence of words. A word is a run of ASCII letters and digits, and it ends where a
small letter is followed by a capital. The case styles write the words of a name together again.

## Main definitions

* `splitWords`: the words of a name.
* `camelCase`, `pascalCase`, `snakeCase`: the names in one style.
* `sanitize`: a name with everything but ASCII letters, digits and underscores made an underscore.
* `enumMember`: the identifier of an enumerated value.
* `escapeQuotes`: a text for a literal in single quotes.
-/
namespace OpenApi.Text

/-! ## Splitting -/

/-- Whether the text goes on with a character of the same word as `c`: a letter or digit, and no
capital after a small letter. -/
def continuesWord (c : Char) : List Char → Bool
  | [] => false
  | next :: _ => next.isAlphanum && !(c.isLower && next.isUpper)

/-- Put a character in front of the first word. -/
def consToFirst (c : Char) : List (List Char) → List (List Char)
  | [] => [[c]]
  | word :: words => (c :: word) :: words

/-- The words of a name. -/
def splitWords : List Char → List (List Char)
  | [] => []
  | c :: rest =>
    if !c.isAlphanum then splitWords rest
    else if continuesWord c rest then consToFirst c (splitWords rest)
    else [c] :: splitWords rest

/-! ## Case styles -/

/-- A word in small letters. -/
def lowerWord (word : List Char) : List Char := word.map Char.toLower

/-- A word with a capital first letter and small letters after it. -/
def titleWord : List Char → List Char
  | [] => []
  | c :: rest => c.toUpper :: lowerWord rest

/-- The first word in small letters and the others with capital first letters, joined; a name
without a word stays as it is. -/
def camelCase (name : List Char) : List Char :=
  match splitWords name with
  | [] => name
  | word :: words => lowerWord word ++ words.flatMap titleWord

/-- The words with capital first letters, joined. -/
def pascalCase (name : List Char) : List Char := (splitWords name).flatMap titleWord

/-- The words in small letters, joined by underscores. -/
def snakeCase (name : List Char) : List Char :=
  (List.intersperse ['_'] ((splitWords name).map lowerWord)).flatten

/-! ## Identifiers -/

/-- Whether a character may stand in an identifier. -/
def isIdentifierChar (c : Char) : Bool := c.isAlphanum || c == '_'

/-- Whether a name starts with a digit. -/
def startsWithDigit : List Char → Bool
  | [] => false
  | c :: _ => c.isDigit

/-- The spelled form of the two reaction names, which have no letter of their own. -/
def reactionName? : List Char → Option (List Char)
  | ['+', '1'] => some "plus1".toList
  | ['-', '1'] => some "minus1".toList
  | _ => none

/-- The name with an underscore for every character that no identifier holds. -/
def sanitize (name : List Char) : List Char :=
  match reactionName? name with
  | some spelled => spelled
  | none => name.map fun c => if isIdentifierChar c then c else '_'

/-! ## Enumerated values -/

/-- How a member identifier writes one character of the value in capital letters. -/
def memberSpelling (c : Char) : List Char :=
  if c = ' ' ∨ c = '-' ∨ c = '.' then ['_']
  else if c = '+' then "PLUS".toList
  else [c]

/-- The identifier of an enumerated value: capital letters, an underscore in front of a leading
digit, other characters dropped, and `VALUE` when nothing is left. -/
def enumMember (value : List Char) : List Char :=
  let spelled := (capitalLetters value).flatMap memberSpelling
  let guarded := if startsWithDigit spelled then '_' :: spelled else spelled
  match guarded.filter isIdentifierChar with
  | [] => "VALUE".toList
  | member => member

/-- The text with a backslash in front of every single quote. -/
def escapeQuotes (text : List Char) : List Char :=
  text.flatMap fun c => if c = '\'' then ['\\', '\''] else [c]

end OpenApi.Text
