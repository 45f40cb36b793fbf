import OpenApi.Yaml.Source
import OpenApi.Yaml.Token

/-!
# Tags and directives

A tag is written in full between angles, or as a handle and a rest, or as a rest behind one mark. In
all of them a percent sign and two hexadecimal digits stand for an octet. A directive is a line that
states the version, or the front of a tag that a handle stands for.

## Main definitions

* `readTag`: a tag, as a handle and a rest.
* `readDirective`: a directive.
-/
namespace OpenApi.Yaml

/-! ## The text of a tag -/

/-- Whether a character may stand in a tag; commas and square brackets only where `full`
allows them. -/
def isTagPart (full : Bool) (c : Char) : Bool :=
  isNamePart c || ";/?:@&=+$.%!~*'()".toList.contains c || (full && [',', '[', ']'].contains c)

/-- How many octets follow the first octet of a character; none when it cannot be a first one. -/
def octetsBehind? (octet : Nat) : Option Nat :=
  if octet < 0x80 then some 0
  else if octet < 0xc0 then none
  else if octet < 0xe0 then some 1
  else if octet < 0xf0 then some 2
  else if octet < 0xf8 then some 3
  else none

/-- The octets of a tag, with its escapes replaced; none when an escape is malformed. `owed` counts
the octets that the character begun still needs. -/
def tagOctets? : (owed : Nat) → List Char → Option (List UInt8)
  | 0, [] => some []
  | _ + 1, [] => none
  | owed, '%' :: a :: b :: rest => do
    let octet ← digits? 16 [a, b]
    let owed ← match owed with
      | 0 => octetsBehind? octet
      | owed + 1 => if 0x80 ≤ octet ∧ octet < 0xc0 then some owed else none
    return octet.toUInt8 :: (← tagOctets? owed rest)
  | 0, c :: rest => if c = '%' then none else return c.toNat.toUInt8 :: (← tagOctets? 0 rest)
  | _ + 1, _ :: _ => none

/-- The text of a tag with its escapes replaced. Octets that are no characters make a text that
names no tag. -/
def tagText? (cs : List Char) : Option String :=
  (tagOctets? 0 cs).map fun octets => (String.fromUTF8? ⟨octets.toArray⟩).getD "\ufffd"

/-! ## Tags -/

/-- A handle that starts with a mark and a name, up to a second mark; what follows comes with it. -/
def readHandle? (cs : List Char) : Option (List Char × List Char) :=
  match cs with
  | '!' :: rest =>
    match rest.dropWhile isNamePart with
    | '!' :: behind => some ('!' :: rest.takeWhile isNamePart ++ ['!'], behind)
    | _ => none
  | _ => none

/-- Split off the part of a text that may belong to a tag. -/
def spanTag (full : Bool) (cs : List Char) : List Char × List Char :=
  (cs.takeWhile (isTagPart full), cs.dropWhile (isTagPart full))

/-- A tag as it is written: the handle, the rest, and the number of characters. -/
structure WrittenTag where
  handle : String
  rest : String
  width : Nat

/-- Read a tag, and what follows it. The single mark is a tag without a handle. -/
def readTag (cs : List Char) : Option (WrittenTag × List Char) :=
  match cs with
  | '!' :: '<' :: inner => do
    let (written, behind) := spanTag true inner
    let text ← tagText? written
    match behind with
    | '>' :: behind =>
      if written.isEmpty then none else some (⟨"", text, written.length + 3⟩, behind)
    | _ => none
  | '!' :: inner =>
    match readHandle? cs with
    | some (handle, behind) => do
      let (written, behind) := spanTag false behind
      let text ← tagText? written
      if written.isEmpty then none
      else some (⟨String.ofList handle, text, handle.length + written.length⟩, behind)
    | none => do
      let (written, behind) := spanTag false inner
      let text ← tagText? written
      if written.isEmpty then some (⟨"", "!", 1⟩, behind)
      else some (⟨"!", text, written.length + 1⟩, behind)
  | _ => none

/-! ## Directives -/

/-- Up to nine digits, as a number. -/
def readVersionPart (cs : List Char) : Option (Nat × List Char) :=
  let written := cs.takeWhile Char.isDigit
  if 9 < written.length then none
  else (digits? 10 written).map fun n => (n, cs.dropWhile Char.isDigit)

/-- The value of the directive that states the version. -/
def readVersion (cs : List Char) : Option (Token × List Char) := do
  let (major, rest) ← readVersionPart cs
  match rest with
  | '.' :: rest => do
    let (minor, rest) ← readVersionPart rest
    return (.version major minor, rest)
  | _ => none

/-- The value of the directive for a handle. The handle is the single mark, or ends with a mark. -/
def readHandleFront (cs : List Char) : Option (Token × List Char) := do
  let (handle, rest) ← match readHandle? cs, cs with
    | some found, _ => some found
    | none, '!' :: rest => some (['!'], rest)
    | none, _ => none
  match rest with
  | c :: _ =>
    let (written, behind) := spanTag true (rest.dropWhile isBlank)
    let text ← tagText? written
    if isBlank c && !written.isEmpty && startsWithGap behind then
      some (.handle (String.ofList handle) text, behind)
    else none
  | [] => none

/-- Read a directive behind its mark, up to the end of its value. -/
def readDirective (cs : List Char) : Option (Token × List Char) :=
  let rest := cs.dropWhile isNamePart
  let value := rest.dropWhile isBlank
  if !startsWithGap rest then none
  else match String.ofList (cs.takeWhile isNamePart) with
    | "YAML" => readVersion value
    | "TAG" => readHandleFront value
    | _ => none

end OpenApi.Yaml
