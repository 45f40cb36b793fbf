import OpenApi.Proofs.PlainNodes
import OpenApi.Proofs.ScalarText

/-!
# JSON texts are read back

The compact text of a value is read to the node of the value, in front of whatever may follow a
value. Texts with commas between them are read one by one; the fuel that reading needs is bounded by
twice the length of the text. Nothing is known about the digits of a binary64 number here: that each
of them is read back is assumed.

## Main definitions

* `Json.ReadsBack`: a value is read from its text.
* `Json.doubles`: the binary64 numbers in a value.
* `Double.ReadsBack`: a binary64 number is read from its text.

## Main statements

* `readElements_joined`, `readMembers_joined`: items and members are read from their joined texts.
* `Json.readsBack`: a value is read back if its numbers are.
* `Node.readJson_compact`: so is the whole text.
-/
namespace OpenApi

namespace Json

open Node (ofJson namedEntry)

/-! ## The characters of a text -/

/-- The characters of texts with commas between them. -/
def joined (texts : List String) : List Char := (",".intercalate texts).toList

theorem joined_singleton (text : String) : joined [text] = text.toList := by
  rw [joined, String.intercalate_singleton]

theorem joined_cons_cons (first second : String) (rest : List String) :
    joined (first :: second :: rest) = first.toList ++ ',' :: joined (second :: rest) := by
  rw [joined, String.intercalate_cons_cons, String.toList_append, String.toList_append, joined,
    List.append_assoc]
  rfl

/-- The text of a member. -/
def compactMember (entry : String × Json) : String := quote entry.1 ++ ":" ++ compact entry.2

theorem compactItems_eq_map (items : List Json) : compactItems items = items.map compact := by
  induction items with
  | nil => rfl
  | cons item rest ih => rw [compactItems, ih, List.map_cons]

theorem compactMembers_eq_map (members : List (String × Json)) :
    compactMembers members = members.map compactMember := by
  induction members with
  | nil => rfl
  | cons entry rest ih => rw [compactMembers, ih, List.map_cons, compactMember]

theorem toList_quote (text : String) :
    (quote text).toList = '"' :: (text.toList.flatMap escapeChar ++ ['"']) := by
  rw [quote, String.toList_ofList, List.cons_append]

theorem toList_compact_array (items : List Json) :
    (compact (.array items)).toList = '[' :: (joined (items.map compact) ++ [']']) := by
  rw [compact, compactItems_eq_map, String.toList_append, String.toList_append]
  rfl

theorem toList_compact_object (members : List (String × Json)) :
    (compact (.object members)).toList
      = '\x7b' :: (joined (members.map compactMember) ++ ['\x7d']) := by
  rw [compact, compactMembers_eq_map, String.toList_append, String.toList_append]
  rfl

theorem toList_compactMember_append (entry : String × Json) (rest : List Char) :
    (compactMember entry).toList ++ rest = '"' :: (entry.1.toList.flatMap escapeChar
      ++ '"' :: ':' :: ((compact entry.2).toList ++ rest)) := by
  rw [compactMember, String.toList_append, String.toList_append, toList_quote]
  simp

theorem length_compact_lt_compactMember (entry : String × Json) :
    (compact entry.2).toList.length < (compactMember entry).toList.length := by
  rw [compactMember, String.toList_append, String.toList_append, toList_quote]
  simp only [List.length_append, List.length_cons]
  omega

/-! ## Reading in front of more text -/

/-- A value is read from its text in front of what may follow it. -/
def ReadsBack (room : Nat) (value : Json) : Prop :=
  ∀ ⦃fuel rest⦄, Ends rest → 2 * (compact value).toList.length ≤ fuel →
    readValue (fuel + 1) room ((compact value).toList ++ rest) = (ofJson value, some rest)

variable {room fuel : Nat} {cs rest : List Char}

/-! ### Lists -/

theorem readElements_skipBlanks (fuel room : Nat) (cs : List Char) :
    readElements fuel room (skipBlanks cs) = readElements fuel room cs := by
  cases fuel with
  | zero => rfl
  | succ fuel => rw [readElements, readElements, readValue_skipBlanks]

/-- Items that are read do not start with the bracket that closes a list. -/
theorem skipBlanks_ne_bracket {nodes : List Node}
    (h : readElements fuel room cs = (nodes, some rest)) (tail : List Char) :
    skipBlanks cs ≠ ']' :: tail := by
  intro heq
  rw [← readElements_skipBlanks, heq] at h
  rcases fuel with _ | _ | fuel <;> cases h

theorem readValue_bracket {nodes : List Node}
    (h : readElements fuel room cs = (nodes, some rest)) :
    readValue (fuel + 1) (room + 1) ('[' :: cs) = (.sequence nodes, some rest) := by
  have hopen : skipBlanks ('[' :: cs) = '[' :: cs := rfl
  simp only [readValue, hopen, Nat.add_sub_cancel, if_neg (Nat.succ_ne_zero room)]
  split
  · rename_i tail heq
    exact absurd heq (skipBlanks_ne_bracket h tail)
  · rw [readElements_skipBlanks, h]

/-- The last item of a list. -/
theorem readElements_last {node : Node} (h : readValue fuel room cs = (node, some (']' :: rest))) :
    readElements (fuel + 1) room cs = ([node], some rest) := by
  have hbracket : skipBlanks (']' :: rest) = ']' :: rest := rfl
  simp only [readElements, h, hbracket]

/-- An item of a list in front of another. -/
theorem readElements_next {node : Node} (h : readValue fuel room cs = (node, some (',' :: rest))) :
    readElements (fuel + 1) room cs
      = (node :: (readElements fuel room rest).1, (readElements fuel room rest).2) := by
  have hcomma : skipBlanks (',' :: rest) = ',' :: rest := rfl
  simp only [readElements, h, hcomma]

/-- **The items of a list are read from their texts.** -/
theorem readElements_joined {items : List Json} (hne : items ≠ [])
    (h : ∀ item ∈ items, ReadsBack room item)
    (hfuel : 2 * (joined (items.map compact)).length + 2 ≤ fuel) (rest : List Char) :
    readElements fuel room (joined (items.map compact) ++ ']' :: rest)
      = (items.map ofJson, some rest) := by
  induction items generalizing fuel with
  | nil => exact absurd rfl hne
  | cons item items ih =>
    obtain ⟨hitem, hitems⟩ := List.forall_mem_cons.1 h
    obtain ⟨fuel, rfl⟩ := Nat.exists_eq_add_of_le' (le_trans (Nat.le_add_left 2 _) hfuel)
    cases items with
    | nil =>
      rw [List.map_singleton, joined_singleton] at hfuel ⊢
      exact readElements_last (hitem (ends_bracket rest) (by omega))
    | cons next items =>
      rw [List.map_cons, List.map_cons, joined_cons_cons, ← List.map_cons] at hfuel ⊢
      rw [List.length_append, List.length_cons] at hfuel
      have hrest := ih (List.cons_ne_nil next items) hitems (by omega : _ ≤ fuel + 1)
      rw [List.append_assoc, List.cons_append,
        readElements_next (hitem (ends_comma _) (by omega)), hrest]
      rfl

/-! ### Objects -/

theorem readMembers_skipBlanks (fuel room : Nat) (cs : List Char) :
    readMembers fuel room (skipBlanks cs) = readMembers fuel room cs := by
  cases fuel with
  | zero => rfl
  | succ fuel => rw [readMembers, readMembers, skipBlanks_skipBlanks]

/-- Members that are read do not start with the brace that closes an object. -/
theorem skipBlanks_ne_brace {entries : List (Node × Node)}
    (h : readMembers fuel room cs = (entries, some rest)) (tail : List Char) :
    skipBlanks cs ≠ '\x7d' :: tail := by
  intro heq
  rw [← readMembers_skipBlanks, heq] at h
  cases fuel <;> cases h

theorem readValue_brace {entries : List (Node × Node)}
    (h : readMembers fuel room cs = (entries, some rest)) :
    readValue (fuel + 1) (room + 1) ('\x7b' :: cs) = (.mapping entries, some rest) := by
  have hopen : skipBlanks ('\x7b' :: cs) = '\x7b' :: cs := rfl
  simp only [readValue, hopen, Nat.add_sub_cancel, if_neg (Nat.succ_ne_zero room)]
  split
  · rename_i tail heq
    exact absurd heq (skipBlanks_ne_brace h tail)
  · rw [readMembers_skipBlanks, h]

/-- The last member of an object. -/
theorem readMembers_last {node : Node}
    (h : readValue fuel room cs = (node, some ('\x7d' :: rest))) (name : String) :
    readMembers (fuel + 1) room ('"' :: (name.toList.flatMap escapeChar ++ '"' :: ':' :: cs))
      = ([(.text name, node)], some rest) := by
  have hquote (tail : List Char) : skipBlanks ('"' :: tail) = '"' :: tail := rfl
  have hcolon : skipBlanks (':' :: cs) = ':' :: cs := rfl
  have hbrace : skipBlanks ('\x7d' :: rest) = '\x7d' :: rest := rfl
  simp only [readMembers, hquote, readString_toList, Option.map_some, hcolon, h, hbrace, stringNode]

/-- A member of an object in front of another. -/
theorem readMembers_next {node : Node}
    (h : readValue fuel room cs = (node, some (',' :: rest))) (name : String) :
    readMembers (fuel + 1) room ('"' :: (name.toList.flatMap escapeChar ++ '"' :: ':' :: cs))
      = ((.text name, node) :: (readMembers fuel room rest).1, (readMembers fuel room rest).2) := by
  have hquote (tail : List Char) : skipBlanks ('"' :: tail) = '"' :: tail := rfl
  have hcolon : skipBlanks (':' :: cs) = ':' :: cs := rfl
  have hcomma : skipBlanks (',' :: rest) = ',' :: rest := rfl
  simp only [readMembers, hquote, readString_toList, Option.map_some, hcolon, h, hcomma, stringNode]

/-- **The members of an object are read from their texts.** -/
theorem readMembers_joined {members : List (String × Json)} (hne : members ≠ [])
    (h : ∀ entry ∈ members, ReadsBack room entry.2)
    (hfuel : 2 * (joined (members.map compactMember)).length + 2 ≤ fuel) (rest : List Char) :
    readMembers fuel room (joined (members.map compactMember) ++ '\x7d' :: rest)
      = (members.map namedEntry, some rest) := by
  induction members generalizing fuel with
  | nil => exact absurd rfl hne
  | cons entry members ih =>
    obtain ⟨hentry, hmembers⟩ := List.forall_mem_cons.1 h
    obtain ⟨fuel, rfl⟩ := Nat.exists_eq_add_of_le' (le_trans (Nat.le_add_left 2 _) hfuel)
    have hlength := length_compact_lt_compactMember entry
    cases members with
    | nil =>
      rw [List.map_singleton, joined_singleton] at hfuel ⊢
      rw [toList_compactMember_append]
      exact readMembers_last (hentry (ends_brace rest) (by omega)) entry.1
    | cons next members =>
      rw [List.map_cons, List.map_cons, joined_cons_cons, ← List.map_cons] at hfuel ⊢
      rw [List.length_append, List.length_cons] at hfuel
      have hrest := ih (List.cons_ne_nil next members) hmembers (by omega : _ ≤ fuel + 1)
      rw [List.append_assoc, List.cons_append, toList_compactMember_append,
        readMembers_next (hentry (ends_comma _) (by omega)), hrest]
      rfl

/-! ## Values -/

theorem readsBack_null : ReadsBack room .null := by
  intro fuel rest _ _
  rfl

theorem readsBack_bool (value : Bool) : ReadsBack room (.bool value) := by
  intro fuel rest _ _
  cases value <;> rfl

/-- A number is read back when it is read from its text alone. -/
theorem readsBack_number {number : Number}
    (h : readValue 1 0 (compact (.number number)).toList = (.number number, some [])) :
    ReadsBack room (.number number) := by
  intro fuel rest hrest _
  exact readValue_number_append h hrest fuel room

theorem readsBack_string (text : String) : ReadsBack room (.string text) := by
  intro fuel rest _ _
  rw [compact, toList_quote, List.cons_append, List.append_assoc, List.singleton_append]
  show (stringNode (readString [] true _), (readString [] true _).2) = _
  rw [readString_toList]
  rfl

theorem readsBack_array {items : List Json} (h : ∀ item ∈ items, ReadsBack room item) :
    ReadsBack (room + 1) (.array items) := by
  intro fuel rest _ hfuel
  rw [toList_compact_array] at hfuel ⊢
  rw [List.cons_append, List.append_assoc, List.singleton_append, Node.ofJson_array]
  by_cases hne : items = []
  · subst hne
    rfl
  · rw [List.length_cons, List.length_append] at hfuel
    exact readValue_bracket (readElements_joined hne h (by omega) rest)

theorem readsBack_object {members : List (String × Json)}
    (h : ∀ entry ∈ members, ReadsBack room entry.2) : ReadsBack (room + 1) (.object members) := by
  intro fuel rest _ hfuel
  rw [toList_compact_object] at hfuel ⊢
  rw [List.cons_append, List.append_assoc, List.singleton_append, Node.ofJson_object]
  by_cases hne : members = []
  · subst hne
    rfl
  · rw [List.length_cons, List.length_append] at hfuel
    exact readValue_brace (readMembers_joined hne h (by omega) rest)

mutual

/-- The binary64 numbers in a value. -/
def doubles : Json → List Double
  | number (.double value) => [value]
  | array items => doublesItems items
  | object members => doublesMembers members
  | _ => []

/-- The binary64 numbers in the items of a list. -/
def doublesItems : List Json → List Double
  | [] => []
  | item :: rest => doubles item ++ doublesItems rest

/-- The binary64 numbers in the values of an object. -/
def doublesMembers : List (String × Json) → List Double
  | [] => []
  | (_, value) :: rest => doubles value ++ doublesMembers rest

end

end Json

/-- A binary64 number is read from its text. -/
def Double.ReadsBack (value : Double) : Prop :=
  Json.readValue 1 0 (Json.number (.double value)).compact.toList
    = (.number (.double value), some [])

namespace Json

open Node (ofJson)

mutual

/-- **A value is read back from its text**, if its binary64 numbers are. -/
theorem readsBack : ∀ {room : Nat} (value : Json), (ofJson value).Plain room →
    (∀ x ∈ value.doubles, x.ReadsBack) → ReadsBack room value
  | _, .null, _, _ => readsBack_null
  | _, .bool value, _, _ => readsBack_bool value
  | _, .number (.int value), h, _ => by
    cases h with
    | int least greatest => exact readsBack_number (readValue_int least greatest 0 0)
  | _, .number (.double value), _, hdoubles =>
    readsBack_number (hdoubles value (List.mem_singleton_self value))
  | _, .string text, _, _ => readsBack_string text
  | _, .array items, h, hdoubles => by
    rw [Node.ofJson_array] at h
    cases h with
    | sequence hitems =>
      exact readsBack_array (readsBackItems items (List.forall_mem_map.1 hitems) hdoubles)
  | _, .object members, h, hdoubles => by
    rw [Node.ofJson_object] at h
    cases h with
    | mapping _ _ hvalues =>
      rw [List.forall_mem_map] at hvalues
      exact readsBack_object (readsBackMembers members hvalues hdoubles)

theorem readsBackItems : ∀ {room : Nat} (items : List Json),
    (∀ item ∈ items, (ofJson item).Plain room) →
      (∀ x ∈ doublesItems items, x.ReadsBack) → ∀ item ∈ items, ReadsBack room item
  | _, [], _, _ => List.forall_mem_nil _
  | _, item :: rest, h, hdoubles => by
    obtain ⟨hitem, hrest⟩ := List.forall_mem_cons.1 h
    obtain ⟨hfirst, hmore⟩ := List.forall_mem_append.1 hdoubles
    exact List.forall_mem_cons.2 ⟨readsBack item hitem hfirst, readsBackItems rest hrest hmore⟩

theorem readsBackMembers : ∀ {room : Nat} (members : List (String × Json)),
    (∀ entry ∈ members, (ofJson entry.2).Plain room) →
      (∀ x ∈ doublesMembers members, x.ReadsBack) → ∀ entry ∈ members, ReadsBack room entry.2
  | _, [], _, _ => List.forall_mem_nil _
  | _, (name, value) :: rest, h, hdoubles => by
    obtain ⟨hvalue, hrest⟩ := List.forall_mem_cons.1 h
    obtain ⟨hfirst, hmore⟩ := List.forall_mem_append.1 hdoubles
    exact List.forall_mem_cons.2 ⟨readsBack value hvalue hfirst, readsBackMembers rest hrest hmore⟩

end

end Json

/-- **The text of a value is read back**, up to its end. -/
theorem Node.readJson_compact {room : Nat} {value : Json} (h : (ofJson value).Plain room)
    (hdoubles : ∀ x ∈ value.doubles, x.ReadsBack) :
    readJson room value.compact = (ofJson value, true) := by
  have hread := Json.readsBack value h hdoubles Json.ends_nil (Nat.le_succ _)
  rw [List.append_nil] at hread
  rw [readJson]
  simp only [hread]
  rfl

end OpenApi
