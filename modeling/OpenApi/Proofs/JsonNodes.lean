import OpenApi.Proofs.FiniteNumbers

/-!
# Nodes of JSON texts

What the reading of a JSON text leaves is a plain node, however the text ends, when no object in it
repeats a key: numbers are decided where they are read, and a collection in too many others is
unreadable.

## Main statements

* `plain_readValue`: a value that is read is a plain node.
* `plain_readJson`: so is the node of a text.
-/
namespace OpenApi

namespace Json

open Node (distinctKeys distinctKeysItems distinctKeysEntries IsKey Plain)

/-! ## Scalars -/

theorem isKey_stringNode (result : Option String × Option (List Char)) :
    IsKey (stringNode result) := by
  obtain ⟨text, rest⟩ := result
  cases rest with
  | none => exact .broken
  | some rest =>
    cases text with
    | none => exact .unreadable
    | some text => exact .text

theorem plain_of_isKey {room : Nat} {node : Node} (h : IsKey node) : node.Plain room := by
  cases h with
  | text => exact .text
  | unreadable => exact .unreadable
  | broken => exact .broken

theorem plain_readUnsigned (room : Nat) (negative : Bool) (cs : List Char) :
    (readUnsigned negative cs).1.Plain room := by
  unfold readUnsigned
  dsimp only
  split
  · exact .broken
  · split
    · exact .broken
    · exact plain_node room _

/-! ## Collections -/

/-- The items of a list fit the room. -/
def ItemsPlain (room : Nat) (items : List Node) : Prop :=
  distinctKeysItems items = true → ∀ item ∈ items, item.Plain room

/-- The keys of an object are keys, and its values fit the room. -/
def EntriesPlain (room : Nat) (entries : List (Node × Node)) : Prop :=
  distinctKeysEntries entries = true → ∀ entry ∈ entries, IsKey entry.1 ∧ entry.2.Plain room

/-- The value of a node fits the room unless an object repeats a key. -/
def ValuePlain (room : Nat) (node : Node) : Prop := node.distinctKeys = true → node.Plain room

theorem itemsPlain_cons {room : Nat} {item : Node} {items : List Node}
    (hitem : ValuePlain room item) (hitems : ItemsPlain room items) :
    ItemsPlain room (item :: items) := by
  intro h
  rw [distinctKeysItems, Bool.and_eq_true] at h
  exact List.forall_mem_cons.2 ⟨hitem h.1, hitems h.2⟩

theorem entriesPlain_cons {room : Nat} {key value : Node} {entries : List (Node × Node)}
    (hkey : IsKey key) (hvalue : ValuePlain room value) (hentries : EntriesPlain room entries) :
    EntriesPlain room ((key, value) :: entries) := by
  intro h
  rw [distinctKeysEntries, Bool.and_eq_true] at h
  exact List.forall_mem_cons.2 ⟨⟨hkey, hvalue h.1⟩, hentries h.2⟩

theorem itemsPlain_broken (room : Nat) : ItemsPlain room [.broken] :=
  itemsPlain_cons (fun _ => .broken) fun _ => by simp

theorem entriesPlain_broken (room : Nat) : EntriesPlain room [(.broken, .broken)] :=
  entriesPlain_cons .broken (fun _ => .broken) fun _ => by simp

/-- A collection is unreadable without room, and its parts have one less. -/
theorem valuePlain_sequence {room : Nat} {items : List Node} (h : ItemsPlain (room - 1) items) :
    ValuePlain room (if room = 0 then .unreadable else .sequence items) := by
  intro hkeys
  cases room with
  | zero => exact .unreadable
  | succ room => exact .sequence (h hkeys)

theorem valuePlain_mapping {room : Nat} {entries : List (Node × Node)}
    (h : EntriesPlain (room - 1) entries) :
    ValuePlain room (if room = 0 then .unreadable else .mapping entries) := by
  intro hkeys
  cases room with
  | zero => exact .unreadable
  | succ room =>
    rw [if_neg (Nat.succ_ne_zero room), distinctKeys, Bool.and_eq_true, decide_eq_true_eq] at hkeys
    exact .mapping (fun entry hmem => (h hkeys.2 entry hmem).1) hkeys.1
      fun entry hmem => (h hkeys.2 entry hmem).2

/-- **Values, items and members that are read are plain.** The three read each other with
less fuel. -/
theorem plain_read (fuel : Nat) :
    (∀ room cs, ValuePlain room (readValue fuel room cs).1)
      ∧ (∀ room cs, ItemsPlain room (readElements fuel room cs).1)
      ∧ ∀ room cs, EntriesPlain room (readMembers fuel room cs).1 := by
  induction fuel with
  | zero =>
    exact ⟨fun _ _ _ => .broken, fun room _ => itemsPlain_broken room,
      fun room _ => entriesPlain_broken room⟩
  | succ fuel ih =>
    obtain ⟨ihvalue, ihitems, ihentries⟩ := ih
    refine ⟨fun room cs => ?_, fun room cs => ?_, fun room cs => ?_⟩
    case refine_1 =>
      unfold readValue
      split
      · refine valuePlain_mapping ?_
        split
        · exact fun _ => by simp
        · exact ihentries _ _
      · refine valuePlain_sequence ?_
        split
        · exact fun _ => by simp
        · exact ihitems _ _
      · exact fun _ => plain_of_isKey (isKey_stringNode _)
      · exact fun _ => plain_readUnsigned room _ _
      · split
        · exact fun _ => plain_readUnsigned room _ _
        · split
          · exact fun _ => .null
          · split
            · exact fun _ => .bool
            · split
              · exact fun _ => .bool
              · exact fun _ => .broken
      · exact fun _ => .broken
    case refine_2 =>
      unfold readElements
      have hitem := ihvalue room cs
      split
      · rename_i heq
        rw [heq] at hitem
        exact itemsPlain_cons hitem (itemsPlain_broken room)
      · rename_i heq
        rw [heq] at hitem
        split
        · exact itemsPlain_cons hitem (ihitems room _)
        · exact itemsPlain_cons hitem fun _ => by simp
        · exact itemsPlain_cons hitem (itemsPlain_broken room)
    case refine_3 =>
      unfold readMembers
      split
      · dsimp only
        split
        · rename_i rest _
          have hvalue := ihvalue room rest
          split
          · rename_i heq
            rw [heq] at hvalue
            exact entriesPlain_cons (isKey_stringNode _) hvalue (entriesPlain_broken room)
          · rename_i heq
            rw [heq] at hvalue
            split
            · exact entriesPlain_cons (isKey_stringNode _) hvalue (ihentries room _)
            · exact entriesPlain_cons (isKey_stringNode _) hvalue fun _ => by simp
            · exact entriesPlain_cons (isKey_stringNode _) hvalue (entriesPlain_broken room)
        · exact entriesPlain_broken room
      · exact entriesPlain_broken room

end Json

/-- **The node of a JSON text is plain** when no object in it repeats a key. -/
theorem Node.plain_readJson {room : Nat} {text : String}
    (h : (Node.readJson room text).1.distinctKeys = true) :
    (Node.readJson room text).1.Plain room := by
  have hvalue := (Json.plain_read (2 * text.toList.length + 2)).1 room text.toList
  unfold readJson at h ⊢
  dsimp only at h ⊢
  split at h
  all_goals
    rename_i heq
    rw [heq] at hvalue
    exact hvalue h

end OpenApi
