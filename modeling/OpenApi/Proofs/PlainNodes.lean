import Mathlib.Algebra.Group.Int.Defs
import Mathlib.Data.Set.List
import OpenApi.Node.Basic

/-!
# Plain nodes

What the reading of a JSON text can leave: scalars that are decided, whole numbers of 64 bits,
finite binary64 numbers, and collections that stand in each other no deeper than the room allows. A
key is a text or cannot be used. Where no object repeats a key, a plain node that is read without a
fault is the node of a JSON value, and that value is found again.

## Main definitions

* `Node.distinctKeys`: no mapping in a node repeats a key.
* `Node.Plain`: the plain nodes that fit a room.

## Main statements

* `Plain.ofJson_eq_of_json`: the JSON value of a plain node is the one that it is the node of.
* `json_ofJson`: the node of a JSON value has that value.
-/
namespace OpenApi.Node

/-! ## Keys -/

/-- The text of a key, if it is one. -/
def keyText? : Node → Option String
  | text name => some name
  | _ => none

/-- The texts among the keys of a mapping. -/
def keyTexts (entries : List (Node × Node)) : List String :=
  entries.filterMap fun entry => entry.1.keyText?

mutual

/-- Whether no mapping in a node repeats a key. -/
def distinctKeys : Node → Bool
  | sequence items => distinctKeysItems items
  | mapping entries => decide (keyTexts entries).Nodup && distinctKeysEntries entries
  | collection _ inner => distinctKeys inner
  | _ => true

/-- Whether no mapping in one of the nodes repeats a key. -/
def distinctKeysItems : List Node → Bool
  | [] => true
  | item :: rest => distinctKeys item && distinctKeysItems rest

/-- Whether no mapping in one of the values repeats a key. -/
def distinctKeysEntries : List (Node × Node) → Bool
  | [] => true
  | (_, value) :: rest => distinctKeys value && distinctKeysEntries rest

end

/-- A key of a JSON object: a text, or what stands in the place of one that cannot be used. -/
inductive IsKey : Node → Prop
  | text {name : String} : IsKey (text name)
  | unreadable : IsKey unreadable
  | broken : IsKey broken

/-- A node as a JSON text gives it, with at most `room` collections in each other and no key
repeated. -/
inductive Plain : (room : Nat) → Node → Prop
  | null {room : Nat} : Plain room null
  | bool {room : Nat} {value : Bool} : Plain room (bool value)
  | int {room : Nat} {value : Int} (least : -2 ^ 63 ≤ value) (greatest : value < 2 ^ 64) :
    Plain room (number (.int value))
  | double {room : Nat} {value : Double} (finite : value.isFinite = true) :
    Plain room (number (.double value))
  | text {room : Nat} {value : String} : Plain room (text value)
  | sequence {room : Nat} {items : List Node} (items_plain : ∀ item ∈ items, Plain room item) :
    Plain (room + 1) (sequence items)
  | mapping {room : Nat} {entries : List (Node × Node)}
    (keys : ∀ entry ∈ entries, IsKey entry.1) (nodup_keys : (keyTexts entries).Nodup)
    (values_plain : ∀ entry ∈ entries, Plain room entry.2) : Plain (room + 1) (mapping entries)
  | unreadable {room : Nat} : Plain room unreadable
  | broken {room : Nat} : Plain room broken

/-! ## The nodes of JSON values -/

/-- The entry of a mapping for a named value. -/
def namedEntry (entry : String × Json) : Node × Node := (text entry.1, ofJson entry.2)

theorem ofJsonItems_eq_map (items : List Json) : ofJsonItems items = items.map ofJson := by
  induction items with
  | nil => rfl
  | cons item rest ih => rw [ofJsonItems, ih, List.map_cons]

theorem ofJsonMembers_eq_map (members : List (String × Json)) :
    ofJsonMembers members = members.map namedEntry := by
  induction members with
  | nil => rfl
  | cons entry rest ih => rw [ofJsonMembers, ih, List.map_cons, namedEntry]

@[simp] theorem ofJson_array (items : List Json) :
    ofJson (.array items) = sequence (items.map ofJson) := by
  rw [ofJson, ofJsonItems_eq_map]

@[simp] theorem ofJson_object (members : List (String × Json)) :
    ofJson (.object members) = mapping (members.map namedEntry) := by
  rw [ofJson, ofJsonMembers_eq_map]

@[simp] theorem keyTexts_map_namedEntry (members : List (String × Json)) :
    keyTexts (members.map namedEntry) = members.map Prod.fst := by
  induction members with
  | nil => rfl
  | cons entry rest ih => simpa [keyTexts, namedEntry, keyText?] using ih

/-- The node of an object is plain when its keys differ and its values are. -/
theorem plain_ofJson_object {room : Nat} {members : List (String × Json)}
    (hkeys : (members.map Prod.fst).Nodup)
    (hvalues : ∀ entry ∈ members, (ofJson entry.2).Plain room) :
    (ofJson (.object members)).Plain (room + 1) := by
  rw [ofJson_object]
  refine .mapping ?_ (by rwa [keyTexts_map_namedEntry]) ?_
  · intro entry hmem
    obtain ⟨source, _, rfl⟩ := List.mem_map.1 hmem
    exact .text
  · intro entry hmem
    obtain ⟨source, hsource, rfl⟩ := List.mem_map.1 hmem
    exact hvalues source hsource

/-- The node of a list is plain when its items are. -/
theorem plain_ofJson_array {room : Nat} {items : List Json}
    (hitems : ∀ item ∈ items, (ofJson item).Plain room) :
    (ofJson (.array items)).Plain (room + 1) := by
  rw [ofJson_array]
  refine .sequence fun node hmem => ?_
  obtain ⟨item, hitem, rfl⟩ := List.mem_map.1 hmem
  exact hitems item hitem

mutual

/-- The node of a JSON value is typed. -/
theorem typed_ofJson : ∀ value : Json, (ofJson value).typed = .ok (ofJson value)
  | .null => rfl
  | .bool _ => rfl
  | .number _ => rfl
  | .string _ => rfl
  | .array items => by
    rw [ofJson, typed, typedItems_ofJsonItems items]
    rfl
  | .object members => by
    rw [ofJson, typed, typedEntries_ofJsonMembers members]
    rfl

theorem typedItems_ofJsonItems : ∀ items : List Json,
    typedItems (ofJsonItems items) = .ok (ofJsonItems items)
  | [] => rfl
  | item :: rest => by
    rw [ofJsonItems, typedItems, typed_ofJson item, typedItems_ofJsonItems rest]
    rfl

theorem typedEntries_ofJsonMembers : ∀ members : List (String × Json),
    typedEntries (ofJsonMembers members) = .ok (ofJsonMembers members)
  | [] => rfl
  | (name, value) :: rest => by
    rw [ofJsonMembers, typedEntries, typed_ofJson value, typedEntries_ofJsonMembers rest]
    rfl

end

mutual

theorem jsonOfTyped_ofJson : ∀ {room : Nat} (value : Json), (ofJson value).Plain room →
    jsonOfTyped (ofJson value) = .ok value
  | _, .null, _ => rfl
  | _, .bool _, _ => rfl
  | _, .number (.int _), _ => rfl
  | _, .number (.double value), h => by
    cases h with
    | double finite => simp [ofJson, jsonOfTyped, Json.double, finite]
  | _, .string _, _ => rfl
  | _, .array items, h => by
    rw [ofJson_array] at h
    cases h with
    | sequence hitems =>
      rw [ofJson, jsonOfTyped, jsonItems_ofJsonItems items (List.forall_mem_map.1 hitems)]
      rfl
  | _, .object members, h => by
    rw [ofJson_object] at h
    cases h with
    | mapping _ hkeys hvalues =>
      rw [List.forall_mem_map] at hvalues
      rw [keyTexts_map_namedEntry] at hkeys
      rw [ofJson, jsonOfTyped, jsonMembers_ofJsonMembers members hvalues]
      show Except.ok (Json.object (settle members)) = _
      rw [settle_eq_self hkeys]

theorem jsonItems_ofJsonItems : ∀ {room : Nat} (items : List Json),
    (∀ item ∈ items, (ofJson item).Plain room) → jsonItems (ofJsonItems items) = .ok items
  | _, [], _ => rfl
  | _, item :: rest, h => by
    rw [ofJsonItems, jsonItems, jsonOfTyped_ofJson item (h item List.mem_cons_self),
      jsonItems_ofJsonItems rest fun other hmem => h other (List.mem_cons_of_mem item hmem)]
    rfl

theorem jsonMembers_ofJsonMembers : ∀ {room : Nat} (members : List (String × Json)),
    (∀ entry ∈ members, (ofJson entry.2).Plain room) →
      jsonMembers (ofJsonMembers members) = .ok members
  | _, [], _ => rfl
  | _, (name, value) :: rest, h => by
    rw [ofJsonMembers, jsonMembers]
    simp only [jsonOfTyped_ofJson value (h (name, value) List.mem_cons_self),
      jsonMembers_ofJsonMembers rest fun other hmem => h other (List.mem_cons_of_mem _ hmem)]
    rfl

end

/-- **The node of a JSON value has that value.** -/
theorem json_ofJson {room : Nat} {value : Json} (h : (ofJson value).Plain room) :
    (ofJson value).json = .ok value := by
  rw [json, typed_ofJson]
  exact jsonOfTyped_ofJson value h

/-! ## Plain nodes -/

theorem typedItems_eq_ok {items typed : List Node} (h : typedItems items = .ok typed) :
    ∀ item ∈ items, ∃ node, item.typed = .ok node := by
  induction items generalizing typed with
  | nil => simp
  | cons item rest ih =>
    simp only [typedItems, Decoded.bind_eq_ok_iff] at h
    obtain ⟨node, hitem, nodes, hrest, -⟩ := h
    exact List.forall_mem_cons.2 ⟨⟨node, hitem⟩, ih hrest⟩

theorem typedEntries_eq_ok {entries typed : List (Node × Node)}
    (h : typedEntries entries = .ok typed) : ∀ entry ∈ entries,
      (∃ key, entry.1.typed = .ok key) ∧ ∃ node, entry.2.typed = .ok node := by
  induction entries generalizing typed with
  | nil => simp
  | cons entry rest ih =>
    obtain ⟨key, value⟩ := entry
    simp only [typedEntries, Decoded.bind_eq_ok_iff] at h
    obtain ⟨name, hkey, node, hvalue, nodes, hrest, -⟩ := h
    exact List.forall_mem_cons.2 ⟨⟨⟨name, hkey⟩, node, hvalue⟩, ih hrest⟩

namespace Plain

variable {room : Nat} {node : Node}

theorem content_eq (h : node.Plain room) : node.content = node := by
  cases h <;> rfl

/-- **A plain node that has no fault is the node of a JSON value.** -/
theorem exists_ofJson (h : node.Plain room) {typed : Node} (htyped : node.typed = .ok typed) :
    ∃ value, node = ofJson value := by
  induction h generalizing typed with
  | null => exact ⟨.null, rfl⟩
  | @bool _ value => exact ⟨.bool value, rfl⟩
  | @int _ value => exact ⟨.number (.int value), rfl⟩
  | @double _ value => exact ⟨.number (.double value), rfl⟩
  | @text _ value => exact ⟨.string value, rfl⟩
  | unreadable => cases htyped
  | broken => cases htyped
  | @sequence room items _ ih =>
    rw [Node.typed, Decoded.bind_eq_ok_iff] at htyped
    obtain ⟨nodes, hitems, -⟩ := htyped
    have hvalues : items ∈ Set.range (List.map ofJson) := by
      rw [Set.range_list_map]
      intro item hmem
      obtain ⟨node, hnode⟩ := typedItems_eq_ok hitems item hmem
      obtain ⟨value, hvalue⟩ := ih item hmem hnode
      exact ⟨value, hvalue.symm⟩
    obtain ⟨values, rfl⟩ := hvalues
    exact ⟨.array values, (ofJson_array values).symm⟩
  | @mapping room entries hkeys _ _ ih =>
    rw [Node.typed, Decoded.bind_eq_ok_iff] at htyped
    obtain ⟨nodes, hentries, -⟩ := htyped
    have hvalues : entries ∈ Set.range (List.map namedEntry) := by
      rw [Set.range_list_map]
      intro entry hmem
      obtain ⟨⟨key, hkey⟩, node, hnode⟩ := typedEntries_eq_ok hentries entry hmem
      obtain ⟨value, hvalue⟩ := ih entry hmem hnode
      obtain ⟨first, second⟩ := entry
      dsimp only at hkey hvalue
      cases hkeys _ hmem with
      | @text name => exact ⟨(name, value), by rw [namedEntry, hvalue]⟩
      | unreadable => cases hkey
      | broken => cases hkey
    obtain ⟨members, rfl⟩ := hvalues
    exact ⟨.object members, (ofJson_object members).symm⟩

/-- **The JSON value of a plain node** is the one that it is the node of. -/
theorem ofJson_eq_of_json (h : node.Plain room) {value : Json} (hjson : node.json = .ok value) :
    ofJson value = node := by
  obtain ⟨typed, htyped, -⟩ := Decoded.bind_eq_ok_iff.1 hjson
  obtain ⟨source, rfl⟩ := h.exists_ofJson htyped
  rw [json_ofJson h] at hjson
  rw [Except.ok.inj hjson]

end Plain

end OpenApi.Node
