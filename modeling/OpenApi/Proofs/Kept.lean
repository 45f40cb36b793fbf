import Mathlib.Data.List.Forall2
import OpenApi.Document.Reading
import OpenApi.Document.Writing
import OpenApi.Proofs.FiniteNumbers

/-!
# Values that are written and read back

A reader and a writer belong together when every value that the reader makes of a plain node is
written so that the reader makes the same value of what is written. What is written is a plain node
again and fits the same room, if that room is not too small for the collections that are written
although none was read.

## Main definitions

* `Kept`: one value is read back.
* `Keeps`: so is every value that was read.

## Main statements

* `Keeps.option`, `Keeps.list`, `Keeps.dict`: options, lists and maps of what is kept.
-/
namespace OpenApi

open Node (asText asFlag asCount asDouble asOption asList asEntries asDict asChoice namedEntry)

/-! ## Readers in sequence -/

theorem mapM_eq_ok_iff {α β : Type} {read : α → Decoded β} {items : List α} {values : List β} :
    items.mapM read = .ok values ↔
      List.Forall₂ (fun item value => read item = .ok value) items values := by
  induction items generalizing values with
  | nil => simp [pure, Except.pure, eq_comm]
  | cons item rest ih =>
    rw [List.mapM_cons, List.forall₂_cons_left_iff]
    cases hitem : read item with
    | error fault => simp [bind, Except.bind]
    | ok value =>
      cases hrest : rest.mapM read with
      | error fault => simp [← ih, hrest, bind, Except.bind]
      | ok values => simp [← ih, hrest, bind, Except.bind, pure, Except.pure, eq_comm]

theorem exists_mem_of_forall₂ {α β : Type} {R : α → β → Prop} {items : List α} {values : List β}
    (h : List.Forall₂ R items values) {value : β} (hmem : value ∈ values) :
    ∃ item ∈ items, R item value := by
  induction h with
  | nil => cases hmem
  | cons hfirst _ ih =>
    rcases List.mem_cons.1 hmem with rfl | hrest
    · exact ⟨_, List.mem_cons_self, hfirst⟩
    · obtain ⟨item, hitem, hvalue⟩ := ih hrest
      exact ⟨item, List.mem_cons_of_mem _ hitem, hvalue⟩

variable {α β : Type} {read : Node → Decoded α} {write : α → Json} {least room : Nat}

/-- A value is read back from what is written for it, and that fits the room. -/
structure Kept (read : Node → Decoded α) (write : α → Json) (room : Nat) (value : α) : Prop where
  reads : read (.ofJson (write value)) = .ok value
  plain : (Node.ofJson (write value)).Plain room

/-- Whatever is read from a plain node is kept, in every room from `least` on. -/
def Keeps (least : Nat) (read : Node → Decoded α) (write : α → Json) : Prop :=
  ∀ ⦃room node value⦄, least ≤ room → node.Plain room → read node = .ok value →
    Kept read write room value

theorem Keeps.mono {more : Nat} (h : Keeps least read write) (hle : least ≤ more) :
    Keeps more read write :=
  fun _ _ _ hroom => h (hle.trans hroom)

/-! ## Scalars -/

theorem kept_text (room : Nat) (text : String) : Kept asText .string room text := ⟨rfl, .text⟩

theorem keeps_text : Keeps 0 asText .string := fun room _ value _ _ _ => kept_text room value

theorem kept_flag (room : Nat) (flag : Bool) : Kept asFlag .bool room flag := ⟨rfl, .bool⟩

theorem keeps_flag : Keeps 0 asFlag .bool := fun room _ value _ _ _ => kept_flag room value

theorem keeps_count : Keeps 0 asCount Json.count := by
  intro room node value _ hplain hread
  cases hplain with
  | int least greatest =>
    rename_i number
    rw [asCount] at hread
    split at hread
    · obtain rfl := Except.ok.inj hread
      refine ⟨?_, .int (by omega) (by omega)⟩
      rw [Json.count, Json.int, Node.ofJson, asCount, if_pos (Int.natCast_nonneg _),
        Int.toNat_natCast]
    · cases hread
  | _ => cases hread

theorem kept_double (room : Nat) {value : Double} (h : value.isFinite = true) :
    Kept asDouble .double room value := by
  have hwritten : Json.double value = .number (.double value) := if_pos h
  constructor
  · rw [hwritten]
    rfl
  · rw [hwritten]
    exact .double h

theorem keeps_double : Keeps 0 asDouble .double := by
  intro room node value _ hplain hread
  cases hplain with
  | int least greatest =>
    obtain rfl := Except.ok.inj hread
    exact kept_double room (Double.bounded_ofInt (by omega)).isFinite
  | double finite =>
    obtain rfl := Except.ok.inj hread
    exact kept_double room finite
  | _ => cases hread

/-- **A JSON value is kept** as it is. -/
theorem keeps_json : Keeps 0 Node.json id := by
  intro room node value _ hplain hread
  have hnode := hplain.ofJson_eq_of_json hread
  rw [← hnode] at hplain
  exact ⟨Node.json_ofJson hplain, hplain⟩

/-- A choice is kept when its name is looked up. -/
theorem kept_choice {choices : List (String × α)} {name : α → String}
    (h : ∀ choice, choices.lookup (name choice) = some choice) (room : Nat) (choice : α) :
    Kept (asChoice choices) (fun choice => .string (name choice)) room choice := by
  refine ⟨?_, .text⟩
  show Node.pick choices (name choice) = .ok choice
  rw [Node.pick, h]

theorem keeps_choice {choices : List (String × α)} {name : α → String}
    (h : ∀ choice, choices.lookup (name choice) = some choice) :
    Keeps 0 (asChoice choices) fun choice => .string (name choice) :=
  fun room _ choice _ _ _ => kept_choice h room choice

/-! ## Options -/

theorem kept_none (room : Nat) : Kept (asOption read) (.ofOption write) room none := ⟨rfl, .null⟩

/-- A value that is kept and is not written as a null is kept where it is optional. -/
theorem Kept.some {value : α} (h : Kept read write room value) (hnull : write value ≠ .null) :
    Kept (asOption read) (.ofOption write) room (some value) := by
  refine ⟨?_, h.plain⟩
  have hsome : (Node.ofJson (write value)).isNothing = false := by
    cases heq : write value with
    | null => exact absurd heq hnull
    | array items => rw [Node.ofJson_array]; rfl
    | object members => rw [Node.ofJson_object]; rfl
    | _ => rfl
  rw [Json.ofOption, asOption, hsome, h.reads]
  rfl

/-- **An option of what is kept is kept**, if the reader takes no null. -/
theorem Keeps.option (h : Keeps least read write) (hnull : ∃ fault, read .null = .error fault) :
    Keeps least (asOption read) (.ofOption write) := by
  intro room node value hroom hplain hread
  rw [asOption] at hread
  split at hread
  · obtain rfl := Except.ok.inj hread
    exact kept_none room
  · obtain ⟨value, hvalue, rfl⟩ := Decoded.map_eq_ok_iff.1 hread
    have hkept := h hroom hplain hvalue
    refine hkept.some fun hwritten => ?_
    obtain ⟨fault, hfault⟩ := hnull
    have hreads := hkept.reads
    rw [hwritten, Node.ofJson, hfault] at hreads
    cases hreads

/-- An optional JSON value is kept: a null counts as none. -/
theorem keeps_optionJson : Keeps 0 (asOption Node.json) (.ofOption id) := by
  intro room node value hroom hplain hread
  rw [asOption] at hread
  split at hread
  · obtain rfl := Except.ok.inj hread
    exact kept_none room
  · rename_i hsome
    obtain ⟨value, hvalue, rfl⟩ := Decoded.map_eq_ok_iff.1 hread
    refine (keeps_json hroom hplain hvalue).some fun hnull => hsome ?_
    rw [← hplain.ofJson_eq_of_json hvalue, show value = .null from hnull]
    rfl

/-! ## Lists -/

/-- The items of a list that was read from a plain node. -/
theorem asList_eq_ok {node : Node} {values : List α} (hplain : node.Plain room)
    (h : node.asList read = .ok values) : ∃ items, node = .sequence items ∧
      List.Forall₂ (fun item value => read item = .ok value) items values := by
  rw [asList, hplain.content_eq] at h
  cases hplain with
  | @sequence room items _ => exact ⟨items, rfl, mapM_eq_ok_iff.1 h⟩
  | _ => cases h

theorem kept_list {values : List α} (h : ∀ value ∈ values, Kept read write room value) :
    Kept (asList read) (.ofList write) (room + 1) values := by
  constructor
  case reads =>
    rw [Json.ofList, Node.ofJson_array]
    refine mapM_eq_ok_iff.2 ?_
    rw [List.map_map, List.forall₂_map_left_iff, List.forall₂_same]
    exact fun value hmem => (h value hmem).reads
  case plain =>
    refine Node.plain_ofJson_array fun item hmem => ?_
    obtain ⟨value, hvalue, rfl⟩ := List.mem_map.1 hmem
    exact (h value hvalue).plain

@[simp] theorem strings_eq_ofList : Json.strings = .ofList .string := rfl

/-- **A list of what is kept is kept.** -/
theorem Keeps.list (h : Keeps (least - 1) read write) :
    Keeps least (asList read) (.ofList write) := by
  intro room node values hroom hplain hread
  obtain ⟨items, rfl, hvalues⟩ := asList_eq_ok hplain hread
  cases hplain with
  | @sequence room _ hitems =>
    refine kept_list fun value hmem => ?_
    obtain ⟨item, hitem, hvalue⟩ := exists_mem_of_forall₂ hvalues hmem
    exact h (by omega) (hitems item hitem) hvalue

/-! ## Maps -/

/-- What one entry of a map is read to. -/
def ReadsEntry (read : Node → Decoded α) (entry : Node × Node) (value : String × α) : Prop :=
  entry.1 = .text value.1 ∧ read entry.2 = .ok value.2

theorem keyTexts_of_forall₂ {entries : List (Node × Node)} {values : List (String × α)}
    (h : List.Forall₂ (ReadsEntry read) entries values) :
    Node.keyTexts entries = values.map Prod.fst := by
  induction h with
  | nil => rfl
  | cons hfirst _ ih =>
    rw [List.map_cons, ← ih, Node.keyTexts, List.filterMap_cons, hfirst.1]
    rfl

theorem readEntry_eq_ok_iff {entry : Node × Node} {value : String × α}
    (hkey : Node.IsKey entry.1) :
    (do return (← entry.1.asText, ← read entry.2) : Decoded (String × α)) = .ok value ↔
      ReadsEntry read entry value := by
  obtain ⟨key, node⟩ := entry
  obtain ⟨name, x⟩ := value
  cases hkey with
  | @text other =>
    cases hread : read node with
    | error fault => simp [ReadsEntry, hread, asText, bind, Except.bind]
    | ok y => simp [ReadsEntry, hread, asText, bind, Except.bind, pure, Except.pure]
  | unreadable => simp [ReadsEntry, asText, bind, Except.bind]
  | broken => simp [ReadsEntry, asText, bind, Except.bind]

/-- The entries of a mapping are read one by one. -/
theorem asEntries_eq_ok_iff {entries : List (Node × Node)} {values : List (String × α)}
    (hkeys : ∀ entry ∈ entries, Node.IsKey entry.1) :
    (Node.mapping entries).asEntries read = .ok values ↔
      List.Forall₂ (ReadsEntry read) entries values := by
  refine mapM_eq_ok_iff.trans ⟨fun h => ?_, fun h => ?_⟩
  all_goals
    have hboth := (List.forall₂_and_left entries values).2 ⟨hkeys, h⟩
    refine hboth.imp fun entry value ⟨hkey, hentry⟩ => ?_
  · exact (readEntry_eq_ok_iff hkey).1 hentry
  · exact (readEntry_eq_ok_iff hkey).2 hentry

/-- The entries of a map that was read from a plain node. -/
theorem asDict_eq_ok {node : Node} {d : Dict α} (hplain : node.Plain room)
    (h : node.asDict read = .ok d) : ∃ entries, node = .mapping entries ∧
      List.Forall₂ (ReadsEntry read) entries d.entries := by
  obtain ⟨values, hvalues, rfl⟩ := Decoded.map_eq_ok_iff.1 h
  rw [asEntries, hplain.content_eq] at hvalues
  cases hplain with
  | @mapping room entries hkeys hnodup _ =>
    have hread := (asEntries_eq_ok_iff hkeys).1 hvalues
    rw [keyTexts_of_forall₂ hread] at hnodup
    refine ⟨entries, rfl, ?_⟩
    rwa [Dict.entries_ofEntries hnodup]
  | _ => cases hvalues

theorem kept_dict {d : Dict α} (h : ∀ entry ∈ d.entries, Kept read write room entry.2) :
    Kept (asDict read) (.ofDict write) (room + 1) d := by
  constructor
  case reads =>
    have hentries : (Node.ofJson (.ofDict write d)).asEntries read = .ok d.entries := by
      rw [Json.ofDict, Node.ofJson_object, List.map_map, asEntries_eq_ok_iff]
      · rw [List.forall₂_map_left_iff, List.forall₂_same]
        exact fun entry hmem => ⟨rfl, (h entry hmem).reads⟩
      · exact List.forall_mem_map.2 fun _ _ => .text
    rw [asDict, hentries]
    exact congrArg Except.ok (Dict.ext (Dict.entries_ofEntries d.distinct))
  case plain =>
    refine Node.plain_ofJson_object ?_ ?_
    · rw [List.map_map]
      exact d.distinct
    · intro entry hmem
      obtain ⟨source, hsource, rfl⟩ := List.mem_map.1 hmem
      exact (h source hsource).plain

/-- **A map to what is kept is kept**, with its entries in their order. -/
theorem Keeps.dict (h : Keeps (least - 1) read write) :
    Keeps least (asDict read) (.ofDict write) := by
  intro room node d hroom hplain hread
  obtain ⟨entries, rfl, hentries⟩ := asDict_eq_ok hplain hread
  cases hplain with
  | @mapping room _ _ _ hvalues =>
    refine kept_dict fun value hmem => ?_
    obtain ⟨entry, hentry, _, hvalue⟩ := exists_mem_of_forall₂ hentries hmem
    exact h (by omega) (hvalues entry hentry) hvalue

/-- The entries of a map are kept in its place. -/
theorem Keeps.entries (h : Keeps (least - 1) read write) :
    Keeps least (fun node => Dict.entries <$> node.asDict read)
      fun entries => .object (entries.map fun entry => (entry.1, write entry.2)) := by
  intro room node entries hroom hplain hread
  obtain ⟨d, hd, rfl⟩ := Decoded.map_eq_ok_iff.1 hread
  have hkept := h.dict hroom hplain hd
  exact ⟨Decoded.map_eq_ok_iff.2 ⟨d, hkept.reads, rfl⟩, hkept.plain⟩

/-! ## References -/

variable {path : String}

theorem asText_ofJson_eq_ok_iff {value : Json} :
    asText (.ofJson value) = .ok path ↔ value = .string path := by
  cases value with
  | string text => exact ⟨fun h => by rw [Except.ok.inj h], fun h => by cases h; rfl⟩
  | array items => simp [asText]
  | object members => simp [asText]
  | _ => simp [Node.ofJson, asText]

theorem find?_referenceRecord {name : String} (h : name ≠ "$ref") :
    referenceRecord.find? (.name name) = none :=
  List.find?_eq_none.2 fun m hm => by
    rw [List.mem_singleton.1 hm]
    simpa [Member.required] using Ne.symm h

/-- An entry with another key is skipped. -/
theorem readEntries_reference_of_ne {name : String} (h : name ≠ "$ref") (value : Json)
    (rest : List (Node × Node)) (seen : List String) (start : String) :
    referenceRecord.readEntries (namedEntry (name, value) :: rest) seen start
      = referenceRecord.readEntries rest seen start := by
  rw [namedEntry, Record.readEntries]
  dsimp only [Node.asMemberKey, bind, Except.bind]
  rw [find?_referenceRecord h]
  rfl

/-- Behind the path, entries with other keys change nothing. -/
theorem readEntries_reference_seen {members : List (String × Json)}
    (h : "$ref" ∉ members.map Prod.fst) (start : String) :
    referenceRecord.readEntries (members.map namedEntry) ["$ref"] start = .ok start := by
  induction members with
  | nil => rfl
  | cons entry rest ih =>
    rw [List.map_cons, List.mem_cons, not_or] at h
    rw [List.map_cons, readEntries_reference_of_ne (Ne.symm h.1)]
    exact ih h.2

/-- An object is read as a reference exactly when it has a path under its key. -/
theorem readEntries_reference_eq_ok_iff {members : List (String × Json)}
    (hnodup : (members.map Prod.fst).Nodup) (start : String) :
    referenceRecord.readEntries (members.map namedEntry) [] start = .ok path ↔
      ("$ref", .string path) ∈ members := by
  induction members with
  | nil => exact ⟨fun h => (by cases h), fun h => (by cases h)⟩
  | cons entry rest ih =>
    obtain ⟨name, value⟩ := entry
    obtain ⟨hnew, hrest⟩ := List.nodup_cons.1 hnodup
    by_cases hname : name = "$ref"
    · subst hname
      have hother : ("$ref", Json.string path) ∉ rest := fun hmem =>
        hnew (List.mem_map.2 ⟨_, hmem, rfl⟩)
      have hread : referenceRecord.readEntries (("$ref", value) :: rest |>.map namedEntry) [] start
          = asText (.ofJson value) := by
        rw [List.map_cons, namedEntry, Record.readEntries]
        have hfind : referenceRecord.find? (.name "$ref")
            = some (.required "$ref" asText fun path _ => path) := rfl
        dsimp only [Node.asMemberKey, bind, Except.bind]
        rw [hfind]
        dsimp only [Member.required, bind, Except.bind]
        cases asText (.ofJson value) with
        | error fault => rfl
        | ok text => exact readEntries_reference_seen hnew text
      rw [hread, asText_ofJson_eq_ok_iff, List.mem_cons, or_iff_left hother]
      simp [eq_comm]
    · have hhead : ("$ref", Json.string path) ≠ (name, value) := fun heq =>
        hname (congrArg Prod.fst heq).symm
      rw [List.map_cons, readEntries_reference_of_ne hname, ih hrest, List.mem_cons,
        or_iff_right hhead]

theorem namedEntry_mem_map_iff {name : String} {members : List (String × Json)} :
    namedEntry (name, .string path) ∈ members.map namedEntry ↔ (name, .string path) ∈ members := by
  refine ⟨fun h => ?_, fun h => List.mem_map_of_mem h⟩
  obtain ⟨⟨other, value⟩, hmem, heq⟩ := List.mem_map.1 h
  obtain ⟨hname, hvalue⟩ := Prod.mk.inj heq
  dsimp only at hname hvalue
  obtain rfl := Node.text.inj hname
  rwa [asText_ofJson_eq_ok_iff.1 (congrArg asText hvalue)] at hmem

/-- A node that is an object is a reference exactly when it has a path under its key. -/
theorem referencePath?_eq_some_iff {members : List (String × Json)}
    (hnodup : (members.map Prod.fst).Nodup) :
    (Node.ofJson (.object members)).referencePath? = some path ↔
      namedEntry ("$ref", .string path) ∈ members.map namedEntry := by
  rw [namedEntry_mem_map_iff, ← readEntries_reference_eq_ok_iff hnodup "", Node.ofJson_object,
    Node.referencePath?]
  cases referenceRecord.readEntries (members.map namedEntry) [] "" <;> simp [Except.toOption]

/-- Only an object is a reference. -/
theorem exists_object_of_referencePath? {value : Json}
    (h : (Node.ofJson value).referencePath? = some path) : ∃ members, value = .object members := by
  cases value with
  | object members => exact ⟨members, rfl⟩
  | array items =>
    rw [Node.ofJson_array] at h
    cases h
  | _ => cases h

/-- A reference is kept where a collection fits. -/
theorem kept_reference (read : Node → Decoded α) (write : α → Json) (room : Nat) (path : String) :
    Kept (readReferable read) (Referable.toJson write) (room + 1) (.reference path) := by
  have hnodup : ([("$ref", Json.string path)].map Prod.fst).Nodup := by simp
  have hpath := (referencePath?_eq_some_iff hnodup).2 (List.mem_singleton_self _)
  constructor
  case reads =>
    rw [Referable.toJson, referenceJson, readReferable, Node.typed_ofJson]
    dsimp only [bind, Except.bind]
    rw [hpath]
    rfl
  case plain =>
    refine Node.plain_ofJson_object hnodup fun entry hmem => ?_
    rw [List.mem_singleton.1 hmem]
    exact .text

/-- An object that stands in the place of a reference is kept if it is not taken for one. -/
theorem Kept.inline {v : α} (h : Kept read write room v)
    (hpath : (Node.ofJson (write v)).referencePath? = none) :
    Kept (readReferable read) (Referable.toJson write) room (.inline v) := by
  refine ⟨?_, h.plain⟩
  rw [Referable.toJson, readReferable, Node.typed_ofJson]
  dsimp only [bind, Except.bind]
  rw [hpath, h.reads]
  rfl

/-- A node that may be a reference is the node of a JSON value. -/
theorem exists_ofJson_of_readReferable {node : Node} {value : Referable α}
    (hplain : node.Plain room) (h : readReferable read node = .ok value) :
    ∃ source, node = .ofJson source := by
  obtain ⟨typed, htyped, -⟩ := Decoded.bind_eq_ok_iff.1 h
  exact hplain.exists_ofJson htyped

/-- It is a reference, or the object that is read. -/
theorem readReferable_ofJson_eq_ok {source : Json} {value : Referable α}
    (h : readReferable read (.ofJson source) = .ok value) :
    (∃ path, value = .reference path ∧ (Node.ofJson source).referencePath? = some path)
      ∨ ∃ v, value = .inline v ∧ (Node.ofJson source).referencePath? = none
        ∧ read (.ofJson source) = .ok v := by
  rw [readReferable, Node.typed_ofJson] at h
  dsimp only [bind, Except.bind, pure, Except.pure] at h
  cases hpath : (Node.ofJson source).referencePath? with
  | some path =>
    rw [hpath] at h
    exact Or.inl ⟨path, (Except.ok.inj h).symm, rfl⟩
  | none =>
    rw [hpath] at h
    dsimp only at h
    split at h
    · rename_i v hv
      exact Or.inr ⟨v, (Except.ok.inj h).symm, rfl, hv⟩
    · cases h

end OpenApi
