import Mathlib.Data.List.Pairwise
import OpenApi.Proofs.Kept

/-!
# Records that are read and written by one table

A record is read member by member, in whatever order the text has them, and written by going
through its fields in their order. A table of the fields, each with its reader and its writer, the
value that it has when it is missing, and the laws of getting and setting it, is enough to know
that the record reads back what it writes. An open record keeps the entries that no field knows
behind its fields.

## Main definitions

* `Record.Field`: a member of a record with the way it is written.
* `Record.Extras`: where an open record keeps the entries that no member knows.
* `Record.Layout`: the table of a record.

## Main statements

* `Layout.keeps`: a record with a layout is kept.
* `Layout.keeps_referable`: so is a reference to it, or the record in its place.
-/
namespace OpenApi

open Node (asText asOption asList asDict namedEntry)

namespace Record

/-! ## Fields -/

/-- A member of a record with the way it is written. A value may be left out when it is the one that
the blank record has, and the blank value of any other field is kept itself. -/
structure Field {α : Type} (blank : α) (least : Nat) where
  {Value : Type}
  name : String
  presence : Presence
  read : Node → Decoded Value
  write : Value → Json
  /-- Whether a value is left out. -/
  omits : Value → Bool
  get : α → Value
  set : Value → α → α
  get_set : ∀ x v, get (set x v) = x
  set_get : ∀ v, set (get v) v = v
  keeps : Keeps least read write
  eq_of_omits : ∀ x, omits x = true → x = get blank
  not_required : ∀ x, omits x = true → presence ≠ .required
  blank_kept : omits (get blank) = true ∨ ∀ room, least ≤ room → Kept read write room (get blank)

/-- Where an open record keeps the entries that no member knows. -/
structure Extras (α : Type) where
  get : α → Dict Json
  set : Dict Json → α → α
  get_set : ∀ d v, get (set d v) = d := by intros; rfl
  set_set : ∀ d e v, set d (set e v) = set d v := by intros; rfl
  set_get : ∀ v, set (get v) v = v := by intro v; cases v; rfl

section Field

variable {α : Type} {blank : α} {least : Nat}

namespace Field

/-- The field as a member to be read. -/
def member (f : Field blank least) : Member α :=
  ⟨f.name, f.presence, fun node v => return f.set (← f.read node) v⟩

/-- What is written for a field. -/
def written (f : Field blank least) (v : α) : List (String × Json) :=
  if f.omits (f.get v) then [] else [(f.name, f.write (f.get v))]

/-- The second record with the field of the first. -/
def copy (v : α) (f : Field blank least) (into : α) : α := f.set (f.get v) into

/-- Neither of two fields is changed by setting the other. -/
structure Apart (f g : Field blank least) : Prop where
  left : ∀ x v, f.get (g.set x v) = f.get v
  right : ∀ x v, g.get (f.set x v) = g.get v

instance : Std.Symm (Field.Apart : Field blank least → Field blank least → Prop) :=
  ⟨fun _ _ h => ⟨h.right, h.left⟩⟩

/-- A field is apart from the entries that no member knows. -/
structure ApartFrom (f : Field blank least) (extras : Extras α) : Prop where
  field : ∀ d v, f.get (extras.set d v) = f.get v
  extras : ∀ x v, extras.get (f.set x v) = extras.get v

/-- A field can be written so that it is read back: it is left out, or kept. -/
def Holds (room : Nat) (v : α) (f : Field blank least) : Prop :=
  f.omits (f.get v) = true ∨ Kept f.read f.write room (f.get v)

/-! ### Kinds of fields -/

/-- A member that is none when it is missing or null, and is left out when it is none. -/
def optionalWith {β : Type} (name : String) {lower : Nat} {read : Node → Decoded β}
    {write : β → Json} (keeps : Keeps lower (asOption read) (.ofOption write))
    (get : α → Option β) (set : Option β → α → α)
    (get_set : ∀ x v, get (set x v) = x := by intros; rfl)
    (set_get : ∀ v, set (get v) v = v := by intro v; cases v; rfl)
    (get_blank : get blank = none := by exact id rfl)
    (lower_le : lower ≤ least := by decide) : Field blank least where
  name := name
  presence := .optional
  read := asOption read
  write := .ofOption write
  omits := Option.isNone
  get := get
  set := set
  get_set := get_set
  set_get := set_get
  keeps := keeps.mono lower_le
  eq_of_omits x h := by rw [get_blank, Option.isNone_iff_eq_none.1 h]
  not_required _ _ := by decide
  blank_kept := Or.inl (by rw [get_blank]; rfl)

/-- An optional member whose reader takes no null. -/
abbrev optional {β : Type} (name : String) {lower : Nat} {read : Node → Decoded β}
    {write : β → Json} (keeps : Keeps lower read write)
    (get : α → Option β) (set : Option β → α → α)
    (hnull : ∃ fault, read .null = .error fault := by exact ⟨_, rfl⟩)
    (get_set : ∀ x v, get (set x v) = x := by intros; rfl)
    (set_get : ∀ v, set (get v) v = v := by intro v; cases v; rfl)
    (get_blank : get blank = none := by exact id rfl)
    (lower_le : lower ≤ least := by decide) : Field blank least :=
  optionalWith name (keeps.option hnull) get set get_set set_get get_blank lower_le

/-- A list member that is left out when it is empty. -/
def listed {β : Type} (name : String) {lower : Nat} {read : Node → Decoded β}
    {write : β → Json} (keeps : Keeps lower read write)
    (get : α → List β) (set : List β → α → α)
    (get_set : ∀ x v, get (set x v) = x := by intros; rfl)
    (set_get : ∀ v, set (get v) v = v := by intro v; cases v; rfl)
    (get_blank : get blank = [] := by exact id rfl)
    (lower_le : lower ≤ least - 1 := by decide) : Field blank least where
  name := name
  presence := .defaulted
  read := asList read
  write := .ofList write
  omits := List.isEmpty
  get := get
  set := set
  get_set := get_set
  set_get := set_get
  keeps := (keeps.mono lower_le).list
  eq_of_omits x h := by rw [get_blank, List.isEmpty_iff.1 h]
  not_required _ _ := by decide
  blank_kept := Or.inl (by rw [get_blank]; rfl)

/-- A map member that is left out when it is empty. -/
def mappedWith {β : Type} (name : String) {lower : Nat} {read : Node → Decoded (Dict β)}
    {write : β → Json} (keeps : Keeps lower read (.ofDict write))
    (get : α → Dict β) (set : Dict β → α → α)
    (get_set : ∀ x v, get (set x v) = x := by intros; rfl)
    (set_get : ∀ v, set (get v) v = v := by intro v; cases v; rfl)
    (get_blank : get blank = ∅ := by exact id rfl)
    (lower_le : lower ≤ least := by decide) : Field blank least where
  name := name
  presence := .defaulted
  read := read
  write := .ofDict write
  omits := Dict.isEmpty
  get := get
  set := set
  get_set := get_set
  set_get := set_get
  keeps := keeps.mono lower_le
  eq_of_omits x h := by rw [get_blank]; exact Dict.ext (List.isEmpty_iff.1 h)
  not_required _ _ := by decide
  blank_kept := Or.inl (by rw [get_blank]; rfl)

/-- A map member that is read entry by entry. -/
abbrev mapped {β : Type} (name : String) {lower : Nat} {read : Node → Decoded β}
    {write : β → Json} (keeps : Keeps lower read write)
    (get : α → Dict β) (set : Dict β → α → α)
    (get_set : ∀ x v, get (set x v) = x := by intros; rfl)
    (set_get : ∀ v, set (get v) v = v := by intro v; cases v; rfl)
    (get_blank : get blank = ∅ := by exact id rfl)
    (lower_le : lower ≤ least - 1 := by decide) : Field blank least :=
  mappedWith name (keeps.mono lower_le).dict get set get_set set_get get_blank le_rfl

/-- A member that is always written. -/
def always {β : Type} (name : String) (presence : Presence) {lower : Nat}
    {read : Node → Decoded β} {write : β → Json} (keeps : Keeps lower read write)
    (get : α → β) (set : β → α → α)
    (blank_kept : ∀ room, least ≤ room → Kept read write room (get blank))
    (get_set : ∀ x v, get (set x v) = x := by intros; rfl)
    (set_get : ∀ v, set (get v) v = v := by intro v; cases v; rfl)
    (lower_le : lower ≤ least := by decide) : Field blank least where
  name := name
  presence := presence
  read := read
  write := write
  omits _ := false
  get := get
  set := set
  get_set := get_set
  set_get := set_get
  keeps := keeps.mono lower_le
  eq_of_omits _ h := by cases h
  not_required _ h := by cases h
  blank_kept := Or.inr blank_kept

end Field

/-! ### What is written for a field -/

variable {β : Type} {name : String} {lower : Nat} {readOne : Node → Decoded β} {writeOne : β → Json}
  {v : α}

@[simp] theorem Field.written_optionalWith
    {keeps : Keeps lower (asOption readOne) (.ofOption writeOne)} {get : α → Option β}
    {set : Option β → α → α} {h₁ h₂ h₃ h₄} :
    (optionalWith name keeps get set h₁ h₂ h₃ h₄ : Field blank least).written v
      = Json.memberIf name writeOne (get v) := by
  show (if (get v).isNone then [] else [(name, Json.ofOption writeOne (get v))]) = _
  cases get v <;> rfl

@[simp] theorem Field.written_listed {keeps : Keeps lower readOne writeOne}
    {get : α → List β} {set : List β → α → α} {h₁ h₂ h₃ h₄} :
    (listed name keeps get set h₁ h₂ h₃ h₄ : Field blank least).written v
      = Json.memberUnlessNil name (.ofList writeOne) (get v) := by
  show (if (get v).isEmpty then [] else [(name, Json.ofList writeOne (get v))]) = _
  cases get v <;> rfl

@[simp] theorem Field.written_mappedWith {readMap : Node → Decoded (Dict β)}
    {keeps : Keeps lower readMap (.ofDict writeOne)} {get : α → Dict β} {set : Dict β → α → α}
    {h₁ h₂ h₃ h₄} :
    (mappedWith name keeps get set h₁ h₂ h₃ h₄ : Field blank least).written v
      = Json.memberUnlessEmpty name writeOne (get v) := rfl

@[simp] theorem Field.written_always {presence : Presence} {keeps : Keeps lower readOne writeOne}
    {get : α → β} {set : β → α → α} {h₁ h₂ h₃ h₄} :
    (always name presence keeps get set h₁ h₂ h₃ h₄ : Field blank least).written v
      = Json.member name (writeOne (get v)) := rfl

end Field

/-! ## Layouts -/

section Layout

variable {α : Type}

namespace Extras

/-- What becomes of an entry that no member knows. -/
def keep (extras : Extras α) (name : String) (value : Json) (v : α) : α :=
  extras.set ((extras.get v).insert name value) v

end Extras

/-- The entries that an open record keeps; none in another. -/
def extraEntries (extras : Option (Extras α)) (v : α) : List (String × Json) :=
  match extras with
  | some extras => (extras.get v).entries
  | none => []

@[simp] theorem extraEntries_none (v : α) : extraEntries none v = [] := rfl

@[simp] theorem extraEntries_some (extras : Extras α) (v : α) :
    extraEntries (some extras) v = (extras.get v).entries := rfl

/-- The second record with the extra entries of the first. -/
def copyExtras (extras : Option (Extras α)) (v into : α) : α :=
  match extras with
  | some extras => extras.set (extras.get v) into
  | none => into

/-- A table of the fields of a record in the order in which they are written. Setting a field
changes no other, and the fields together make up the record. For a record whose fields are listed
outright the laws hold by computation. -/
structure Layout (record : Record α) (write : α → Json) (least : Nat) where
  fields : List (Field record.blank (least - 1))
  extras : Option (Extras α) := none
  members_eq : record.members = fields.map Field.member := by rfl
  keep_eq : record.keep = extras.map Extras.keep := by rfl
  write_eq : ∀ v, write v = .object (fields.flatMap (·.written v) ++ extraEntries extras v) := by
    intro v
    refine congrArg Json.object ?_
    simp
  nodup_names : (fields.map Field.name).Nodup := by exact of_decide_eq_true rfl
  apart : fields.Pairwise Field.Apart := by
    repeat' first
      | exact .nil
      | exact List.forall_mem_nil _
      | exact ⟨fun _ _ => rfl, fun _ _ => rfl⟩
      | refine .cons ?_ ?_
      | refine List.forall_mem_cons.2 ⟨?_, ?_⟩
  apart_extras : ∀ e ∈ extras, ∀ f ∈ fields, f.ApartFrom e := by
    intro e he
    cases he
    repeat' first
      | exact List.forall_mem_nil _
      | refine List.forall_mem_cons.2 ⟨⟨fun _ _ => rfl, fun _ _ => rfl⟩, ?_⟩
  blank_extras : extraEntries extras record.blank = [] := by rfl
  ext : ∀ v w, (∀ f ∈ fields, f.get v = f.get w) → (∀ e ∈ extras, e.get v = e.get w) → v = w := by
    rintro ⟨⟩ ⟨⟩ hfields hextras
    repeat
      obtain ⟨hfirst, hrest⟩ := List.forall_mem_cons.1 hfields
      cases hfirst
      clear hfields
      rename' hrest => hfields
    first
      | rfl
      | cases hextras _ rfl
        rfl

namespace Layout

variable {record : Record α} {write : α → Json} {least : Nat} (layout : record.Layout write least)

/-- The names of the fields. -/
def names : List String := layout.fields.map Field.name

/-! ### Looking up members -/

theorem find?_map_member {blank : α} {least : Nat} {fields : List (Field blank least)}
    (hnodup : (fields.map Field.name).Nodup) {f : Field blank least} (hf : f ∈ fields) :
    (fields.map Field.member).find? (·.name == f.name) = some f.member := by
  induction fields with
  | nil => cases hf
  | cons g rest ih =>
    obtain ⟨hnew, hrest⟩ := List.nodup_cons.1 hnodup
    rw [List.map_cons, List.find?_cons]
    rcases List.mem_cons.1 hf with rfl | hf
    · have hself : (f.member.name == f.name) = true := beq_self_eq_true f.name
      rw [hself]
    · have hother : (g.member.name == f.name) = false :=
        beq_eq_false_iff_ne.2 fun heq : g.name = f.name =>
          hnew (heq ▸ List.mem_map_of_mem hf)
      rw [hother]
      exact ih hrest hf

theorem find?_field {f : Field record.blank (least - 1)} (hf : f ∈ layout.fields) :
    record.find? (.name f.name) = some f.member := by
  rw [Record.find?, layout.members_eq]
  exact find?_map_member layout.nodup_names hf

theorem exists_field_of_find? {name : String} {m : Member α}
    (h : record.find? (.name name) = some m) :
    ∃ f ∈ layout.fields, f.name = name ∧ f.member = m := by
  rw [Record.find?, layout.members_eq] at h
  obtain ⟨f, hf, hmember⟩ := List.mem_map.1 (List.mem_of_find?_eq_some h)
  have hname := List.find?_some h
  rw [← hmember] at hname
  exact ⟨f, hf, by simpa [Field.member] using hname, hmember⟩

theorem find?_eq_none_iff {name : String} :
    record.find? (.name name) = none ↔ name ∉ layout.names := by
  rw [Record.find?, layout.members_eq, List.find?_eq_none, names, List.mem_map]
  simp [Field.member]

/-! ### Reading -/

/-- Every field can be written so that it is read back, and the extra entries are entries of the
source whose key is no field. -/
structure Holds (room : Nat) (source : List (Node × Node)) (v : α) : Prop where
  fields : ∀ f ∈ layout.fields, f.Holds room v
  extras : ∀ entry ∈ extraEntries layout.extras v,
    entry.1 ∉ layout.names ∧ namedEntry entry ∈ source

variable {layout} {room : Nat} {source : List (Node × Node)} {v w : α}

theorem holds_blank (hroom : least - 1 ≤ room) : layout.Holds room source record.blank where
  fields f _ := f.blank_kept.imp_right fun h => h room hroom
  extras entry hmem := by
    rw [layout.blank_extras] at hmem
    cases hmem

/-- A field that is set to what is kept can be written, and the others can as before. -/
theorem Holds.set (h : layout.Holds room source v) {f : Field record.blank (least - 1)}
    (hf : f ∈ layout.fields) {x : f.Value} (hx : Kept f.read f.write room x) :
    layout.Holds room source (f.set x v) where
  fields g hg := by
    by_cases heq : f = g
    · subst heq
      rw [Field.Holds, f.get_set]
      exact Or.inr hx
    · have hapart : Field.Apart f g :=
        layout.apart.forall hf hg heq
      rw [Field.Holds, hapart.right]
      exact h.fields g hg
  extras entry hmem := by
    refine h.extras entry ?_
    cases hextras : layout.extras with
    | none =>
      rw [hextras] at hmem
      cases hmem
    | some e =>
      rw [hextras, extraEntries, (layout.apart_extras e hextras f hf).extras] at hmem
      exact hmem

/-- An entry that is kept is one of the source. -/
theorem Holds.keep (h : layout.Holds room source v) {e : Extras α} (he : layout.extras = some e)
    {name : String} (hname : name ∉ layout.names) {value : Json}
    (hsource : namedEntry (name, value) ∈ source) :
    layout.Holds room source (e.keep name value v) where
  fields f hf := by
    rw [Field.Holds, Extras.keep, (layout.apart_extras e he f hf).field]
    exact h.fields f hf
  extras entry hmem := by
    have hold := h.extras
    rw [he, extraEntries] at hmem hold
    rw [Extras.keep, e.get_set] at hmem
    rcases mem_of_mem_upsert hmem with rfl | hmem
    · exact ⟨hname, hsource⟩
    · exact hold entry hmem

/-- **Reading entries keeps every field writable.** -/
theorem holds_of_readEntries (hroom : least - 1 ≤ room)
    (hkeys : ∀ entry ∈ source, Node.IsKey entry.1) (hvalues : ∀ entry ∈ source, entry.2.Plain room)
    {entries : List (Node × Node)} (hsub : entries ⊆ source) {seen : List String}
    (hv : layout.Holds room source v) (h : record.readEntries entries seen v = .ok w) :
    layout.Holds room source w := by
  induction entries generalizing seen v with
  | nil =>
    rw [Record.readEntries] at h
    split at h
    · obtain rfl := Except.ok.inj h
      exact hv
    · cases h
  | cons entry rest ih =>
    obtain ⟨key, node⟩ := entry
    have hentry : (key, node) ∈ source := hsub List.mem_cons_self
    have hrest : rest ⊆ source := fun other hmem => hsub (List.mem_cons_of_mem _ hmem)
    have hnode : node.Plain room := hvalues _ hentry
    rw [Record.readEntries] at h
    cases hkeys _ hentry with
    | @text name =>
      dsimp only [Node.asMemberKey, bind, Except.bind] at h
      split at h
      · rename_i m hfind
        split at h
        · cases h
        · obtain ⟨f, hf, hname, rfl⟩ := layout.exists_field_of_find? hfind
          obtain ⟨next, hnext, h⟩ := Decoded.bind_eq_ok_iff.1 h
          obtain ⟨x, hread, hset⟩ := Decoded.bind_eq_ok_iff.1 hnext
          obtain rfl := Except.ok.inj hset
          exact ih hrest (hv.set hf (f.keeps hroom hnode hread)) h
      · rename_i hfind
        rw [Record.takeOther, layout.keep_eq] at h
        cases hextras : layout.extras with
        | none =>
          rw [hextras] at h
          exact ih hrest hv h
        | some e =>
          rw [hextras] at h
          obtain ⟨next, hnext, h⟩ := Decoded.bind_eq_ok_iff.1 h
          obtain ⟨value, hjson, hkeep⟩ := Decoded.bind_eq_ok_iff.1 hnext
          obtain rfl := Except.ok.inj hkeep
          refine ih hrest (hv.keep hextras (layout.find?_eq_none_iff.1 hfind) ?_) h
          rwa [namedEntry, hnode.ofJson_eq_of_json hjson]
    | unreadable => cases h
    | broken => cases h

/-- Reading a sequence keeps every field writable. -/
theorem holds_of_readItems (hroom : least - 1 ≤ room)
    {fields : List (Field record.blank (least - 1))} (hfields : fields ⊆ layout.fields)
    {nodes : List Node} (hnodes : ∀ node ∈ nodes, node.Plain room)
    (hv : layout.Holds room source v)
    (h : Record.readItems (fields.map Field.member) nodes v = .ok w) :
    layout.Holds room source w := by
  induction fields generalizing nodes v with
  | nil =>
    cases nodes with
    | nil =>
      obtain rfl := Except.ok.inj h
      exact hv
    | cons node nodes => cases h
  | cons f rest ih =>
    have hf : f ∈ layout.fields := hfields List.mem_cons_self
    have hrest : rest ⊆ layout.fields := fun g hg => hfields (List.mem_cons_of_mem _ hg)
    cases nodes with
    | nil =>
      rw [List.map_cons, Record.readItems] at h
      split at h
      · obtain rfl := Except.ok.inj h
        exact hv
      · cases h
    | cons node nodes =>
      obtain ⟨hnode, hnodes⟩ := List.forall_mem_cons.1 hnodes
      rw [List.map_cons, Record.readItems] at h
      obtain ⟨next, hnext, h⟩ := Decoded.bind_eq_ok_iff.1 h
      obtain ⟨x, hread, hset⟩ := Decoded.bind_eq_ok_iff.1 hnext
      obtain rfl := Except.ok.inj hset
      exact ih hrest hnodes (hv.set hf (f.keeps hroom hnode hread)) h

/-- **A record that was read from a plain node** can be written, and its extra entries are entries
of that node. -/
theorem holds_of_read (layout : record.Layout write least) {node : Node} (hroom : least ≤ room)
    (hplain : node.Plain room) (h : record.read node = .ok v) :
    ∃ inner source, room = inner + 1 ∧ (node = .mapping source ∨ source = [])
      ∧ (∀ entry ∈ source, entry.2.Plain inner) ∧ layout.Holds inner source v := by
  cases hplain with
  | @mapping inner entries hkeys _ hvalues =>
    exact ⟨inner, entries, rfl, Or.inl rfl, hvalues, holds_of_readEntries (by omega) hkeys hvalues
      (List.Subset.refl entries) (holds_blank (by omega)) h⟩
  | @sequence inner items hitems =>
    rw [Record.read] at h
    split at h
    · rw [layout.members_eq] at h
      exact ⟨inner, [], rfl, Or.inr rfl, by simp, holds_of_readItems (by omega)
        (List.Subset.refl _) hitems (holds_blank (by omega)) h⟩
    · cases h
  | _ => cases h

/-! ### Writing -/

/-- Read one named value into a record. -/
def take (record : Record α) (v : α) (entry : String × Json) : Decoded α :=
  match record.find? (.name entry.1) with
  | some m => m.read (.ofJson entry.2) v
  | none => record.takeOther (.name entry.1) (.ofJson entry.2) v

/-- Entries with different names, among them all that are required, are read one by one. -/
theorem readEntries_named {members : List (String × Json)}
    (hnodup : (members.map Prod.fst).Nodup) {seen : List String}
    (hseen : ∀ name ∈ seen, name ∉ members.map Prod.fst)
    (hrequired : ∀ m ∈ record.members, m.presence = .required →
      m.name ∈ seen ∨ m.name ∈ members.map Prod.fst) :
    record.readEntries (members.map namedEntry) seen v = members.foldlM (take record) v := by
  induction members generalizing seen v with
  | nil =>
    have hall : record.members.all fun member =>
        member.presence != .required || seen.contains member.name := by
      rw [List.all_eq_true]
      intro m hm
      by_cases hpresence : m.presence = .required
      · simpa [hpresence] using hrequired m hm hpresence
      · simp [hpresence]
    rw [List.map_nil, Record.readEntries, if_pos hall]
    rfl
  | cons entry rest ih =>
    obtain ⟨name, value⟩ := entry
    obtain ⟨hnew, hrest⟩ := List.nodup_cons.1 hnodup
    rw [List.map_cons, namedEntry, Record.readEntries, List.foldlM_cons]
    dsimp only [Node.asMemberKey, bind, Except.bind, take]
    cases hfind : record.find? (.name name) with
    | some m =>
      have hname : m.name = name := by simpa [Record.find?] using List.find?_some hfind
      have hunseen : seen.contains m.name = false := by
        rw [hname, List.contains_eq_mem, decide_eq_false_iff_not]
        exact fun hmem => hseen name hmem List.mem_cons_self
      dsimp only
      rw [hunseen, if_neg Bool.false_ne_true]
      cases m.read (.ofJson value) v with
      | error fault => rfl
      | ok w =>
        refine ih hrest ?_ ?_
        · rw [hname]
          exact List.forall_mem_cons.2
            ⟨hnew, fun other hmem => fun h => hseen other hmem (List.mem_cons_of_mem _ h)⟩
        · intro n hn hpresence
          rcases hrequired n hn hpresence with hold | hcons
          · exact Or.inl (List.mem_cons_of_mem _ hold)
          · rcases List.mem_cons.1 hcons with heq | hmem
            · exact Or.inl (by rw [heq, hname]; exact List.mem_cons_self)
            · exact Or.inr hmem
    | none =>
      dsimp only
      cases record.takeOther (.name name) (.ofJson value) v with
      | error fault => rfl
      | ok w =>
        refine ih hrest (fun other hmem h => hseen other hmem (List.mem_cons_of_mem _ h)) ?_
        intro n hn hpresence
        refine (hrequired n hn hpresence).imp_right fun hcons => ?_
        rcases List.mem_cons.1 hcons with heq | hmem
        · have hnone := List.find?_eq_none.1 (show record.members.find? (·.name == name) = none
            from hfind) n hn
          exact absurd (beq_iff_eq.2 heq) hnone
        · exact hmem

/-- What is written of a field is read into it. -/
theorem take_written {f : Field record.blank (least - 1)} (hf : f ∈ layout.fields)
    (hv : f.Holds room v) (hw : f.get w = f.get record.blank) :
    (f.written v).foldlM (take record) w = .ok (f.copy v w) := by
  by_cases homits : f.omits (f.get v) = true
  · have hsame : f.copy v w = w := by
      rw [Field.copy, f.eq_of_omits _ homits, ← hw, f.set_get]
    rw [Field.written, if_pos homits, hsame]
    rfl
  · have hreads := (hv.resolve_left homits).reads
    rw [Field.written, if_neg homits, List.foldlM_cons, take, layout.find?_field hf]
    simp [Field.member, hreads, Field.copy, bind, Except.bind, pure, Except.pure]

theorem take_fields {fields : List (Field record.blank (least - 1))}
    (hfields : fields ⊆ layout.fields) (hapart : fields.Pairwise Field.Apart)
    (hv : ∀ f ∈ fields, f.Holds room v) (hw : ∀ f ∈ fields, f.get w = f.get record.blank) :
    (fields.flatMap (·.written v)).foldlM (take record) w
      = .ok (fields.foldl (fun into f => f.copy v into) w) := by
  induction fields generalizing w with
  | nil => rfl
  | cons f rest ih =>
    obtain ⟨hfirst, hrest⟩ := List.pairwise_cons.1 hapart
    obtain ⟨hvf, hvrest⟩ := List.forall_mem_cons.1 hv
    obtain ⟨hwf, hwrest⟩ := List.forall_mem_cons.1 hw
    rw [List.flatMap_cons, List.foldlM_append, take_written (hfields List.mem_cons_self) hvf hwf]
    refine ih (fun g hg => hfields (List.mem_cons_of_mem _ hg)) hrest hvrest fun g hg => ?_
    rw [Field.copy, (hfirst g hg).right]
    exact hwrest g hg

/-- What is written of the extra entries is kept again. -/
theorem take_extras {e : Extras α} (he : layout.extras = some e) {entries : List (String × Json)}
    (hentries : ∀ entry ∈ entries, entry.1 ∉ layout.names ∧ (Node.ofJson entry.2).Plain room) :
    entries.foldlM (take record) w
      = .ok (e.set (entries.foldl (fun d entry => d.insert entry.1 entry.2) (e.get w)) w) := by
  induction entries generalizing w with
  | nil => rw [List.foldl_nil, e.set_get]; rfl
  | cons entry rest ih =>
    obtain ⟨⟨hname, hplain⟩, hrest⟩ := List.forall_mem_cons.1 hentries
    have htake : take record w entry = .ok (e.keep entry.1 entry.2 w) := by
      rw [take, layout.find?_eq_none_iff.2 hname, takeOther, layout.keep_eq, he]
      simp [Node.json_ofJson hplain, bind, Except.bind, pure, Except.pure]
    rw [List.foldlM_cons, htake]
    refine (ih hrest).trans ?_
    rw [Extras.keep, e.get_set, e.set_set, List.foldl_cons]

theorem foldl_insert_empty (d : Dict Json) :
    d.entries.foldl (fun into entry => into.insert entry.1 entry.2) ∅ = d := by
  have hentries (entries : List (String × Json)) (into : Dict Json) :
      (entries.foldl (fun into entry => into.insert entry.1 entry.2) into).entries
        = entries.foldl (fun settled entry => upsert entry.1 entry.2 settled) into.entries := by
    induction entries generalizing into with
    | nil => rfl
    | cons entry rest ih => exact ih _
  exact Dict.ext ((hentries d.entries ∅).trans (settle_eq_self d.distinct))

/-- The extra entries of one record are read into another that has none. -/
theorem take_extraEntries (hv : ∀ entry ∈ extraEntries layout.extras v,
      entry.1 ∉ layout.names ∧ (Node.ofJson entry.2).Plain room)
    (hw : extraEntries layout.extras w = []) :
    (extraEntries layout.extras v).foldlM (take record) w
      = .ok (copyExtras layout.extras v w) := by
  cases hextras : layout.extras with
  | none => rfl
  | some e =>
    rw [hextras] at hv hw
    have hempty : e.get w = ∅ := Dict.ext hw
    refine (take_extras hextras hv).trans ?_
    rw [hempty, extraEntries, foldl_insert_empty]
    rfl

theorem extraEntries_foldl_copy {fields : List (Field record.blank (least - 1))}
    (hfields : fields ⊆ layout.fields) (v w : α) :
    extraEntries layout.extras (fields.foldl (fun into f => f.copy v into) w)
      = extraEntries layout.extras w := by
  induction fields generalizing w with
  | nil => rfl
  | cons f rest ih =>
    rw [List.foldl_cons, ih fun g hg => hfields (List.mem_cons_of_mem _ hg)]
    cases hextras : layout.extras with
    | none => rfl
    | some e =>
      have hapart := layout.apart_extras e hextras f (hfields List.mem_cons_self)
      rw [extraEntries, extraEntries, Field.copy, hapart.extras]

variable (layout) in
/-- The members of what is written for a record. -/
def entries (v : α) : List (String × Json) :=
  layout.fields.flatMap (·.written v) ++ extraEntries layout.extras v

theorem sublist_names_written (fields : List (Field record.blank (least - 1))) (v : α) :
    ((fields.flatMap (·.written v)).map Prod.fst).Sublist (fields.map Field.name) := by
  induction fields with
  | nil => exact List.Sublist.refl []
  | cons f rest ih =>
    rw [List.flatMap_cons, List.map_append, List.map_cons, Field.written]
    split
    · exact ih.cons f.name
    · exact ih.cons_cons f.name

theorem Holds.nodup_keys (h : layout.Holds room source v) :
    ((layout.entries v).map Prod.fst).Nodup := by
  have hsub := sublist_names_written layout.fields v
  rw [entries, List.map_append, List.nodup_append]
  refine ⟨layout.nodup_names.sublist hsub, ?_, ?_⟩
  · unfold extraEntries
    split
    · exact Dict.distinct _
    · exact List.nodup_nil
  · rintro name hfield other hextra rfl
    obtain ⟨entry, hentry, rfl⟩ := List.mem_map.1 hextra
    exact (h.extras entry hentry).1 (hsub.subset hfield)

/-- What is written for a record has every field that is required. -/
theorem mem_keys_of_required {m : Member α} (hm : m ∈ record.members)
    (hpresence : m.presence = .required) (v : α) :
    m.name ∈ (layout.entries v).map Prod.fst := by
  rw [layout.members_eq] at hm
  obtain ⟨f, hf, rfl⟩ := List.mem_map.1 hm
  have homits : ¬ f.omits (f.get v) = true := fun h => f.not_required _ h hpresence
  rw [entries, List.map_append, List.mem_append]
  refine Or.inl (List.mem_map.2 ⟨(f.name, f.write (f.get v)), ?_, rfl⟩)
  refine List.mem_flatMap.2 ⟨f, hf, ?_⟩
  rw [Field.written, if_neg homits]
  exact List.mem_singleton_self _

theorem Holds.plain_extras (h : layout.Holds room source v)
    (hvalues : ∀ entry ∈ source, entry.2.Plain room) :
    ∀ entry ∈ extraEntries layout.extras v,
      entry.1 ∉ layout.names ∧ (Node.ofJson entry.2).Plain room :=
  fun entry hmem => (h.extras entry hmem).imp_right fun hsource => hvalues _ hsource

/-- The fields of one record, copied into another, are those of the first. -/
theorem get_foldl_copy {fields : List (Field record.blank (least - 1))}
    (hapart : fields.Pairwise Field.Apart) (v w : α) :
    ∀ f ∈ fields, f.get (fields.foldl (fun into f => f.copy v into) w) = f.get v := by
  have hother (f : Field record.blank (least - 1)) (rest : List (Field record.blank (least - 1)))
      (hrest : ∀ g ∈ rest, f.Apart g) (w : α) :
      f.get (rest.foldl (fun into f => f.copy v into) w) = f.get w := by
    induction rest generalizing w with
    | nil => rfl
    | cons g rest ih =>
      obtain ⟨hg, hrest⟩ := List.forall_mem_cons.1 hrest
      rw [List.foldl_cons, ih hrest, Field.copy, hg.left]
  induction fields generalizing w with
  | nil => exact List.forall_mem_nil _
  | cons f rest ih =>
    obtain ⟨hf, hrest⟩ := List.pairwise_cons.1 hapart
    refine List.forall_mem_cons.2 ⟨?_, fun g hg => ih hrest _ g hg⟩
    rw [List.foldl_cons, hother f rest hf, Field.copy, f.get_set]

/-- All that is copied of a record makes up the record. -/
theorem copied (v : α) : copyExtras layout.extras v
    (layout.fields.foldl (fun into f => f.copy v into) record.blank) = v := by
  have hfields := get_foldl_copy layout.apart v record.blank
  cases hextras : layout.extras with
  | none =>
    refine layout.ext _ _ hfields fun e he => ?_
    rw [hextras] at he
    cases he
  | some e =>
    refine layout.ext _ _ (fun f hf => ?_) fun other hother => ?_
    · rw [copyExtras, (layout.apart_extras e hextras f hf).field, hfields f hf]
    · rw [hextras] at hother
      cases hother
      rw [copyExtras, e.get_set]

/-- **A record that can be written is read back.** -/
theorem Holds.kept (h : layout.Holds room source v)
    (hvalues : ∀ entry ∈ source, entry.2.Plain room) : Kept record.read write (room + 1) v := by
  have hextras := h.plain_extras hvalues
  constructor
  case reads =>
    have hfields := take_fields (List.Subset.refl _) layout.apart h.fields fun _ _ => rfl
    rw [layout.write_eq, Node.ofJson_object]
    refine (readEntries_named h.nodup_keys (by simp) fun m hm hpresence =>
      Or.inr (mem_keys_of_required hm hpresence v)).trans ?_
    have hnone := extraEntries_foldl_copy (List.Subset.refl layout.fields) v record.blank
    rw [entries, List.foldlM_append, hfields]
    refine (take_extraEntries hextras (hnone.trans layout.blank_extras)).trans ?_
    rw [copied]
  case plain =>
    rw [layout.write_eq]
    refine Node.plain_ofJson_object h.nodup_keys fun entry hmem => ?_
    rcases List.mem_append.1 hmem with hfield | hextra
    · obtain ⟨f, hf, hwritten⟩ := List.mem_flatMap.1 hfield
      rw [Field.written] at hwritten
      split at hwritten
      · cases hwritten
      · rename_i homits
        obtain rfl := List.mem_singleton.1 hwritten
        exact ((h.fields f hf).resolve_left homits).plain
    · exact (hextras entry hextra).2

/-- The blank record is kept, although nothing was read. -/
theorem kept_blank (layout : record.Layout write least) (hroom : least - 1 ≤ room) :
    Kept record.read write (room + 1) record.blank :=
  (holds_blank hroom : layout.Holds room [] record.blank).kept (List.forall_mem_nil _)

/-- **A record with a layout is kept.** -/
theorem keeps (layout : record.Layout write least) : Keeps least record.read write := by
  intro room node v hroom hplain hread
  obtain ⟨inner, source, rfl, _, hvalues, hholds⟩ := layout.holds_of_read hroom hplain hread
  exact hholds.kept hvalues

/-! ### References -/

/-- What is written for a record that was read from an object that is no reference is none either:
an extra entry with the key of a reference is an entry of that object, so it is no text. -/
theorem Holds.referencePath?_eq_none (h : layout.Holds room source v)
    (hnames : "$ref" ∉ layout.names) {members : List (String × Json)}
    (hnodup : (members.map Prod.fst).Nodup) (hsource : source ⊆ members.map namedEntry)
    (hnone : (Node.ofJson (.object members)).referencePath? = none) :
    (Node.ofJson (write v)).referencePath? = none := by
  by_contra hsome
  obtain ⟨path, hpath⟩ := Option.ne_none_iff_exists'.1 hsome
  rw [layout.write_eq] at hpath
  have hentry := namedEntry_mem_map_iff.1 ((referencePath?_eq_some_iff h.nodup_keys).1 hpath)
  rcases List.mem_append.1 hentry with hfield | hextra
  · exact hnames ((sublist_names_written layout.fields v).subset (List.mem_map_of_mem hfield))
  · have hold := hsource (h.extras _ hextra).2
    rw [(referencePath?_eq_some_iff hnodup).2 hold] at hnone
    cases hnone

/-- **A reference to a record, or the record in its place, is kept** if no field of the record has
the key of a reference. -/
theorem keeps_referable (layout : record.Layout write least) (hnames : "$ref" ∉ layout.names) :
    Keeps least (readReferable record.read) (Referable.toJson write) := by
  intro room node value hroom hplain hread
  obtain ⟨source, rfl⟩ := exists_ofJson_of_readReferable hplain hread
  rcases readReferable_ofJson_eq_ok hread with ⟨path, rfl, hpath⟩ | ⟨v, rfl, hpath, hv⟩
  · obtain ⟨members, rfl⟩ := exists_object_of_referencePath? hpath
    rw [Node.ofJson_object] at hplain
    cases hplain with
    | mapping => exact kept_reference record.read write _ path
  · obtain ⟨inner, entries, rfl, hnode, hvalues, hholds⟩ := layout.holds_of_read hroom hplain hv
    refine (hholds.kept hvalues).inline ?_
    rcases hnode with hnode | rfl
    · cases source with
      | object members =>
        rw [Node.ofJson_object] at hnode hplain
        obtain rfl := Node.mapping.inj hnode
        cases hplain with
        | mapping _ hnodup _ =>
          rw [Node.keyTexts_map_namedEntry] at hnodup
          exact hholds.referencePath?_eq_none hnames hnodup (List.Subset.refl _) hpath
      | array items =>
        rw [Node.ofJson_array] at hnode
        cases hnode
      | _ => cases hnode
    · have hnone : (Node.ofJson (.object [])).referencePath? = none := rfl
      exact hholds.referencePath?_eq_none hnames (by simp) (List.Subset.refl []) hnone

end Layout

end Layout

end Record

end OpenApi
