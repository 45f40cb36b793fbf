import Mathlib.Data.List.Nodup
import OpenApi.Proofs.SchemaKeywords

/-!
# Documents are read back

The layouts of the objects of a document. What is read of a plain node is written so that it is read
back, however deep its schemas stand in each other: the layout of a schema needs only that the
schemas in it are kept. The members that are always written, such as the scopes of an OAuth flow,
add at most seven collections in each other, so a document needs that much room.

## Main definitions

* `Schema.layout`, `Parameter.layout`, …, `Document.layout`: the fields of the objects.

## Main statements

* `Schema.keeps_read`: a reference or a schema is kept.
* `Document.keeps_read`: so is a document.
-/
namespace OpenApi

open Node (asText asFlag asList asDict asChoice)
open Record (Field)

/-! ## Discriminators -/

/-- The fields of a discriminator. -/
def Discriminator.layout : Discriminator.record.Layout Discriminator.toJson 0 where
  fields :=
    [.always "propertyName" .required keeps_text (·.propertyName)
        (fun x d => { d with propertyName := x }) fun room _ => kept_text room _,
      .mapped "mapping" keeps_text (·.mapping) fun x d => { d with mapping := x }]

/-! ## Schemas -/

theorem schemaJson_eq : schemaJson = Referable.toJson Schema.toJson := by
  funext schema
  cases schema <;> rfl

theorem schemasJson_eq_map (schemas : List (Referable Schema)) :
    schemasJson schemas = schemas.map schemaJson := by
  induction schemas with
  | nil => rfl
  | cons schema rest ih => rw [schemasJson, ih, List.map_cons]

theorem propertiesJson_eq_map (properties : List (String × Referable Schema)) :
    propertiesJson properties = properties.map fun entry => (entry.1, schemaJson entry.2) := by
  induction properties with
  | nil => rfl
  | cons entry rest ih => rw [propertiesJson, ih, List.map_cons]

/-- A reader of the schemas in a schema: what it reads is kept, and it takes no scalar. -/
structure KeepsSchemas (read : Node → Decoded (Referable Schema)) : Prop where
  keeps : Keeps 0 read schemaJson
  null : ∃ fault, read .null = .error fault
  flag : ∀ flag, ∃ fault, read (.bool flag) = .error fault

variable {readSchema : Node → Decoded (Referable Schema)}

theorem KeepsSchemas.additional (h : KeepsSchemas readSchema) :
    ∃ fault, AdditionalProperties.read readSchema .null = .error fault := by
  obtain ⟨fault, hfault⟩ := h.null
  refine ⟨fault, ?_⟩
  show AdditionalProperties.values <$> readSchema .null = _
  rw [hfault]
  rfl

namespace Schema

open Json (memberIf memberUnlessNil string)

/-! ### Fields -/

/-- The properties of a schema, which are read as a map and are held as its entries. -/
def propertiesField (h : KeepsSchemas readSchema) : Field (record readSchema).blank 0 where
  name := "properties"
  presence := .defaulted
  read node := Dict.entries <$> node.asDict readSchema
  write entries := .object (entries.map fun entry => (entry.1, schemaJson entry.2))
  omits := List.isEmpty
  get := (·.properties)
  set x s := { s with properties := x }
  get_set _ _ := rfl
  set_get s := by cases s; rfl
  keeps := h.keeps.entries
  eq_of_omits _ homits := List.isEmpty_iff.1 homits
  not_required _ _ := by decide
  blank_kept := Or.inl rfl

theorem member_propertiesField (h : KeepsSchemas readSchema) :
    (propertiesField h).member = .defaulted "properties" (asDict readSchema)
      fun x s => { s with properties := x.entries } := by
  refine congrArg (Member.mk "properties" Presence.defaulted) ?_
  funext node s
  show (do return { s with properties := ← Dict.entries <$> node.asDict readSchema }) = _
  cases node.asDict readSchema <;> rfl

/-- The fields of a schema whose schemas are kept. -/
def fields (h : KeepsSchemas readSchema) : List (Field (record readSchema).blank 0) :=
  [.optional "type" TypeSet.keeps_read (·.type) fun x s => { s with type := x },
    .optional "format" keeps_text (·.format) fun x s => { s with format := x },
    .optional "title" keeps_text (·.title) fun x s => { s with title := x },
    .optional "description" keeps_text (·.description) fun x s => { s with description := x },
    .optionalWith "default" keeps_optionJson (·.defaultValue)
      fun x s => { s with defaultValue := x },
    .optional "nullable" keeps_flag (·.nullable) fun x s => { s with nullable := x },
    .optional "deprecated" keeps_flag (·.deprecated) fun x s => { s with deprecated := x },
    propertiesField h,
    .listed "required" keeps_text (·.required) fun x s => { s with required := x },
    .optionalWith "additionalProperties"
      ((AdditionalProperties.keeps_read h.keeps h.flag).option h.additional)
      (·.additionalProperties) fun x s => { s with additionalProperties := x },
    .optional "minProperties" keeps_count (·.minProperties)
      fun x s => { s with minProperties := x },
    .optional "maxProperties" keeps_count (·.maxProperties)
      fun x s => { s with maxProperties := x },
    .optionalWith "items" (h.keeps.option h.null) (·.items) fun x s => { s with items := x },
    .listed "allOf" h.keeps (·.allOf) fun x s => { s with allOf := x },
    .listed "oneOf" h.keeps (·.oneOf) fun x s => { s with oneOf := x },
    .listed "anyOf" h.keeps (·.anyOf) fun x s => { s with anyOf := x },
    .optional "discriminator" Discriminator.layout.keeps (·.discriminator)
      fun x s => { s with discriminator := x },
    .listed "enum" keeps_json (·.enumValues) fun x s => { s with enumValues := x },
    .optional "minimum" keeps_double (·.minimum) fun x s => { s with minimum := x },
    .optional "maximum" keeps_double (·.maximum) fun x s => { s with maximum := x },
    .optional "exclusiveMinimum" ExclusiveBound.keeps_read (·.exclusiveMinimum)
      fun x s => { s with exclusiveMinimum := x },
    .optional "exclusiveMaximum" ExclusiveBound.keeps_read (·.exclusiveMaximum)
      fun x s => { s with exclusiveMaximum := x },
    .optional "multipleOf" keeps_double (·.multipleOf) fun x s => { s with multipleOf := x },
    .optional "minLength" keeps_count (·.minLength) fun x s => { s with minLength := x },
    .optional "maxLength" keeps_count (·.maxLength) fun x s => { s with maxLength := x },
    .optional "pattern" keeps_text (·.pattern) fun x s => { s with pattern := x },
    .optional "minItems" keeps_count (·.minItems) fun x s => { s with minItems := x },
    .optional "maxItems" keeps_count (·.maxItems) fun x s => { s with maxItems := x },
    .optional "uniqueItems" keeps_flag (·.uniqueItems) fun x s => { s with uniqueItems := x },
    .optional "readOnly" keeps_flag (·.readOnly) fun x s => { s with readOnly := x },
    .optional "writeOnly" keeps_flag (·.writeOnly) fun x s => { s with writeOnly := x },
    .optionalWith "example" keeps_optionJson (·.exampleValue)
      fun x s => { s with exampleValue := x }]

/-! ### What is written -/

theorem written_propertiesField (h : KeepsSchemas readSchema) (s : Schema) :
    (propertiesField h).written s
      = memberUnlessNil "properties" .object (propertiesJson s.properties) := by
  show (if s.properties.isEmpty then [] else
    [("properties", Json.object (s.properties.map fun entry => (entry.1, schemaJson entry.2)))]) = _
  rw [propertiesJson_eq_map]
  cases s.properties <;> rfl

theorem memberUnlessNil_schemasJson (name : String) (schemas : List (Referable Schema)) :
    memberUnlessNil name .array (schemasJson schemas)
      = memberUnlessNil name (.ofList schemaJson) schemas := by
  rw [schemasJson_eq_map]
  cases schemas <;> rfl

theorem memberUnlessNil_array (name : String) (items : List Json) :
    memberUnlessNil name .array items = memberUnlessNil name (.ofList id) items := by
  cases items <;> simp [memberUnlessNil, Json.ofList]

/-- What is written of a schema, by its members. -/
theorem toJson_eq (s : Schema) : s.toJson = .object (
      memberIf "type" TypeSet.toJson s.type
      ++ memberIf "format" string s.format
      ++ memberIf "title" string s.title
      ++ memberIf "description" string s.description
      ++ memberIf "default" id s.defaultValue
      ++ memberIf "nullable" .bool s.nullable
      ++ memberIf "deprecated" .bool s.deprecated
      ++ memberUnlessNil "properties" .object (propertiesJson s.properties)
      ++ memberUnlessNil "required" (.ofList string) s.required
      ++ memberIf "additionalProperties" (AdditionalProperties.toJson schemaJson)
        s.additionalProperties
      ++ memberIf "minProperties" Json.count s.minProperties
      ++ memberIf "maxProperties" Json.count s.maxProperties
      ++ memberIf "items" schemaJson s.items
      ++ memberUnlessNil "allOf" (.ofList schemaJson) s.allOf
      ++ memberUnlessNil "oneOf" (.ofList schemaJson) s.oneOf
      ++ memberUnlessNil "anyOf" (.ofList schemaJson) s.anyOf
      ++ memberIf "discriminator" Discriminator.toJson s.discriminator
      ++ memberUnlessNil "enum" (.ofList id) s.enumValues
      ++ memberIf "minimum" .double s.minimum
      ++ memberIf "maximum" .double s.maximum
      ++ memberIf "exclusiveMinimum" ExclusiveBound.toJson s.exclusiveMinimum
      ++ memberIf "exclusiveMaximum" ExclusiveBound.toJson s.exclusiveMaximum
      ++ memberIf "multipleOf" .double s.multipleOf
      ++ memberIf "minLength" Json.count s.minLength
      ++ memberIf "maxLength" Json.count s.maxLength
      ++ memberIf "pattern" string s.pattern
      ++ memberIf "minItems" Json.count s.minItems
      ++ memberIf "maxItems" Json.count s.maxItems
      ++ memberIf "uniqueItems" .bool s.uniqueItems
      ++ memberIf "readOnly" .bool s.readOnly
      ++ memberIf "writeOnly" .bool s.writeOnly
      ++ memberIf "example" id s.exampleValue
      ++ s.extensions.entries) := by
  obtain ⟨k, properties, additionalProperties, items, allOf, oneOf, anyOf⟩ := s
  rw [← memberUnlessNil_schemasJson, ← memberUnlessNil_schemasJson, ← memberUnlessNil_schemasJson,
    ← memberUnlessNil_array]
  rcases additionalProperties with _ | _ | _ <;> cases items <;> rfl

theorem toJson_eq_fields (h : KeepsSchemas readSchema) (s : Schema) :
    s.toJson = .object ((fields h).flatMap (·.written s) ++ s.extensions.entries) := by
  rw [toJson_eq]
  refine congrArg Json.object ?_
  simp only [fields, List.flatMap_cons, List.flatMap_nil, Field.written_optionalWith,
    Field.written_listed, written_propertiesField, List.append_assoc, List.nil_append]

/-! ### The layout -/

/-- The fields of a schema make up its record. -/
def layout (h : KeepsSchemas readSchema) : (record readSchema).Layout toJson 0 where
  fields := fields h
  extras := some { get := (·.extensions), set := fun d s => { s with extensions := d } }
  members_eq := by
    conv_lhs => rw [record, ← member_propertiesField h]
    rfl
  write_eq := toJson_eq_fields h
  ext := by
    rintro ⟨⟨⟩⟩ ⟨⟨⟩⟩ hfields hextras
    repeat
      obtain ⟨hfirst, hrest⟩ := List.forall_mem_cons.1 hfields
      cases hfirst
      clear hfields
      rename' hrest => hfields
    cases hextras _ rfl
    rfl

/-- Schemas are kept, however deep they may stand in each other. -/
theorem keepsSchemas_readWithin (room : Nat) : KeepsSchemas (readWithin room) := by
  induction room with
  | zero => exact ⟨fun _ _ _ _ _ h => (by cases h), ⟨_, rfl⟩, fun _ => ⟨_, rfl⟩⟩
  | succ room ih =>
    refine ⟨?_, ⟨_, rfl⟩, fun _ => ⟨_, rfl⟩⟩
    rw [schemaJson_eq]
    exact (layout ih).keeps_referable (by exact of_decide_eq_true rfl)

/-- **A reference or a schema is kept.** -/
theorem keeps_read : Keeps 0 Schema.read schemaJson := (keepsSchemas_readWithin _).keeps

end Schema

/-! ## Names -/

theorem ParameterLocation.lookup_byName (location : ParameterLocation) :
    ParameterLocation.byName.lookup location.name = some location := by
  cases location <;> decide

theorem KeyLocation.lookup_byName (location : KeyLocation) :
    KeyLocation.byName.lookup location.name = some location := by
  cases location <;> decide

theorem SecuritySchemeType.lookup_byName (type : SecuritySchemeType) :
    SecuritySchemeType.byName.lookup type.name = some type := by
  cases type <;> decide

/-! ## Description -/

/-- The fields of a contact. -/
def Contact.layout : Contact.record.Layout Contact.toJson 0 where
  fields :=
    [.optional "name" keeps_text (·.name) fun x c => { c with name := x },
      .optional "url" keeps_text (·.url) fun x c => { c with url := x },
      .optional "email" keeps_text (·.email) fun x c => { c with email := x }]

/-- The fields of a license. -/
def License.layout : License.record.Layout License.toJson 0 where
  fields :=
    [.always "name" .required keeps_text (·.name) (fun x l => { l with name := x })
        fun room _ => kept_text room _,
      .optional "url" keeps_text (·.url) fun x l => { l with url := x }]

/-- The fields of the general information. -/
def Info.layout : Info.record.Layout Info.toJson 0 where
  fields :=
    [.always "title" .required keeps_text (·.title) (fun x i => { i with title := x })
        fun room _ => kept_text room _,
      .optional "description" keeps_text (·.description) fun x i => { i with description := x },
      .always "version" .required keeps_text (·.version) (fun x i => { i with version := x })
        fun room _ => kept_text room _,
      .optional "termsOfService" keeps_text (·.termsOfService)
        fun x i => { i with termsOfService := x },
      .optional "contact" Contact.layout.keeps (·.contact) fun x i => { i with contact := x },
      .optional "license" License.layout.keeps (·.license) fun x i => { i with license := x }]

/-- The fields of a tag. -/
def Tag.layout : Tag.record.Layout Tag.toJson 0 where
  fields :=
    [.always "name" .required keeps_text (·.name) (fun x t => { t with name := x })
        fun room _ => kept_text room _,
      .optional "description" keeps_text (·.description) fun x t => { t with description := x }]

/-- The fields of a server variable. -/
def ServerVariable.layout : ServerVariable.record.Layout ServerVariable.toJson 0 where
  fields :=
    [.always "default" .required keeps_text (·.defaultValue)
        (fun x v => { v with defaultValue := x }) fun room _ => kept_text room _,
      .optional "description" keeps_text (·.description) fun x v => { v with description := x },
      .listed "enum" keeps_text (·.enumValues) fun x v => { v with enumValues := x }]

/-- The fields of a server. -/
def Server.layout : Server.record.Layout Server.toJson 0 where
  fields :=
    [.always "url" .required keeps_text (·.url) (fun x s => { s with url := x })
        fun room _ => kept_text room _,
      .optional "description" keeps_text (·.description) fun x s => { s with description := x },
      .mapped "variables" ServerVariable.layout.keeps (·.placeholders)
        fun x s => { s with placeholders := x }]

/-! ## Security -/

/-- The empty map is kept where a collection fits. -/
theorem kept_empty {α : Type} {read : Node → Decoded α} {write : α → Json} (room : Nat)
    (h : 1 ≤ room) : Kept (asDict read) (.ofDict write) room ∅ := by
  obtain ⟨inner, rfl⟩ := Nat.exists_eq_add_of_le' h
  exact kept_dict (List.forall_mem_nil _)

/-- The fields of an OAuth flow. The scopes are written also when there are none. -/
def OAuthFlow.layout : OAuthFlow.record.Layout OAuthFlow.toJson 2 where
  fields :=
    [.optional "authorizationUrl" keeps_text (·.authorizationUrl)
        fun x f => { f with authorizationUrl := x },
      .optional "tokenUrl" keeps_text (·.tokenUrl) fun x f => { f with tokenUrl := x },
      .optional "refreshUrl" keeps_text (·.refreshUrl) fun x f => { f with refreshUrl := x },
      .always "scopes" .defaulted (keeps_text.dict : Keeps 1 _ _) (·.scopes)
        (fun x f => { f with scopes := x }) (id kept_empty)]

/-- The fields of the OAuth flows. -/
def OAuthFlows.layout : OAuthFlows.record.Layout OAuthFlows.toJson 3 where
  fields :=
    [.optional "implicit" OAuthFlow.layout.keeps (·.implicit) fun x f => { f with implicit := x },
      .optional "password" OAuthFlow.layout.keeps (·.password) fun x f => { f with password := x },
      .optional "clientCredentials" OAuthFlow.layout.keeps (·.clientCredentials)
        fun x f => { f with clientCredentials := x },
      .optional "authorizationCode" OAuthFlow.layout.keeps (·.authorizationCode)
        fun x f => { f with authorizationCode := x }]

/-- The fields of a security scheme. -/
def SecurityScheme.layout : SecurityScheme.record.Layout SecurityScheme.toJson 4 where
  fields :=
    [.always "type" .required (keeps_choice SecuritySchemeType.lookup_byName) (·.type)
        (fun x s => { s with type := x })
        fun room _ => kept_choice SecuritySchemeType.lookup_byName room _,
      .optional "description" keeps_text (·.description) fun x s => { s with description := x },
      .optional "name" keeps_text (·.name) fun x s => { s with name := x },
      .optional "in" (keeps_choice KeyLocation.lookup_byName) (·.location)
        fun x s => { s with location := x },
      .optional "scheme" keeps_text (·.scheme) fun x s => { s with scheme := x },
      .optional "bearerFormat" keeps_text (·.bearerFormat) fun x s => { s with bearerFormat := x },
      .optional "flows" OAuthFlows.layout.keeps (·.flows) fun x s => { s with flows := x },
      .optional "openIdConnectUrl" keeps_text (·.openIdConnectUrl)
        fun x s => { s with openIdConnectUrl := x }]
  extras := some { get := (·.extensions), set := fun d s => { s with extensions := d } }

theorem SecurityRequirement.keeps_read :
    Keeps 0 SecurityRequirement.read SecurityRequirement.toJson :=
  Keeps.dict (Keeps.list keeps_text)

/-! ## Parts of an operation -/

/-- The fields of a parameter. -/
def Parameter.layout : Parameter.record.Layout Parameter.toJson 0 where
  fields :=
    [.always "name" .required keeps_text (·.name) (fun x p => { p with name := x })
        fun room _ => kept_text room _,
      .always "in" .required (keeps_choice ParameterLocation.lookup_byName) (·.location)
        (fun x p => { p with location := x })
        fun room _ => kept_choice ParameterLocation.lookup_byName room _,
      .optional "description" keeps_text (·.description) fun x p => { p with description := x },
      .always "required" .defaulted keeps_flag (·.required) (fun x p => { p with required := x })
        fun room _ => kept_flag room _,
      .optional "deprecated" keeps_flag (·.deprecated) fun x p => { p with deprecated := x },
      .optional "schema" Schema.keeps_read (·.schema) fun x p => { p with schema := x },
      .optional "style" keeps_text (·.style) fun x p => { p with style := x },
      .optional "explode" keeps_flag (·.explode) fun x p => { p with explode := x },
      .optionalWith "example" keeps_optionJson (·.exampleValue)
        fun x p => { p with exampleValue := x }]
  extras := some { get := (·.extensions), set := fun d p => { p with extensions := d } }

/-- A parameter or a reference to one is kept. -/
theorem Parameter.keeps_read : Keeps 0 Parameter.read (Referable.toJson Parameter.toJson) :=
  Parameter.layout.keeps_referable (by decide)

/-- The fields of a media type. -/
def MediaType.layout : MediaType.record.Layout MediaType.toJson 0 where
  fields :=
    [.optional "schema" Schema.keeps_read (·.schema) fun x m => { m with schema := x },
      .optionalWith "example" keeps_optionJson (·.exampleValue)
        fun x m => { m with exampleValue := x }]

/-- The fields of a request body. The content is written also when there is none. -/
def RequestBody.layout : RequestBody.record.Layout RequestBody.toJson 2 where
  fields :=
    [.optional "description" keeps_text (·.description) fun x b => { b with description := x },
      .always "content" .required (MediaType.layout.keeps.dict : Keeps 1 _ _) (·.content)
        (fun x b => { b with content := x }) (id kept_empty),
      .always "required" .defaulted keeps_flag (·.required) (fun x b => { b with required := x })
        fun room _ => kept_flag room _]

/-- A request body or a reference to one is kept. -/
theorem RequestBody.keeps_read : Keeps 2 RequestBody.read (Referable.toJson RequestBody.toJson) :=
  RequestBody.layout.keeps_referable (by decide)

/-- The fields of a header. -/
def Header.layout : Header.record.Layout Header.toJson 0 where
  fields :=
    [.optional "description" keeps_text (·.description) fun x h => { h with description := x },
      .always "required" .defaulted keeps_flag (·.required) (fun x h => { h with required := x })
        fun room _ => kept_flag room _,
      .optional "deprecated" keeps_flag (·.deprecated) fun x h => { h with deprecated := x },
      .optional "schema" Schema.keeps_read (·.schema) fun x h => { h with schema := x }]

/-- A header or a reference to one is kept. -/
theorem Header.keeps_read : Keeps 0 Header.read (Referable.toJson Header.toJson) :=
  Header.layout.keeps_referable (by decide)

/-- The fields of a response. -/
def Response.layout : Response.record.Layout Response.toJson 0 where
  fields :=
    [.always "description" .defaulted keeps_text (·.description)
        (fun x r => { r with description := x }) fun room _ => kept_text room _,
      .mapped "content" MediaType.layout.keeps (·.content) fun x r => { r with content := x },
      .mapped "headers" Header.keeps_read (·.headers) fun x r => { r with headers := x }]
  extras := some { get := (·.extensions), set := fun d r => { r with extensions := d } }

/-- A response or a reference to one is kept. -/
theorem Response.keeps_read : Keeps 0 Response.read (Referable.toJson Response.toJson) :=
  Response.layout.keeps_referable (by decide)

/-! ## Operations -/

/-- A key of a JSON object is a text or cannot be used, as a status key as well. -/
theorem StatusKey.read_eq {key : Node} (h : Node.IsKey key) :
    StatusKey.read key = .text <$> key.asText := by
  cases h <;> rfl

/-- Status keys that are texts are read like the keys of any map. -/
theorem mapM_statusKeys {entries : List (Node × Node)}
    (hkeys : ∀ entry ∈ entries, Node.IsKey entry.1) :
    (entries.mapM fun entry => return (← StatusKey.read entry.1, ← Response.read entry.2)
        : Decoded (List (StatusKey × Referable Response)))
      = List.map (Prod.map StatusKey.text id) <$>
        (Node.mapping entries).asEntries Response.read := by
  show _ = _ <$> entries.mapM fun entry => return (← entry.1.asText, ← Response.read entry.2)
  induction entries with
  | nil => rfl
  | cons entry rest ih =>
    obtain ⟨hkey, hrest⟩ := List.forall_mem_cons.1 hkeys
    rw [List.mapM_cons, List.mapM_cons, StatusKey.read_eq hkey, ih hrest]
    cases entry.1.asText with
    | error fault => rfl
    | ok name =>
      cases Response.read entry.2 with
      | error fault => rfl
      | ok response =>
        cases rest.mapM fun entry => (return (← entry.1.asText, ← Response.read entry.2)
            : Decoded (String × Referable Response)) with
        | error fault => rfl
        | ok responses => rfl

/-- The responses under keys of a JSON object that do not repeat are a map like any other. -/
theorem readResponses_eq {room : Nat} {node : Node} (hplain : node.Plain room) :
    readResponses node = node.asDict Response.read := by
  cases hplain with
  | @mapping room entries hkeys hnodup _ =>
    have hread : readResponses (.mapping entries)
        = (fun responses => Dict.ofEntries
            ((settle responses).map fun entry => (entry.1.toText, entry.2)))
          <$> (entries.mapM fun entry => return (← StatusKey.read entry.1, ← Response.read entry.2)
            : Decoded (List (StatusKey × Referable Response))) := rfl
    rw [hread, mapM_statusKeys hkeys, asDict]
    cases hvalues : (Node.mapping entries).asEntries Response.read with
    | error fault => rfl
    | ok values =>
      rw [keyTexts_of_forall₂ ((asEntries_eq_ok_iff hkeys).1 hvalues)] at hnodup
      have hstatus : ((values.map (Prod.map StatusKey.text id)).map Prod.fst).Nodup := by
        have hkeys : (values.map (Prod.map StatusKey.text id)).map Prod.fst
            = (values.map Prod.fst).map StatusKey.text := by simp
        rw [hkeys]
        exact List.Nodup.map (fun _ _ h => StatusKey.text.inj h) hnodup
      refine congrArg Except.ok ?_
      dsimp only
      rw [settle_eq_self hstatus, List.map_map]
      exact congrArg Dict.ofEntries (List.map_id values)
  | _ => rfl

theorem keeps_responses :
    Keeps 0 readResponses (.ofDict (Referable.toJson Response.toJson)) := by
  intro room node d hroom hplain hread
  rw [readResponses_eq hplain] at hread
  have hkept := Keeps.dict Response.keeps_read hroom hplain hread
  exact ⟨by rw [readResponses_eq hkept.plain, hkept.reads], hkept.plain⟩

/-- The fields of an operation. -/
def Operation.layout : Operation.record.Layout Operation.toJson 3 where
  fields :=
    [.optional "operationId" keeps_text (·.operationId) fun x o => { o with operationId := x },
      .optional "summary" keeps_text (·.summary) fun x o => { o with summary := x },
      .optional "description" keeps_text (·.description) fun x o => { o with description := x },
      .listed "tags" keeps_text (·.tags) fun x o => { o with tags := x },
      .listed "parameters" Parameter.keeps_read (·.parameters)
        fun x o => { o with parameters := x },
      .optional "requestBody" RequestBody.keeps_read (·.requestBody)
        fun x o => { o with requestBody := x },
      .mappedWith "responses" keeps_responses (·.responses) fun x o => { o with responses := x },
      .optional "deprecated" keeps_flag (·.deprecated) fun x o => { o with deprecated := x },
      .optional "security" (SecurityRequirement.keeps_read.list : Keeps 1 _ _) (·.security)
        fun x o => { o with security := x }]
  extras := some { get := (·.extensions), set := fun d o => { o with extensions := d } }

/-- The fields of a path item. -/
def PathItem.layout : PathItem.record.Layout PathItem.toJson 4 where
  fields :=
    [.optional "summary" keeps_text (·.summary) fun x i => { i with summary := x },
      .optional "description" keeps_text (·.description) fun x i => { i with description := x },
      .listed "parameters" Parameter.keeps_read (·.parameters)
        fun x i => { i with parameters := x },
      .optional "get" Operation.layout.keeps (·.get) fun x i => { i with get := x },
      .optional "put" Operation.layout.keeps (·.put) fun x i => { i with put := x },
      .optional "post" Operation.layout.keeps (·.post) fun x i => { i with post := x },
      .optional "delete" Operation.layout.keeps (·.delete) fun x i => { i with delete := x },
      .optional "options" Operation.layout.keeps (·.options) fun x i => { i with options := x },
      .optional "head" Operation.layout.keeps (·.head) fun x i => { i with head := x },
      .optional "patch" Operation.layout.keeps (·.patch) fun x i => { i with patch := x },
      .optional "trace" Operation.layout.keeps (·.trace) fun x i => { i with trace := x }]

/-! ## The whole -/

/-- The fields of the components. -/
def Components.layout : Components.record.Layout Components.toJson 6 where
  fields :=
    [.mapped "schemas" Schema.keeps_read (·.schemas) fun x c => { c with schemas := x },
      .mapped "responses" Response.keeps_read (·.responses) fun x c => { c with responses := x },
      .mapped "parameters" Parameter.keeps_read (·.parameters)
        fun x c => { c with parameters := x },
      .mapped "requestBodies" RequestBody.keeps_read (·.requestBodies)
        fun x c => { c with requestBodies := x },
      .mapped "headers" Header.keeps_read (·.headers) fun x c => { c with headers := x },
      .mapped "securitySchemes" SecurityScheme.layout.keeps (·.securitySchemes)
        fun x c => { c with securitySchemes := x }]

/-- The blank information is kept where a collection fits. -/
theorem Info.kept_blank (room : Nat) (h : 1 ≤ room) :
    Kept Info.record.read Info.toJson room Info.record.blank := by
  obtain ⟨inner, rfl⟩ := Nat.exists_eq_add_of_le' h
  exact Info.layout.kept_blank (Nat.zero_le inner)

/-- The fields of a document. -/
def Document.layout : Document.record.Layout Document.toJson 7 where
  fields :=
    [.always "openapi" .required keeps_text (·.openapi) (fun x d => { d with openapi := x })
        fun room _ => kept_text room _,
      .always "info" .required Info.layout.keeps (·.info) (fun x d => { d with info := x })
        (id fun room h => Info.kept_blank room (by omega)),
      .listed "servers" Server.layout.keeps (·.servers) fun x d => { d with servers := x },
      .mapped "paths" PathItem.layout.keeps (·.paths) fun x d => { d with paths := x },
      .optional "components" Components.layout.keeps (·.components)
        fun x d => { d with components := x },
      .listed "tags" Tag.layout.keeps (·.tags) fun x d => { d with tags := x },
      .optional "security" (SecurityRequirement.keeps_read.list : Keeps 1 _ _) (·.security)
        fun x d => { d with security := x }]

/-- **A document that was read from a plain node is kept**, if seven collections fit. -/
theorem Document.keeps_read : Keeps 7 Document.read Document.toJson := Document.layout.keeps

end OpenApi
