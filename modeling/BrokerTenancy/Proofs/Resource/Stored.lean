import BrokerTenancy.Proofs.Json.Written
import BrokerTenancy.Proofs.Sorted.Map
import BrokerTenancy.Store.Basic

/-!
What a store finds in the bytes that it has written for a resource: the resource as it was, up to
its creation instant, which is written as a text.
-/

namespace BrokerTenancy

namespace Json

theorem record_is_plain (fields : List (String × Json)) :
    (record fields).IsPlain ↔ ∀ field ∈ fields, field.2.IsPlain := by
  change HavePlain (fields.map _) ↔ _
  induction fields with
  | nil => simp [HavePlain]
  | cons field fields induction => simp [HavePlain, induction]

theorem array_is_plain (items : List Json) :
    (array items).IsPlain ↔ ∀ item ∈ items, item.IsPlain := by
  change ArePlain items ↔ _
  induction items with
  | nil => simp [ArePlain]
  | cons item items induction => simp [ArePlain, induction]

theorem of_text_is_plain (text : String) : (ofText text).IsPlain := rfl

theorem of_texts_is_plain (texts : List String) : (array (texts.map ofText)).IsPlain := by
  rw [array_is_plain]
  intro item member
  rcases List.mem_map.mp member with ⟨text, -, rfl⟩
  exact of_text_is_plain text

theorem of_text_map_is_plain (map : SortedMap String String) : (ofTextMap map).IsPlain := by
  rw [ofTextMap, record_is_plain]
  intro field member
  rcases List.mem_map.mp member with ⟨entry, -, rfl⟩
  exact of_text_is_plain entry.2

/-! ## Decoding what was encoded -/

theorem map_m_encoded {Item Code : Type} {encode : Item → Code} {decode : Code → Option Item}
    (back : ∀ item, decode (encode item) = some item) (items : List Item) :
    (items.map encode).mapM decode = some items := by
  induction items with
  | nil => rfl
  | cons item items induction => simp [List.mapM_cons, back, induction]

/-- An object of all fields of a record is read as these fields. -/
theorem as_record_record {names : List String} {fields : List (String × Json)}
    (named : fields.map (·.1) = names) (distinct : names.Nodup) :
    (record fields).asRecord names = some { positional := false, given := fields } := by
  have read : (fields.map fun field => (some field.1, field.2)).mapM
      (fun field : Option String × Json => do
        let key ← field.1
        some (key, field.2)) = some fields := by
    apply map_m_encoded
    intro field
    rfl
  have whole : (fields.filter fun field => names.contains field.1) = fields := by
    rw [List.filter_eq_self]
    intro field member
    rw [List.contains_iff_mem, ← named]
    exact List.mem_map_of_mem member
  rw [record, asRecord, read]
  simp only [Option.bind_eq_bind, Option.bind_some, whole, named, distinct, if_true]

namespace Record

variable {Value : Type} (positional : Bool) {name other : String} (json : Json)
  (rest : List (String × Json)) (default : Value) (decode : Json → Option Value)

@[simp]
theorem required_first :
    required ⟨positional, (name, json) :: rest⟩ name decode = decode json := by
  rw [required, SortedMap.lookup_cons_if, if_pos rfl]
  rfl

@[simp]
theorem required_later (different : name ≠ other) :
    required ⟨positional, (other, json) :: rest⟩ name decode =
      required ⟨positional, rest⟩ name decode := by
  rw [required, required, SortedMap.lookup_cons_if, if_neg different]

@[simp]
theorem or_else_first :
    orElse ⟨positional, (name, json) :: rest⟩ name default decode = decode json := by
  rw [orElse, SortedMap.lookup_cons_if, if_pos rfl]

@[simp]
theorem or_else_later (different : name ≠ other) :
    orElse ⟨positional, (other, json) :: rest⟩ name default decode =
      orElse ⟨positional, rest⟩ name default decode := by
  rw [orElse, orElse, SortedMap.lookup_cons_if, if_neg different]

end Record

@[simp]
theorem as_text_of_text (text : String) : (ofText text).asText = some text := rfl

theorem as_list_of_texts (texts : List String) :
    (array (texts.map ofText)).asList asText = some texts := by
  apply map_m_encoded
  intro text
  rfl

@[simp]
theorem as_text_map_of_text_map (map : SortedMap String String) :
    (ofTextMap map).asTextMap = some map := by
  have entries : ((map.toList.map fun entry => (entry.1, ofText entry.2)).map
      fun field => (some field.1, field.2)).mapM
      (fun field : Option String × Json => do
        let key ← field.1
        let value ← field.2.asText
        some (key, value)) = some map.toList := by
    rw [List.map_map]
    apply map_m_encoded
    intro entry
    rfl
  rw [ofTextMap, record, asTextMap, entries]
  exact congrArg some map.of_list_to_list

end Json

/-! ## Resources -/

/-- What is read back of a creation instant. -/
def Instant.reread : Option Instant → Option (Option Instant)
  | none => some none
  | some instant => (ofText instant.toText).map some

namespace Metadata

theorem to_json_is_plain (metadata : Metadata) : metadata.toJson.IsPlain := by
  rw [toJson, Json.record_is_plain]
  simp only [List.forall_mem_cons]
  refine ⟨rfl, rfl, rfl, Json.of_text_map_is_plain _, ?_, fun _ => nofun⟩
  cases metadata.creation with
  | none => exact trivial
  | some instant => exact Json.of_text_is_plain _

theorem creation_encoded (creation : Option Instant) :
    Json.asOptional instantOfJson (.ofOption (fun instant => .ofText instant.toText) creation) =
      Instant.reread creation := by
  cases creation with
  | none => rfl
  | some instant =>
      simp only [Json.ofOption, Json.ofText, Json.asOptional, instantOfJson, Json.asText,
        Option.bind_some, Option.map_eq_map, Instant.reread]

theorem of_json_to_json (metadata : Metadata) :
    ofJson metadata.toJson =
      (Instant.reread metadata.creation).map fun creation => { metadata with creation } := by
  rw [ofJson, toJson, Json.as_record_record]
  · simp (disch := decide) only [Option.bind_eq_bind, Option.bind_some,
      Json.Record.required_first, Json.Record.or_else_later, Json.Record.or_else_first,
      Json.as_text_of_text, Json.as_text_map_of_text_map, creation_encoded]
    cases Instant.reread metadata.creation <;> rfl
  · rfl
  · decide

end Metadata

section Specified

variable {Specification : Type} {decode : Json → Option Specification} {specification : Json}
  {value : Specification}

theorem specified_to_json_is_plain (plain : specification.IsPlain) (metadata : Metadata) :
    (specifiedToJson metadata specification).IsPlain := by
  rw [specifiedToJson, Json.record_is_plain]
  simp only [List.forall_mem_cons]
  exact ⟨metadata.to_json_is_plain, plain, fun _ => nofun⟩

theorem specified_of_json_to_json (back : decode specification = some value)
    (metadata : Metadata) :
    specifiedOfJson decode (specifiedToJson metadata specification) =
      (Instant.reread metadata.creation).map fun creation =>
        ({ metadata with creation }, value) := by
  rw [specifiedOfJson, specifiedToJson, Json.as_record_record]
  · simp (disch := decide) only [Option.bind_eq_bind, Option.bind_some,
      Json.Record.required_first, Json.Record.required_later, Metadata.of_json_to_json, back]
    cases Instant.reread metadata.creation <;> rfl
  · rfl
  · decide

end Specified

namespace Resource

variable {Value : Type} [Resource Value]

/-- The resource with another creation instant. -/
def withCreation (value : Value) (creation : Option Instant) : Value :=
  withMetadata value { metadata value with creation }

variable (Value)

/-- A resource is read back from its written form, if its creation instant is. This instant is no
part of its key. -/
structure IsFaithful : Prop where
  read : ∀ value : Value, Store.decodeValue (Store.encodeValue value) =
    (Instant.reread (metadata value).creation).map (withCreation value)
  key : ∀ (value : Value) (creation : Option Instant),
    key (withCreation value creation) = key value
  again : ∀ (value : Value) (first second : Option Instant),
    withCreation (withCreation value first) second = withCreation value second

variable {Value}

theorem IsFaithful.reads (faithful : IsFaithful Value) {value found : Value}
    (decoded : Store.decodeValue (Store.encodeValue value) = some found) :
    ∃ creation, found = withCreation value creation := by
  rw [faithful.read, Option.map_eq_some_iff] at decoded
  rcases decoded with ⟨creation, -, same⟩
  exact ⟨creation, same.symm⟩

end Resource

/-- A tree that is read back is decoded as it is. -/
theorem Store.decode_encode {Value : Type} [Storable Value] (value : Value)
    (plain : (Storable.encode value).IsPlain) :
    decodeValue (encodeValue value) = (Storable.decode (Storable.encode value) : Option Value) := by
  rw [decodeValue, encodeValue, Json.read_write plain]
  rfl

theorem Tenant.is_faithful : Resource.IsFaithful Tenant where
  read tenant := by
    have plain : tenant.toJson.IsPlain := by
      apply specified_to_json_is_plain
      rw [Json.record_is_plain]
      simp only [List.forall_mem_cons]
      exact ⟨rfl, Json.of_texts_is_plain _, fun _ => nofun⟩
    rw [Store.decode_encode tenant plain]
    change ofJson tenant.toJson = _
    rw [ofJson, toJson, @specified_of_json_to_json _ _ _ (tenant.kafkaUser, tenant.connectClusters)]
    · change _ = (Instant.reread tenant.metadata.creation).map _
      cases Instant.reread tenant.metadata.creation <;> rfl
    · rw [Json.as_record_record]
      · simp [Json.as_list_of_texts]
      · rfl
      · decide
  key _ _ := rfl
  again _ _ _ := rfl

namespace AccessControlEntry

theorem grant_encoded (resourceType : GrantedType) :
    (Json.ofText resourceType.name).asChoice GrantedType.name GrantedType.all =
      some resourceType := by
  cases resourceType <;> rfl

theorem pattern_encoded (patternType : PatternType) :
    (Json.ofText patternType.name).asChoice PatternType.name PatternType.all =
      some patternType := by
  cases patternType <;> rfl

theorem permission_encoded (permission : Permission) :
    (Json.ofText permission.name).asChoice Permission.name Permission.all = some permission := by
  cases permission <;> rfl

theorem is_faithful : Resource.IsFaithful AccessControlEntry where
  read entry := by
    have plain : entry.toJson.IsPlain := by
      apply specified_to_json_is_plain
      rw [Json.record_is_plain]
      simp only [List.forall_mem_cons]
      exact ⟨rfl, rfl, rfl, rfl, rfl, fun _ => nofun⟩
    rw [Store.decode_encode entry plain]
    change ofJson entry.toJson = _
    rw [ofJson, toJson, @specified_of_json_to_json _ _ _
      fun metadata => { entry with metadata }]
    · change _ = (Instant.reread entry.metadata.creation).map _
      cases Instant.reread entry.metadata.creation <;> rfl
    · rw [ofSpecification, Json.as_record_record]
      · simp [grant_encoded, pattern_encoded, permission_encoded]
      · rfl
      · decide
  key _ _ := rfl
  again _ _ _ := rfl

end AccessControlEntry

theorem Stream.is_faithful : Resource.IsFaithful Stream where
  read stream := by
    have plain : stream.toJson.IsPlain := by
      rw [toJson, Json.record_is_plain]
      simp only [List.forall_mem_cons]
      exact ⟨stream.metadata.to_json_is_plain, fun _ => nofun⟩
    rw [Store.decode_encode stream plain]
    change ofJson stream.toJson = _
    rw [ofJson, toJson, Json.as_record_record]
    · simp only [Option.bind_eq_bind, Option.bind_some, Json.Record.required_first,
        Metadata.of_json_to_json]
      change _ = (Instant.reread stream.metadata.creation).map _
      cases Instant.reread stream.metadata.creation <;> rfl
    · rfl
    · decide
  key _ _ := rfl
  again _ _ _ := rfl

theorem Connector.is_faithful : Resource.IsFaithful Connector where
  read connector := by
    have plain : connector.toJson.IsPlain := by
      apply specified_to_json_is_plain
      rw [Json.record_is_plain]
      simp only [List.forall_mem_cons]
      exact ⟨rfl, Json.of_text_map_is_plain _, fun _ => nofun⟩
    rw [Store.decode_encode connector plain]
    change ofJson connector.toJson = _
    rw [ofJson, toJson, @specified_of_json_to_json _ _ _
      (connector.connectCluster, connector.config)]
    · change _ = (Instant.reread connector.metadata.creation).map _
      cases Instant.reread connector.metadata.creation <;> rfl
    · rw [Json.as_record_record]
      · simp
      · rfl
      · decide
  key _ _ := rfl
  again _ _ _ := rfl

namespace RoleBinding

theorem verb_encoded (verb : Verb) :
    (Json.ofText verb.name).asChoice Verb.name Verb.all = some verb := by
  cases verb <;> rfl

theorem role_encoded (resourceTypes : List String) (verbs : List Verb) :
    roleOfJson (.record [
      ("resourceTypes", .array (resourceTypes.map .ofText)),
      ("verbs", .array (verbs.map fun verb => .ofText verb.name))]) =
        some (resourceTypes, verbs) := by
  have told : (Json.array (verbs.map fun verb => .ofText verb.name)).asList
      (Json.asChoice Verb.name Verb.all) = some verbs := Json.map_m_encoded verb_encoded verbs
  rw [roleOfJson, Json.as_record_record]
  · simp [Json.as_list_of_texts, told]
  · rfl
  · decide

theorem subject_encoded (subjectType subjectName : String) :
    subjectOfJson (.record [
      ("subjectType", .ofText subjectType),
      ("subjectName", .ofText subjectName)]) = some (subjectType, subjectName) := by
  rw [subjectOfJson, Json.as_record_record]
  · simp
  · rfl
  · decide

theorem to_json_is_plain (binding : RoleBinding) : binding.toJson.IsPlain := by
  have verbs : (Json.array (binding.verbs.map fun verb => .ofText verb.name)).IsPlain := by
    rw [Json.array_is_plain]
    intro item member
    rcases List.mem_map.mp member with ⟨verb, -, rfl⟩
    exact Json.of_text_is_plain verb.name
  apply specified_to_json_is_plain
  simp only [Json.record_is_plain, List.forall_mem_cons]
  exact ⟨⟨Json.of_texts_is_plain _, verbs, fun _ => nofun⟩, ⟨rfl, rfl, fun _ => nofun⟩,
    fun _ => nofun⟩

theorem is_faithful : Resource.IsFaithful RoleBinding where
  read binding := by
    rw [Store.decode_encode binding binding.to_json_is_plain]
    change ofJson binding.toJson = _
    rw [ofJson, toJson, @specified_of_json_to_json _ _ _
      ((binding.resourceTypes, binding.verbs), binding.subjectType, binding.subjectName)]
    · change _ = (Instant.reread binding.metadata.creation).map _
      cases Instant.reread binding.metadata.creation <;> rfl
    · rw [Json.as_record_record]
      · simp [role_encoded, subject_encoded]
      · rfl
      · decide
  key _ _ := rfl
  again _ _ _ := rfl

end RoleBinding

end BrokerTenancy
