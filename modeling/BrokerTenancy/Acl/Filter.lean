import BrokerTenancy.Acl.Binding

/-!
Filters on bindings. A filter fixes some of the fields of a binding and leaves the others open.
-/

namespace BrokerTenancy

/-- The bindings whose fields are as given; a field that is not given may be anything. -/
structure BindingFilter where
  resourceType : Option ResourceType := none
  resourceName : Option String := none
  patternType : Option PatternType := none
  principal : Option String := none
  host : Option String := none
  operation : Option Operation := none
  effect : Option Effect := none
  deriving DecidableEq, Inhabited, Repr

namespace BindingFilter

/-- The filter that every binding matches. -/
def any : BindingFilter := {}

/-- The filter that one binding alone matches. -/
def exactly (binding : Binding) : BindingFilter where
  resourceType := some binding.resourceType
  resourceName := some binding.resourceName
  patternType := some binding.patternType
  principal := some binding.principal
  host := some binding.host
  operation := some binding.operation
  effect := some binding.effect

/-- Whether a field is left open or as given. -/
def admits {Field : Type} [DecidableEq Field] (given : Option Field) (field : Field) : Bool :=
  match given with
  | none => true
  | some wanted => wanted == field

def isMatch (filter : BindingFilter) (binding : Binding) : Bool :=
  admits filter.resourceType binding.resourceType &&
    admits filter.resourceName binding.resourceName &&
    admits filter.patternType binding.patternType &&
    admits filter.principal binding.principal &&
    admits filter.host binding.host &&
    admits filter.operation binding.operation &&
    admits filter.effect binding.effect

theorem is_match_exactly (wanted binding : Binding) :
    (exactly wanted).isMatch binding = true ↔ wanted = binding := by
  cases wanted; cases binding
  simp only [isMatch, exactly, admits, Bool.and_eq_true, beq_iff_eq, Binding.mk.injEq]
  grind

/-- The text of a field, or the word for one that is left open. -/
def shownField {Field : Type} (name : Field → String) : Option Field → String
  | none => "ANY"
  | some field => name field

/-- The text that names a filter in errors. -/
def shown (filter : BindingFilter) : String :=
  "(patternFilter=(resourceType=" ++ shownField ResourceType.name filter.resourceType ++
    ", name=" ++ shownField id filter.resourceName ++
    ", patternType=" ++ shownField PatternType.name filter.patternType ++
    "), entryFilter=(principal=" ++ shownField id filter.principal ++
    ", host=" ++ shownField id filter.host ++
    ", operation=" ++ shownField Operation.name filter.operation ++
    ", permissionType=" ++ shownField Effect.name filter.effect ++ "))"

def toJson (filter : BindingFilter) : Json :=
  let choice {Field : Type} (name : Field → String) (field : Option Field) : Json :=
    .ofOption (fun value => .ofText (name value)) field
  .record [
    ("resource_type", choice ResourceType.name filter.resourceType),
    ("resource_name", .ofOption .ofText filter.resourceName),
    ("pattern_type", choice PatternType.name filter.patternType),
    ("principal", .ofOption .ofText filter.principal),
    ("host", .ofOption .ofText filter.host),
    ("operation", choice Operation.name filter.operation),
    ("permission_type", choice Effect.name filter.effect)]

def ofJson (json : Json) : Option BindingFilter := do
  let fields ← json.asRecord Binding.fieldNames
  some {
    resourceType := ←
      fields.nullable "resource_type" (Json.asChoice ResourceType.name ResourceType.all)
    resourceName := ← fields.nullable "resource_name" Json.asText
    patternType := ←
      fields.nullable "pattern_type" (Json.asChoice PatternType.name PatternType.all)
    principal := ← fields.nullable "principal" Json.asText
    host := ← fields.nullable "host" Json.asText
    operation := ← fields.nullable "operation" (Json.asChoice Operation.name Operation.every)
    effect := ← fields.nullable "permission_type" (Json.asChoice Effect.name Effect.all) }

end BindingFilter

end BrokerTenancy
