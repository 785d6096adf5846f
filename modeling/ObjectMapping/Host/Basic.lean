/-
This file reads the types that are declared next to the mappers: structs with named fields and enums
without data, both without parameters, with what their `impl` blocks give access to.
-/

import ObjectMapping.Host.Accessor
import ObjectMapping.Host.FieldOption
import ObjectMapping.Schema.Build

namespace ObjectMapping

open Source

/-- The declared types. -/
structure Host where
  schema : Schema
  /-- The properties whose getters lend them, by the struct that declares them. -/
  lentProperties : List (TypeId × String)
  deriving Repr

namespace Host

/-- A declaration that becomes a type of the schema. -/
inductive Declaration
  | struct (name : String) (fields : List Field)
  | enum (name : String) (variants : List String)

namespace Declaration

def name : Declaration → String
  | .struct name _ => name
  | .enum name _ => name

/-- The declaration that an item makes, if it makes one. -/
def ofItem? : Item → Option Declaration
  | .struct item =>
      if item.isGeneric then none else item.fields.map (Declaration.struct item.name)
  | .enum item =>
      if item.isGeneric || item.variants.any (fun variant => !variant.isUnit) then none
      else some (.enum item.name (item.variants.map (·.name)))
  | _ => none

end Declaration

def isMarkerType (type : WrittenType) : Bool :=
  type.head?.any fun head => head.last == "PhantomData"

/-- The member that a field declares. A field that cannot be reached is neither readable nor settable;
markers and the field that holds the base carry no data of their own. -/
def fieldMember (names : TypeNames) (base : Option TypeId) (field : Field) (required : Bool) :
    MemberSpec :=
  let type := TypeRef.ofWritten names field.type
  { name := field.name
    type := type
    kind := .field
    readable := field.isPublic
    settable := field.isPublic
    required := required
    system := isMarkerType field.type || base.any fun id => type == .named id }

def fieldMembers (names : TypeNames) (base : Option TypeId) :
    List Field → Except Problem (List MemberSpec)
  | [] => .ok []
  | field :: rest => do
      let required ← isRequired false field.attributes
      let others ← fieldMembers names base rest
      .ok (fieldMember names base field required :: others)

def Property.member (property : Property) (required : Bool) : MemberSpec :=
  ⟨property.name, property.type, .property, property.readable, property.settable, required, false⟩

/-- Adds a property: it stands in for the field of its name, unless that field can be reached. -/
def addProperty (property : Property) : List MemberSpec → List MemberSpec
  | [] => [property.member false]
  | member :: rest =>
      if member.name == property.name then
        (if member.readable then member else property.member member.required) :: rest
      else
        member :: addProperty property rest

/-- The constructors of a struct: its functions, or else the struct literal if every field can be
reached. -/
def constructorsOf (accessors : Accessors) (fields : List Field) : List Constructor :=
  if !accessors.constructors.isEmpty then accessors.constructors
  else if fields.all (·.isPublic) then [.literal]
  else []

def structDefinition (names : TypeNames) (accessors : Accessors) (fields : List Field) :
    Except Problem StructDefinition := do
  let members ← fieldMembers names accessors.base fields
  .ok ⟨accessors.base, accessors.properties.foldl (fun all property => addProperty property all) members,
    constructorsOf accessors fields⟩

/-- The definition that a declaration gives; accessors belong to the first declaration of a name. -/
def definition (names : TypeNames) (items : List Item) (earlier : List String) :
    Declaration → Except Problem (Definition × List String)
  | .struct name fields => do
      let accessors := if earlier.contains name then .none else accessorsOf names items name
      let body ← structDefinition names accessors fields
      .ok (.struct body, (accessors.properties.filter (·.lent)).map (·.name))
  | .enum _ variants => .ok (.enum variants, [])

/-- The names of the struct declarations in front of each declaration. -/
def withEarlier (earlier : List String) : List Declaration → List (List String × Declaration)
  | [] => []
  | .struct name fields :: rest =>
      (earlier, .struct name fields) :: withEarlier (name :: earlier) rest
  | .enum name variants :: rest => (earlier, .enum name variants) :: withEarlier earlier rest

/-- A declared name with its definition and the properties that its getters lend. -/
structure Entry where
  id : TypeId
  definition : Definition
  lent : List String

def entry (draft : SchemaDraft) (items : List Item) (earlier : List String)
    (declaration : Declaration) : Except (List Problem) (Option Entry) :=
  match draft.typeId? declaration.name with
  | none => .ok none
  | some id =>
      match definition draft.typeId? items earlier declaration with
      | .error problem => .error [problem]
      | .ok (body, lent) => .ok (some ⟨id, body, lent⟩)

/-- The types that the items declare. Wrong options of all structs are reported together, what is wrong
with the schema as a whole at the start of the text. -/
def ofItems (items : List Item) : Except (List Problem) Host := do
  let declarations := items.filterMap Declaration.ofItem?
  let draft := declarations.foldl (fun draft declaration => (draft.declare declaration.name).1)
    SchemaDraft.empty
  let found ← (Checked.gather ((withEarlier [] declarations).map fun (earlier, declaration) =>
    entry draft items earlier declaration)).toExcept
  let entries := found.filterMap id
  let defined := entries.foldl (fun draft entry => draft.define entry.id entry.definition) draft
  match defined.build with
  | .ok schema =>
      .ok ⟨schema, entries.flatMap fun entry => entry.lent.map fun name => (entry.id, name)⟩
  | .error fault => .error [⟨Location.startOfText, .fault fault⟩]

def names (host : Host) : TypeNames := fun name => (host.schema.typeNamed? name).map (·.id)

/-- The chain from a struct over its bases, at most as many as there are types. -/
def baseChain (host : Host) : Nat → Option TypeId → List TypeId
  | 0, _ => []
  | _ + 1, none => []
  | budget + 1, some id =>
      id :: host.baseChain budget (((host.schema.get? id).bind (·.struct?)).bind (·.base))

/-- Whether the getter behind a property lends its value; an inherited property is looked up on the base
that declares it. -/
def isLent (host : Host) (owner : TypeId) (member : String) : Bool :=
  (host.baseChain (host.schema.types.length + 1) (some owner)).any fun id =>
    host.lentProperties.contains (id, member)

end Host

end ObjectMapping
