/-
This file takes the places out of phrases. What declared types and their options are read as depends on the text of
the phrases alone, and not on where they stand.
-/

import ObjectMapping.Proofs.Host.Offered
import ObjectMapping.Proofs.Host.Basic

namespace ObjectMapping

namespace Source

def Token.unplaced (token : Token) : Token := ⟨token.lexeme, .startOfText⟩

@[simp]
theorem Token.unplaced_lexeme (token : Token) : token.unplaced.lexeme = token.lexeme := rfl

def WrittenType.unplaced : WrittenType → WrittenType
  | .grouped tokens inner => .grouped (tokens.map (·.unplaced)) inner.unplaced
  | .reference tokens isMutable target => .reference (tokens.map (·.unplaced)) isMutable target.unplaced
  | .slice tokens element => .slice (tokens.map (·.unplaced)) element.unplaced
  | .path tokens head => .path (tokens.map (·.unplaced)) head
  | .application tokens head argument => .application (tokens.map (·.unplaced)) head argument.unplaced
  | .other tokens => .other (tokens.map (·.unplaced))

def Pattern.unplaced : Pattern → Pattern
  | .name tokens binder => .name (tokens.map (·.unplaced)) binder
  | .typed tokens inner => .typed (tokens.map (·.unplaced)) inner.unplaced
  | .reference tokens inner => .reference (tokens.map (·.unplaced)) inner.unplaced
  | .wild tokens => .wild (tokens.map (·.unplaced))
  | .rest tokens => .rest (tokens.map (·.unplaced))
  | .openRange tokens => .openRange (tokens.map (·.unplaced))
  | .other tokens => .other (tokens.map (·.unplaced))

def FunctionInput.unplaced : FunctionInput → FunctionInput
  | .receiver tokens isReference isMutable => .receiver (tokens.map (·.unplaced)) isReference isMutable
  | .typed tokens pattern type => .typed (tokens.map (·.unplaced)) pattern.unplaced type.unplaced

def Signature.unplaced (signature : Signature) : Signature where
  tokens := signature.tokens.map (·.unplaced)
  qualifiers := signature.qualifiers.map (·.unplaced)
  name := signature.name
  nameLocation := .startOfText
  generics := signature.generics.map (·.unplaced)
  isGeneric := signature.isGeneric
  inputs := signature.inputs.map (·.unplaced)
  inputTokens := signature.inputTokens.map (·.unplaced)
  result := signature.result.map (·.unplaced)
  resultTokens := signature.resultTokens.map (·.unplaced)
  bounds := signature.bounds.map (·.unplaced)

def ImplMember.unplaced : ImplMember → ImplMember
  | .function isPublic signature => .function isPublic signature.unplaced
  | .type name written => .type name written.unplaced
  | .other => .other

def AttributeForm.unplaced : AttributeForm → AttributeForm
  | .bare => .bare
  | .value _ => .value .startOfText
  | .list arguments _ => .list (arguments.map (·.unplaced)) .startOfText

def Attribute.unplaced (written : Attribute) : Attribute := ⟨written.head, .startOfText, written.form.unplaced⟩

def Field.unplaced (field : Field) : Field :=
  ⟨field.name, field.isPublic, field.type.unplaced, field.attributes.map (·.unplaced)⟩

def StructItem.unplaced (item : StructItem) : StructItem :=
  ⟨item.name, item.isGeneric, item.fields.map fun fields => fields.map (·.unplaced)⟩

def ImplItem.unplaced (item : ImplItem) : ImplItem :=
  ⟨item.isGeneric, item.owner.unplaced, item.trait, item.members.map (·.unplaced)⟩

@[simp]
theorem tokensText_unplaced (tokens : List Token) : tokensText (tokens.map (·.unplaced)) = tokensText tokens := by
  rw [tokensText, List.map_map]
  rfl

@[simp]
theorem WrittenType.head?_unplaced (type : WrittenType) : type.unplaced.head? = type.head? := by
  cases type <;> rfl

@[simp]
theorem WrittenType.ident?_unplaced (type : WrittenType) : type.unplaced.ident? = type.ident? := by
  rw [ident?, head?_unplaced, ident?]

@[simp]
theorem Attribute.isNamed_unplaced (written : Attribute) (name : String) :
    written.unplaced.isNamed name = written.isNamed name := rfl

end Source

open Source

namespace TypeRef

variable (names : TypeNames)

@[simp]
theorem ofWritten_unplaced (type : WrittenType) : ofWritten names type.unplaced = ofWritten names type := by
  -- The argument of a slice owner is read through the slice, as in the definition.
  induction type using ofWritten.induct with
  | case1 tokens inner inductionHypothesis => exact inductionHypothesis
  | case6 tokens head plain other noKind kind inside element isKind inductionHypothesis =>
      unfold WrittenType.unplaced WrittenType.unplaced ofWritten
      simp only [plain, other, noKind, isKind, inductionHypothesis, Bool.false_eq_true, if_false]
  | case7 tokens head argument plain other noKind noSlice =>
      have stillNoSlice (kind : CollectionKind) (inside : List Token) (element : WrittenType)
          (isKind : CollectionKind.ofSliceOwner? head.last = some kind) :
          argument.unplaced ≠ .slice inside element := by
        cases argument with
        | slice => exact fun _ => noSlice kind _ _ isKind rfl
        | _ => simp [WrittenType.unplaced]
      rw [WrittenType.unplaced, ofWritten.eq_4 _ _ _ _ stillNoSlice, ofWritten.eq_4 _ _ _ _ noSlice]
      simp only [plain, other, noKind, tokensText_unplaced, Bool.false_eq_true, if_false]
  | case2 | case8 | case9 | case10 => simp only [WrittenType.unplaced, ofWritten, tokensText_unplaced]
  | _ =>
      unfold WrittenType.unplaced ofWritten
      simp only [*, tokensText_unplaced, if_true]

@[simp]
theorem ofGetter_unplaced (type : WrittenType) : ofGetter names type.unplaced = ofGetter names type := by
  cases type with
  | reference tokens isMutable target =>
      simp only [WrittenType.unplaced, ofGetter, WrittenType.ident?_unplaced, ofWritten_unplaced]
  | grouped | slice | path | application | other => exact congrArg (·, false) (ofWritten_unplaced names _)

end TypeRef

namespace Host

/-- Options that are read require the member, as there is no other option. -/
theorem readOptions_ok {closing : Location} {before required : Bool} {tokens : List Token}
    (read : readOptions closing before tokens = .ok required) : required = true := by
  have done (ended : Except.ok true = (Except.ok required : Except Problem Bool)) : required = true :=
    (Except.ok.inj ended).symm
  unfold readOptions at read
  split at read
  · cases read
  · split at read
    · cases read
    · split at read
      · cases read
      · split at read
        · exact done read
        · split at read
          · split at read
            · exact done read
            · split at read
              · exact readOptions_ok read
              · exact done read
          · cases read
  termination_by tokens.length

end Host

/-- Whether the attribute has options in it. -/
def Source.Attribute.hasOptions (written : Attribute) : Bool :=
  written.isNamed Host.optionAttribute &&
    match written.form with
    | .list (_ :: _) _ => true
    | _ => false

@[simp]
theorem Source.Attribute.hasOptions_unplaced (written : Attribute) :
    written.unplaced.hasOptions = written.hasOptions := by
  obtain ⟨head, location, form⟩ := written
  cases form with
  | list arguments closing => cases arguments <;> rfl
  | bare | value => rfl

namespace Host

/-- A field is required where one of its attributes has options. -/
theorem isRequired_ok {before required : Bool} {attributes : List Attribute}
    (read : isRequired before attributes = .ok required) : required = (before || attributes.any (·.hasOptions)) := by
  induction attributes generalizing before with
  | nil =>
      cases read
      exact (Bool.or_false _).symm
  | cons first rest inductionHypothesis =>
      rw [List.any_cons]
      unfold isRequired at read
      split at read
      · next named =>
          split at read
          · cases read
          · cases read
          · next isForm => simpa [Attribute.hasOptions, isForm] using inductionHypothesis read
          · next arguments closing notEmpty isForm =>
              split at read
              · cases read
              · next isRequiredNow isRead =>
                  rw [inductionHypothesis read, readOptions_ok isRead]
                  cases arguments with
                  | nil => exact absurd rfl notEmpty
                  | cons => simp [Attribute.hasOptions, named, isForm]
      · next other => simpa [Attribute.hasOptions, other] using inductionHypothesis read

variable (names : TypeNames) (owner : String)

@[simp]
theorem parameterName_unplaced (pattern : Pattern) : parameterName pattern.unplaced = parameterName pattern := by
  induction pattern with
  | typed tokens inner inductionHypothesis | reference tokens inner inductionHypothesis => exact inductionHypothesis
  | name | wild | rest | openRange | other => rfl

@[simp]
theorem typedInputs_unplaced (signature : Signature) : typedInputs signature.unplaced =
    (typedInputs signature).map fun (pattern, type) => (pattern.unplaced, type.unplaced) := by
  rw [typedInputs, Signature.unplaced, List.filterMap_map, typedInputs, List.map_filterMap]
  refine List.filterMap_congr fun input _ => ?_
  cases input <;> rfl

@[simp]
theorem receiver?_unplaced (signature : Signature) :
    signature.unplaced.receiver? = signature.receiver?.map (·.unplaced) := by
  unfold Signature.receiver? Signature.unplaced
  cases signature.inputs with
  | nil => rfl
  | cons first rest => cases first <;> rfl

@[simp]
theorem isOwnType_unplaced (type : WrittenType) : isOwnType owner type.unplaced = isOwnType owner type := by
  rw [isOwnType, WrittenType.ident?_unplaced, isOwnType]

/-- Functions have their roles wherever they stand. -/
@[simp]
theorem accessorRole?_unplaced (signature : Signature) :
    accessorRole? names owner signature.unplaced = accessorRole? names owner signature := by
  have isName : signature.unplaced.name = signature.name := rfl
  have isResult : signature.unplaced.result = signature.result.map (·.unplaced) := rfl
  unfold accessorRole?
  rw [receiver?_unplaced, isResult, typedInputs_unplaced, isName]
  cases signature.result with
  | none =>
      cases signature.receiver? with
      | none => rfl
      | some receiver =>
          cases receiver with
          | typed => rfl
          | receiver tokens isReference isMutable =>
              cases typedInputs signature with
              | nil => cases isReference <;> cases isMutable <;> rfl
              | cons first rest => cases isReference <;> cases isMutable <;> cases rest <;>
                  simp [FunctionInput.unplaced]
  | some result =>
      cases signature.receiver? with
      | none => simp [Function.comp_def]
      | some receiver =>
          cases receiver with
          | typed => rfl
          | receiver tokens isReference isMutable =>
              cases isReference <;> cases isMutable <;> cases typedInputs signature <;> simp [FunctionInput.unplaced]

@[simp]
theorem offered?_unplaced (member : ImplMember) : member.unplaced.offered? = member.offered?.map (·.unplaced) := by
  cases member with
  | function isPublic signature =>
      have isGeneric : signature.unplaced.isGeneric = signature.isGeneric := rfl
      cases isPublic with
      | false => rfl
      | true =>
          rw [ImplMember.unplaced, ImplMember.offered?, isGeneric, ImplMember.offered?]
          split <;> rfl
  | type | other => rfl

@[simp]
theorem isMarkerType_unplaced (type : WrittenType) : isMarkerType type.unplaced = isMarkerType type := by
  rw [isMarkerType, WrittenType.head?_unplaced, isMarkerType]

@[simp]
theorem fieldMember_unplaced (base : Option TypeId) (field : Field) (required : Bool) :
    fieldMember names base field.unplaced required = fieldMember names base field required := by
  simp [fieldMember, Field.unplaced]

/-- Fields that are accepted become the same members wherever they stand. -/
theorem fieldMembers_unplaced {base : Option TypeId} {fields others : List Field}
    {members otherMembers : List MemberSpec}
    (alike : fields.map (·.unplaced) = others.map (·.unplaced)) (made : fieldMembers names base fields = .ok members)
    (otherMade : fieldMembers names base others = .ok otherMembers) : members = otherMembers := by
  have ofFields {fields : List Field} {members : List MemberSpec}
      (made : fieldMembers names base fields = .ok members) : members = (fields.map (·.unplaced)).map fun field =>
        fieldMember names base field (field.attributes.any (·.hasOptions)) := by
    rw [List.map_map]
    refine (List.map_id _).symm.trans (forall₂_map_eq (fieldMembers_read made) fun field spec => ?_)
    rintro ⟨required, isRead, rfl⟩
    rw [isRequired_ok isRead, Bool.false_or, Function.comp_apply, fieldMember_unplaced, Field.unplaced, List.any_map]
    simp only [Function.comp_def, Attribute.hasOptions_unplaced, id_eq]
  rw [ofFields made, ofFields otherMade, alike]

end Host

end ObjectMapping
