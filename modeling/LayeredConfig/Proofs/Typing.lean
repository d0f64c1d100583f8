import LayeredConfig.Catalogue.Basic
import LayeredConfig.Proofs.Snapshots

/-!
# Values of a type

`Value.HasType` says that a value has the shape of a type and keeps what every value of it keeps:
integers lie in their range, nanoseconds stay below a second, maps are sorted by keys that they
accept, and a variant is one of the alternatives.
-/
set_option autoImplicit false

namespace LayeredConfig.Snapshot

/-- The atoms of a scalar. Finite doubles that are kept for single precision are rounded already. -/
def Scalar.Holds : Scalar → Atom → Prop
  | .unit, .unit | .bool, .bool _ | .double, .double _ | .text, .text _ => True
  | .int range _, .int value => range.contains value
  | .single, .double value => value.isFinite → value.toSingle = value
  | .char, .text value => value.toList.length = 1
  | .duration, .duration seconds nanoseconds =>
      seconds ≤ maxSeconds ∧ nanoseconds < nanosPerSecond
  | _, _ => False

def Ty.parts? (declarations : Declarations) : Ty → Option (List Ty)
  | .array size item => some (List.replicate size item)
  | .tuple items => some items
  | .named name =>
      match declarations name with
      | some (.record declared) => some (declared.fields.map Field.type)
      | _ => none
  | _ => none

/-- The type of what an alternative holds. What holds nothing is an empty product. -/
def Contents.type : Contents → Ty
  | .nothing => .tuple []
  | .value type | .fields type => type

inductive Value.HasType (declarations : Declarations) : Value → Ty → Prop
  | atom (kind : Scalar) (value : Atom) (holds : kind.Holds value) :
      HasType declarations (.atom value) (.scalar kind)
  | absent (content : Ty) : HasType declarations .absent (.option content)
  | present (value : Value) (content : Ty) (inside : HasType declarations value content) :
      HasType declarations (.present value) (.option content)
  | held (value : Value) (type content : Ty) (holds : type.held? declarations = some content)
      (inside : HasType declarations value content) : HasType declarations (.held value) type
  | replaced (value : Value) (content : Ty) (inside : HasType declarations value content) :
      HasType declarations (.frozen value) (.replaced content)
  | sequence (items : List Value) (item : Ty)
      (inside : ∀ value ∈ items, HasType declarations value item) :
      HasType declarations (.sequence items) (.sequence item)
  | array (parts : List Value) (size : Nat) (item : Ty) (sized : parts.length = size)
      (inside : ∀ part ∈ parts, HasType declarations part item) :
      HasType declarations (.product parts) (.array size item)
  | tuple (parts : List Value) (items : List Ty) (sized : parts.length = items.length)
      (inside : ∀ part ∈ parts.zip items, HasType declarations part.1 part.2) :
      HasType declarations (.product parts) (.tuple items)
  | record (parts : List Value) (name : String) (declared : Record)
      (known : declarations name = some (.record declared))
      (sized : parts.length = declared.fields.length)
      (inside : ∀ part ∈ declared.fields.zip parts, HasType declarations part.2 part.1.type) :
      HasType declarations (.product parts) (.named name)
  | map (entries : List (String × Value)) (keys : KeyKind) (type : Ty)
      (sorted : Members.Sorted entries) (accepted : ∀ entry ∈ entries, keys.accepts entry.1)
      (inside : ∀ entry ∈ entries, HasType declarations entry.2 type) :
      HasType declarations (.map entries) (.map keys type)
  | variant (content : Value) (name : String) (alternatives : List Alternative) (blank : Value)
      (tagging : Tagging) (chosen : Alternative)
      (known : declarations name = some (.enumeration alternatives blank tagging))
      (found : (alternatives.find? fun other => other.name = chosen.name) = some chosen)
      (inside : HasType declarations content chosen.contents.type) :
      HasType declarations (.variant chosen.name content) (.named name)
  | dynamic (document : Json) (sorted : document.Sorted) :
      HasType declarations (.dynamic document) .json

variable {declarations : Declarations}

theorem merges_part (type part : Ty) (types : List Ty)
    (laid : type.parts? declarations = some types) (member : part ∈ types) :
    type.Merges declarations part := by
  cases type with
  | array size item =>
      have same : types = List.replicate size item := (Option.some.inj laid).symm
      rw [same] at member
      rw [List.eq_of_mem_replicate member]
      exact .array size item
  | tuple items =>
      have same : types = items := (Option.some.inj laid).symm
      exact .tuple items part (same ▸ member)
  | named name =>
      simp only [Ty.parts?] at laid
      split at laid
      · rename_i declared known
        have same : types = declared.fields.map Field.type := (Option.some.inj laid).symm
        rw [same] at member
        obtain ⟨field, inFields, rfl⟩ := List.mem_map.1 member
        exact .field name declared field known inFields
      · cases laid
  | _ => cases laid

theorem no_parts_of_held (type content : Ty) (holds : type.held? declarations = some content) :
    type.parts? declarations = none := by
  rcases held_cases type content holds with rfl | rfl | ⟨name, declared, rfl, known, -⟩
  · rfl
  · rfl
  · simp [Ty.parts?, known]

theorem typed_product (value : Value) (type : Ty) (types : List Ty)
    (laid : type.parts? declarations = some types) (typed : value.HasType declarations type) :
    ∃ parts, value = .product parts ∧ parts.length = types.length ∧
      ∀ (index : Nat) part inner, parts[index]? = some part → types[index]? = some inner →
        part.HasType declarations inner := by
  cases typed with
  | array parts size item sized inside =>
      have same : List.replicate size item = types := Option.some.inj laid
      refine ⟨parts, rfl, by simp [← same, sized], ?_⟩
      intro index part inner partAt innerAt
      have inTypes := List.mem_of_getElem? innerAt
      rw [← same] at inTypes
      rw [List.eq_of_mem_replicate inTypes]
      exact inside part (List.mem_of_getElem? partAt)
  | tuple parts items sized inside =>
      have same : items = types := Option.some.inj laid
      refine ⟨parts, rfl, by rw [sized, same], ?_⟩
      intro index part inner partAt innerAt
      have both : (parts.zip items)[index]? = some (part, inner) := by
        rw [List.getElem?_zip_eq_some, same]
        exact ⟨partAt, innerAt⟩
      exact inside _ (List.mem_of_getElem? both)
  | record parts name declared known sized inside =>
      have same : declared.fields.map Field.type = types := by
        simpa [Ty.parts?, known] using laid
      refine ⟨parts, rfl, by simp [← same, sized], ?_⟩
      intro index part inner partAt innerAt
      rw [← same, List.getElem?_map] at innerAt
      obtain ⟨field, fieldAt, rfl⟩ := Option.map_eq_some_iff.1 innerAt
      have both : (declared.fields.zip parts)[index]? = some (field, part) := by
        rw [List.getElem?_zip_eq_some]
        exact ⟨fieldAt, partAt⟩
      exact inside _ (List.mem_of_getElem? both)
  | held value _ content holds inside => simp [no_parts_of_held type content holds] at laid
  | variant content name alternatives blank tagging chosen known found inside =>
      simp [Ty.parts?, known] at laid
  | _ => cases laid

theorem typed_held (value : Value) (type content : Ty)
    (holds : type.held? declarations = some content) (typed : value.HasType declarations type) :
    ∃ inner, value = .held inner ∧ inner.HasType declarations content := by
  cases typed with
  | held inner _ other otherHolds inside =>
      cases holds.symm.trans otherHolds
      exact ⟨inner, rfl, inside⟩
  | _ =>
      rcases held_cases _ content holds with same | same | ⟨name, declared, same, known, -⟩ <;>
        cases same
      all_goals simp_all

theorem typed_option (value : Value) (content : Ty)
    (typed : value.HasType declarations (.option content)) :
    value = .absent ∨ ∃ inner, value = .present inner ∧ inner.HasType declarations content := by
  cases typed with
  | absent => exact Or.inl rfl
  | present inner _ inside => exact Or.inr ⟨inner, rfl, inside⟩
  | held _ _ _ holds => cases holds

theorem typed_map (value : Value) (keys : KeyKind) (content : Ty)
    (typed : value.HasType declarations (.map keys content)) :
    ∃ entries, value = .map entries ∧ Members.Sorted entries ∧
      ∀ entry ∈ entries, entry.2.HasType declarations content := by
  cases typed with
  | map entries _ _ sorted _ inside => exact ⟨entries, rfl, sorted, inside⟩
  | held _ _ _ holds => cases holds

theorem parts_of_typed_product (parts : List Value) (type : Ty)
    (typed : (Value.product parts).HasType declarations type) :
    ∃ types, type.parts? declarations = some types := by
  cases typed with
  | array => exact ⟨_, rfl⟩
  | tuple => exact ⟨_, rfl⟩
  | record _ name declared known => exact ⟨declared.fields.map Field.type, by simp [Ty.parts?, known]⟩

theorem throughout_retry (holds : Ty → Prop) (record : holds (.named "retry"))
    (option : ∀ kind, holds (.option (.scalar kind))) (scalar : ∀ kind, holds (.scalar kind)) :
    (Ty.named "retry").Throughout Catalogue.declarations holds := by
  have number (kind : Scalar) : (Ty.scalar kind).Throughout Catalogue.declarations holds := by
    apply throughout_of_inside holds _ (scalar kind)
    intro inner merges
    cases merges with
    | held _ _ content => cases content
  have optional (kind : Scalar) :
      (Ty.option (.scalar kind)).Throughout Catalogue.declarations holds := by
    apply throughout_of_inside holds _ (option kind)
    intro inner merges
    cases merges with
    | option => exact number kind
    | held _ _ content => cases content
  apply throughout_of_inside holds _ record
  intro inner merges
  cases merges with
  | field name declared field known member =>
      cases known
      simp only [Catalogue.retry, List.mem_cons, List.not_mem_nil, or_false] at member
      rcases member with rfl | rfl
      · exact optional _
      · exact optional _
  | held _ _ content => cases content

theorem number_typed (bits : Nat) (value : Int) (fits : (IntRange.unsigned bits).contains value) :
    (Value.present (.atom (.int value))).HasType declarations
      (.option (Catalogue.unsigned bits)) :=
  .present _ _ (.atom _ _ fits)

theorem retry_typed (attempts backoff : Value)
    (attemptsTyped : attempts.HasType Catalogue.declarations (.option (Catalogue.unsigned 32)))
    (backoffTyped : backoff.HasType Catalogue.declarations (.option (Catalogue.unsigned 64))) :
    (Value.product [attempts, backoff]).HasType Catalogue.declarations (.named "retry") := by
  apply Value.HasType.record _ _ Catalogue.retry rfl rfl
  simp only [Catalogue.retry, List.zip_cons_cons, List.forall_mem_cons]
  exact ⟨attemptsTyped, backoffTyped, List.forall_mem_nil _⟩

end LayeredConfig.Snapshot
