import LayeredConfig.Json.Members
import LayeredConfig.Snapshot.Decimal

/-!
# Writing snapshots

Options are written as their content or `null`, records as objects or arrays of their fields,
enumerations with or without the name of the chosen alternative. A value whose shape is not that of the type
has no written form, nor has an integer outside the range that its scalar writes.
-/
set_option autoImplicit false

namespace LayeredConfig.Snapshot

def writeDuration (seconds nanoseconds : Nat) : Json :=
  .object [("nanos", .ofInt nanoseconds), ("secs", .ofInt seconds)]

/-- The written form of a scalar. A double that is not finite is written as `null`. -/
def Scalar.write : Scalar → Atom → Option Json
  | .unit, .unit => some .null
  | .bool, .bool value => some (.bool value)
  | .int _ written, .int value => if written.contains value then some (.ofInt value) else none
  | .double, .double value | .single, .double value =>
      some (if value.isFinite then .number (.double value) else .null)
  | .char, .text value | .text, .text value => some (.string value)
  | .duration, .duration seconds nanoseconds => some (writeDuration seconds nanoseconds)
  | _, _ => none

/-- Whether a field is left out of the written form at a value. -/
def Field.omits (field : Field) (value : Value) : Bool :=
  match field.presence with
  | .readOnly | .skipped => true
  | .sometimes skips => skips value
  | .always | .flattened => false

/-- What a field contributes to the object of its record. A flattened field lays its members there:
those of an object, none for what says nothing, and a name for an alternative that holds nothing. -/
def Field.contribute (field : Field) (naming : Option NamingRule) (value : Value) (written : Json) :
    Option (List (String × Json)) :=
  match field.presence, written with
  | .flattened, .object members => some members
  -- A number that is not finite is written as null too, and has no members to lay.
  | .flattened, .null => if value.isDouble then none else some []
  | .flattened, .string chosen => if value.isAlone then some [(chosen, .null)] else none
  | .flattened, _ => none
  | _, _ => some [(field.memberKey naming, written)]

def Tagging.writeAlone (chosen : String) : Tagging → Json
  | .external => .string chosen
  | .internal tag | .adjacent tag _ => .object [(tag, .string chosen)]
  | .untagged => .null

/-- The written form of an alternative, given that of what it holds. A tag inside joins the members of an
object, and one of them may replace it. -/
def Tagging.write (chosen : String) : Tagging → Json → Option Json
  | .external, written => some (.object [(chosen, written)])
  | .internal tag, .object members =>
      some (.object (Members.ofList ((tag, .string chosen) :: members)))
  | .internal _, _ => none
  | .adjacent tag content, written =>
      some (.object (Members.ofList [(tag, .string chosen), (content, written)]))
  | .untagged, written => some written

def intParts : List Value → Option (List Int)
  | [] => some []
  | .atom (.int value) :: rest => (intParts rest).map (value :: ·)
  | _ => none

def dottedText : List Int → List Char
  | [] => []
  | [value] => (Number.intText value).toList
  | value :: rest => (Number.intText value).toList ++ '.' :: dottedText rest

mutual

def write (declarations : Declarations) : Value → Ty → Option Json
  | .atom value, .scalar kind => kind.write value
  | .absent, .option _ => some .null
  | .present value, .option content => write declarations value content
  | .held value, type => (type.held? declarations).bind (write declarations value)
  | .frozen value, .replaced content => write declarations value content
  | .sequence items, .sequence item => (writeItems declarations items item).map .array
  | .product parts, .array _ item => (writeItems declarations parts item).map .array
  | .product parts, .tuple items => (writeTuple declarations parts items).map .array
  | .map entries, .map _ value => (writeEntries declarations entries value).map .object
  | .dynamic document, .json => some document
  | .product parts, .named name =>
      match declarations name with
      | some (.record declared) =>
          match declared.form, declared.layout with
          | .dotted, _ =>
              (intParts parts).map fun values => .string (String.ofList (dottedText values))
          | .container, .members =>
              (writeFields declarations declared.keyRule parts declared.fields).map fun members =>
                .object (Members.ofList members)
          | .container, .items =>
              (writeFields declarations none parts declared.fields).map fun members =>
                .array (members.map Prod.snd)
      | _ => none
  | .variant chosen content, .named name =>
      match declarations name with
      | some (.enumeration alternatives _ tagging) =>
          match alternatives.find? fun alternative => alternative.name = chosen with
          | some ⟨_, .nothing⟩ => some (tagging.writeAlone chosen)
          | some ⟨_, .value type⟩ | some ⟨_, .fields type⟩ =>
              (write declarations content type).bind (tagging.write chosen)
          | none => none
      | _ => none
  | _, _ => none

def writeItems (declarations : Declarations) : List Value → Ty → Option (List Json)
  | [], _ => some []
  | value :: rest, item =>
      match write declarations value item, writeItems declarations rest item with
      | some written, some others => some (written :: others)
      | _, _ => none

def writeTuple (declarations : Declarations) : List Value → List Ty → Option (List Json)
  | [], [] => some []
  | value :: rest, item :: items =>
      match write declarations value item, writeTuple declarations rest items with
      | some written, some others => some (written :: others)
      | _, _ => none
  | _, _ => none

def writeEntries (declarations : Declarations) :
    List (String × Value) → Ty → Option (List (String × Json))
  | [], _ => some []
  | (key, value) :: rest, type =>
      match write declarations value type, writeEntries declarations rest type with
      | some written, some others => some ((key, written) :: others)
      | _, _ => none

def writeFields (declarations : Declarations) (naming : Option NamingRule) :
    List Value → List Field → Option (List (String × Json))
  | [], [] => some []
  | value :: rest, field :: fields =>
      let others := writeFields declarations naming rest fields
      if field.omits value then others
      else
        match (write declarations value field.type).bind (field.contribute naming value), others with
        | some members, some others => some (members ++ others)
        | _, _ => none
  | _, _ => none

end

end LayeredConfig.Snapshot
