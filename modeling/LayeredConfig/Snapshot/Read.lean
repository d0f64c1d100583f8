import LayeredConfig.Path.Segments
import LayeredConfig.Snapshot.Decimal

/-!
# Reading snapshots

Reading goes down the document, one level at a time. A level offers a reader for each of its parts,
and the type says how the parts are to be read. Records are read from objects, where unknown members
are ignored, or from arrays of their fields; a missing member is an unset option or a default.
-/
set_option autoImplicit false

namespace LayeredConfig.Snapshot

abbrev Reader := Ty → Option Value

/-- One level of a document, with a reader for each part. -/
inductive Node where
  | null
  | bool (value : Bool)
  | number (value : Number)
  | string (value : String)
  | items (readers : List Reader)
  | members (readers : List (String × Reader))

def Node.items? : Node → Option (List Reader)
  | .items readers => some readers
  | _ => none

def Node.members? : Node → Option (List (String × Reader))
  | .members readers => some readers
  | _ => none

def readInt (range : IntRange) (reader : Reader) : Option Nat :=
  match reader (.scalar (.ofRange range)) with
  | some (.atom (.int value)) => some value.toNat
  | _ => none

def nanosPerSecond : Nat := 1000000000

/-- The longest duration in whole seconds, the last of the unsigned 64-bit range. -/
def maxSeconds : Nat := 18446744073709551615

/-- A duration of at least a second's worth of nanoseconds carries into the seconds. -/
def carryDuration (seconds nanoseconds : Nat) : Option Atom :=
  let total := seconds + nanoseconds / nanosPerSecond
  if total ≤ maxSeconds then some (.duration total (nanoseconds % nanosPerSecond)) else none

def readDuration (seconds nanoseconds : Reader) : Option Atom :=
  match readInt (.unsigned 64) seconds, readInt (.unsigned 32) nanoseconds with
  | some seconds, some nanoseconds => carryDuration seconds nanoseconds
  | _, _ => none

def Scalar.read : Scalar → Node → Option Atom
  | .unit, .null => some .unit
  | .bool, .bool value => some (.bool value)
  | .int range _, .number (.int value) => if range.contains value then some (.int value) else none
  | .double, .number (.int value) => some (.double (.ofInt value))
  | .double, .number (.double value) => some (.double value)
  | .single, .number (.int value) => some (.double (.singleOfInt value))
  | .single, .number (.double value) => some (.double value.toSingle)
  | .char, .string value => if value.toList.length = 1 then some (.text value) else none
  | .text, .string value => some (.text value)
  | .duration, .items [seconds, nanoseconds] => readDuration seconds nanoseconds
  | .duration, .members [("nanos", nanoseconds), ("secs", seconds)] =>
      readDuration seconds nanoseconds
  | _, _ => none

def KeyKind.accepts : KeyKind → String → Bool
  | .text, _ => true
  | .char, key => key.toList.length = 1
  | .int range, key => (range.canonical? key).isSome
  | .among names, key => names.contains key

/-- The value of a type where its member is missing: only options have one. -/
def Ty.missing? : Ty → Option Value
  | .option _ => some .absent
  | .box content => content.missing?.map .held
  | .replaced content => content.missing?.map .frozen
  | _ => none

def readTuple : List Reader → List Ty → Option (List Value)
  | [], [] => some []
  | reader :: readers, type :: types =>
      match reader type, readTuple readers types with
      | some value, some others => some (value :: others)
      | _, _ => none
  | _, _ => none

def readEntries (keys : KeyKind) (type : Ty) :
    List (String × Reader) → Option (List (String × Value))
  | [] => some []
  | (key, reader) :: rest =>
      if keys.accepts key then
        match reader type, readEntries keys type rest with
        | some value, some others => some ((key, value) :: others)
        | _, _ => none
      else none

def Record.readMember (declared : Record) (members : List (String × Reader)) (field : Field) :
    Option Value :=
  match field.presence with
  | .skipped => some field.blank
  | _ =>
      match Members.find? (field.memberKey declared.keyRule) members with
      | some reader => reader field.type
      | none => if declared.defaulted then some field.blank else field.type.missing?

def Record.ownKey? (declared : Record) (field : Field) : Option String :=
  match field.presence with
  | .skipped | .flattened => none
  | _ => some (field.memberKey declared.keyRule)

def Record.leftOver (declared : Record) (members : List (String × Reader)) :
    List (String × Reader) :=
  members.filter fun member => !(declared.fields.filterMap declared.ownKey?).contains member.1

def Record.flattens (declared : Record) : Bool :=
  declared.fields.any fun field => field.presence = .flattened

/-- Read a record's fields from the members that are left. The members that its fields take are gone
afterwards; where the record cannot be read, those are gone that were read before it failed. -/
def Record.readLeft (declared : Record) (left : List (String × Reader)) :
    Option (List Value) × List (String × Reader) :=
  let fails (member : String × Reader) : Bool :=
    declared.fields.any fun field => declared.ownKey? field = some member.1 &&
      (member.2 field.type).isNone
  match left.span fun member => !fails member with
  | (read, []) => (declared.fields.mapM (declared.readMember left), declared.leftOver read)
  | (read, _ :: unread) => (none, declared.leftOver read ++ unread)

def memberDocument? (member : String × Reader) : Option (String × Json) :=
  match member.2 .json with
  | some (.dynamic document) => some (member.1, document)
  | _ => none

def findsObject (reader : Reader) : Bool :=
  (reader (.map .text .json)).isSome

/-- Read one level as an enumeration: the name of an alternative that holds nothing, or an object
with the alternative as its only member. -/
def readAlternative (alternatives : List Alternative) : Node → Option Value
  | .string text =>
      match alternatives.find? fun alternative => alternative.name = text with
      | some ⟨name, .nothing⟩ => some (.variant name (.product []))
      | _ => none
  | .members [(text, reader)] =>
      match alternatives.find? fun alternative => alternative.name = text with
      | some ⟨name, .nothing⟩ =>
          (reader (.scalar .unit)).map fun _ => .variant name (.product [])
      | some ⟨name, .value type⟩ => (reader type).map (.variant name)
      | some ⟨name, .fields type⟩ =>
          if findsObject reader then (reader type).map (.variant name) else none
      | none => none
  | _ => none

/-- Read a flattened field from the members that are left, and say which are left after it; `atName` does
so by a declared type. A map or a document has all members that are left, and leaves them to others. -/
def readFlattenedIn (left : List (String × Reader))
    (atName : String → Option Value × List (String × Reader)) :
    Ty → Option Value × List (String × Reader)
  | .scalar .unit => (some (.atom .unit), left)
  | .option content =>
      let inner := readFlattenedIn left atName content
      (some (inner.1.elim .absent .present), inner.2)
  | .box content | .newtype content =>
      let inner := readFlattenedIn left atName content
      (inner.1.map .held, inner.2)
  | .replaced content =>
      let inner := readFlattenedIn left atName content
      (inner.1.map .frozen, inner.2)
  | .map keys type => ((readEntries keys type left).map .map, left)
  | .json => (some (.dynamic (.object (left.filterMap memberDocument?))), left)
  | .named name => atName name
  | _ => (none, left)

/-- Read a flattened field of a declared type. A record takes the members of its fields, an enumeration
the first that names an alternative. -/
def readFlattenedName (declarations : Declarations) (left : List (String × Reader)) (name : String) :
    Option Value × List (String × Reader) :=
  match declarations name with
  | some (.record inner) =>
      if inner.form = .container ∧ inner.layout = .members ∧ !inner.flattens then
        let read := inner.readLeft left
        (read.1.map .product, read.2)
      else (none, left)
  | some (.enumeration alternatives _ .external) =>
      match left.span fun member => !alternatives.any fun choice => choice.name = member.1 with
      | (others, chosen :: rest) =>
          (readAlternative alternatives (.members [chosen]), others ++ rest)
      | (_, []) => (none, left)
  | some (.newtype inner) =>
      let read := readFlattenedIn left (fun _ => (none, left)) inner.content
      (read.1.map .held, read.2)
  | _ => (none, left)

def readFlattened (declarations : Declarations) (left : List (String × Reader)) :
    Ty → Option Value × List (String × Reader) :=
  readFlattenedIn left (readFlattenedName declarations left)

/-- Read the fields of a record from an object; `left` are the members for flattened fields. -/
def Record.readMembers (declarations : Declarations) (declared : Record)
    (members : List (String × Reader)) :
    List (String × Reader) → List Field → Option (List Value)
  | _, [] => some []
  | left, field :: rest =>
      let (value, left) :=
        match field.presence with
        | .flattened => readFlattened declarations left field.type
        | _ => (declared.readMember members field, left)
      match value, declared.readMembers declarations members left rest with
      | some value, some others => some (value :: others)
      | _, _ => none

/-- Read the fields of a record from a list with one item for each field that is not skipped. Items
at the end may be missing where the record has defaults. -/
def Record.readItems (declared : Record) : List Field → List Reader → Option (List Value)
  | [], [] => some []
  | [], _ :: _ => none
  | field :: rest, readers =>
      match field.presence, readers with
      | .skipped, readers => (declared.readItems rest readers).map (field.blank :: ·)
      | _, reader :: readers =>
          match reader field.type, declared.readItems rest readers with
          | some value, some others => some (value :: others)
          | _, _ => none
      | _, [] =>
          if declared.defaulted then (declared.readItems rest []).map (field.blank :: ·) else none

def Field.readDot (field : Field) (text : List Char) : Option Value :=
  match field.type with
  | .scalar (.int range _) => (range.loose? text).map fun value => .atom (.int value)
  | _ => none

/-- Integers with dots between them, one for each field. The last field takes the rest of the
text. -/
def readDotted : List Field → List Char → Option (List Value)
  | [], _ => none
  | [field], text => (field.readDot text).map fun value => [value]
  | field :: next :: rest, text =>
      match text.dropWhile (· ≠ '.') with
      | _ :: after =>
          match field.readDot (text.takeWhile (· ≠ '.')), readDotted (next :: rest) after with
          | some value, some others => some (value :: others)
          | _, _ => none
      | [] => none

def Record.read (declarations : Declarations) (declared : Record) (node : Node) :
    Option (List Value) :=
  match declared.form, declared.layout, node with
  | .dotted, _, .string text => readDotted declared.fields text.toList
  | .container, .members, .members members =>
      declared.readMembers declarations members (declared.leftOver members) declared.fields
  | .container, _, .items readers =>
      if declared.flattens then none else declared.readItems declared.fields readers
  | _, _, _ => none

/-- Read one level as an enumeration with the alternative and what it holds beside each other. -/
def readBeside (alternatives : List Alternative) (tag content : Reader) : Option Value :=
  match tag (.scalar .text) with
  | some (.atom (.text text)) =>
      match alternatives.find? fun alternative => alternative.name = text with
      | some ⟨name, .nothing⟩ => (content (.scalar .unit)).map fun _ => .variant name (.product [])
      | some ⟨name, .value type⟩ | some ⟨name, .fields type⟩ => (content type).map (.variant name)
      | none => none
  | _ => none

/-- Read what is missing: an alternative that holds nothing has no contents. -/
def readMissing : Reader
  | .scalar .unit => some (.atom .unit)
  | type => type.missing?

def readAdjacent (alternatives : List Alternative) (tag content : String) : Node → Option Value
  | .members members =>
      (Members.find? tag members).bind fun tagged =>
        readBeside alternatives tagged ((Members.find? content members).getD readMissing)
  | .items [tagged, held] => readBeside alternatives tagged held
  | _ => none

structure Level where
  document : Json
  node : Node

/-- A level without a tag, with the reader of the tag: an object without that member, or an array without
its first item. -/
def Level.untag? (level : Level) (tag : String) : Option (Reader × Level) :=
  match level.document, level.node with
  | .object members, .members readers =>
      (Members.find? tag readers).map fun tagged =>
        (tagged, ⟨.object (members.filter fun member => member.1 ≠ tag),
          .members (readers.filter fun member => member.1 ≠ tag)⟩)
  | .array (_ :: items), .items (tagged :: readers) => some (tagged, ⟨.array items, .items readers⟩)
  | _, _ => none

/-- Read one level as an enumeration with a tag among the members of what is held; `atLevel` reads that. -/
def readInternal (alternatives : List Alternative) (tag : String)
    (atLevel : Level → Ty → Option Value) (level : Level) : Option Value :=
  (level.untag? tag).bind fun (tagged, held) =>
    readBeside alternatives tagged fun
      | .scalar .unit => some (.atom .unit)
      | type => atLevel held type

/-- Read one level as the first alternative that it can be read as. -/
def readUntagged (alternatives : List Alternative) (atLevel : Ty → Option Value) : Option Value :=
  alternatives.findSome? fun alternative =>
    match alternative.contents with
    | .nothing => (atLevel (.scalar .unit)).map fun _ => .variant alternative.name (.product [])
    | .value type | .fields type => (atLevel type).map (.variant alternative.name)

/-- Read one level as a value of a type; `atName` reads it by a declared type. -/
def Level.readIn (level : Level) (atName : String → Option Value) : Ty → Option Value
  | .scalar kind => (kind.read level.node).map .atom
  | .option content =>
      if level.document.isNull then some .absent
      else (level.readIn atName content).map .present
  | .box content | .newtype content => (level.readIn atName content).map .held
  | .replaced content => (level.readIn atName content).map .frozen
  | .sequence item =>
      (level.node.items?.bind fun readers => readers.mapM fun reader => reader item).map .sequence
  | .array size item =>
      (level.node.items?.bind fun readers =>
        readTuple readers (List.replicate size item)).map .product
  | .tuple items => (level.node.items?.bind fun readers => readTuple readers items).map .product
  | .map keys value =>
      (level.node.members?.bind fun members => readEntries keys value members).map .map
  | .json => some (.dynamic level.document)
  | .named name => atName name

/-- Read one level by a declared type; `atLevel` reads what the alternatives of an enumeration hold at the
same level. -/
def Level.readNamed (level : Level) (declarations : Declarations)
    (atLevel : Level → Ty → Option Value) (name : String) : Option Value :=
  match declarations name with
  | some (.record declared) => (declared.read declarations level.node).map .product
  | some (.newtype declared) => (level.readIn (fun _ => none) declared.content).map .held
  | some (.enumeration alternatives _ .external) => readAlternative alternatives level.node
  | some (.enumeration alternatives _ (.adjacent tag content)) =>
      readAdjacent alternatives tag content level.node
  | some (.enumeration alternatives _ (.internal tag)) =>
      readInternal alternatives tag atLevel level
  | some (.enumeration alternatives _ .untagged) => readUntagged alternatives (atLevel level)
  | none => none

/-- Read one level as what an alternative holds. An enumeration that shows its alternatives at this level
too is not read. -/
def Level.readHeld (declarations : Declarations) (level : Level) : Ty → Option Value :=
  level.readIn (level.readNamed declarations fun _ _ => none)

def Level.read (declarations : Declarations) (level : Level) : Ty → Option Value :=
  level.readIn (level.readNamed declarations (Level.readHeld declarations))

mutual

/-- The value of a type that a document is the written form of. -/
def read (declarations : Declarations) : Json → Reader
  | .null => Level.read declarations ⟨.null, .null⟩
  | .bool value => Level.read declarations ⟨.bool value, .bool value⟩
  | .number value => Level.read declarations ⟨.number value, .number value⟩
  | .string value => Level.read declarations ⟨.string value, .string value⟩
  | .array items =>
      Level.read declarations ⟨.array items, .items (itemReaders declarations items)⟩
  | .object members =>
      Level.read declarations ⟨.object members, .members (memberReaders declarations members)⟩

def itemReaders (declarations : Declarations) : List Json → List Reader
  | [] => []
  | item :: rest => read declarations item :: itemReaders declarations rest

def memberReaders (declarations : Declarations) :
    List (String × Json) → List (String × Reader)
  | [] => []
  | (key, value) :: rest => (key, read declarations value) :: memberReaders declarations rest

end

end LayeredConfig.Snapshot
