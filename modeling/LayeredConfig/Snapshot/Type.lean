import LayeredConfig.Naming
import LayeredConfig.Snapshot.Value

/-!
# Snapshot types

Types are built from scalars, options, boxes, sequences, maps and dynamic documents. Records,
enumerations and newtypes are declared under a name, so that a type may contain itself. A declaration
says how fields are written: under which keys, with which left out, and with which laid into the parent.
-/
set_option autoImplicit false

namespace LayeredConfig.Snapshot

structure IntRange where
  least : Int
  greatest : Int
deriving DecidableEq, Repr

namespace IntRange

def contains (range : IntRange) (value : Int) : Bool :=
  range.least ≤ value && value ≤ range.greatest

def unsigned (bits : Nat) : IntRange := ⟨0, (Nat.pow 2 bits : Nat) - 1⟩

def signed (bits : Nat) : IntRange :=
  ⟨-(Nat.pow 2 (bits - 1) : Nat), (Nat.pow 2 (bits - 1) : Nat) - 1⟩

def exact : IntRange := ⟨Number.minInt, Number.maxInt⟩

end IntRange

/-- The scalars. Integers of `range` can be held, and those of `written` have a written form. -/
inductive Scalar where
  | unit
  | bool
  | int (range written : IntRange)
  | double
  | single
  | char
  | text
  | duration
deriving DecidableEq, Repr

/-- The integers of a range, all of which can be written when a document can hold them. -/
def Scalar.ofRange (range : IntRange) : Scalar :=
  .int range .exact

/-- The keys of a map, of which two are equal only when they are spelled alike: any text, a single
character, an integer, or one of some names. -/
inductive KeyKind where
  | text
  | char
  | int (range : IntRange)
  | among (names : List String)
deriving DecidableEq, Repr

/-- A snapshot type. A `newtype` and a `box` are written as their content; the stronger side of a
`replaced` value wins as a whole; `tuple` lists the types of its items. -/
inductive Ty where
  | scalar (kind : Scalar)
  | option (content : Ty)
  | box (content : Ty)
  | newtype (content : Ty)
  | replaced (content : Ty)
  | sequence (item : Ty)
  | array (size : Nat) (item : Ty)
  | tuple (items : List Ty)
  | map (keys : KeyKind) (value : Ty)
  | json
  | named (name : String)
deriving Repr, Inhabited

inductive Presence where
  /-- Always written, always read. -/
  | always
  /-- Left out of the written form at the values that a test picks out. -/
  | sometimes (skips : Value → Bool)
  /-- Read, never written. -/
  | readOnly
  /-- Neither read nor written. -/
  | skipped
  /-- Its members stand among those of the record. -/
  | flattened

/-- Tests cannot be compared, but whether there is one can be seen. -/
instance Presence.decidableAlways (presence : Presence) : Decidable (presence = .always) :=
  match presence with
  | .always => isTrue rfl
  | .sometimes _ | .readOnly | .skipped | .flattened => isFalse nofun

instance Presence.decidableFlattened (presence : Presence) : Decidable (presence = .flattened) :=
  match presence with
  | .flattened => isTrue rfl
  | .always | .sometimes _ | .readOnly | .skipped => isFalse nofun

structure Field where
  name : String
  type : Ty
  /-- The key in place of the one made from the name. -/
  rename : Option String := none
  presence : Presence := .always
  blank : Value

inductive Layout where
  | members
  | items
deriving DecidableEq, Repr

/-- How a record is written: as the container of its layout, or as integers with dots between. -/
inductive Form where
  | container
  | dotted
deriving DecidableEq, Repr

structure Record where
  fields : List Field
  layout : Layout := .members
  naming : Option NamingRule := none
  /-- Whether missing fields take their blank values. -/
  defaulted : Bool := false
  form : Form := .container

/-- What an alternative of an enumeration holds: nothing, which is an empty product, a value, or the
fields of a record, which are read from an object only. -/
inductive Contents where
  | nothing
  | value (type : Ty)
  | fields (type : Ty)
deriving Repr

structure Alternative where
  name : String
  contents : Contents
deriving Repr

/-- How the written form of an enumeration shows the chosen alternative: as the only member, as a member
among those of what it holds, as a member beside what it holds, or not at all. -/
inductive Tagging where
  | external
  | internal (tag : String)
  | adjacent (tag content : String)
  | untagged
deriving DecidableEq, Repr

/-- Whether a type is a container or a value of its own, and not only a name in some wrapping. -/
def Ty.isBare : Ty → Bool
  | .named _ => false
  | .option content | .box content | .newtype content | .replaced content => content.isBare
  | _ => true

/-- A newtype that its content may refer to by name, as in a tree of trees. A newtype of another declared
type needs no name. One that comes back to itself through options and boxes alone is left out: a path through
it would be described without end. -/
structure Newtype where
  content : Ty
  blank : Value
  bare : content.isBare

/-- A declared type. The blank value of an enumeration is given with it. -/
inductive Declaration where
  | record (record : Record)
  | enumeration (alternatives : List Alternative) (blank : Value) (tagging : Tagging)
  | newtype (declared : Newtype)

abbrev Declarations := String → Option Declaration

/-- The content of a box or a newtype. -/
def Ty.held? (declarations : Declarations) : Ty → Option Ty
  | .box content | .newtype content => some content
  | .named name =>
      match declarations name with
      | some (.newtype declared) => some declared.content
      | _ => none
  | _ => none

namespace Field

def memberKey (naming : Option NamingRule) (field : Field) : String :=
  field.rename.getD ((naming.map fun rule => rule.memberKey field.name).getD field.name)

/-- The key that paths give a field, which a field without a member of its own does not have. -/
def pathKey? (naming : Option NamingRule) (field : Field) : Option String :=
  match field.presence with
  | .readOnly | .skipped | .flattened => none
  | .always | .sometimes _ =>
      some (field.rename.getD ((naming.map fun rule => rule.pathKey field.name).getD field.name))

end Field

/-- The naming rule of a record; the positions of items are never renamed. -/
def Record.keyRule (declared : Record) : Option NamingRule :=
  match declared.layout with
  | .members => declared.naming
  | .items => none

def Scalar.blank : Scalar → Atom
  | .unit => .unit
  | .bool => .bool false
  | .int _ _ => .int 0
  | .double | .single => .double (.zero false)
  | .char => .text "\x00"
  | .text => .text ""
  | .duration => .duration 0 0

def Declaration.blank : Declaration → Value
  | .record declared => .product (declared.fields.map Field.blank)
  | .enumeration _ value _ => value
  | .newtype declared => .held declared.blank

mutual

def Ty.blank (declarations : Declarations) : Ty → Value
  | .scalar kind => .atom kind.blank
  | .option _ => .absent
  | .box content => .held (content.blank declarations)
  | .newtype content => .held (content.blank declarations)
  | .replaced content => .frozen (content.blank declarations)
  | .sequence _ => .sequence []
  | .array size item => .product (List.replicate size (item.blank declarations))
  | .tuple items => .product (blankItems declarations items)
  | .map _ _ => .map []
  | .json => .dynamic .null
  | .named name => ((declarations name).map Declaration.blank).getD (.product [])

def blankItems (declarations : Declarations) : List Ty → List Value
  | [] => []
  | type :: rest => type.blank declarations :: blankItems declarations rest

end

end LayeredConfig.Snapshot
