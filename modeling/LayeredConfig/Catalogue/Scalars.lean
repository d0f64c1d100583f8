import LayeredConfig.Snapshot.Type

/-!
# Common scalar types and fields

Short names for the types that declarations use most.
-/
set_option autoImplicit false

namespace LayeredConfig.Catalogue

open Snapshot

def bool : Ty := .scalar .bool

def text : Ty := .scalar .text

def character : Ty := .scalar .char

def double : Ty := .scalar .double

def single : Ty := .scalar .single

def duration : Ty := .scalar .duration

def unit : Ty := .scalar .unit

def unsigned (bits : Nat) : Ty := .scalar (.ofRange (.unsigned bits))

def signed (bits : Nat) : Ty := .scalar (.ofRange (.signed bits))

/-- Sixty-four-bit integers of which only those that are not negative can be written. -/
def writtenUnlessNegative : Ty :=
  .scalar (.int (.signed 64) ⟨0, Number.maxSigned⟩)

def mapOf (value : Ty) : Ty := .map .text value

/-- A field whose type refers to no declaration outside of options, lists and maps. -/
def field (name : String) (type : Ty) : Field :=
  { name, type, blank := type.blank fun _ => none }

def optional (name : String) (content : Ty) : Field :=
  field name (.option content)

def nested (name typeName : String) (blank : Value) : Field :=
  { name, type := .named typeName, blank }

def renamed (key : String) (field : Field) : Field :=
  { field with rename := some key }

def replaced (field : Field) : Field :=
  { field with type := .replaced field.type, blank := .frozen field.blank }

def withPresence (presence : Presence) (field : Field) : Field :=
  { field with presence }

def itemRecord (fields : List Field) : Record :=
  { fields, layout := .items }

end LayeredConfig.Catalogue
