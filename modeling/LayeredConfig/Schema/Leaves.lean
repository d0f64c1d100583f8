import LayeredConfig.Json.Basic

/-!
# Leaf descriptors

A document is described by the paths of its leaves with a coarse type label each, sorted by path.
Objects are descended into; arrays, empty objects and scalars are leaves.
-/
set_option autoImplicit false

namespace LayeredConfig

structure LeafDescriptor where
  path : String
  kind : String
deriving DecidableEq, Repr

namespace LeafDescriptor

/-- The label of all elements, `any` when there are none or they differ. -/
def commonLabel : List String → String
  | [] => "any"
  | label :: rest => if rest.all (· = label) then label else "any"

def numberLabel : Number → String
  | .int value => if value ≤ Number.maxSigned then "int" else "uint"
  | .double _ => "float"

mutual

def kindLabel : Json → String
  | .null => "nil"
  | .bool _ => "bool"
  | .number value => numberLabel value
  | .string _ => "string"
  | .array items => "[]" ++ commonLabel (itemLabels items)
  | .object members => "map[string]" ++ commonLabel (memberLabels members)

def itemLabels : List Json → List String
  | [] => []
  | item :: rest => kindLabel item :: itemLabels rest

def memberLabels : List (String × Json) → List String
  | [] => []
  | (_, value) :: rest => kindLabel value :: memberLabels rest

end

/-- A path extended by a key; the key alone where the path is still empty. -/
def extend (path key : String) : String :=
  if path = "" then key else path ++ "." ++ key

mutual

/-- The leaves below a node whose path is `path`, in key order. A leaf without a path is not
reported. -/
def leaves (path : String) : Json → List LeafDescriptor
  | .object ((key, value) :: rest) =>
      leaves (extend path key) value ++ memberLeaves path rest
  | leaf => if path = "" then [] else [⟨path, kindLabel leaf⟩]

def memberLeaves (path : String) : List (String × Json) → List LeafDescriptor
  | [] => []
  | (key, value) :: rest => leaves (extend path key) value ++ memberLeaves path rest

end

/-- Descriptors in the order of their paths; equal paths stay in key order. -/
def sortByPath (fields : List LeafDescriptor) : List LeafDescriptor :=
  fields.mergeSort fun a b => compare a.path b.path != .gt

def ofDocument (document : Json) : List LeafDescriptor :=
  sortByPath (leaves "" document)

def toJson (field : LeafDescriptor) : Json :=
  .object [("path", .string field.path), ("type", .string field.kind)]

end LeafDescriptor

end LayeredConfig
