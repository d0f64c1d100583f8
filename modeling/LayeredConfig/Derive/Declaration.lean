import LayeredConfig.Derive.Attribute
import LayeredConfig.Path.Segments

/-!
# Types to derive

A type as it is declared, and what deriving has to know of it: the layout of its fields, and for each
field its member, its name, its key and whether it is replaced.
-/
set_option autoImplicit false

namespace LayeredConfig.Derive

inductive Kind where
  | named
  | tuple
  | unit
  | enumeration
  | union
deriving DecidableEq, Repr

structure DeclaredField where
  name : Option String
  type : String
  attributes : List AttributeItem
deriving Repr

/-- A declared type. Generic parameters, bounds and field types are texts of tokens. -/
structure DeclaredType where
  kind : Kind
  name : String
  generics : String
  bounds : String
  attributes : List AttributeItem
  fields : List DeclaredField
deriving Repr

inductive Layout where
  | named
  | tuple
  | unit
  | enumeration
deriving DecidableEq, Repr

def Layout.label : Layout → String
  | .named => "named"
  | .tuple => "tuple"
  | .unit => "unit"
  | .enumeration => "enum"

/-- A field's member: an identifier or a position. -/
inductive Member where
  | name (identifier : String)
  | position (index : Nat)
deriving DecidableEq, Repr

def Member.text : Member → String
  | .name identifier => identifier
  | .position index => Path.ofIndex index

/-- What deriving knows of a field. The name is the identifier without a raw mark, and the key is
missing where the field has none of its own. -/
structure FieldPlan where
  member : Member
  name : Option String
  key : Option String
  type : String
  replaced : Bool
deriving DecidableEq, Repr

structure TypePlan where
  layout : Layout
  fields : List FieldPlan
deriving DecidableEq, Repr

/-- An identifier without the mark that makes a keyword one. -/
def unmarked (identifier : String) : String :=
  match identifier.toList with
  | 'r' :: '#' :: rest => String.ofList rest
  | _ => identifier

def plainKey (naming : Option NamingRule) (index : Nat) : Option String → String
  | none => Path.ofIndex index
  | some name => (naming.map fun rule => rule.pathKey name).getD name

def fieldPlan (naming : Option NamingRule) (index : Nat) (field : DeclaredField) :
    Except Fault FieldPlan := do
  let replaced ← replacedOf field.attributes
  let settings ← keySettingsOf field.attributes
  let name := field.name.map unmarked
  let key :=
    if settings.skipped || settings.flattened then none
    else some (settings.rename.getD (plainKey naming index name))
  pure
    { member := (field.name.map Member.name).getD (.position index)
      name, key, type := field.type, replaced }

def fieldPlans (naming : Option NamingRule) (index : Nat) :
    List DeclaredField → Except Fault (List FieldPlan)
  | [] => .ok []
  | field :: rest => do
      let first ← fieldPlan naming index field
      let others ← fieldPlans naming (index + 1) rest
      pure (first :: others)

def structPlan (layout : Layout) (input : DeclaredType) : Except Fault TypePlan := do
  let naming ← namingOf input.attributes
  let fields ← fieldPlans naming 0 input.fields
  pure ⟨layout, fields⟩

/-- What deriving knows of a type. The attributes of an enumeration do not matter. -/
def DeclaredType.plan (input : DeclaredType) : Except Fault TypePlan :=
  if input.attributes.any fun item => item.path = mergeAttribute then .error .misplaced
  else
    match input.kind with
    | .union => .error .union
    | .enumeration => .ok ⟨.enumeration, []⟩
    | .named => structPlan .named input
    | .tuple => structPlan .tuple input
    | .unit => structPlan .unit input

end LayeredConfig.Derive
