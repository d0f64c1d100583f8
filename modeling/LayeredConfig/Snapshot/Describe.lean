import LayeredConfig.Path.Step
import LayeredConfig.Snapshot.Type

/-!
# Paths through snapshot types

Every segment of a path makes one step. In a record a segment may be the name of a field or its
key; the name wins. A segment that no field answers to is kept, and nothing is known below it.
-/
set_option autoImplicit false

namespace LayeredConfig.Snapshot

structure PathField where
  name : String
  key : String
  type : Ty
deriving Repr

def Record.pathFields (declared : Record) : List PathField :=
  declared.fields.filterMap fun field =>
    (field.pathKey? declared.keyRule).map fun key => ⟨field.name, key, field.type⟩

/-- The field that a segment means. Fields with members answer to their names and then to their
keys, items to their keys only. -/
def Record.pathField? (declared : Record) (segment : String) : Option PathField :=
  let byKey := declared.pathFields.find? fun field => field.key = segment
  match declared.layout with
  | .members => (declared.pathFields.find? fun field => field.name = segment).or byKey
  | .items => byKey

def Layout.container : Layout → Container
  | .members => .struct
  | .items => .sequence

/-- The steps of a path whose first segment enters a type; `atName` describes it by a declared one, and
`below` the further segments by a type. -/
def describeIn (segment : String) (rest : List String) (atName : String → List Step)
    (below : Ty → List Step) : Ty → List Step
  | .option content | .box content | .newtype content =>
      describeIn segment rest atName below content
  | .sequence item | .array _ item => ⟨segment, .sequence⟩ :: below item
  | .map _ value => ⟨segment, .map⟩ :: below value
  | .named name => atName name
  | .scalar _ | .replaced _ | .tuple _ | .json => verbatimSteps (segment :: rest)

/-- The steps of a path whose first segment enters a declared type. The content of a newtype is no name
again. -/
def describeNamed (declarations : Declarations) (segment : String) (rest : List String)
    (below : Ty → List Step) (name : String) : List Step :=
  match declarations name with
  | some (.record declared) =>
      match declared.pathField? segment with
      | some field => ⟨field.key, declared.layout.container⟩ :: below field.type
      | none => ⟨segment, declared.layout.container⟩ :: verbatimSteps rest
  | some (.newtype declared) =>
      describeIn segment rest (fun _ => verbatimSteps (segment :: rest)) below declared.content
  | _ => verbatimSteps (segment :: rest)

def describeFrom (declarations : Declarations) (segment : String) (rest : List String)
    (below : Ty → List Step) : Ty → List Step :=
  describeIn segment rest (describeNamed declarations segment rest below) below

def describe (declarations : Declarations) : List String → Ty → List Step
  | [], _ => []
  | segment :: rest, type =>
      describeFrom declarations segment rest (describe declarations rest) type

end LayeredConfig.Snapshot
