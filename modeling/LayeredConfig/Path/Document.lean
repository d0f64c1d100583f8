import LayeredConfig.Path.Segments
import LayeredConfig.Path.Step

/-!
# Following and assigning paths in documents

Objects are addressed by key and arrays by decimal index. Following a path never passes through
`null`; assigning one turns `null` and missing members into objects on the way and never writes
into an array or a scalar.
-/
set_option autoImplicit false

namespace LayeredConfig.Json

/-- One step down from a node; failures carry `path`. -/
def child (path : String) (node : Json) (segment : String) : Except PathFault Json :=
  match node with
  | .object members =>
      match Members.find? segment members with
      | some child => .ok child
      | none => .error (.noKey path segment)
  | .array items =>
      match Path.index? segment with
      | none => .error (.notAnIndex path segment)
      | some index =>
          match items[index]? with
          | some child => .ok child
          | none => .error (.pastEnd path segment items.length)
  | .null => .error (.throughNull path segment)
  | other => .error (.throughScalar path segment other.kind)

def follow (path : String) : Json → List String → Except PathFault Json
  | node, [] => .ok node
  | node, segment :: rest =>
      match child path node segment with
      | .ok child => follow path child rest
      | .error error => .error error

def get (document : Json) (path : String) : Except PathFault Json :=
  match Path.parse path with
  | .ok segments => follow path document segments
  | .error error => .error error

/-- The members into which a step writes. An unset struct, map or dynamic value is written as an
empty object first; a struct never gains a member, and a sequence is never written. -/
def openMembers (path : String) (node : Json) (step : Step) :
    Except PathFault (List (String × Json)) :=
  let refuse (obstacle : Obstacle) : Except PathFault (List (String × Json)) :=
    .error (.closed path step.key obstacle)
  match step.container, node with
  | .sequence, _ => refuse (.node .sequence)
  | _, .null => .ok []
  | .struct, .object members =>
      if Members.contains step.key members then .ok members else refuse .struct
  | _, .object members => .ok members
  | _, other => refuse (.node other.kind)

/-- Assign a value along steps. The document after the assignment comes with the error that
stopped it, if any. -/
def assign (path : String) (value : Json) : List Step → Json → Json × Option PathFault
  | [], node => (node, some .emptyPath)
  | step :: rest, node =>
      match openMembers path node step with
      | .error error => (node, some error)
      | .ok members =>
          match rest with
          | [] => (.object (Members.insert step.key value members), none)
          | next :: more =>
              let child := (Members.find? step.key members).getD .null
              let (child, error) := assign path value (next :: more) child
              (.object (Members.insert step.key child members), error)

/-- Assign a value at a path, creating the objects on the way. -/
def set (document : Json) (path : String) (value : Json) : Json × Option PathFault :=
  match Path.parse path with
  | .ok segments => assign path value (verbatimSteps segments) document
  | .error error => (document, some error)

end LayeredConfig.Json
