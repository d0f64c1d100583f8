import LayeredConfig.Configuration.Wiring
import LayeredConfig.Path.Document
import LayeredConfig.Snapshot.Classes

/-!
# Configurations

A configuration is an effective snapshot with the layers it was resolved from. Reading goes through
the written form of the snapshot. Writing assigns in the written form, reads a snapshot back from it,
and refuses the write unless that snapshot retains the assigned value.
-/
set_option autoImplicit false

namespace LayeredConfig

/-- An effective snapshot, the layers it was resolved from, strongest first, and its wiring. There
are no layers where the configuration was made from a value directly. -/
structure Configuration (α : Type) where
  value : α
  layers : List (Layer α)
  wiring : Wiring

namespace Configuration

variable {α : Type}

def wired (value : α) (wiring : Wiring) : Configuration α :=
  ⟨value, [], wiring⟩

def ofValue (value : α) : Configuration α :=
  wired value {}

/-- The same wiring with another value. The layers describe the old value and are dropped. -/
def withSnapshot (current : Configuration α) (value : α) : Configuration α :=
  wired value current.wiring

def accept [Ruled α] (value : α) (wiring : Wiring) : Except Failure (Configuration α) :=
  (Ruled.check value).map fun _ => wired value wiring

def check [Ruled α] (current : Configuration α) : Except Failure Unit :=
  Ruled.check current.value

/-- Layers, strongest first, over the current value as the weakest. -/
def overlay [Mergeable α] (current : Configuration α) (layers : List α) : Configuration α :=
  current.withSnapshot ((overlay? (layers ++ [current.value])).getD current.value)

end Configuration

def writtenForm {α : Type} [Writable α] (value : α) : Except Failure Json :=
  match encode value with
  | some document => .ok document
  | none => .error .conversion

def snapshotOf {α : Type} [Writable α] (document : Json) : Except Failure α :=
  match decode document with
  | some value => .ok value
  | none => .error .conversion

def parsedSteps (α : Type) [Mergeable α] (path : String) : Except Failure (List Step) :=
  match Path.parse path with
  | .ok segments => .ok (stepsOf α segments)
  | .error fault => .error (.path fault)

def keysOf (steps : List Step) : List String :=
  steps.map Step.key

def followKeys (path : String) (document : Json) (keys : List String) : Except Failure Json :=
  match document.follow path keys with
  | .ok node => .ok node
  | .error fault => .error (.path fault)

def assignAlong (path : String) (value : Json) (steps : List Step) (document : Json) :
    Except Failure Json :=
  match Json.assign path value steps document with
  | (document, none) => .ok document
  | (_, some fault) => .error (.path fault)

/-- Whether two documents hold the same value at a key path. -/
def retains (path : String) (keys : List String) (wanted found : Json) : Bool :=
  match wanted.follow path keys, found.follow path keys with
  | .ok expected, .ok actual => actual.same expected
  | _, _ => false

namespace Configuration

variable {α : Type} [Mergeable α] [Writable α]

def get (current : Configuration α) (path : String) : Except Failure Json := do
  let steps ← parsedSteps α path
  let document ← writtenForm current.value
  followKeys path document (keysOf steps)

/-- The configuration with a value at a path. The result carries no layers. -/
def set (current : Configuration α) (path : String) (value : Json) :
    Except Failure (Configuration α) := do
  let steps ← parsedSteps α path
  let document ← writtenForm current.value
  let document ← assignAlong path value steps document
  let updated : α ← snapshotOf document
  let readback ← writtenForm updated
  if retains path (keysOf steps) document readback then .ok (current.withSnapshot updated)
  else .error (.notRetained path)

end Configuration

end LayeredConfig
