import LayeredConfig.Json.Basic

/-!
# Why a path cannot be followed

Every error except the empty path carries the whole path; an error met on the way carries the
segment at which it arose.
-/
set_option autoImplicit false

namespace LayeredConfig

/-- What stands in the way of an assignment: a struct without the member, or a node that is no
object. -/
inductive Obstacle where
  | struct
  | node (kind : Json.Kind)
deriving DecidableEq, Repr

def Obstacle.label : Obstacle → String
  | .struct => "struct"
  | .node kind => kind.label

inductive PathFault where
  | emptyPath
  | blankSegment (path : String)
  | throughNull (path segment : String)
  | noKey (path segment : String)
  | notAnIndex (path segment : String)
  | pastEnd (path segment : String) (length : Nat)
  | throughScalar (path segment : String) (kind : Json.Kind)
  | closed (path segment : String) (obstacle : Obstacle)
deriving DecidableEq, Repr

namespace PathFault

def path? : PathFault → Option String
  | .emptyPath => none
  | .blankSegment path
  | .throughNull path _
  | .noKey path _
  | .notAnIndex path _
  | .pastEnd path _ _
  | .throughScalar path _ _
  | .closed path _ _ => some path

def segment? : PathFault → Option String
  | .emptyPath
  | .blankSegment _ => none
  | .throughNull _ segment
  | .noKey _ segment
  | .notAnIndex _ segment
  | .pastEnd _ segment _
  | .throughScalar _ segment _
  | .closed _ segment _ => some segment

def message : PathFault → String
  | .emptyPath => "path must not be empty"
  | .blankSegment path => s!"path '{path}' contains an empty segment"
  | .throughNull path segment => s!"path '{path}': cannot resolve '{segment}' through a null value"
  | .noKey path segment => s!"path '{path}': key '{segment}' not found"
  | .notAnIndex path segment => s!"path '{path}': '{segment}' is not a valid index"
  | .pastEnd path segment length =>
      s!"path '{path}': index {segment} out of range for length {length}"
  | .throughScalar path segment kind =>
      s!"path '{path}': cannot resolve '{segment}' inside a {kind.label}"
  | .closed path segment obstacle =>
      s!"path '{path}': cannot assign '{segment}' inside a {obstacle.label}"

end PathFault

end LayeredConfig
