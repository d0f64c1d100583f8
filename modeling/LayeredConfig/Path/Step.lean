/-!
# Described path steps

A step of a described path is the key in the written document together with the container that
holds it, as the snapshot's type tells it.
-/
set_option autoImplicit false

namespace LayeredConfig

/-- The container of a path segment. `dynamic` is decided by the document. -/
inductive Container where
  | struct
  | map
  | sequence
  | dynamic
deriving DecidableEq, Repr

def Container.label : Container → String
  | .struct => "struct"
  | .map => "map"
  | .sequence => "sequence"
  | .dynamic => "value"

/-- One segment of a path: its key in the written document and the container that holds it. -/
structure Step where
  key : String
  container : Container
deriving DecidableEq, Repr

def verbatimSteps (segments : List String) : List Step :=
  segments.map fun segment => ⟨segment, .dynamic⟩

end LayeredConfig
