import LayeredConfig.Scope

/-!
# Layers

A layer is the snapshot that one scope contributes, with the revision that it was taken from.
-/
set_option autoImplicit false

namespace LayeredConfig

/-- One snapshot with the scope that contributes it. The revision is empty when it is not known. -/
structure Layer (α : Type) where
  scope : Scope
  snapshot : α
  revision : String
deriving DecidableEq, Repr

namespace Layer

variable {α : Type}

def ofScope (scope : Scope) (snapshot : α) : Layer α :=
  ⟨scope, snapshot, ""⟩

def atRevision (layer : Layer α) (revision : String) : Layer α :=
  { layer with revision := revision }

end Layer

end LayeredConfig
