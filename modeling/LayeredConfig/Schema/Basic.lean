import LayeredConfig.Layer
import LayeredConfig.Schema.Leaves

/-!
# Schemas

A schema describes an effective snapshot and, on request, the scopes it was resolved from. Schema
makers are pluggable; the built-in one lists leaf descriptors.
-/
set_option autoImplicit false

namespace LayeredConfig

/-- What a schema says about the scope of a layer. -/
structure ScopeSummary where
  name : String
  label : String
  priority : Int
  revision : String
  metadata : Members Json
deriving DecidableEq, Repr

def ScopeSummary.ofLayer {α : Type} (layer : Layer α) : ScopeSummary :=
  ⟨layer.scope.name, layer.scope.label, layer.scope.priority, layer.revision,
    layer.scope.metadata⟩

/-- The format of a body, the body, and the scopes, strongest first. -/
structure Schema where
  format : String
  body : Json
  scopes : List ScopeSummary
deriving DecidableEq, Repr

/-- Makes a schema from a written snapshot and scopes, or says why it cannot. -/
structure SchemaMaker where
  make : Json → List ScopeSummary → Except String Schema

def Schema.leavesFormat : String := "descriptors"

/-- The built-in maker: a body of leaf descriptors. -/
def SchemaMaker.leaves : SchemaMaker where
  make document scopes :=
    .ok ⟨Schema.leavesFormat,
      .array ((LeafDescriptor.ofDocument document).map LeafDescriptor.toJson), scopes⟩

end LayeredConfig
