import LayeredConfig.Configuration.Basic
import LayeredConfig.Layer
import LayeredConfig.Source.Environment
import LayeredConfig.Source.Toml

/-!
# Loading layers

A layer is loaded from a document, from a TOML file or from the environment. Only documents with
members at their root are sources, and every failure names the scope.
-/
set_option autoImplicit false

namespace LayeredConfig.Layer

variable {α : Type} [Writable α]

def sourceFault (scope : Scope) (cause : String) : Except Failure (Layer α) :=
  .error (.sourceFailure scope.name cause)

def ofDocument (scope : Scope) (document : Json) : Except Failure (Layer α) :=
  match document with
  | .object _ =>
      match decode document with
      | some snapshot => .ok (.ofScope scope snapshot)
      | none => sourceFault scope "the data does not describe a snapshot"
  | _ => sourceFault scope "the data has no members at its root"

/-- The layer of a file of the given content; the path becomes its revision. -/
def ofToml (scope : Scope) (path : String) (content : Option String) :
    Except Failure (Layer α) :=
  match content with
  | none => sourceFault scope "the file cannot be read"
  | some text =>
      match Toml.parse? text with
      | none => sourceFault scope "the file is not a TOML document"
      | some document =>
          (ofDocument scope document).map fun layer => layer.atRevision path

def ofEnvironment (scope : Scope) (start : String) (environment : List (String × String)) :
    Except Failure (Layer α) :=
  ofDocument scope (Environment.document start environment)

end LayeredConfig.Layer
