import LayeredConfig.Evaluation
import LayeredConfig.Schema.Basic
import LayeredConfig.Text.Quoted

/-!
# What a configuration is wired to

Collaborators are chosen once, when the wiring is built, and travel with every configuration that is
made from it.
-/
set_option autoImplicit false

namespace LayeredConfig

/-- The engine, the schema maker and the active scope of a configuration, and whether its schemas
list the scopes it was resolved from. -/
structure Wiring where
  engine : Option Engine := none
  schemaMaker : Option SchemaMaker := none
  listsScopes : Bool := false
  scope : Option Scope := none

namespace Wiring

def optionText : Option String → String
  | none => "None"
  | some text => "Some(" ++ Text.quoted text ++ ")"

def flagText : Bool → String
  | true => "true"
  | false => "false"

/-- The wiring in diagnostics: engines and scopes by their names, a schema maker as a placeholder. -/
def describe (wiring : Wiring) : String :=
  "OptionsConfig \x7b evaluator: " ++ optionText (wiring.engine.map Engine.label) ++
    ", schema_generator: " ++ optionText (wiring.schemaMaker.map fun _ => "<generator>") ++
    ", scope_schema: " ++ flagText wiring.listsScopes ++
    ", scope: " ++ optionText (wiring.scope.map Scope.name) ++ " \x7d"

end Wiring

end LayeredConfig
