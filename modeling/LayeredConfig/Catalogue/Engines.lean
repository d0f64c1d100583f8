import LayeredConfig.Configuration.Wiring

/-!
# Small engines and schema makers

Collaborators that show what they are given: three expression engines and three schema makers.
-/
set_option autoImplicit false

namespace LayeredConfig

def EvalContext.toJson (context : EvalContext) : Json :=
  .object
    [ ("args", .object context.args)
    , ("label", .string context.shownScope)
    , ("metadata", .object context.metadata)
    , ("now_set", .bool context.now.isSome)
    , ("scope", .string context.scope)
    , ("snapshot",
        match context.snapshot with
        | some document => .array [document]
        | none => .null) ]

namespace Catalogue

def memberOf? (document : Json) (key : String) : Option Json :=
  match document with
  | .object members => Members.find? key members
  | _ => none

def lookupEngine : Engine where
  label := "lookup"
  evaluate context expression :=
    match context.snapshot.bind fun document => memberOf? document expression with
    | some value => .ok value
    | none => .error ("unknown identifier " ++ expression)

def echoEngine : Engine where
  label := "echo"
  evaluate context expression :=
    if expression = "now" then
      .ok ((context.now.map Json.ofInt).getD .null)
    else .ok context.toJson

/-- The expression itself; an exclamation mark makes a failure of the rest. -/
def plainEngine : Engine where
  evaluate _ expression :=
    match expression.toList with
    | '!' :: cause => .error (String.ofList cause)
    | _ => .ok (.string expression)

def engine? : String → Option Engine
  | "lookup" => some lookupEngine
  | "echo" => some echoEngine
  | "plain" => some plainEngine
  | _ => none

def echoMaker : SchemaMaker where
  make document scopes := .ok ⟨"echo", document, scopes⟩

def countMaker : SchemaMaker where
  make _ scopes := .ok ⟨"count", .ofInt scopes.length, scopes⟩

def failingMaker : SchemaMaker where
  make _ _ := .error "boom"

def schemaMaker? : String → Option SchemaMaker
  | "echo" => some echoMaker
  | "count" => some countMaker
  | "fail" => some failingMaker
  | _ => none

end Catalogue

end LayeredConfig
