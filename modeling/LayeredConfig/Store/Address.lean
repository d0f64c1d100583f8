import LayeredConfig.Failure
import LayeredConfig.Scope.Hierarchy

/-!
# Addresses of stored snapshots

A snapshot is stored for a settings domain within a scope. Only scopes of the built-in hierarchy have
a storage key: `system` by itself, the others by the identifier in their metadata.
-/
set_option autoImplicit false

namespace LayeredConfig

structure Address where
  domain : String
  scope : Scope
deriving DecidableEq, Repr

namespace Address

def keyedScopes : List String :=
  ["tenant", "org", "team", "user"]

/-- The identifier in the metadata of a scope: a text that is not empty. -/
def identifier? (scope : Scope) : Option String :=
  match scope.note? (Scope.identifierKey scope.name) with
  | some (.string value) => if value = "" then none else some value
  | _ => none

def key (address : Address) : Except Failure String :=
  let name := address.scope.name
  if name = "system" then .ok ("system/" ++ address.domain)
  else if name ∈ keyedScopes then
    match identifier? address.scope with
    | some value => .ok (name ++ "/" ++ value ++ "/" ++ address.domain)
    | none => .error (.unaddressable name (.missingIdentifier (Scope.identifierKey name)))
  else .error (.unaddressable name (.unsupportedScope name))

end Address

end LayeredConfig
