import LayeredConfig.Path.Fault
import LayeredConfig.Text.Quoted

/-!
# Failures

What can go wrong while layers are assembled, queried, written, stored or loaded. Each cause is a
constructor with what it needs to know, and `Failure.message` is its text.
-/
set_option autoImplicit false

namespace LayeredConfig

inductive AddressFault where
  | missingIdentifier (key : String)
  | unsupportedScope (name : String)
deriving DecidableEq, Repr

def AddressFault.message : AddressFault → String
  | .missingIdentifier key => s!"missing metadata key '{key}'"
  | .unsupportedScope name => s!"unsupported scope name '{name}'"

inductive StorageAction where
  | load
  | save
deriving DecidableEq, Repr

def StorageAction.label : StorageAction → String
  | .load => "load"
  | .save => "save"

inductive Failure where
  | namelessScope
  | repeatedScope (name : String)
  | tiedPriority (priority : Int)
  | noLayer
  | path (fault : PathFault)
  | conversion
  | notRetained (path : String)
  | brokenRule (key message : String)
  | noEngine
  | noExpression
  | engineFailure (engine expression scope cause : String)
  | makerFailure (cause : String)
  | sourceFailure (scope cause : String)
  | unaddressable (scope : String) (fault : AddressFault)
  | namelessDomain
  | nothingStored (domain : String)
  | reservedName (name : String)
  | staleEtag (expected actual : String)
  | storageFailure (action : StorageAction) (key cause : String)
deriving DecidableEq, Repr

namespace Failure

def message : Failure → String
  | .namelessScope => "scope: name must be provided"
  | .repeatedScope name => s!"scope: names must be unique: {name}"
  | .tiedPriority priority =>
      s!"scope: priorities must be strictly ordered: {Number.intText priority}"
  | .noLayer => "scope: stack must include at least one layer"
  | .path fault => fault.message
  | .conversion => "failed to project snapshot"
  | .notRetained requested =>
      s!"path '{requested}': assigned value was not retained by the snapshot type"
  | .brokenRule key message => s!"Validation failed for '{key}': {message}"
  | .noEngine => "evaluator not configured"
  | .noExpression => "expression must not be empty"
  | .engineFailure engine expression scope cause =>
      s!"{engine} evaluator expr={Text.quoted expression} scope={scope}: {cause}"
  | .makerFailure cause => s!"schema generation failed: {cause}"
  | .sourceFailure scope cause => s!"Failed to load layer for scope '{scope}': {cause}"
  | .unaddressable scope fault =>
      s!"state: invalid reference for scope '{scope}': {fault.message}"
  | .namelessDomain => "state: domain is required"
  | .nothingStored domain => s!"state: no layers found for domain '{domain}'"
  | .reservedName name => s!"state: scope name '{name}' is reserved"
  | .staleEtag expected actual =>
      s!"state: etag mismatch: expected '{expected}', got '{actual}'"
  | .storageFailure action key cause =>
      s!"state: {action.label} '{key}' failed: {cause}"

/-- Whether the failure is that of a stack whose scopes break the rules of a stack. -/
def blamesScopes : Failure → Bool
  | .namelessScope => true
  | .repeatedScope _ => true
  | .tiedPriority _ => true
  | _ => false

end Failure

end LayeredConfig
