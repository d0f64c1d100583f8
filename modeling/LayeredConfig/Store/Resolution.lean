import LayeredConfig.Stack
import LayeredConfig.Store.Records

/-!
# Resolving stored snapshots

What the scopes store for a domain makes a stack, which resolves to a configuration. Defaults may lie
beneath every scope; the name of their layer is reserved.
-/
set_option autoImplicit false

namespace LayeredConfig.Storage

variable {σ α : Type} [Storage σ α]

def defaultsName : String := "defaults"

/-- The wiring of what is resolved from a store: schemas list the scopes. -/
def resolvedWiring : Wiring :=
  { listsScopes := true }

def loadAt (store : σ) (address : Address) (key : String) :
    Except Failure (Option (StoredRecord α)) :=
  match Storage.load store address with
  | .ok stored => .ok stored
  | .error cause => .error (.storageFailure .load key cause)

def storedLayer (store : σ) (domain : String) (scope : Scope) :
    Except Failure (Option (Layer α)) := do
  let address : Address := ⟨domain, scope⟩
  let key ← address.key
  let stored ← loadAt store address key
  pure (stored.map fun stored => ⟨scope, stored.snapshot, stored.info.revision⟩)

def storedLayers (store : σ) (domain : String) :
    List Scope → Except Failure (List (Layer α))
  | [] => .ok []
  | scope :: rest => do
      let layer ← storedLayer store domain scope
      let others ← storedLayers store domain rest
      pure (layer.toList ++ others)

def resolveLayers [Mergeable α] (layers : List (Layer α)) : Except Failure (Configuration α) := do
  let stack ← Stack.ofLayers layers
  stack.resolve resolvedWiring

def resolve [Mergeable α] (store : σ) (domain : String) (scopes : List Scope) :
    Except Failure (Configuration α) :=
  if domain = "" then .error .namelessDomain
  else do
    let layers ← storedLayers store domain scopes
    if layers.isEmpty then .error (.nothingStored domain) else resolveLayers layers

def leastPriority? : List Scope → Option Int
  | [] => none
  | scope :: rest =>
      match leastPriority? rest with
      | some least => some (min scope.priority least)
      | none => some scope.priority

/-- The priority of defaults: one step below every scope, or zero where there is none. -/
def defaultsPriority (scopes : List Scope) : Int :=
  match leastPriority? scopes with
  | some least => Scope.stepBelow least
  | none => 0

def defaultsLayer (defaults : α) (scopes : List Scope) : Layer α :=
  .ofScope ((Scope.ofName defaultsName (defaultsPriority scopes)).labelled "Defaults") defaults

def resolveOver [Mergeable α] (store : σ) (domain : String) (defaults : α)
    (scopes : List Scope) : Except Failure (Configuration α) :=
  if domain = "" then .error .namelessDomain
  else if scopes.any fun scope => scope.name = defaultsName then
    .error (.reservedName defaultsName)
  else do
    let layers ← storedLayers store domain scopes
    resolveLayers (layers ++ [defaultsLayer defaults scopes])

end LayeredConfig.Storage
