import LayeredConfig.Scope.Hierarchy
import LayeredConfig.Stack

/-!
# One snapshot for each scope of the hierarchy

The five scopes are distinct in name and priority, so their layers always make a stack.
-/
set_option autoImplicit false

namespace LayeredConfig.Stack

variable {α : Type}

def hierarchyLayers (system tenant org team user : α) : List (Layer α) :=
  [ .ofScope ((Scope.ofName "user" Scope.userPriority).labelled "User") user
  , .ofScope ((Scope.ofName "team" Scope.teamPriority).labelled "Team") team
  , .ofScope ((Scope.ofName "org" Scope.orgPriority).labelled "Organization") org
  , .ofScope ((Scope.ofName "tenant" Scope.tenantPriority).labelled "Tenant") tenant
  , .ofScope ((Scope.ofName "system" Scope.systemPriority).labelled "System Defaults") system ]

def resolveHierarchy [Mergeable α] (system tenant org team user : α) :
    Except Failure (Configuration α) := do
  let stack ← ofLayers (hierarchyLayers system tenant org team user)
  stack.resolve {}

end LayeredConfig.Stack
