import LayeredConfig.Json.Basic

/-!
# Scopes

A scope is a named precedence level such as `tenant` or `user`. Higher priorities are stronger.
-/
set_option autoImplicit false

namespace LayeredConfig

/-- A named precedence level. The label is for display, the metadata is the caller's. -/
structure Scope where
  name : String
  label : String
  priority : Int
  metadata : Members Json
deriving DecidableEq, Repr, Inhabited

namespace Scope

/-- The least priority: priorities are signed 64-bit integers. -/
def minPriority : Int := Number.minInt

def maxPriority : Int := Number.maxSigned

def isPriority (value : Int) : Bool :=
  minPriority ≤ value && value ≤ maxPriority

def stepBelow (priority : Int) : Int :=
  if priority ≤ minPriority then minPriority else priority - 1

def anonymous : Scope := ⟨"", "", 0, []⟩

def ofName (name : String) (priority : Int) : Scope :=
  ⟨name, "", priority, []⟩

def labelled (scope : Scope) (label : String) : Scope :=
  { scope with label := label }

/-- The scope with further metadata, replacing earlier values of the same keys. -/
def annotated (scope : Scope) (entries : List (String × Json)) : Scope :=
  { scope with
    metadata := entries.foldl (fun members entry => Members.insert entry.1 entry.2 members)
      scope.metadata }

def note? (scope : Scope) (key : String) : Option Json :=
  Members.find? key scope.metadata

/-- Whether the scope has no name, label, priority or metadata. -/
def isAnonymous (scope : Scope) : Bool :=
  scope.name = "" && scope.label = "" && scope.priority = 0 && scope.metadata.isEmpty

end Scope

end LayeredConfig
