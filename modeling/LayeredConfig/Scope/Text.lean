import LayeredConfig.Json.Record
import LayeredConfig.Scope

/-!
# The JSON text of a scope

The members are `name`, `label`, `priority` and `metadata`; an empty label and empty metadata are
not written.
-/
set_option autoImplicit false

namespace LayeredConfig.Scope

def toText (scope : Scope) : JsonText :=
  JsonText.ofMembers
    [ ("name", some (.ofString scope.name))
    , ("label", JsonText.writeNonEmpty scope.label)
    , ("priority", some (.ofInt scope.priority))
    , ("metadata", JsonText.writeNonEmptyMembers scope.metadata) ]

def readMetadata : Nat → JsonText → Option (Members Json)
  | 0, _ => none
  | budget + 1, text => JsonText.readMembers (Json.ofText? budget) text

def ofText? : Nat → JsonText → Option Scope
  | 0, _ => none
  | budget + 1, text => do
      match ← text.fields? ["name", "label", "priority", "metadata"] with
      | [name, label, priority, metadata] =>
          let name ← JsonText.readRequired JsonText.readString name
          let label ← JsonText.readOr "" JsonText.readString label
          let priority ← JsonText.readRequired JsonText.readSigned priority
          let metadata ← JsonText.readOr [] (readMetadata budget) metadata
          pure ⟨name, label, priority, metadata⟩
      | _ => none

end LayeredConfig.Scope
