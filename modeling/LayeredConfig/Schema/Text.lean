import LayeredConfig.Schema.Basic
import LayeredConfig.Scope.Text

/-!
# The JSON text of schemas

Members are written in the order of their declaration; empty labels, revisions, metadata and
scope lists are left out.
-/
set_option autoImplicit false

namespace LayeredConfig

namespace LeafDescriptor

def toText (field : LeafDescriptor) : JsonText :=
  JsonText.ofMembers
    [ ("path", some (.ofString field.path))
    , ("type", some (.ofString field.kind)) ]

def ofText? : Nat → JsonText → Option LeafDescriptor
  | 0, _ => none
  | _ + 1, text => do
      match ← text.fields? ["path", "type"] with
      | [path, kind] =>
          let path ← JsonText.readRequired JsonText.readString path
          let kind ← JsonText.readRequired JsonText.readString kind
          pure ⟨path, kind⟩
      | _ => none

end LeafDescriptor

namespace ScopeSummary

def toText (scope : ScopeSummary) : JsonText :=
  JsonText.ofMembers
    [ ("name", some (.ofString scope.name))
    , ("label", JsonText.writeNonEmpty scope.label)
    , ("priority", some (.ofInt scope.priority))
    , ("snapshot_id", JsonText.writeNonEmpty scope.revision)
    , ("metadata", JsonText.writeNonEmptyMembers scope.metadata) ]

def ofText? : Nat → JsonText → Option ScopeSummary
  | 0, _ => none
  | budget + 1, text => do
      match ← text.fields? ["name", "label", "priority", "snapshot_id", "metadata"] with
      | [name, label, priority, revision, metadata] =>
          let name ← JsonText.readRequired JsonText.readString name
          let label ← JsonText.readOr "" JsonText.readString label
          let priority ← JsonText.readRequired JsonText.readSigned priority
          let revision ← JsonText.readOr "" JsonText.readString revision
          let metadata ← JsonText.readOr [] (Scope.readMetadata budget) metadata
          pure ⟨name, label, priority, revision, metadata⟩
      | _ => none

end ScopeSummary

namespace Schema

def toText (schema : Schema) : JsonText :=
  JsonText.ofMembers
    [ ("format", some (.ofString schema.format))
    , ("body", some schema.body.toText)
    , ("scopes",
        if schema.scopes.isEmpty then none
        else some (.array (schema.scopes.map ScopeSummary.toText))) ]

def readScopes : Nat → JsonText → Option (List ScopeSummary)
  | 0, _ => none
  | budget + 1, text => JsonText.readList (ScopeSummary.ofText? budget) text

def ofText? : Nat → JsonText → Option Schema
  | 0, _ => none
  | budget + 1, text => do
      match ← text.fields? ["format", "body", "scopes"] with
      | [format, body, scopes] =>
          let format ← JsonText.readRequired JsonText.readString format
          let body ← JsonText.readRequired (Json.ofText? budget) body
          let scopes ← JsonText.readOr [] (readScopes budget) scopes
          pure ⟨format, body, scopes⟩
      | _ => none

end Schema

end LayeredConfig
