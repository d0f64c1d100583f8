import LayeredConfig.Scope.Text
import LayeredConfig.Trace.Basic

/-!
# The JSON text of traces

Entries leave out an empty revision and a `null` value; reading restores both.
-/
set_option autoImplicit false

namespace LayeredConfig

namespace TraceEntry

def toText (entry : TraceEntry) : JsonText :=
  JsonText.ofMembers
    [ ("scope", some entry.scope.toText)
    , ("snapshot_id", JsonText.writeNonEmpty entry.revision)
    , ("path", some (.ofString entry.path))
    , ("value", if entry.value.isNull then none else some entry.value.toText)
    , ("found", some (.bool entry.found)) ]

def ofText? : Nat → JsonText → Option TraceEntry
  | 0, _ => none
  | budget + 1, text => do
      match ← text.fields? ["scope", "snapshot_id", "path", "value", "found"] with
      | [scope, revision, path, value, found] =>
          let scope ← JsonText.readRequired (Scope.ofText? budget) scope
          let revision ← JsonText.readOr "" JsonText.readString revision
          let path ← JsonText.readRequired JsonText.readString path
          let value ← JsonText.readOr .null (Json.ofText? budget) value
          let found ← JsonText.readRequired JsonText.readBool found
          pure ⟨scope, revision, path, value, found⟩
      | _ => none

end TraceEntry

namespace Trace

def toText (trace : Trace) : JsonText :=
  JsonText.ofMembers
    [ ("path", some (.ofString trace.path))
    , ("layers", some (.array (trace.layers.map TraceEntry.toText))) ]

def readLayers : Nat → JsonText → Option (List TraceEntry)
  | 0, _ => none
  | budget + 1, text => JsonText.readList (TraceEntry.ofText? budget) text

def ofText? : Nat → JsonText → Option Trace
  | 0, _ => none
  | budget + 1, text => do
      match ← text.fields? ["path", "layers"] with
      | [path, layers] =>
          let path ← JsonText.readRequired JsonText.readString path
          let layers ← JsonText.readRequired (readLayers budget) layers
          pure ⟨path, layers⟩
      | _ => none

def render (trace : Trace) : String :=
  trace.toText.render

def parse? (payload : String) : Option Trace := do
  let tree ← JsonText.parse? payload
  Trace.ofText? Json.maxDepth tree

end Trace

end LayeredConfig
