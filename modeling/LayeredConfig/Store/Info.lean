import LayeredConfig.Json.Record

/-!
# Metadata of stored snapshots

A revision, a concurrency token and free text entries, each of which may be empty. An update replaces
only what it brings: an empty member keeps what is stored.
-/
set_option autoImplicit false

namespace LayeredConfig

structure RecordInfo where
  revision : String := ""
  etag : String := ""
  extra : Members String := []
deriving DecidableEq, Repr, Inhabited

namespace RecordInfo

def orStored (text fallback : String) : String :=
  if text = "" then fallback else text

def updatedBy (stored update : RecordInfo) : RecordInfo where
  revision := orStored update.revision stored.revision
  etag := orStored update.etag stored.etag
  extra := if update.extra.isEmpty then stored.extra else update.extra

def writeExtra (extra : Members String) : Option JsonText :=
  if extra.isEmpty then none
  else some (.object (extra.map fun (key, value) => (some key, .ofString value)))

def toText (info : RecordInfo) : JsonText :=
  JsonText.ofMembers
    [ ("snapshot_id", JsonText.writeNonEmpty info.revision)
    , ("etag", JsonText.writeNonEmpty info.etag)
    , ("extra", writeExtra info.extra) ]

def readExtra : Nat → JsonText → Option (Members String)
  | 0, _ => none
  | _ + 1, text => JsonText.readMembers JsonText.readString text

def ofText? : Nat → JsonText → Option RecordInfo
  | 0, _ => none
  | budget + 1, text => do
      match ← text.fields? ["snapshot_id", "etag", "extra"] with
      | [revision, etag, extra] =>
          let revision ← JsonText.readOr "" JsonText.readString revision
          let etag ← JsonText.readOr "" JsonText.readString etag
          let extra ← JsonText.readOr [] (readExtra budget) extra
          pure ⟨revision, etag, extra⟩
      | _ => none

end RecordInfo

end LayeredConfig
