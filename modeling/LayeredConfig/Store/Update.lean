import LayeredConfig.Store.Resolution

/-!
# Updating stored snapshots

An update loads a snapshot, compares concurrency tokens, changes the snapshot, checks the result and
only then saves it. The first half, `beginUpdate`, ends where the change may run; nothing is saved
before the second half, `finishUpdate`, has checked the result. An update leaves a store behind also
where it fails: `attempt` says which, and `update` is what its caller sees.
-/
set_option autoImplicit false

namespace LayeredConfig

/-- A change of a snapshot. It may leave a changed snapshot behind and still fail. -/
abbrev Change (α : Type) := α → α × Option Failure

/-- An update that has loaded its snapshot and may run its change. -/
structure PendingUpdate (α : Type) where
  address : Address
  key : String
  current : StoredRecord α

/-- A store after an update, whether or not that succeeded, and the configuration of the saved snapshot
with the metadata as saved, or why there is none. -/
structure Attempt (σ α : Type) where
  store : σ
  outcome : Except Failure (Configuration α × RecordInfo)

/-- What an update that succeeds leaves behind: the store, the configuration of the saved snapshot, and
the metadata as saved. -/
structure Updated (σ α : Type) where
  store : σ
  configuration : Configuration α
  saved : RecordInfo

def Attempt.toExcept {σ α : Type} (attempt : Attempt σ α) : Except Failure (Updated σ α) :=
  match attempt.outcome with
  | .error failure => .error failure
  | .ok (configuration, saved) => .ok ⟨attempt.store, configuration, saved⟩

namespace Storage

variable {σ α : Type} [Storage σ α]

/-- Whether two concurrency tokens rule each other out: both are there and they differ. -/
def etagsDisagree (expected actual : String) : Bool :=
  expected ≠ "" && actual ≠ "" && expected ≠ actual

/-- Check the address, load, and compare concurrency tokens. Where nothing is stored, the update
starts from the blank snapshot. -/
def beginUpdate [Blank α] (store : σ) (address : Address) (info : RecordInfo) :
    Except Failure (PendingUpdate α) :=
  if address.domain = "" then .error .namelessDomain
  else if address.scope.name = "" then .error .namelessScope
  else do
    let key ← address.key
    let stored ← loadAt store address key
    let current := stored.getD ⟨Blank.blank, {}⟩
    if etagsDisagree info.etag current.info.etag then
      .error (.staleEtag info.etag current.info.etag)
    else .ok ⟨address, key, current⟩

def changed [Ruled α] (change : Change α) (snapshot : α) : Except Failure α :=
  match change snapshot with
  | (_, some failure) => .error failure
  | (snapshot, none) => (Ruled.check snapshot).map fun _ => snapshot

def savedConfiguration [Mergeable α] (scope : Scope) (snapshot : α) (saved : RecordInfo) :
    Except Failure (Configuration α × RecordInfo) := do
  let configuration ← resolveLayers [⟨scope, snapshot, saved.revision⟩]
  pure (configuration, saved)

/-- Change the snapshot, check the result, and save it. Once the snapshot is saved the store keeps it,
whatever becomes of the configuration. -/
def finishUpdate [Mergeable α] [Ruled α] (store : σ) (pending : PendingUpdate α)
    (info : RecordInfo) (change : Change α) : Attempt σ α :=
  match changed change pending.current.snapshot with
  | .error failure => ⟨store, .error failure⟩
  | .ok snapshot =>
      match Storage.save store pending.address ⟨snapshot, pending.current.info.updatedBy info⟩ with
      | .error cause => ⟨store, .error (.storageFailure .save pending.key cause)⟩
      | .ok (after, saved) => ⟨after, savedConfiguration pending.address.scope snapshot saved⟩

def attempt [Mergeable α] [Blank α] [Ruled α] (store : σ) (address : Address)
    (info : RecordInfo) (change : Change α) : Attempt σ α :=
  match beginUpdate store address info with
  | .error failure => ⟨store, .error failure⟩
  | .ok pending => finishUpdate store pending info change

/-- Change the snapshot of an address and save it, as the caller sees it. -/
def update [Mergeable α] [Blank α] [Ruled α] (store : σ) (address : Address)
    (info : RecordInfo) (change : Change α) : Except Failure (Updated σ α) :=
  (attempt store address info change).toExcept

end Storage

end LayeredConfig
