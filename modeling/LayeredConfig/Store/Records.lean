import LayeredConfig.Store.Address
import LayeredConfig.Store.Info

/-!
# Stores in memory

A store keeps one snapshot with its metadata under each storage key. Storage can be out of order: a
faulty store fails before it looks at its records.
-/
set_option autoImplicit false

namespace LayeredConfig

structure StoredRecord (α : Type) where
  snapshot : α
  info : RecordInfo
deriving DecidableEq, Repr

/-- Loads and saves one snapshot for each address. Failures are texts. -/
class Storage (σ : Type) (α : outParam Type) where
  load : σ → Address → Except String (Option (StoredRecord α))
  /-- The store with a snapshot for an address, and the metadata as saved. -/
  save : σ → Address → StoredRecord α → Except String (σ × RecordInfo)

structure RecordStore (α : Type) where
  records : Members (StoredRecord α)
deriving DecidableEq, Repr

namespace RecordStore

variable {α : Type}

def empty : RecordStore α := ⟨[]⟩

def size (store : RecordStore α) : Nat :=
  store.records.length

def isEmpty (store : RecordStore α) : Bool :=
  store.records.isEmpty

/-- The storage key of an address; storage knows a failure by its text only. -/
def keyOf (address : Address) : Except String String :=
  match address.key with
  | .ok key => .ok key
  | .error failure => .error failure.message

def load (store : RecordStore α) (address : Address) :
    Except String (Option (StoredRecord α)) :=
  (keyOf address).map fun key => Members.find? key store.records

def save (store : RecordStore α) (address : Address) (stored : StoredRecord α) :
    Except String (RecordStore α × RecordInfo) :=
  (keyOf address).map fun key =>
    (⟨Members.insert key stored store.records⟩, stored.info)

instance : Storage (RecordStore α) α where
  load := load
  save := save

end RecordStore

/-- A store whose operations may be out of order, with the text of the failure. -/
structure FaultyStore (σ : Type) where
  store : σ
  loadFault : Option String := none
  saveFault : Option String := none
deriving DecidableEq, Repr

namespace FaultyStore

variable {σ α : Type} [Storage σ α]

def load (faulty : FaultyStore σ) (address : Address) :
    Except String (Option (StoredRecord α)) :=
  match faulty.loadFault with
  | some cause => .error cause
  | none => Storage.load faulty.store address

def save (faulty : FaultyStore σ) (address : Address) (stored : StoredRecord α) :
    Except String (FaultyStore σ × RecordInfo) :=
  match faulty.saveFault with
  | some cause => .error cause
  | none =>
      (Storage.save faulty.store address stored).map fun (store, info) =>
        ({ faulty with store }, info)

instance : Storage (FaultyStore σ) α where
  load := load
  save := save

end FaultyStore

end LayeredConfig
