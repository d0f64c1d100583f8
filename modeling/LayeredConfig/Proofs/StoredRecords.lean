import LayeredConfig.Proofs.Members
import LayeredConfig.Store.Resolution

/-!
# What a store in memory holds

At an address with a storage key a store in memory never fails. It finds under each key what was put
there last, and nothing that is put under one key is seen under another.
-/
set_option autoImplicit false

namespace LayeredConfig

theorem Address.named_of_keyed (address : Address) (key : String)
    (keyed : address.key = .ok key) : address.scope.name ≠ "" := by
  intro nameless
  simp [Address.key, nameless, keyedScopes] at keyed

namespace RecordStore

variable {α : Type}

def find? (store : RecordStore α) (key : String) : Option (StoredRecord α) :=
  Members.find? key store.records

def put (store : RecordStore α) (key : String) (stored : StoredRecord α) : RecordStore α :=
  ⟨Members.insert key stored store.records⟩

theorem find_put (store : RecordStore α) (key other : String) (stored : StoredRecord α) :
    (store.put key stored).find? other = if other = key then some stored else store.find? other :=
  Members.find?_insert key other stored store.records

@[simp] theorem find_put_self (store : RecordStore α) (key : String) (stored : StoredRecord α) :
    (store.put key stored).find? key = some stored := by
  rw [find_put, if_pos rfl]

theorem find_put_other (store : RecordStore α) (key other : String) (stored : StoredRecord α)
    (different : other ≠ key) : (store.put key stored).find? other = store.find? other := by
  rw [find_put, if_neg different]

@[simp] theorem put_put (store : RecordStore α) (key : String) (first second : StoredRecord α) :
    (store.put key first).put key second = store.put key second := by
  simp only [put, Members.insert_insert]

theorem load_keyed (store : RecordStore α) (address : Address) (key : String)
    (keyed : address.key = .ok key) : Storage.load store address = .ok (store.find? key) := by
  change (keyOf address).map _ = _
  simp only [keyOf, keyed]
  rfl

theorem save_keyed (store : RecordStore α) (address : Address) (key : String)
    (keyed : address.key = .ok key) (stored : StoredRecord α) :
    Storage.save store address stored = .ok (store.put key stored, stored.info) := by
  change (keyOf address).map _ = _
  simp only [keyOf, keyed]
  rfl

theorem load_at_keyed (store : RecordStore α) (address : Address) (key : String)
    (keyed : address.key = .ok key) : Storage.loadAt store address key = .ok (store.find? key) := by
  rw [Storage.loadAt, load_keyed store address key keyed]

end RecordStore

end LayeredConfig
