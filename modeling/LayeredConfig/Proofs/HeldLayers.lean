import LayeredConfig.Proofs.Addresses
import LayeredConfig.Proofs.Resolution

/-!
# The layers that scopes hold in a store

Scopes that have storage keys contribute the layers that a store in memory holds for them, in the order
of the scopes, and nothing where it holds none. What tells the scopes apart tells those layers apart.
-/
set_option autoImplicit false

namespace LayeredConfig.Storage

variable {α : Type}

def heldLayer (store : RecordStore α) (domain : String) (scope : Scope) : Option (Layer α) :=
  match (⟨domain, scope⟩ : Address).key with
  | .ok key =>
      (store.find? key).map fun stored => ⟨scope, stored.snapshot, stored.info.revision⟩
  | .error _ => none

def heldLayers (store : RecordStore α) (domain : String) (scopes : List Scope) : List (Layer α) :=
  scopes.filterMap (heldLayer store domain)

/-- A domain has a storage key within every scope. -/
def Addressable (domain : String) (scopes : List Scope) : Prop :=
  ∀ scope ∈ scopes, ∃ key, (⟨domain, scope⟩ : Address).key = .ok key

theorem stored_layer_eq (store : RecordStore α) (domain : String) (scope : Scope) (key : String)
    (keyed : (⟨domain, scope⟩ : Address).key = .ok key) :
    storedLayer store domain scope = .ok (heldLayer store domain scope) := by
  simp only [storedLayer, heldLayer, keyed]
  change (loadAt store _ key >>= _) = _
  rw [RecordStore.load_at_keyed store _ key keyed]
  rfl

theorem stored_layers_eq (store : RecordStore α) (domain : String) (scopes : List Scope)
    (addressable : Addressable domain scopes) :
    storedLayers store domain scopes = .ok (heldLayers store domain scopes) := by
  induction scopes with
  | nil => rfl
  | cons scope rest ih =>
      obtain ⟨⟨key, keyed⟩, others⟩ := List.forall_mem_cons.1 addressable
      rw [storedLayers, stored_layer_eq store domain scope key keyed, ih others]
      simp only [heldLayers, List.filterMap_cons]
      cases heldLayer store domain scope with
      | none => rfl
      | some layer => rfl

theorem scope_of_held (store : RecordStore α) (domain : String) (scope : Scope) (layer : Layer α)
    (held : heldLayer store domain scope = some layer) : layer.scope = scope := by
  simp only [heldLayer] at held
  split at held
  · obtain ⟨stored, -, rfl⟩ := Option.map_eq_some_iff.1 held
    rfl
  · cases held

theorem mem_held_layers (store : RecordStore α) (domain : String) (scopes : List Scope)
    (layer : Layer α) : layer ∈ heldLayers store domain scopes ↔
      layer.scope ∈ scopes ∧ heldLayer store domain layer.scope = some layer := by
  rw [heldLayers, List.mem_filterMap]
  constructor
  · rintro ⟨scope, member, held⟩
    obtain rfl := scope_of_held store domain scope layer held
    exact ⟨member, held⟩
  · rintro ⟨member, held⟩
    exact ⟨layer.scope, member, held⟩

theorem scopes_of_held_layers (store : RecordStore α) (domain : String) (scopes : List Scope) :
    ((heldLayers store domain scopes).map Layer.scope).Sublist scopes := by
  induction scopes with
  | nil => exact List.Sublist.slnil
  | cons scope rest ih =>
      rw [heldLayers, List.filterMap_cons]
      cases held : heldLayer store domain scope with
      | none => exact ih.cons scope
      | some layer =>
          rw [List.map_cons, scope_of_held store domain scope layer held]
          exact ih.cons_cons scope

theorem nodup_of_held_layers {β : Type} (store : RecordStore α) (domain : String)
    (scopes : List Scope) (mark : Scope → β) (distinct : (scopes.map mark).Nodup) :
    ((heldLayers store domain scopes).map fun layer => mark layer.scope).Nodup := by
  have marks := (scopes_of_held_layers store domain scopes).map mark
  rw [List.map_map] at marks
  exact marks.nodup distinct

theorem name_of_addressable (domain : String) (scopes : List Scope)
    (addressable : Addressable domain scopes) :
    ∀ scope ∈ scopes, scope.name ∈ "system" :: Address.keyedScopes := by
  intro scope member
  obtain ⟨key, keyed⟩ := addressable scope member
  exact (Address.key_eq_ok _ key keyed).1

theorem held_layers_named (store : RecordStore α) (domain : String) (scopes : List Scope)
    (addressable : Addressable domain scopes) (names : (scopes.map Scope.name).Nodup) :
    Stack.Named (heldLayers store domain scopes) := by
  refine ⟨?_, nodup_of_held_layers store domain scopes Scope.name names⟩
  intro name member
  obtain ⟨layer, inLayers, rfl⟩ := List.mem_map.1 member
  obtain ⟨inScopes, -⟩ := (mem_held_layers store domain scopes layer).1 inLayers
  obtain ⟨key, keyed⟩ := addressable layer.scope inScopes
  exact Address.named_of_keyed _ key keyed

end LayeredConfig.Storage
