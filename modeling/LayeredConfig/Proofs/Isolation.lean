import LayeredConfig.Proofs.Addresses
import LayeredConfig.Proofs.Updates

/-!
# What one address sees of another

What is loaded, resolved or updated at an address depends on the record under its key and on no other.
So addresses with different keys never see each other, and the addresses that do are those whose
identifiers spill.
-/
set_option autoImplicit false

namespace LayeredConfig.Storage

variable {α : Type}

theorem begin_update_congr [Blank α] (store other : RecordStore α) (address : Address)
    (info : RecordInfo) (same : Storage.load other address = Storage.load store address) :
    beginUpdate other address info = beginUpdate store address info := by
  simp only [beginUpdate, loadAt, same]

theorem stored_layer_congr (store other : RecordStore α) (domain : String) (scope : Scope)
    (same : Storage.load other ⟨domain, scope⟩ = Storage.load store ⟨domain, scope⟩) :
    storedLayer other domain scope = storedLayer store domain scope := by
  simp only [storedLayer, loadAt, same]

section

variable [Mergeable α] [Ruled α]

/-- What the second half of an update comes to depends on the record that was loaded. -/
theorem finish_update_congr (store other : RecordStore α) (pending : PendingUpdate α)
    (keyed : pending.address.key = .ok pending.key) (info : RecordInfo) (change : Change α)
    (same : other.find? pending.key = store.find? pending.key) :
    (finishUpdate other pending info change).outcome =
        (finishUpdate store pending info change).outcome ∧
      (finishUpdate other pending info change).store.find? pending.key =
        (finishUpdate store pending info change).store.find? pending.key := by
  obtain ⟨failure, -, refused⟩ | ⟨snapshot, -, saved⟩ := finish_cases pending keyed info change
  · rw [refused, refused]
    exact ⟨rfl, same⟩
  · rw [saved, saved]
    exact ⟨rfl, by simp only [committed, RecordStore.find_put_self]⟩

variable [Blank α]

/-- Two stores look alike from an address: it loads the same in both, contributes the same layer to
whatever is resolved, resolves to the same, and every update of it comes to the same. -/
structure SeenAlike (there : Address) (store after : RecordStore α) : Prop where
  loaded : Storage.load after there = Storage.load store there
  layered : storedLayer after there.domain there.scope = storedLayer store there.domain there.scope
  resolved : resolve after there.domain [there.scope] = resolve store there.domain [there.scope]
  resolvedOver : ∀ defaults, resolveOver after there.domain defaults [there.scope] =
    resolveOver store there.domain defaults [there.scope]
  updated : ∀ call : UpdateCall α, call.address = there →
    (call.attempt after).outcome = (call.attempt store).outcome ∧
      Storage.load (call.attempt after).store there = Storage.load (call.attempt store).store there

/-- Neither saves nor updates at the first address are seen from the second. -/
structure Isolated (here there : Address) : Prop where
  saved : ∀ (store after : RecordStore α) (stored : StoredRecord α) (info : RecordInfo),
    Storage.save store here stored = .ok (after, info) → SeenAlike there store after
  updated : ∀ (store : RecordStore α) (call : UpdateCall α), call.address = here →
    SeenAlike there store (call.attempt store).store

theorem attempt_congr (store other : RecordStore α) (call : UpdateCall α) (key : String)
    (keyed : call.address.key = .ok key) (same : other.find? key = store.find? key) :
    (call.attempt other).outcome = (call.attempt store).outcome ∧
      (call.attempt other).store.find? key = (call.attempt store).store.find? key := by
  have loaded : Storage.load other call.address = Storage.load store call.address := by
    rw [RecordStore.load_keyed _ _ key keyed, RecordStore.load_keyed _ _ key keyed, same]
  have begun := begin_update_congr store other call.address call.info loaded
  simp only [UpdateCall.attempt, attempt, begun]
  cases made : beginUpdate store call.address call.info with
  | error failure => exact ⟨rfl, same⟩
  | ok pending =>
      obtain ⟨-, found, foundKeyed, -, rfl⟩ := (begin_update_eq_ok _ _ _ _).1 made
      rw [keyed] at foundKeyed
      cases foundKeyed
      exact finish_update_congr store other _ keyed call.info call.change same

theorem seen_alike_of_find (there : Address) (key : String) (keyed : there.key = .ok key)
    (store after : RecordStore α) (same : after.find? key = store.find? key) :
    SeenAlike there store after := by
  have loaded : Storage.load after there = Storage.load store there := by
    rw [RecordStore.load_keyed _ _ key keyed, RecordStore.load_keyed _ _ key keyed, same]
  have layered := stored_layer_congr store after there.domain there.scope loaded
  refine ⟨loaded, layered, ?_, ?_, ?_⟩
  · simp only [resolve, storedLayers, layered]
  · intro defaults
    simp only [resolveOver, storedLayers, layered]
  · rintro call rfl
    obtain ⟨outcome, left⟩ := attempt_congr store after call key keyed same
    refine ⟨outcome, ?_⟩
    rw [RecordStore.load_keyed _ _ key keyed, RecordStore.load_keyed _ _ key keyed, left]

/-- Addresses see each other exactly when they share a key. -/
theorem isolated_iff_keys (here there : Address) (key other : String) (keyed : here.key = .ok key)
    (otherKeyed : there.key = .ok other) : Isolated (α := α) here there ↔ key ≠ other := by
  constructor
  · rintro isolated rfl
    let stored : StoredRecord α := ⟨Blank.blank, {}⟩
    have saved := RecordStore.save_keyed RecordStore.empty here key keyed stored
    have seen := (isolated.saved _ _ _ _ saved).loaded
    rw [RecordStore.load_keyed _ _ key otherKeyed, RecordStore.load_keyed _ _ key otherKeyed,
      RecordStore.find_put_self] at seen
    cases seen
  · intro different
    constructor
    · intro store after stored info saved
      rw [RecordStore.save_keyed store here key keyed stored] at saved
      cases saved
      apply seen_alike_of_find there other otherKeyed
      exact RecordStore.find_put_other _ _ _ _ different.symm
    · rintro store call rfl
      apply seen_alike_of_find there other otherKeyed
      exact find_attempt_other store call key other keyed different.symm

/-- Addresses that are meant to address different snapshots are isolated unless the identifier of one
spills into the domain of the other. Identifiers without a slash never do. -/
theorem isolated_unless_spilled (here there : Address) (key other : String)
    (keyed : here.key = .ok key) (otherKeyed : there.key = .ok other)
    (distinct : here.identity ≠ there.identity) :
    (key = other ↔ here.SpillsInto there ∨ there.SpillsInto here) ∧
      (Isolated (α := α) here there ↔ ¬ here.SpillsInto there ∧ ¬ there.SpillsInto here) ∧
      ((∀ address ∈ [here, there], ∀ value ∈ Address.identifierOf address.scope,
        '/' ∉ value.toList) → Isolated (α := α) here there) := by
  have keys : key = other ↔ here.SpillsInto there ∨ there.SpillsInto here := by
    rw [Address.same_key_iff here there key other keyed otherKeyed]
    simp only [distinct, false_or]
  have isolated : Isolated (α := α) here there ↔
      ¬ here.SpillsInto there ∧ ¬ there.SpillsInto here := by
    rw [isolated_iff_keys here there key other keyed otherKeyed, ne_eq, keys, not_or]
  refine ⟨keys, isolated, ?_⟩
  intro clean
  apply isolated.2
  constructor
  · exact Address.not_spills_of_clean here there (clean there (by simp))
  · exact Address.not_spills_of_clean there here (clean here (by simp))

end

/-- Two users of one domain. -/
theorem users_isolated :
    let here : Address := ⟨"billing", Scope.user "u-1"⟩
    let there : Address := ⟨"billing", Scope.user "u-2"⟩
    here.key = .ok "user/u-1/billing" ∧ there.key = .ok "user/u-2/billing" ∧
      Isolated (α := Snapshot Catalogue.billingModel) here there := by
  intro here there
  have keyed : here.key = .ok "user/u-1/billing" := rfl
  have otherKeyed : there.key = .ok "user/u-2/billing" := rfl
  refine ⟨keyed, otherKeyed, ?_⟩
  exact (isolated_unless_spilled here there _ _ keyed otherKeyed (by decide)).2.2 (by decide)

/-- The settings of one user in one domain are loaded as those of another user in another. -/
theorem slashed_identifier_seen :
    let here : Address := ⟨"b/c", Scope.user "a"⟩
    let there : Address := ⟨"c", Scope.user "a/b"⟩
    let stored : StoredRecord (Snapshot Catalogue.billingModel) :=
      ⟨⟨.product [.absent, .present (.atom (.int 7)), .absent]⟩, {}⟩
    here.identity ≠ there.identity ∧ here.key = .ok "user/a/b/c" ∧ there.key = .ok "user/a/b/c" ∧
      Storage.load (RecordStore.empty : RecordStore (Snapshot Catalogue.billingModel)) there =
        .ok none ∧
      ∃ after, Storage.save RecordStore.empty here stored = .ok (after, stored.info) ∧
        Storage.load (after : RecordStore (Snapshot Catalogue.billingModel)) there =
          .ok (some stored) := by
  intro here there stored
  exact ⟨by decide, rfl, rfl, rfl, _, rfl, rfl⟩

end LayeredConfig.Storage
