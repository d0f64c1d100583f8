import LayeredConfig.Catalogue.Basic
import LayeredConfig.Proofs.Folding
import LayeredConfig.Proofs.HeldLayers
import Mathlib.Logic.Relation

/-!
# Listing scopes in another way

What a domain resolves to is decided by the layers that its scopes hold. The order in which the scopes
are listed is lost when the layers are sorted, and a scope for which nothing is stored has no layer that
could be checked or folded.
-/
set_option autoImplicit false

namespace LayeredConfig.Storage

variable {α : Type}

/-- A domain has a storage key within a scope, and nothing is stored under it. -/
def Vacant (store : RecordStore α) (domain : String) (scope : Scope) : Prop :=
  ∃ key, (⟨domain, scope⟩ : Address).key = .ok key ∧ store.find? key = none

/-- One change to a list of scopes: another order, or one vacant scope more or less. -/
inductive Relists (store : RecordStore α) (domain : String) : List Scope → List Scope → Prop
  | permuted (scopes other : List Scope) (same : scopes.Perm other) :
      Relists store domain scopes other
  | inserted (before after : List Scope) (scope : Scope) (vacant : Vacant store domain scope) :
      Relists store domain (before ++ after) (before ++ scope :: after)
  | removed (before after : List Scope) (scope : Scope) (vacant : Vacant store domain scope) :
      Relists store domain (before ++ scope :: after) (before ++ after)

theorem held_of_vacant (store : RecordStore α) (domain : String) (scope : Scope)
    (vacant : Vacant store domain scope) : heldLayer store domain scope = none := by
  obtain ⟨key, keyed, nothing⟩ := vacant
  simp only [heldLayer, keyed, nothing, Option.map_none]

theorem vacant_scope_unseen (store : RecordStore α) (domain : String) (before after : List Scope)
    (scope : Scope) (vacant : Vacant store domain scope) :
    heldLayers store domain (before ++ scope :: after) =
        heldLayers store domain (before ++ after) ∧
      (Addressable domain (before ++ scope :: after) ↔ Addressable domain (before ++ after)) := by
  constructor
  · simp only [heldLayers, List.filterMap_append, List.filterMap_cons,
      held_of_vacant store domain scope vacant]
  · obtain ⟨key, keyed, -⟩ := vacant
    have addressed : ∃ key, (⟨domain, scope⟩ : Address).key = .ok key := ⟨key, keyed⟩
    simp only [Addressable, List.forall_mem_append, List.forall_mem_cons, addressed, true_and]

theorem relists_keeps_held (store : RecordStore α) (domain : String) (scopes other : List Scope)
    (relists : Relists store domain scopes other) :
    (heldLayers store domain other).Perm (heldLayers store domain scopes) ∧
      (Addressable domain other ↔ Addressable domain scopes) := by
  cases relists with
  | permuted _ _ same =>
      refine ⟨(same.filterMap (heldLayer store domain)).symm, ?_⟩
      simp only [Addressable, same.mem_iff]
  | inserted before after scope vacant =>
      obtain ⟨held, addressed⟩ := vacant_scope_unseen store domain before after scope vacant
      exact ⟨List.Perm.of_eq held, addressed⟩
  | removed before after scope vacant =>
      obtain ⟨held, addressed⟩ := vacant_scope_unseen store domain before after scope vacant
      exact ⟨List.Perm.of_eq held.symm, addressed.symm⟩

theorem addressable_of_stored (store : RecordStore α) (domain : String) (scopes : List Scope)
    (layers : List (Layer α)) (found : storedLayers store domain scopes = .ok layers) :
    Addressable domain scopes := by
  induction scopes generalizing layers with
  | nil => exact List.forall_mem_nil _
  | cons scope rest ih =>
      simp only [storedLayers, bind_eq_ok] at found
      obtain ⟨first, firstFound, others, othersFound, -⟩ := found
      simp only [storedLayer, bind_eq_ok] at firstFound
      obtain ⟨key, keyed, -⟩ := firstFound
      exact List.forall_mem_cons.2 ⟨⟨key, keyed⟩, ih others othersFound⟩

theorem resolve_eq_ok_iff [Mergeable α] (store : RecordStore α) (domain : String)
    (scopes : List Scope) (current : Configuration α) :
    resolve store domain scopes = .ok current ↔ domain ≠ "" ∧ Addressable domain scopes ∧
      resolveLayers (heldLayers store domain scopes) = .ok current := by
  constructor
  · intro resolved
    have named : domain ≠ "" := by
      rintro rfl
      cases resolved
    obtain ⟨layers, stored, made⟩ := stored_of_resolve store domain scopes current resolved
    have addressable := addressable_of_stored store domain scopes layers stored
    rw [stored_layers_eq store domain scopes addressable] at stored
    cases stored
    exact ⟨named, addressable, made⟩
  · rintro ⟨named, addressable, made⟩
    have some : ¬ (heldLayers store domain scopes).isEmpty := by
      intro none
      rw [List.isEmpty_iff.1 none] at made
      obtain ⟨stack, stackMade, stackResolved⟩ := (resolve_layers_eq_ok _ _).1 made
      obtain ⟨-, empty, -⟩ := (Stack.of_layers_eq_ok_iff _ stack).1 stackMade
      rw [Stack.resolve, Stack.snapshots, empty.eq_nil] at stackResolved
      cases stackResolved
    rw [resolve, if_neg named, stored_layers_eq store domain scopes addressable]
    change (if _ then _ else _) = _
    rw [if_neg some, made]

theorem resolve_layers_perm [Mergeable α] (layers other : List (Layer α)) (same : other.Perm layers)
    (current : Configuration α) (resolved : resolveLayers layers = .ok current) :
    resolveLayers other = .ok current := by
  rw [resolve_layers_eq_ok] at resolved ⊢
  obtain ⟨stack, made, stackResolved⟩ := resolved
  exact ⟨stack, Stack.of_layers_perm layers other same stack made, stackResolved⟩

theorem relists_keeps_resolved [Mergeable α] (store : RecordStore α) (domain : String)
    (scopes other : List Scope) (relists : Relists store domain scopes other)
    (current : Configuration α) (resolved : resolve store domain scopes = .ok current) :
    resolve store domain other = .ok current := by
  rw [resolve_eq_ok_iff] at resolved ⊢
  obtain ⟨named, addressable, made⟩ := resolved
  obtain ⟨same, addressed⟩ := relists_keeps_held store domain scopes other relists
  exact ⟨named, addressed.2 addressable, resolve_layers_perm _ _ same current made⟩

theorem relisted_keeps_resolved [Mergeable α] (store : RecordStore α) (domain : String)
    (scopes other : List Scope)
    (relisted : Relation.ReflTransGen (Relists store domain) scopes other)
    (current : Configuration α) (resolved : resolve store domain scopes = .ok current) :
    resolve store domain other = .ok current := by
  induction relisted with
  | refl => exact resolved
  | tail _ relists ih => exact relists_keeps_resolved store domain _ _ relists current ih

/-- However often the scopes are put in another order and vacant ones are added or left out, the domain
resolves to the same configuration, whose layers are what is stored for the scopes, strictly decreasing
in priority, and whose value is their fold. -/
theorem resolved_whatever_listing [Mergeable α] (store : RecordStore α) (domain : String)
    (scopes : List Scope) (current : Configuration α)
    (resolved : resolve store domain scopes = .ok current) :
    (∀ other, Relation.ReflTransGen (Relists store domain) scopes other →
      resolve store domain other = .ok current) ∧
    current.layers.Perm (heldLayers store domain scopes) ∧
    Stack.Descending current.layers ∧
    overlay? (current.layers.map Layer.snapshot) = some current.value := by
  obtain ⟨-, -, made⟩ := (resolve_eq_ok_iff store domain scopes current).1 resolved
  obtain ⟨stack, stackMade, stackResolved⟩ := (resolve_layers_eq_ok _ current).1 made
  obtain ⟨-, same, descending⟩ := (Stack.of_layers_eq_ok_iff _ stack).1 stackMade
  obtain ⟨folded, kept⟩ := resolve_eq_ok stack _ current stackResolved
  rw [kept]
  refine ⟨?_, same, descending, folded⟩
  intro other relisted
  exact relisted_keeps_resolved store domain scopes other relisted current resolved

/-- A system and a user with records, listed the other way round and with an organisation at the
priority of the user, for which nothing is stored. -/
theorem user_over_system_whatever_listing :
    let limit : Snapshot Catalogue.billingModel :=
      ⟨.product [.absent, .present (.atom (.int 100)), .absent]⟩
    let currency : Snapshot Catalogue.billingModel :=
      ⟨.product [.present (.atom (.text "USD")), .absent, .absent]⟩
    let both : Snapshot Catalogue.billingModel :=
      ⟨.product [.present (.atom (.text "USD")), .present (.atom (.int 100)), .absent]⟩
    let store : RecordStore (Snapshot Catalogue.billingModel) :=
      ⟨[("system/billing", ⟨limit, { revision := "1" }⟩), ("user/u/billing", ⟨currency, {}⟩)]⟩
    let org : Scope := { Scope.org "o" with priority := Scope.userPriority }
    let layers : List (Layer (Snapshot Catalogue.billingModel)) :=
      [⟨Scope.user "u", currency, ""⟩, ⟨Scope.system, limit, "1"⟩]
    resolve store "billing" [Scope.system, Scope.user "u"] = .ok ⟨both, layers, resolvedWiring⟩ ∧
      resolve store "billing" [Scope.user "u", org, Scope.system] =
        .ok ⟨both, layers, resolvedWiring⟩ := by
  intro limit currency both store org layers
  have addressable : Addressable "billing" [Scope.system, Scope.user "u"] :=
    List.forall_mem_cons.2 ⟨⟨"system/billing", rfl⟩,
      List.forall_mem_singleton.2 ⟨"user/u/billing", rfl⟩⟩
  have held : heldLayers store "billing" [Scope.system, Scope.user "u"] =
      [⟨Scope.system, limit, "1"⟩, ⟨Scope.user "u", currency, ""⟩] := rfl
  have made : Stack.ofLayers (heldLayers store "billing" [Scope.system, Scope.user "u"]) =
      .ok ⟨layers⟩ := by
    apply (Stack.of_layers_eq_ok_iff _ _).2
    rw [held]
    exact ⟨by decide, List.Perm.swap _ _ _, by decide⟩
  have resolved : resolve store "billing" [Scope.system, Scope.user "u"] =
      .ok ⟨both, layers, resolvedWiring⟩ := by
    apply (resolve_eq_ok_iff _ _ _ _).2
    exact ⟨by decide, addressable, (resolve_layers_eq_ok _ _).2 ⟨_, made, rfl⟩⟩
  have swapped : Relists store "billing" [Scope.system, Scope.user "u"]
      [Scope.user "u", Scope.system] := .permuted _ _ (List.Perm.swap _ _ _)
  have further : Relists store "billing" [Scope.user "u", Scope.system]
      [Scope.user "u", org, Scope.system] :=
    .inserted [Scope.user "u"] [Scope.system] org ⟨"org/o/billing", rfl, rfl⟩
  refine ⟨resolved, ?_⟩
  exact (resolved_whatever_listing store "billing" _ _ resolved).1 _
    ((Relation.ReflTransGen.single swapped).tail further)

end LayeredConfig.Storage
