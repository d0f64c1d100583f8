import LayeredConfig.Proofs.Attribution
import LayeredConfig.Proofs.Outcomes
import LayeredConfig.Proofs.Stacks
import LayeredConfig.Store.Resolution

/-!
# Resolving what scopes store

What scopes store for a domain makes the same stack with and without defaults, except for the layer of
the defaults at the bottom: their priority is below that of every scope.
-/
set_option autoImplicit false

namespace LayeredConfig.Storage

variable {σ α : Type} [Storage σ α]

theorem scope_of_stored_layer (store : σ) (domain : String) (scope : Scope) (layer : Layer α)
    (found : storedLayer store domain scope = .ok (some layer)) : layer.scope = scope := by
  unfold storedLayer at found
  simp only [bind_eq_ok] at found
  obtain ⟨key, -, stored, -, same⟩ := found
  have mapped := Except.ok.inj same
  obtain ⟨record, -, rfl⟩ := Option.map_eq_some_iff.1 mapped
  rfl

theorem scopes_of_stored_layers (store : σ) (domain : String) (scopes : List Scope)
    (layers : List (Layer α)) (found : storedLayers store domain scopes = .ok layers) :
    ∀ layer ∈ layers, layer.scope ∈ scopes := by
  induction scopes generalizing layers with
  | nil =>
      cases found
      exact List.forall_mem_nil _
  | cons scope rest ih =>
      simp only [storedLayers, bind_eq_ok] at found
      obtain ⟨first, firstFound, others, othersFound, same⟩ := found
      have split := Except.ok.inj same
      intro layer member
      rw [← split] at member
      rcases List.mem_append.1 member with here | later
      · obtain rfl := Option.mem_toList.1 here
        rw [scope_of_stored_layer store domain scope layer firstFound]
        exact List.mem_cons_self
      · exact List.mem_cons_of_mem _ (ih others othersFound layer later)

theorem least_priority_eq_some (scopes : List Scope) (least : Int)
    (found : leastPriority? scopes = some least) :
    (∃ lowest ∈ scopes, lowest.priority = least) ∧ ∀ scope ∈ scopes, least ≤ scope.priority := by
  induction scopes generalizing least with
  | nil => cases found
  | cons scope rest ih =>
      simp only [leastPriority?] at found
      cases restFound : leastPriority? rest with
      | none =>
          have empty : rest = [] := by
            cases rest with
            | nil => rfl
            | cons next others =>
                simp only [leastPriority?] at restFound
                split at restFound <;> cases restFound
          rw [restFound] at found
          cases found
          subst empty
          exact ⟨⟨scope, List.mem_cons_self, rfl⟩, List.forall_mem_singleton.2 le_rfl⟩
      | some below =>
          obtain ⟨⟨lowest, member, same⟩, bound⟩ := ih below restFound
          rw [restFound] at found
          cases found
          constructor
          · rcases le_total scope.priority below with less | more
            · exact ⟨scope, List.mem_cons_self, (min_eq_left less).symm⟩
            · exact ⟨lowest, List.mem_cons_of_mem _ member, by rw [same, min_eq_right more]⟩
          · intro other member
            rcases List.mem_cons.1 member with rfl | inRest
            · exact min_le_left _ _
            · exact (min_le_right _ _).trans (bound other inRest)

theorem defaults_priority_le (scopes : List Scope)
    (valid : ∀ scope ∈ scopes, Scope.isPriority scope.priority) :
    ∀ scope ∈ scopes, defaultsPriority scopes ≤ scope.priority := by
  intro scope member
  unfold defaultsPriority
  cases found : leastPriority? scopes with
  | none =>
      cases scopes with
      | nil => cases member
      | cons first rest =>
          simp only [leastPriority?] at found
          split at found <;> cases found
  | some least =>
      obtain ⟨⟨lowest, inScopes, rfl⟩, bound⟩ := least_priority_eq_some scopes least found
      have lowestValid := valid lowest inScopes
      simp only [Scope.isPriority, Bool.and_eq_true, decide_eq_true_eq] at lowestValid
      have below := bound scope member
      simp only [Scope.stepBelow]
      split <;> omega

theorem resolve_layers_eq_ok [Mergeable α] (layers : List (Layer α)) (current : Configuration α) :
    resolveLayers layers = .ok current ↔
      ∃ stack, Stack.ofLayers layers = .ok stack ∧ stack.resolve resolvedWiring = .ok current := by
  unfold resolveLayers
  exact bind_eq_ok _ _ _

theorem stored_of_resolve [Mergeable α] (store : σ) (domain : String) (scopes : List Scope)
    (current : Configuration α) (found : resolve store domain scopes = .ok current) :
    ∃ layers, storedLayers store domain scopes = .ok layers ∧
      resolveLayers layers = .ok current := by
  unfold resolve at found
  split at found
  · cases found
  obtain ⟨layers, stored, made⟩ := (bind_eq_ok _ _ _).1 found
  split at made
  · cases made
  exact ⟨layers, stored, made⟩

theorem stored_of_resolve_over [Mergeable α] (store : σ) (domain : String) (defaults : α)
    (scopes : List Scope) (current : Configuration α)
    (found : resolveOver store domain defaults scopes = .ok current) :
    ∃ layers, storedLayers store domain scopes = .ok layers ∧
      resolveLayers (layers ++ [defaultsLayer defaults scopes]) = .ok current := by
  unfold resolveOver at found
  split at found
  · cases found
  split at found
  · cases found
  exact (bind_eq_ok _ _ _).1 found

theorem defaults_below_stored (store : σ) (domain : String) (defaults : α) (scopes : List Scope)
    (valid : ∀ scope ∈ scopes, Scope.isPriority scope.priority) (layers : List (Layer α))
    (stored : storedLayers store domain scopes = .ok layers) (stack : Stack α)
    (made : Stack.ofLayers (layers ++ [defaultsLayer defaults scopes]) = .ok stack) :
    ∀ layer ∈ layers, (defaultsLayer defaults scopes).scope.priority < layer.scope.priority := by
  intro layer member
  have scopeGiven := scopes_of_stored_layers store domain scopes layers stored layer member
  have least : defaultsPriority scopes ≤ layer.scope.priority :=
    defaults_priority_le scopes valid _ scopeGiven
  apply lt_of_le_of_ne least
  intro same
  have distinct := ((Stack.of_layers_succeeds_iff _).1 ⟨stack, made⟩).2
  rw [Stack.priorities, List.map_append, List.nodup_append] at distinct
  exact distinct.2.2 layer.scope.priority (List.mem_map_of_mem member) _
    (List.mem_map_of_mem List.mem_cons_self) same.symm

/-- What scopes store resolves over defaults to what it resolves to, with the defaults as one more layer
at the bottom. -/
theorem resolved_over_defaults [Mergeable α] (store : σ) (domain : String) (defaults : α)
    (scopes : List Scope) (valid : ∀ scope ∈ scopes, Scope.isPriority scope.priority)
    (current extended : Configuration α) (resolved : resolve store domain scopes = .ok current)
    (resolvedOver : resolveOver store domain defaults scopes = .ok extended) :
    overlay? (current.layers.map Layer.snapshot) = some current.value ∧
      overlay? (current.layers.map Layer.snapshot ++ [defaults]) = some extended.value := by
  obtain ⟨layers, stored, made⟩ := stored_of_resolve store domain scopes current resolved
  obtain ⟨_, storedAgain, madeOver⟩ :=
    stored_of_resolve_over store domain defaults scopes extended resolvedOver
  rw [stored] at storedAgain
  cases storedAgain
  obtain ⟨upper, upperMade, upperResolved⟩ := (resolve_layers_eq_ok layers current).1 made
  obtain ⟨folded, sameLayers⟩ := resolve_eq_ok upper _ current upperResolved
  obtain ⟨stack, stackMade, stackResolved⟩ := (resolve_layers_eq_ok _ extended).1 madeOver
  obtain ⟨foldedOver, -⟩ := resolve_eq_ok stack _ extended stackResolved
  have below := defaults_below_stored store domain defaults scopes valid layers stored stack stackMade
  obtain ⟨_, lower, upperAgain, lowerMade, parts⟩ :=
    Stack.stack_splits layers _ _ stack (List.Perm.refl _) stackMade fun layer member =>
      List.forall_mem_singleton.2 (below layer member)
  rw [upperMade] at upperAgain
  cases upperAgain
  obtain ⟨-, lowerPerm, -⟩ := (Stack.of_layers_eq_ok_iff _ lower).1 lowerMade
  rw [parts, List.perm_singleton.1 lowerPerm, List.map_append] at foldedOver
  rw [sameLayers]
  exact ⟨folded, foldedOver⟩

end LayeredConfig.Storage
