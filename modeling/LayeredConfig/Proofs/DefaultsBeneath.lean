import LayeredConfig.Catalogue.Basic
import LayeredConfig.Proofs.Folding
import LayeredConfig.Proofs.HeldLayers

/-!
# Defaults beneath supplied scopes

The priority of defaults is one step below the weakest scope and stops at the least priority there is.
So they lie strictly beneath every scope above the least priority, and a layer at the least priority
ties with them.
-/
set_option autoImplicit false

namespace LayeredConfig.Storage

variable {α : Type}

theorem least_priority_eq_none (scopes : List Scope) : leastPriority? scopes = none ↔ scopes = [] := by
  cases scopes with
  | nil => exact iff_of_true rfl rfl
  | cons scope rest =>
      simp only [leastPriority?, reduceCtorEq, iff_false]
      cases leastPriority? rest <;> simp

theorem step_below_spec (priority : Int) (valid : Scope.isPriority priority) :
    Scope.isPriority (Scope.stepBelow priority) ∧
      (priority ≠ Scope.minPriority → Scope.stepBelow priority < priority) ∧
      (priority = Scope.minPriority → Scope.stepBelow priority = Scope.minPriority) := by
  simp only [Scope.isPriority, Bool.and_eq_true, decide_eq_true_eq] at *
  unfold Scope.stepBelow
  split
  · omega
  · omega

/-- The priority of defaults is a priority, below that of every scope that is not at the least. -/
theorem defaults_priority_spec (scopes : List Scope)
    (valid : ∀ scope ∈ scopes, Scope.isPriority scope.priority) :
    Scope.isPriority (defaultsPriority scopes) ∧
      (∀ scope ∈ scopes, scope.priority ≠ Scope.minPriority →
        defaultsPriority scopes < scope.priority) ∧
      ∀ scope ∈ scopes, scope.priority = Scope.minPriority →
        defaultsPriority scopes = Scope.minPriority := by
  unfold defaultsPriority
  cases found : leastPriority? scopes with
  | none =>
      obtain rfl := (least_priority_eq_none scopes).1 found
      exact ⟨by decide, List.forall_mem_nil _, List.forall_mem_nil _⟩
  | some least =>
      obtain ⟨⟨lowest, inScopes, rfl⟩, bound⟩ := least_priority_eq_some scopes least found
      obtain ⟨representable, below, stops⟩ := step_below_spec lowest.priority (valid lowest inScopes)
      refine ⟨representable, ?_, ?_⟩
      · intro scope member above
        rcases eq_or_ne lowest.priority Scope.minPriority with atLeast | higher
        · change Scope.stepBelow lowest.priority < _
          rw [stops atLeast, ← atLeast]
          exact lt_of_le_of_ne (bound scope member) (fun same => above (same ▸ atLeast))
        · exact lt_of_lt_of_le (below higher) (bound scope member)
      · intro scope member atLeast
        apply stops
        have lowestValid := valid lowest inScopes
        simp only [Scope.isPriority, Bool.and_eq_true, decide_eq_true_eq] at lowestValid
        exact le_antisymm (atLeast ▸ bound scope member) lowestValid.1

/-- A value that is repeated only by what is put at the end is the one at the end. -/
theorem duplicate_at_end (distinct : List Int) (last other : Int) (nodup : distinct.Nodup)
    (shared : List.Duplicate other (distinct ++ [last])) : other = last := by
  rw [List.duplicate_iff_two_le_count, List.count_append] at shared
  have once := List.nodup_iff_count_le_one.1 nodup other
  by_contra different
  rw [List.count_singleton, if_neg (by simpa using Ne.symm different)] at shared
  omega

/-- What is resolved over defaults: the stored layers from the strongest down, then the defaults, whose
priority lies below that of every layer and of every scope that is not at the least priority. -/
structure OverDefaults [Mergeable α] (store : RecordStore α) (domain : String) (defaults : α)
    (scopes : List Scope) (current : Configuration α) (upper : List (Layer α)) : Prop where
  stored : upper.Perm (heldLayers store domain scopes)
  descending : Stack.Descending upper
  layers : current.layers = upper ++ [defaultsLayer defaults scopes]
  folded : overlay? (upper.map Layer.snapshot ++ [defaults]) = some current.value
  beneath : ∀ scope ∈ scopes, scope.priority ≠ Scope.minPriority →
    (defaultsLayer defaults scopes).scope.priority < scope.priority
  stopped : ∀ scope ∈ scopes, scope.priority = Scope.minPriority →
    (defaultsLayer defaults scopes).scope.priority = Scope.minPriority
  beneathStored : ∀ layer ∈ upper,
    (defaultsLayer defaults scopes).scope.priority < layer.scope.priority
  representable : Scope.isPriority (defaultsLayer defaults scopes).scope.priority

/-- Whether a scope at the least priority has a layer. -/
def HoldsLeast (store : RecordStore α) (domain : String) (scopes : List Scope) : Prop :=
  ∃ layer ∈ heldLayers store domain scopes, layer.scope.priority = Scope.minPriority

theorem resolve_over_eq [Mergeable α] (store : RecordStore α) (domain : String) (named : domain ≠ "")
    (defaults : α) (scopes : List Scope) (addressable : Addressable domain scopes) :
    resolveOver store domain defaults scopes =
      resolveLayers (heldLayers store domain scopes ++ [defaultsLayer defaults scopes]) := by
  have unreserved : ¬ (scopes.any fun scope => scope.name = defaultsName) := by
    rw [List.any_eq_true]
    rintro ⟨scope, member, reserved⟩
    have listed := name_of_addressable domain scopes addressable scope member
    rw [of_decide_eq_true reserved] at listed
    exact absurd listed (by decide)
  rw [resolveOver, if_neg named, if_neg unreserved, stored_layers_eq store domain scopes addressable]
  rfl

theorem named_over_defaults (store : RecordStore α) (domain : String) (defaults : α)
    (scopes : List Scope) (addressable : Addressable domain scopes)
    (names : (scopes.map Scope.name).Nodup) :
    Stack.Named (heldLayers store domain scopes ++ [defaultsLayer defaults scopes]) := by
  obtain ⟨nonempty, distinct⟩ := held_layers_named store domain scopes addressable names
  have lowest : Stack.names [defaultsLayer defaults scopes] = [defaultsName] := rfl
  simp only [Stack.Named, Stack.names, List.map_append] at *
  rw [lowest]
  constructor
  · intro name member
    rcases List.mem_append.1 member with stored | last
    · exact nonempty name stored
    · rw [List.mem_singleton.1 last]
      decide
  · apply List.nodup_append.2
    refine ⟨distinct, List.nodup_singleton _, ?_⟩
    intro name member last lastMember same
    obtain ⟨layer, inLayers, rfl⟩ := List.mem_map.1 member
    obtain ⟨inScopes, -⟩ := (mem_held_layers store domain scopes layer).1 inLayers
    have listed := name_of_addressable domain scopes addressable _ inScopes
    rw [same, List.mem_singleton.1 lastMember] at listed
    exact absurd listed (by decide)

theorem held_priorities (store : RecordStore α) (domain : String) (defaults : α)
    (scopes : List Scope) :
    Stack.priorities (heldLayers store domain scopes ++ [defaultsLayer defaults scopes]) =
      Stack.priorities (heldLayers store domain scopes) ++ [defaultsPriority scopes] := by
  rw [Stack.priorities, List.map_append]
  rfl

theorem tied_over_defaults [Mergeable α] (store : RecordStore α) (domain : String)
    (named : domain ≠ "") (defaults : α) (scopes : List Scope)
    (addressable : Addressable domain scopes) (names : (scopes.map Scope.name).Nodup)
    (priorities : (scopes.map Scope.priority).Nodup)
    (valid : ∀ scope ∈ scopes, Scope.isPriority scope.priority)
    (least : HoldsLeast store domain scopes) :
    resolveOver store domain defaults scopes = .error (.tiedPriority Scope.minPriority) := by
  obtain ⟨layer, held, atLeast⟩ := least
  obtain ⟨inScopes, -⟩ := (mem_held_layers store domain scopes layer).1 held
  obtain ⟨-, -, stops⟩ := defaults_priority_spec scopes valid
  have lowest := stops layer.scope inScopes atLeast
  have distinct : (Stack.priorities (heldLayers store domain scopes)).Nodup :=
    nodup_of_held_layers store domain scopes Scope.priority priorities
  have tie : Stack.GreatestTie (heldLayers store domain scopes ++ [defaultsLayer defaults scopes])
      Scope.minPriority := by
    rw [Stack.GreatestTie, held_priorities, lowest]
    constructor
    · have found : 0 < (Stack.priorities (heldLayers store domain scopes)).count Scope.minPriority :=
        List.count_pos_iff.2 (List.mem_map.2 ⟨layer, held, atLeast⟩)
      rw [List.duplicate_iff_two_le_count, List.count_append, List.count_singleton_self]
      omega
    · intro other shared
      exact (duplicate_at_end _ _ other distinct shared).le
  have refused : Stack.ofLayers (heldLayers store domain scopes ++ [defaultsLayer defaults scopes]) =
      .error (.tiedPriority Scope.minPriority) := by
    apply (Stack.of_layers_eq_error_iff _ _).2
    right
    exact ⟨named_over_defaults store domain defaults scopes addressable names, _, tie, rfl⟩
  rw [resolve_over_eq store domain named defaults scopes addressable, resolveLayers, refused]
  rfl

theorem resolved_beneath [Mergeable α] (store : RecordStore α) (domain : String)
    (named : domain ≠ "") (defaults : α) (scopes : List Scope)
    (addressable : Addressable domain scopes) (names : (scopes.map Scope.name).Nodup)
    (priorities : (scopes.map Scope.priority).Nodup)
    (valid : ∀ scope ∈ scopes, Scope.isPriority scope.priority)
    (noneLeast : ¬ HoldsLeast store domain scopes) :
    ∃ current upper, resolveOver store domain defaults scopes = .ok current ∧
      OverDefaults store domain defaults scopes current upper := by
  obtain ⟨representable, beneath, stopped⟩ := defaults_priority_spec scopes valid
  have above : ∀ layer ∈ heldLayers store domain scopes,
      (defaultsLayer defaults scopes).scope.priority < layer.scope.priority := by
    intro layer held
    obtain ⟨inScopes, -⟩ := (mem_held_layers store domain scopes layer).1 held
    exact beneath layer.scope inScopes fun atLeast => noneLeast ⟨layer, held, atLeast⟩
  have distinct : (Stack.priorities
      (heldLayers store domain scopes ++ [defaultsLayer defaults scopes])).Nodup := by
    rw [held_priorities, List.nodup_append]
    refine ⟨nodup_of_held_layers store domain scopes Scope.priority priorities,
      List.nodup_singleton _, ?_⟩
    intro priority member last lastMember same
    obtain ⟨layer, held, rfl⟩ := List.mem_map.1 member
    rw [List.mem_singleton.1 lastMember] at same
    exact absurd same (above layer held).ne'
  obtain ⟨stack, made⟩ := (Stack.of_layers_succeeds_iff _).2
    ⟨named_over_defaults store domain defaults scopes addressable names, distinct⟩
  obtain ⟨upper, lower, upperMade, lowerMade, parts⟩ :=
    Stack.stack_splits (heldLayers store domain scopes) _ _ stack (List.Perm.refl _) made
      fun layer held => List.forall_mem_singleton.2 (above layer held)
  obtain ⟨-, upperPerm, descending⟩ := (Stack.of_layers_eq_ok_iff _ upper).1 upperMade
  obtain ⟨-, lowerPerm, -⟩ := (Stack.of_layers_eq_ok_iff _ lower).1 lowerMade
  rw [List.perm_singleton.1 lowerPerm] at parts
  have snapshots : stack.snapshots = upper.layers.map Layer.snapshot ++ [defaults] := by
    rw [Stack.snapshots, parts, List.map_append]
    rfl
  obtain ⟨merged, folded⟩ := overlay_nonempty stack.snapshots (by simp [snapshots])
  refine ⟨⟨merged, stack.layers, resolvedWiring⟩, upper.layers, ?_, ?_⟩
  · rw [resolve_over_eq store domain named defaults scopes addressable]
    exact (resolve_layers_eq_ok _ _).2 ⟨stack, made, resolve_of_overlay stack _ merged folded⟩
  · rw [snapshots] at folded
    refine ⟨upperPerm, descending, parts, folded, beneath, stopped, ?_, representable⟩
    intro layer inUpper
    exact above layer (upperPerm.mem_iff.1 inUpper)

/-- Resolving over defaults succeeds unless a layer is at the least priority, with which the defaults
then tie. Where it succeeds, the defaults are the last layer, beneath every scope that is above the least
priority and beneath every layer, and the value is the fold of the layers with the defaults as the
weakest. -/
theorem defaults_beneath_supplied [Mergeable α] (store : RecordStore α) (domain : String)
    (named : domain ≠ "") (defaults : α) (scopes : List Scope)
    (addressable : Addressable domain scopes) (names : (scopes.map Scope.name).Nodup)
    (priorities : (scopes.map Scope.priority).Nodup)
    (valid : ∀ scope ∈ scopes, Scope.isPriority scope.priority) :
    (¬ HoldsLeast store domain scopes →
      ∃ current upper, resolveOver store domain defaults scopes = .ok current ∧
        OverDefaults store domain defaults scopes current upper) ∧
    (HoldsLeast store domain scopes →
      resolveOver store domain defaults scopes = .error (.tiedPriority Scope.minPriority)) :=
  ⟨resolved_beneath store domain named defaults scopes addressable names priorities valid,
    tied_over_defaults store domain named defaults scopes addressable names priorities valid⟩

/-- A user at the least priority for whom nothing is stored, and a system there with a record. -/
theorem defaults_beneath_system :
    let stored : StoredRecord (Snapshot Catalogue.billingModel) :=
      ⟨⟨.product [.absent, .present (.atom (.int 100)), .absent]⟩, { revision := "1" }⟩
    let defaults : Snapshot Catalogue.billingModel :=
      ⟨.product [.present (.atom (.text "USD")), .present (.atom (.int 1)), .absent]⟩
    let store : RecordStore (Snapshot Catalogue.billingModel) := ⟨[("system/billing", stored)]⟩
    let user : Scope := { Scope.user "u" with priority := Scope.minPriority }
    let lowered : Scope := { Scope.system with priority := Scope.minPriority }
    (∃ current upper, resolveOver store "billing" defaults [Scope.system, user] = .ok current ∧
      OverDefaults store "billing" defaults [Scope.system, user] current upper) ∧
    resolveOver store "billing" defaults [lowered] = .error (.tiedPriority Scope.minPriority) := by
  intro stored defaults store user lowered
  constructor
  · apply (defaults_beneath_supplied store "billing" (by decide) defaults [Scope.system, user] ?_
      (by decide) (by decide) (by decide)).1
    · rintro ⟨layer, held, atLeast⟩
      have only : heldLayers store "billing" [Scope.system, user] =
          [⟨Scope.system, stored.snapshot, "1"⟩] := rfl
      rw [only, List.mem_singleton] at held
      rw [held] at atLeast
      exact absurd atLeast (by decide)
    · intro scope member
      rcases List.mem_pair.1 member with rfl | rfl
      · exact ⟨"system/billing", rfl⟩
      · exact ⟨"user/u/billing", rfl⟩
  · apply (defaults_beneath_supplied store "billing" (by decide) defaults [lowered] ?_
      (by decide) (by decide) (by decide)).2
    · exact ⟨⟨lowered, stored.snapshot, "1"⟩, List.mem_singleton.2 rfl, rfl⟩
    · exact List.forall_mem_singleton.2 ⟨"system/billing", rfl⟩

/-- No priority lies below a system at the least one: with its record the defaults are refused, and
without it they are put at the same priority. -/
theorem defaults_not_beneath_least :
    let system : Scope := { Scope.system with priority := Scope.minPriority }
    let stored : StoredRecord Json := ⟨.ofInt 1, {}⟩
    let store : RecordStore Json := ⟨[("system/billing", stored)]⟩
    (⟨"billing", system⟩ : Address).key = .ok "system/billing" ∧
      Scope.isPriority system.priority ∧
      resolveOver store "billing" .null [system] = .error (.tiedPriority Scope.minPriority) ∧
      ∃ current layer, resolveOver RecordStore.empty "billing" Json.null [system] = .ok current ∧
        current.layers = [layer] ∧ layer.scope.priority = system.priority := by
  intro system stored store
  have addressable : Addressable "billing" [system] :=
    List.forall_mem_singleton.2 ⟨"system/billing", rfl⟩
  have refused := tied_over_defaults store "billing" (by decide) Json.null [system] addressable
    (by decide) (by decide) (by decide) ⟨⟨system, .ofInt 1, ""⟩, List.mem_singleton.2 rfl, rfl⟩
  have alone : Stack.ofLayers [defaultsLayer Json.null [system]] =
      .ok ⟨[defaultsLayer Json.null [system]]⟩ := by
    apply (Stack.of_layers_eq_ok_iff _ _).2
    exact ⟨by decide, List.Perm.refl _, List.pairwise_singleton _ _⟩
  have resolved : resolveOver RecordStore.empty "billing" Json.null [system] =
      .ok ⟨.null, [defaultsLayer Json.null [system]], resolvedWiring⟩ := by
    rw [resolve_over_eq RecordStore.empty "billing" (by decide) Json.null [system] addressable]
    exact (resolve_layers_eq_ok _ _).2 ⟨_, alone, rfl⟩
  exact ⟨rfl, by decide, refused, _, _, resolved, rfl, rfl⟩

end LayeredConfig.Storage
