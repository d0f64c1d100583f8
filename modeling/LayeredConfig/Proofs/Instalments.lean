import LayeredConfig.Proofs.Folding
import LayeredConfig.Proofs.Stacks

/-!
# Layering in instalments

Layers that are laid over a resolved value give what they give in one stack with the layers of that
value. No law of the merge is used: the fold nests the same way in both.
-/
set_option autoImplicit false

namespace LayeredConfig.Configuration

variable {α : Type} [Mergeable α]

theorem overlay_folds (current : Configuration α) (layers : List α) :
    overlay? (layers ++ [current.value]) = some (current.overlay layers).value := by
  obtain ⟨merged, folded⟩ := overlay_nonempty (layers ++ [current.value]) (by simp)
  simp only [overlay, withSnapshot, wired, folded, Option.getD_some]

theorem overlay_overlay (current : Configuration α) (stronger weaker : List α) :
    ((current.overlay weaker).overlay stronger).value =
      (current.overlay (stronger ++ weaker)).value := by
  have below : overlay? (weaker ++ [current.value]) = overlay? [(current.overlay weaker).value] := by
    rw [overlay_folds]
    rfl
  have whole := overlay_append_congr stronger _ _ below
  rw [← List.append_assoc, overlay_folds, overlay_folds] at whole
  exact (Option.some.inj whole).symm

/-- A stack that splits at a threshold resolves to what the stronger layers make of the weaker ones
resolved first, and layers that are laid over a configuration in two steps may be laid over it in one. -/
theorem instalments_layer_at_once :
    (∀ (strong weak layers : List (Layer α)) (threshold : Int) (stack : Stack α)
      (wiring other : Wiring), layers.Perm (strong ++ weak) → Stack.ofLayers layers = .ok stack →
      (∀ layer ∈ strong, threshold ≤ layer.scope.priority) →
      (∀ layer ∈ weak, layer.scope.priority < threshold) → weak ≠ [] →
      ∃ upper lower whole base, Stack.ofLayers strong = .ok upper ∧ Stack.ofLayers weak = .ok lower ∧
        stack.resolve wiring = .ok whole ∧ lower.resolve other = .ok base ∧
        (base.overlay upper.snapshots).value = whole.value) ∧
    ∀ (current : Configuration α) (stronger weaker : List α),
      ((current.overlay weaker).overlay stronger).value =
        (current.overlay (stronger ++ weaker)).value := by
  refine ⟨?split, overlay_overlay⟩
  intro strong weak layers threshold stack wiring other same made atLeast below nonempty
  have above : ∀ stronger ∈ strong, ∀ weaker ∈ weak,
      weaker.scope.priority < stronger.scope.priority := by
    intro stronger inStrong weaker inWeak
    exact lt_of_lt_of_le (below weaker inWeak) (atLeast stronger inStrong)
  obtain ⟨upper, lower, upperMade, lowerMade, parts⟩ :=
    Stack.stack_splits strong weak layers stack same made above
  obtain ⟨-, lowerPerm, -⟩ := (Stack.of_layers_eq_ok_iff weak lower).1 lowerMade
  have lowerNonempty : lower.snapshots ≠ [] := by
    intro empty
    have noLayers : lower.layers = [] := List.map_eq_nil_iff.1 empty
    rw [noLayers] at lowerPerm
    exact nonempty lowerPerm.symm.eq_nil
  obtain ⟨base, folded⟩ := overlay_nonempty lower.snapshots lowerNonempty
  have stackSnapshots : stack.snapshots = upper.snapshots ++ lower.snapshots := by
    rw [Stack.snapshots, parts, List.map_append]
    rfl
  have stackFolded : overlay? stack.snapshots =
      some ((⟨base, lower.layers, other⟩ : Configuration α).overlay upper.snapshots).value := by
    rw [stackSnapshots, ← overlay_folds]
    exact overlay_append_congr _ _ _ folded
  exact ⟨upper, lower, _, _, upperMade, lowerMade, resolve_of_overlay stack wiring _ stackFolded,
    resolve_of_overlay lower other base folded, rfl⟩

/-- A user's members over those of a team and a system, whose object the team severs. -/
theorem user_over_team_at_once :
    let system : Layer Json := .ofScope (.ofName "system" 0) (.object [("a", .object [])])
    let team : Layer Json := .ofScope (.ofName "team" 10) (.object [("a", .ofInt 1)])
    let user : Layer Json := .ofScope (.ofName "user" 20) (.object [("a", .object [])])
    ∃ whole base, (⟨[user, team, system]⟩ : Stack Json).resolve {} = .ok whole ∧
      (⟨[team, system]⟩ : Stack Json).resolve {} = .ok base ∧
      (base.overlay [user.snapshot]).value = whole.value := by
  intro system team user
  have made : Stack.ofLayers [team, system, user] = .ok ⟨[user, team, system]⟩ := by
    apply (Stack.of_layers_eq_ok_iff _ _).2
    exact ⟨by decide, by decide, by decide⟩
  have alone : Stack.ofLayers [user] = .ok ⟨[user]⟩ := by
    apply (Stack.of_layers_eq_ok_iff _ _).2
    exact ⟨by decide, by decide, by decide⟩
  have others : Stack.ofLayers [system, team] = .ok ⟨[team, system]⟩ := by
    apply (Stack.of_layers_eq_ok_iff _ _).2
    exact ⟨by decide, by decide, by decide⟩
  obtain ⟨upper, lower, whole, base, upperMade, lowerMade, resolved, resolvedBelow, same⟩ :=
    instalments_layer_at_once.1 [user] [system, team] [team, system, user] 15 _ {} {} (by decide) made
      (by decide) (by decide) (by decide)
  rw [alone] at upperMade
  cases upperMade
  rw [others] at lowerMade
  cases lowerMade
  exact ⟨whole, base, resolved, resolvedBelow, same⟩

end LayeredConfig.Configuration
