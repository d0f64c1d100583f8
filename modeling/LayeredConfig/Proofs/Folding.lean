import LayeredConfig.Proofs.Laying
import LayeredConfig.Stack

/-!
# Folding in parts

The weaker layers of a fold count through what they fold to and through nothing else.
-/
set_option autoImplicit false

namespace LayeredConfig

variable {α : Type} [Mergeable α]

def laidOver (layer : α) (below : Option α) : α :=
  below.elim layer (merge layer)

theorem overlay_layer (layer : α) (weaker : List α) :
    overlay? (layer :: weaker) = some (laidOver layer (overlay? weaker)) := by
  simp only [overlay?]
  cases overlay? weaker with
  | none => rfl
  | some below => rfl

theorem overlay_append_congr (stronger weaker other : List α)
    (same : overlay? weaker = overlay? other) :
    overlay? (stronger ++ weaker) = overlay? (stronger ++ other) := by
  induction stronger with
  | nil => exact same
  | cons layer rest ih =>
      rw [List.cons_append, List.cons_append, overlay_layer, overlay_layer, ih]

theorem overlay_kept (kept : α → Prop)
    (merges : ∀ strong weak, kept strong → kept weak → kept (merge strong weak)) (layers : List α)
    (all : ∀ layer ∈ layers, kept layer) : ∀ folded ∈ overlay? layers, kept folded := by
  induction layers with
  | nil => exact nofun
  | cons layer weaker ih =>
      obtain ⟨layerKept, weakerKept⟩ := List.forall_mem_cons.1 all
      intro folded found
      rcases overlay_cons layer folded weaker found with ⟨-, rfl⟩ | ⟨below, rest, rfl⟩
      · exact layerKept
      · exact merges layer below layerKept (ih weakerKept below rest)

theorem resolve_of_overlay (stack : Stack α) (wiring : Wiring) (value : α)
    (folded : overlay? stack.snapshots = some value) :
    stack.resolve wiring = .ok ⟨value, stack.layers, wiring⟩ := by
  rw [Stack.resolve, folded]

end LayeredConfig
