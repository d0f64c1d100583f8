import LayeredConfig.Catalogue.Basic
import LayeredConfig.Proofs.Absorption
import LayeredConfig.Proofs.Folding

/-!
# Repeated layers

A layer that is repeated counts at its strongest position only: what it says further down is hidden by
what it says further up, whatever the layers between say.
-/
set_option autoImplicit false

namespace LayeredConfig

section

variable {α : Type} [Mergeable α]

/-- The same layer further down makes no difference under the layer itself. The induction is on the
layers between, the nearest of which lies over results that the layer does not tell apart. -/
theorem laid_over_repeated (kept : α → Prop)
    (merges : ∀ strong weak, kept strong → kept weak → kept (merge strong weak)) (layer : α)
    (absorbs : Absorbs merge kept layer) (between weaker : List α) (layerKept : kept layer)
    (betweenKept : ∀ middle ∈ between, kept middle) (weakerKept : ∀ weak ∈ weaker, kept weak) :
    laidOver layer (overlay? (between ++ layer :: weaker)) =
      laidOver layer (overlay? (between ++ weaker)) := by
  induction between with
  | nil =>
      rw [List.nil_append, overlay_layer]
      exact absorbs.again _ (overlay_kept kept merges weaker weakerKept)
  | cons middle rest ih =>
      obtain ⟨middleKept, restKept⟩ := List.forall_mem_cons.1 betweenKept
      have foldKept (lower : List α) (lowerKept : ∀ weak ∈ lower, kept weak) :=
        overlay_kept kept merges (rest ++ lower) (List.forall_mem_append.2 ⟨restKept, lowerKept⟩)
      rw [List.cons_append, List.cons_append, overlay_layer, overlay_layer]
      apply absorbs.between middle _ _ middleKept
      · exact foldKept (layer :: weaker) (List.forall_mem_cons.2 ⟨layerKept, weakerKept⟩)
      · exact foldKept weaker weakerKept
      · exact ih restKept

/-- Layers of which a repeated one counts only where it is strongest. Merging a layer with itself and
merging it again over or under another one are the least cases. -/
structure CountOnce (kept : α → Prop) : Prop where
  folded : ∀ (layer : α) (stronger between weaker : List α), kept layer →
    (∀ middle ∈ between, kept middle) → (∀ weak ∈ weaker, kept weak) →
      overlay? (stronger ++ layer :: between ++ layer :: weaker) =
        overlay? (stronger ++ layer :: between ++ weaker)
  itself : ∀ layer : α, kept layer → merge layer layer = layer
  above : ∀ layer other : α, kept layer → kept other →
    merge layer (merge layer other) = merge layer other
  under : ∀ layer other : α, kept layer → kept other →
    merge layer (merge other layer) = merge layer other

theorem count_once (kept : α → Prop)
    (merges : ∀ strong weak, kept strong → kept weak → kept (merge strong weak))
    (absorbs : ∀ layer, kept layer → Absorbs merge kept layer) : CountOnce kept where
  folded layer stronger between weaker layerKept betweenKept weakerKept := by
    have same := laid_over_repeated kept merges layer (absorbs layer layerKept) between weaker layerKept
      betweenKept weakerKept
    rw [List.append_assoc, List.append_assoc, List.cons_append, List.cons_append]
    apply overlay_append_congr
    rw [overlay_layer, overlay_layer, same]
  itself layer layerKept := (absorbs layer layerKept).again none nofun
  above layer other layerKept otherKept :=
    (absorbs layer layerKept).again (some other) fun _ same => Option.some.inj same ▸ otherKept
  under layer other layerKept otherKept := by
    have itself := (absorbs layer layerKept).again none nofun
    apply (absorbs layer layerKept).between other (some layer) none otherKept _ nofun itself
    intro weak same
    exact Option.some.inj same ▸ layerKept

end

namespace Snapshot

theorem snapshot_absorbs {model : Model} (snapshot : Snapshot model)
    (sorted : snapshot.value.Sorted) :
    Absorbs merge (fun snapshot : Snapshot model => snapshot.value.Sorted) snapshot := by
  apply absorbs_container Snapshot.mk (fun snapshot => some snapshot.value) snapshot.value
    (snapshot.value.absorbs sorted) (fun _ => rfl)
  case inside =>
    intro whole wholeSorted part found
    cases found
    exact wholeSorted
  case laid =>
    intro part below
    cases below <;> rfl
  case middles =>
    intro middle
    exact Or.inl ⟨middle.value, rfl⟩

/-- Snapshots of every model and documents count once in a fold: all that is needed of them is that
their maps keep their keys in order. -/
theorem repeated_layers_count_once :
    (∀ model : Model, CountOnce fun snapshot : Snapshot model => snapshot.value.Sorted) ∧
      CountOnce Json.Sorted := by
  constructor
  · intro model
    apply count_once _ _ snapshot_absorbs
    intro strong weak strongSorted weakSorted
    exact sorted_merge strong.value weak.value strongSorted weakSorted
  · exact count_once Json.Sorted Json.sorted_merge Json.absorbs

/-- Retries that are repeated under a layer that sets the other number, and a document that is repeated
under a scalar in place of its object. -/
theorem repeated_retries_count_once :
    let attempts : Snapshot (Catalogue.declared "retry") :=
      ⟨.product [.present (.atom (.int 3)), .absent]⟩
    let backoff : Snapshot (Catalogue.declared "retry") :=
      ⟨.product [.absent, .present (.atom (.int 250))]⟩
    let document := Json.object [("a", .object [])]
    let scalar := Json.object [("a", .ofInt 1)]
    let lowest := Json.object [("a", .object [("b", .null)])]
    overlay? [attempts, backoff, attempts] = overlay? [attempts, backoff] ∧
      overlay? [scalar, document, scalar, document, lowest] =
        overlay? [scalar, document, scalar, lowest] := by
  intro attempts backoff document scalar lowest
  obtain ⟨snapshots, documents⟩ := repeated_layers_count_once
  have numbers (value other : Value) (sorted : value.Sorted) (otherSorted : other.Sorted) :
      (Value.product [value, other]).Sorted := by
    apply Value.Everywhere.product
    simp only [List.forall_mem_cons, List.not_mem_nil, false_implies, implies_true, and_true]
    exact ⟨sorted, otherSorted⟩
  have number (value : Int) : (Value.present (.atom (.int value))).Sorted :=
    .present _ (.atom _ trivial)
  have member (value : Json) (sorted : value.Sorted) : (Json.object [("a", value)]).Sorted :=
    ⟨List.pairwise_singleton _ _, sorted, trivial⟩
  have empty : (Json.object []).Sorted := ⟨List.Pairwise.nil, trivial⟩
  have inner : (Json.object [("b", .null)]).Sorted :=
    ⟨List.pairwise_singleton _ _, trivial, trivial⟩
  constructor
  · apply (snapshots (Catalogue.declared "retry")).folded attempts [] [backoff] []
    · exact numbers _ _ (number 3) .absent
    · exact List.forall_mem_singleton.2 (numbers _ _ .absent (number 250))
    · exact List.forall_mem_nil _
  · apply documents.folded document [scalar] [scalar] [lowest]
    · exact member _ empty
    · exact List.forall_mem_singleton.2 (member _ trivial)
    · exact List.forall_mem_singleton.2 (member _ inner)

end Snapshot

end LayeredConfig
