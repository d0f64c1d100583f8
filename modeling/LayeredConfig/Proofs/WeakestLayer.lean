import LayeredConfig.Proofs.KeyedMaps
import LayeredConfig.Proofs.FilledForms
import LayeredConfig.Proofs.Folding
import LayeredConfig.Proofs.Resolution

/-!
# Adding a weakest layer

A layer beneath all others changes nothing that is set: every scalar of the projection stays where it
is. Defaults are such a layer, so they fill only what the scopes leave `null` or missing.
-/
set_option autoImplicit false

namespace LayeredConfig

theorem Json.follow_kept (document filled : Json) (kept : document.KeptIn filled) (path : String)
    (keys : List String) (value : Json) (scalar : value.isScalar)
    (followed : document.follow path keys = .ok value) : filled.follow path keys = .ok value := by
  obtain ⟨place, reads, held⟩ := (follow_eq_ok path keys document value).1 followed
  exact (follow_eq_ok path keys filled value).2 ⟨place, reads, kept place value scalar held⟩

section

variable {α : Type} [Mergeable α] [Writable α]

/-- What folded layers become when one more lies beneath them: they are written if they were and the
added layer is, and every scalar that they were written with stays under its key path. -/
structure OnlyFills (merged weakest filled : α) : Prop where
  written : ∀ form lowest, encode merged = some form → encode weakest = some lowest →
    ∃ result, encode filled = some result
  kept : ∀ form result, encode merged = some form → encode filled = some result →
    ∀ path keys value, value.isScalar → form.follow path keys = .ok value →
      result.follow path keys = .ok value

/-- A layer beneath all others only fills, and so do defaults beneath what scopes store. -/
structure FillsFromBelow (kept : α → Prop) : Prop where
  folded : ∀ (layers : List α) (weakest : α), layers ≠ [] → (∀ layer ∈ layers, kept layer) →
    kept weakest → ∃ merged filled, overlay? layers = some merged ∧
      overlay? (layers ++ [weakest]) = some filled ∧ OnlyFills merged weakest filled
  resolved : ∀ (σ : Type) [Storage σ α] (store : σ) (domain : String) (defaults : α)
    (scopes : List Scope) (current extended : Configuration α),
    (∀ scope ∈ scopes, Scope.isPriority scope.priority) →
    Storage.resolve store domain scopes = .ok current →
    Storage.resolveOver store domain defaults scopes = .ok extended →
    (∀ layer ∈ current.layers, kept layer.snapshot) → kept defaults →
      OnlyFills current.value defaults extended.value

omit [Writable α] in
/-- Whatever a layer over the weakest one establishes and every stronger layer preserves holds of the
whole fold. The induction is on the layers, the strongest of which comes last. -/
theorem overlay_related (kept : α → Prop) (related : α → α → Prop) (weakest : α)
    (base : ∀ layer, kept layer → related layer (merge layer weakest))
    (step : ∀ layer below filled, kept layer → related below filled →
      related (merge layer below) (merge layer filled))
    (layers : List α) (nonempty : layers ≠ []) (all : ∀ layer ∈ layers, kept layer) :
    ∃ merged filled, overlay? layers = some merged ∧
      overlay? (layers ++ [weakest]) = some filled ∧ related merged filled := by
  induction layers with
  | nil => exact absurd rfl nonempty
  | cons layer rest ih =>
      obtain ⟨layerKept, restKept⟩ := List.forall_mem_cons.1 all
      rw [List.cons_append, overlay_layer, overlay_layer]
      cases rest with
      | nil => exact ⟨layer, merge layer weakest, rfl, rfl, base layer layerKept⟩
      | cons next others =>
          obtain ⟨below, filled, folded, foldedOver, holds⟩ := ih (by simp) restKept
          rw [folded, foldedOver]
          exact ⟨_, _, rfl, rfl, step layer below filled layerKept holds⟩

theorem fills_from_below (kept : α → Prop) (related : α → α → α → Prop)
    (base : ∀ weakest layer, kept weakest → kept layer →
      related weakest layer (merge layer weakest))
    (step : ∀ weakest layer below filled, kept layer → related weakest below filled →
      related weakest (merge layer below) (merge layer filled))
    (fills : ∀ weakest merged filled, related weakest merged filled →
      OnlyFills merged weakest filled) : FillsFromBelow kept := by
  have folded (layers : List α) (weakest : α) (nonempty : layers ≠ [])
      (all : ∀ layer ∈ layers, kept layer) (weakestKept : kept weakest) :
      ∃ merged filled, overlay? layers = some merged ∧
        overlay? (layers ++ [weakest]) = some filled ∧ OnlyFills merged weakest filled := by
    obtain ⟨merged, filled, below, above, holds⟩ :=
      overlay_related kept (related weakest) weakest (fun layer => base weakest layer weakestKept)
        (step weakest) layers nonempty all
    exact ⟨merged, filled, below, above, fills weakest merged filled holds⟩
  refine ⟨folded, ?_⟩
  intro σ _ store domain defaults scopes current extended valid resolved resolvedOver all defaultsKept
  obtain ⟨below, above⟩ := Storage.resolved_over_defaults store domain defaults scopes valid current
    extended resolved resolvedOver
  have nonempty : current.layers.map Layer.snapshot ≠ [] := by
    intro empty
    rw [empty] at below
    cases below
  obtain ⟨merged, filled, mergedFolded, filledFolded, holds⟩ :=
    folded _ defaults nonempty (List.forall_mem_map.2 all) defaultsKept
  rw [below, Option.some_inj] at mergedFolded
  rw [above, Option.some_inj] at filledFolded
  rw [mergedFolded, filledFolded]
  exact holds

end

theorem documents_fill_from_below : FillsFromBelow fun _ : Json => True := by
  apply fills_from_below _ fun _ merged filled => Json.KeptIn merged filled
  · intro weakest layer _ _
    exact layer.kept_in_merge weakest
  · intro weakest layer below filled _ kept
    exact layer.kept_in_over below filled kept
  · intro weakest merged filled kept
    refine ⟨fun _ _ _ _ => ⟨filled, rfl⟩, ?_⟩
    rintro _ _ same otherSame path keys value scalar followed
    cases same
    cases otherSame
    exact Json.follow_kept merged filled kept path keys value scalar followed

namespace Snapshot

/-- What is filled in, whether or not the added layer is written. -/
def FilledOver (model : Model) (weakest merged filled : Snapshot model) : Prop :=
  ∀ required, (required → ∃ form, encode weakest = some form) →
    merged.value.Filled model.declarations required filled.value model.type

theorem snapshots_fill_from_below (model : Model)
    (regular : model.type.Throughout model.declarations (Ty.Regular model.declarations)) :
    FillsFromBelow fun snapshot : Snapshot model =>
      snapshot.value.HasType model.declarations model.type := by
  apply fills_from_below _ (FilledOver model)
  · intro weakest layer weakestTyped layerTyped required written
    exact filled_over layer.value none (some weakest.value) model.type layerTyped regular
      (.added weakest.value model.type (arrives_of_offered _ _ ⟨weakestTyped, written⟩))
  · intro weakest layer below filled layerTyped inside required written
    exact filled_over layer.value (some below.value) (some filled.value) model.type layerTyped regular
      (.filled below.value filled.value model.type (inside required written))
  · intro weakest merged filled inside
    constructor
    · intro form lowest wrote weakestWrote
      exact written_of_filled merged.value filled.value model.type trivial regular
        (inside True fun _ => ⟨lowest, weakestWrote⟩) ⟨form, wrote⟩
    · intro form result wrote filledWrote path keys value scalar followed
      have kept := form_kept_of_filled merged.value filled.value model.type regular
        (inside False False.elim) form result wrote filledWrote
      exact Json.follow_kept form result kept path keys value scalar followed

/-- Adding a weakest layer never changes what is set, in snapshots of regular types and in documents,
and defaults fill only what is not set. -/
theorem weakest_layer_only_fills :
    (∀ model : Model, model.type.Throughout model.declarations (Ty.Regular model.declarations) →
      FillsFromBelow fun snapshot : Snapshot model =>
        snapshot.value.HasType model.declarations model.type) ∧
      FillsFromBelow fun _ : Json => True :=
  ⟨snapshots_fill_from_below, documents_fill_from_below⟩

/-- Where a key has several spellings, a layer beneath brings its own spelling, and what was set is found
under it only. -/
theorem respelled_below_displaces :
    ∃ merged filled form result, overlay? [FileNumbers.single "logs" 1] = some merged ∧
      overlay? [FileNumbers.single "logs" 1, .single "logs/" 2] = some filled ∧
      encode merged = some form ∧ encode filled = some result ∧
      form.follow "logs" ["logs"] = .ok (.ofInt 1) ∧
      result.follow "logs" ["logs"] = .error (.noKey "logs" "logs") ∧
      result.follow "logs/" ["logs/"] = .ok (.ofInt 1) :=
  ⟨_, _, _, _, rfl, rfl, rfl, rfl, rfl, rfl, rfl⟩

/-- The system sets three attempts, and the defaults have another number of attempts and a backoff. A
document sets a number and leaves the other member `null`. -/
theorem retry_defaults_only_fill :
    let attempts : Snapshot (Catalogue.declared "retry") :=
      ⟨.product [.present (.atom (.int 3)), .absent]⟩
    let defaults : Snapshot (Catalogue.declared "retry") :=
      ⟨.product [.present (.atom (.int 1)), .present (.atom (.int 250))]⟩
    let system := Scope.ofName "system" 0
    let store : RecordStore (Snapshot (Catalogue.declared "retry")) :=
      ⟨[("system/app", ⟨attempts, {}⟩)]⟩
    let document := Json.object [("a", .null), ("b", .ofInt 1)]
    let lowest := Json.object [("a", .ofInt 7), ("b", .null)]
    (∃ filled result, overlay? [attempts, defaults] = some filled ∧ encode filled = some result ∧
      result.follow "attempts" ["attempts"] = .ok (.ofInt 3)) ∧
    (∃ current extended, Storage.resolve store "app" [system] = .ok current ∧
      Storage.resolveOver store "app" defaults [system] = .ok extended ∧
      OnlyFills current.value defaults extended.value) ∧
    ∃ filled, overlay? [document, lowest] = some filled ∧
      filled.follow "b" ["b"] = .ok (.ofInt 1) := by
  intro attempts defaults system store document lowest
  obtain ⟨snapshots, documents⟩ := weakest_layer_only_fills
  have retries := snapshots (Catalogue.declared "retry") retry_regular
  have attemptsTyped : attempts.value.HasType Catalogue.declarations (.named "retry") :=
    retry_typed _ _ (number_typed 32 3 (by decide)) (.absent _)
  have defaultsTyped : defaults.value.HasType Catalogue.declarations (.named "retry") :=
    retry_typed _ _ (number_typed 32 1 (by decide)) (number_typed 64 250 (by decide))
  refine ⟨?folded, ?resolved, ?document⟩
  case folded =>
    obtain ⟨merged, filled, folded, foldedOver, fills⟩ := retries.folded [attempts] defaults (by simp)
      (List.forall_mem_singleton.2 attemptsTyped) defaultsTyped
    cases folded
    obtain ⟨result, wrote⟩ := fills.written _ _ rfl rfl
    exact ⟨filled, result, foldedOver, wrote,
      fills.kept _ result rfl wrote "attempts" ["attempts"] (.ofInt 3) rfl rfl⟩
  case resolved =>
    let stored : Layer (Snapshot (Catalogue.declared "retry")) := ⟨system, attempts, ""⟩
    let lowest := Storage.defaultsLayer defaults [system]
    have found : Storage.storedLayers store "app" [system] = .ok [stored] := rfl
    have alone : Stack.ofLayers [stored] = .ok ⟨[stored]⟩ := by
      apply (Stack.of_layers_eq_ok_iff _ _).2
      exact ⟨by decide, List.Perm.refl _, List.pairwise_singleton _ _⟩
    have both : Stack.ofLayers [stored, lowest] = .ok ⟨[stored, lowest]⟩ := by
      apply (Stack.of_layers_eq_ok_iff _ _).2
      exact ⟨by decide, List.Perm.refl _, by decide⟩
    have resolved : Storage.resolve store "app" [system] =
        .ok ⟨attempts, [stored], Storage.resolvedWiring⟩ := by
      rw [Storage.resolve, if_neg (by decide), bind_eq_ok]
      exact ⟨_, found, (Storage.resolve_layers_eq_ok _ _).2 ⟨_, alone, rfl⟩⟩
    have resolvedOver : Storage.resolveOver store "app" defaults [system] =
        .ok ⟨merge attempts defaults, [stored, lowest], Storage.resolvedWiring⟩ := by
      rw [Storage.resolveOver, if_neg (by decide), if_neg (by decide), bind_eq_ok]
      exact ⟨_, found, (Storage.resolve_layers_eq_ok _ _).2 ⟨_, both, rfl⟩⟩
    refine ⟨_, _, resolved, resolvedOver, ?_⟩
    apply retries.resolved _ store "app" defaults [system] _ _ (by decide) resolved resolvedOver
    · exact List.forall_mem_singleton.2 attemptsTyped
    · exact defaultsTyped
  case document =>
    obtain ⟨merged, filled, folded, foldedOver, fills⟩ := documents.folded [document] lowest (by simp)
      (fun _ _ => trivial) trivial
    cases folded
    exact ⟨filled, foldedOver, fills.kept _ _ rfl rfl "b" ["b"] (.ofInt 1) rfl rfl⟩

end Snapshot

end LayeredConfig
