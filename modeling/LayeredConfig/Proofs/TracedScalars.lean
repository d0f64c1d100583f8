import LayeredConfig.Proofs.Attribution

/-!
# Traced scalars that the merge holds

The first layer that defines a path need not be the one that the merge takes the value from: a
stronger layer may hide the path by a `null` inside of a value that is kept as a whole, or by a list
that is too short. A traced scalar is held exactly when no layer before the supplying one settles its
place.
-/
set_option autoImplicit false

namespace LayeredConfig

section

variable {α : Type} [Mergeable α] [Writable α] {written : α → Json → Prop}
  {opens : α → List Hop → Prop}

theorem first_defining_of_traced (merges : PlaceByPlace written opens) (layers : List (Layer α))
    (merged : α) (folded : overlay? (layers.map Layer.snapshot) = some merged)
    (wrote : AllWritten written layers) (forms : WrittenForms)
    (mergedWrote : written merged forms.merged)
    (belongs : List.Forall₂ WrittenForms.Belongs layers forms.layers)
    (path : String) (keys : List String) (value : Json) (trace : Trace)
    (traced : forms.trace path keys = .ok (value, trace)) (scalar : value.isScalar) :
    ∃ stronger layer weaker, FirstDefining path keys layers stronger weaker layer value := by
  have nonempty : forms.layers ≠ [] := by
    intro empty
    rw [empty] at belongs
    rw [List.forall₂_nil_right_iff.1 belongs] at folded
    cases folded
  have present : value ≠ .null := by
    intro same
    subst same
    cases scalar
  obtain ⟨same, outcome⟩ := WrittenForms.trace_eq_ok forms path keys value trace nonempty traced
  have winners := WrittenForms.winner_eq_some_iff path keys layers forms.layers belongs
  rcases outcome with ⟨winner, won, rfl⟩ | ⟨lost, followed⟩
  · rw [same] at won
    obtain ⟨stronger, layer, weaker, found, first, rfl⟩ := (winners winner).1 won
    exact ⟨stronger, layer, weaker, first⟩
  · obtain ⟨stronger, layer, weaker, -, -, first, -⟩ :=
      first_defining_of_followed merges path keys layers merged forms.merged value folded wrote
        mergedWrote followed present (Or.inl scalar)
    have won := (winners _).2 ⟨stronger, layer, weaker, value, first, rfl⟩
    rw [same, won] at lost
    cases lost

end

namespace Snapshot

/-- A layer supplies a scalar along some keys, and the configuration shows it exactly when every
stronger layer leaves the place open. -/
def ShownIfOpen (model : Model) (owners : Owners) (layers : List (Layer (Snapshot model)))
    (path : String) (keys : List String) (value : Json) (shown : Prop) : Prop :=
  ∃ stronger layer weaker document place,
    FirstDefining path keys layers stronger weaker layer value ∧
    encode layer.snapshot = some document ∧ List.Forall₂ Hop.Reads place keys ∧
    Json.at? place document = some value ∧
    (shown ↔ ∀ other ∈ stronger,
      other.snapshot.value.Open model.declarations owners place model.type)

theorem shown_if_open (model : Model) (owners : Owners) (stack : Stack (Snapshot model))
    (regular : ∀ layer ∈ stack.layers,
      layer.snapshot.value.Regular model.declarations owners model.type)
    (wiring : Wiring) (current : Configuration (Snapshot model))
    (resolved : stack.resolve wiring = .ok current) (forms : WrittenForms)
    (wroteForms : WrittenForms.ofConfiguration current = .ok forms) (path : String)
    (keys : List String) (value : Json) (trace : Trace)
    (traced : forms.trace path keys = .ok (value, trace)) (scalar : value.isScalar) :
    ShownIfOpen model owners stack.layers path keys value
      (forms.merged.follow path keys = .ok value) := by
  have merges := snapshots_place_by_place model owners
  obtain ⟨folded, sameLayers⟩ := resolve_eq_ok stack wiring current resolved
  obtain ⟨encoded, belongs⟩ := WrittenForms.of_configuration_eq_ok current forms wroteForms
  rw [sameLayers] at belongs
  have wrote : AllWritten (Writes model owners) stack.layers := by
    intro layer member
    obtain ⟨form, layerEncoded, -⟩ := form_of_mem _ _ _ belongs layer member
    exact ⟨form.document, regular layer member, layerEncoded⟩
  have mergedWrote := written_of_encode merges current.value forms.merged
    (overlay_written merges.lays _ current.value folded (snapshots_written stack.layers wrote))
    encoded
  obtain ⟨stronger, layer, weaker, first⟩ := first_defining_of_traced merges stack.layers
    current.value folded wrote forms mergedWrote belongs path keys value trace traced scalar
  obtain ⟨document, place, layerWrote, reads, held, shown⟩ := followed_iff_open merges path keys
    stack.layers stronger weaker layer current.value forms.merged value folded wrote mergedWrote
    first scalar
  exact ⟨stronger, layer, weaker, document, place, first, layerWrote, reads, held, shown⟩

/-- A traced scalar is the first that a layer defines at the path, and the configuration holds it
exactly when every stronger layer leaves the place open. The same is true of every traced leaf. -/
theorem traced_scalars_shown_iff (model : Model) (owners : Owners)
    (stack : Stack (Snapshot model))
    (regular : ∀ layer ∈ stack.layers,
      layer.snapshot.value.Regular model.declarations owners model.type)
    (wiring : Wiring) (current : Configuration (Snapshot model))
    (resolved : stack.resolve wiring = .ok current) :
    (∀ path value trace, current.trace path = .ok (value, trace) → value.isScalar →
      ∃ keys, Configuration.keysAt? (Snapshot model) path = some keys ∧
        ShownIfOpen model owners stack.layers path keys value (current.get path = .ok value)) ∧
    ∀ leaves, current.tracedLeaves = .ok leaves → ∀ leaf ∈ leaves, leaf.value.isScalar →
      ∃ merged keys, encode current.value = some merged ∧ Path.parse leaf.path = .ok keys ∧
        ShownIfOpen model owners stack.layers leaf.path keys leaf.value
          (merged.get leaf.path = .ok leaf.value) := by
  constructor
  · intro path value trace traced scalar
    obtain ⟨keys, forms, read, wroteForms, tracedForms⟩ :=
      Configuration.trace_eq_ok current path value trace traced
    have merged := (WrittenForms.of_configuration_eq_ok current forms wroteForms).1
    refine ⟨keys, read, ?_⟩
    rw [Configuration.get_eq_ok_iff current path keys forms.merged value read merged]
    exact shown_if_open model owners stack regular wiring current resolved forms wroteForms path
      keys value trace tracedForms scalar
  · intro leaves traced leaf member scalar
    obtain ⟨forms, wroteForms, each⟩ := Configuration.traced_leaves_eq_ok current leaves traced
    have merged := (WrittenForms.of_configuration_eq_ok current forms wroteForms).1
    obtain ⟨keys, listed, found⟩ := each leaf member
    obtain ⟨named, tracedLeaf, -⟩ := WrittenForms.leaf_eq_ok forms keys leaf found
    obtain ⟨inDocument, nonempty⟩ := List.mem_filter.1 listed
    have parsed : Path.parse leaf.path = .ok keys := by
      rw [named]
      exact Path.parse_join keys (by simpa using nonempty)
        (proper_of_mem_leaf_paths _ keys inDocument)
    refine ⟨forms.merged, keys, merged, parsed, ?_⟩
    rw [Json.get, parsed]
    exact shown_if_open model owners stack regular wiring current resolved forms wroteForms
      leaf.path keys leaf.value leaf.trace tracedLeaf scalar

def optionLists : Model :=
  Catalogue.model (.sequence (Catalogue.mapOf (.option (Catalogue.signed 64))))

/-- An unset number in a list over a list with a number there. -/
def hidingStack : Stack (Snapshot optionLists) where
  layers :=
    [ .ofScope (Scope.ofName "user" 20) ⟨.sequence [.map [("a", .absent)]]⟩
    , .ofScope (Scope.ofName "defaults" 10)
        ⟨.sequence [.map [("a", .present (.atom (.int 5)))]]⟩ ]

/-- A text over another one that a flattened map holds under the same key. -/
def collidingStack : Stack (Snapshot (Catalogue.declared "flat")) where
  layers :=
    [ .ofScope (Scope.ofName "user" 20)
        ⟨.product [.present (.atom (.text "u")), .product [.absent, .absent], .map []]⟩
    , .ofScope (Scope.ofName "defaults" 10)
        ⟨.product [.absent, .product [.absent, .absent],
          .map [("id", .dynamic (.string "x"))]]⟩ ]

/-- A pair of optional numbers, the first of which is left out while it is unset. -/
def shiftingPair : Model where
  declarations := fun _ => some (.record {
    fields :=
      [ Catalogue.withPresence (.sometimes Value.isUnset) (Catalogue.optional "0" (Catalogue.signed 64))
      , Catalogue.optional "1" (Catalogue.signed 64) ]
    layout := .items })
  type := .named "pair"

/-- A pair of which only the second number is set over one with the first. -/
def shiftingStack : Stack (Snapshot shiftingPair) where
  layers :=
    [ .ofScope (Scope.ofName "user" 20) ⟨.product [.absent, .present (.atom (.int 5))]⟩
    , .ofScope (Scope.ofName "defaults" 10)
        ⟨.product [.present (.atom (.int 1)), .absent]⟩ ]

/-- Retries that are left out while they are three attempts and a backoff of 250. -/
def omittedRetry : Model where
  declarations
    | "retry" => some (.record Catalogue.retry)
    | _ => some (.record { fields :=
        [ Catalogue.withPresence
            (.sometimes fun value =>
              value.same (.product [.present (.atom (.int 3)), .present (.atom (.int 250))]))
            (Catalogue.nested "retry" "retry" Catalogue.blankRetry) ] })
  type := .named "job"

/-- Three attempts over a backoff of 250, which together are left out. -/
def omittedStack : Stack (Snapshot omittedRetry) where
  layers :=
    [ .ofScope (Scope.ofName "user" 20)
        ⟨.product [.product [.present (.atom (.int 3)), .absent]]⟩
    , .ofScope (Scope.ofName "defaults" 10)
        ⟨.product [.product [.absent, .present (.atom (.int 250))]]⟩ ]

/-- A trace may report what the configuration does not hold: a number that an unset one hides, a text
in place of that of another field, a number in place of that of another item, a part of a record that
both layers write and the merge leaves out, and a number under a key that the merge spells otherwise. -/
theorem traced_scalar_hidden :
    (∃ current trace, hidingStack.resolve {} = .ok current ∧
      current.trace "0.a" = .ok (.ofInt 5, trace) ∧ current.get "0.a" = .ok .null) ∧
    (∃ current trace, collidingStack.resolve {} = .ok current ∧
      current.trace "id" = .ok (.string "u", trace) ∧ current.get "id" = .ok (.string "x")) ∧
    (∃ current trace, shiftingStack.resolve {} = .ok current ∧
      current.trace "0" = .ok (.ofInt 5, trace) ∧ current.get "0" = .ok (.ofInt 1)) ∧
    (∃ current trace, omittedStack.resolve {} = .ok current ∧
      current.trace "retry.backoff_ms" = .ok (.ofInt 250, trace) ∧
      current.get "retry.backoff_ms" = .error (.path (.noKey "retry.backoff_ms" "retry"))) ∧
    ∃ current trace, respelledStack.resolve {} = .ok current ∧
      current.trace "logs" = .ok (.ofInt 1, trace) ∧
      current.get "logs" = .error (.path (.noKey "logs" "logs")) :=
  ⟨⟨_, _, rfl, rfl, rfl⟩, ⟨_, _, rfl, rfl, rfl⟩, ⟨_, _, rfl, rfl, rfl⟩, ⟨_, _, rfl, rfl, rfl⟩,
    ⟨_, _, rfl, rfl, rfl⟩⟩

theorem hidden_scalar_shown_iff :
    ∃ current, hidingStack.resolve {} = .ok current ∧
      ∃ keys, Configuration.keysAt? (Snapshot optionLists) "0.a" = some keys ∧
        ShownIfOpen optionLists (byKey optionLists.declarations) hidingStack.layers "0.a" keys
          (.ofInt 5) (current.get "0.a" = .ok (.ofInt 5)) := by
  have placed (items : List Value) : (Value.sequence items).Placed optionLists.declarations
      (byKey optionLists.declarations) optionLists.type := by
    refine .intro _ _ trivial ?_
    intro part inner inside
    cases inside
  have sorted (value : Value) (inside : value.Sorted) :
      (Value.sequence [.map [("a", value)]]).Sorted := by
    refine .sequence _ (List.forall_mem_singleton.2 (.map _ ?_ ?_))
    · exact List.pairwise_singleton _ _
    · exact List.forall_mem_singleton.2 inside
  refine ⟨_, rfl, ?_⟩
  refine (traced_scalars_shown_iff optionLists (byKey optionLists.declarations) hidingStack ?_ {} _
    rfl).1 "0.a" (.ofInt 5) _ rfl rfl
  simp only [hidingStack, List.forall_mem_cons]
  refine ⟨⟨sorted _ .absent, placed _⟩, ⟨sorted _ ?_, placed _⟩, List.forall_mem_nil _⟩
  exact .present _ (.atom _ trivial)

end Snapshot

end LayeredConfig
