import LayeredConfig.Catalogue.Basic
import LayeredConfig.Proofs.KeyedMaps
import LayeredConfig.Proofs.Leaves
import LayeredConfig.Proofs.SnapshotMerge
import LayeredConfig.Proofs.SortedSnapshots
import LayeredConfig.Proofs.Traces
import LayeredConfig.Proofs.Typing
import LayeredConfig.Stack

/-!
# Attribution of values to layers

A trace goes through the written layers and never looks at the merge. The two agree on every leaf
that the merge holds, and on a traced scalar exactly where every layer before the supplying one leaves
the place open.
-/
set_option autoImplicit false

namespace LayeredConfig

section

variable {α : Type} [Mergeable α] [Writable α]

/-- Snapshots that merge place by place. A place that is open is silent however its path is read. -/
structure PlaceByPlace (written : α → Json → Prop) (opens : α → List Hop → Prop) : Prop where
  lays : LaysOver (fun value => value.isScalar) written opens
  encodes : ∀ snapshot form, written snapshot form → encode snapshot = some form
  silent : ∀ snapshot place other form found, List.Forall₂ Hop.Agrees place other →
    opens snapshot place → written snapshot form →
      Json.at? other form = some found → found = .null

def AllWritten (written : α → Json → Prop) (layers : List (Layer α)) : Prop :=
  ∀ layer ∈ layers, ∃ form, written layer.snapshot form

variable {written : α → Json → Prop} {opens : α → List Hop → Prop}

omit [Mergeable α] [Writable α] in
theorem snapshots_written (layers : List (Layer α)) (wrote : AllWritten written layers) :
    ∀ snapshot ∈ layers.map Layer.snapshot, ∃ form, written snapshot form := by
  intro snapshot member
  obtain ⟨layer, inLayers, rfl⟩ := List.mem_map.1 member
  exact wrote layer inLayers

theorem written_of_encode (merges : PlaceByPlace written opens) (snapshot : α) (document : Json)
    (wrote : ∃ form, written snapshot form) (encoded : encode snapshot = some document) :
    written snapshot document := by
  obtain ⟨form, formWrote⟩ := wrote
  have same := merges.encodes snapshot form formWrote
  rw [encoded] at same
  cases same
  exact formWrote

theorem undefined_of_open (merges : PlaceByPlace written opens) (path : String)
    (keys : List String) (layer : Layer α) (place : List Hop)
    (wrote : ∃ form, written layer.snapshot form) (reads : List.Forall₂ Hop.Reads place keys)
    (opened : opens layer.snapshot place) (found : Json) : ¬ Defines path keys layer found := by
  intro held
  obtain ⟨document, encoded, followed, present⟩ := held
  obtain ⟨other, otherReads, held⟩ := (Json.follow_eq_ok path keys document found).1 followed
  exact present (merges.silent layer.snapshot place other document found
    (place_agrees_of_reads place other keys reads otherReads) opened
    (written_of_encode merges layer.snapshot document wrote encoded) held)

theorem first_defining_of_supplied (merges : PlaceByPlace written opens) (path : String)
    (keys : List String) (layers : List (Layer α)) (place : List Hop) (value : Json)
    (wrote : AllWritten written layers) (reads : List.Forall₂ Hop.Reads place keys)
    (present : value ≠ .null)
    (supplied : Supplied written opens (layers.map Layer.snapshot) place value) :
    ∃ stronger layer weaker document, FirstDefining path keys layers stronger weaker layer value ∧
      written layer.snapshot document ∧ Json.at? place document = some value ∧
      ∀ other ∈ stronger, opens other.snapshot place := by
  obtain ⟨before, snapshot, after, document, split, allOpen, layerWrote, held⟩ := supplied
  obtain ⟨stronger, rest, rfl, rfl, restSplit⟩ := List.map_eq_append_iff.1 split
  obtain ⟨layer, weaker, rfl, rfl, -⟩ := List.map_eq_cons_iff.1 restSplit
  have strongerOpen : ∀ other ∈ stronger, opens other.snapshot place :=
    fun other member => allOpen _ (List.mem_map_of_mem member)
  refine ⟨stronger, layer, weaker, document, ⟨rfl, ?_, ?_⟩, layerWrote, held, strongerOpen⟩
  · exact ⟨document, merges.encodes _ _ layerWrote,
      (Json.follow_eq_ok path keys document value).2 ⟨place, reads, held⟩, present⟩
  · intro other member found
    exact undefined_of_open merges path keys other place
      (wrote other (List.mem_append_left _ member)) reads (strongerOpen other member) found

/-- A leaf or scalar that the folded layers hold along some keys comes from the first layer that
defines them. -/
theorem first_defining_of_followed (merges : PlaceByPlace written opens) (path : String)
    (keys : List String) (layers : List (Layer α)) (merged : α) (form value : Json)
    (folded : overlay? (layers.map Layer.snapshot) = some merged)
    (wrote : AllWritten written layers) (mergedWrote : written merged form)
    (followed : form.follow path keys = .ok value)
    (present : value ≠ .null) (leaf : value.isScalar ∨ value.isLeaf) :
    ∃ stronger layer weaker document place,
      FirstDefining path keys layers stronger weaker layer value ∧
      written layer.snapshot document ∧ List.Forall₂ Hop.Reads place keys ∧
      Json.at? place document = some value ∧ Json.at? place form = some value ∧
      ∀ other ∈ stronger, opens other.snapshot place := by
  obtain ⟨place, reads, held⟩ := (Json.follow_eq_ok path keys form value).1 followed
  obtain ⟨own, -, supplied, same⟩ := overlay_supplied merges.lays _ merged form value folded
    (snapshots_written layers wrote) mergedWrote place present held
  obtain rfl := same leaf
  obtain ⟨stronger, layer, weaker, document, first, layerWrote, layerHeld, strongerOpen⟩ :=
    first_defining_of_supplied merges path keys layers place own wrote reads present supplied
  exact ⟨stronger, layer, weaker, document, place, first, layerWrote, reads, layerHeld, held,
    strongerOpen⟩

/-- The folded layers hold the scalar of the first layer that defines some keys exactly when every
layer before it leaves the place open. -/
theorem followed_iff_open (merges : PlaceByPlace written opens) (path : String)
    (keys : List String) (layers stronger weaker : List (Layer α)) (layer : Layer α) (merged : α)
    (form value : Json) (folded : overlay? (layers.map Layer.snapshot) = some merged)
    (wrote : AllWritten written layers) (mergedWrote : written merged form)
    (first : FirstDefining path keys layers stronger weaker layer value) (scalar : value.isScalar) :
    ∃ document place, encode layer.snapshot = some document ∧
      List.Forall₂ Hop.Reads place keys ∧ Json.at? place document = some value ∧
      (form.follow path keys = .ok value ↔ ∀ other ∈ stronger, opens other.snapshot place) := by
  obtain ⟨split, ⟨document, encoded, followed, present⟩, silent⟩ := first
  obtain ⟨place, reads, held⟩ := (Json.follow_eq_ok path keys document value).1 followed
  refine ⟨document, place, encoded, reads, held, ?_⟩
  constructor
  · intro mergedFollowed
    obtain ⟨others, supplier, rest, otherDocument, otherPlace, second, otherWrote, otherReads,
      otherHeld, -, strongerOpen⟩ :=
      first_defining_of_followed merges path keys layers merged form value folded wrote mergedWrote
        mergedFollowed present (Or.inl scalar)
    obtain ⟨rfl, rfl, -, -⟩ := first_defining_unique path keys _ _ _ _ _ _ _ _ _
      ⟨split, ⟨document, encoded, followed, present⟩, silent⟩ second
    have same := merges.encodes _ _ otherWrote
    rw [encoded] at same
    cases same
    obtain rfl := Json.place_unique document keys place otherPlace reads otherReads
      (by simp [held]) (by simp [otherHeld])
    exact strongerOpen
  · intro strongerOpen
    have inLayers : layer ∈ layers := by simp [split]
    have layerWrote :=
      written_of_encode merges layer.snapshot document (wrote layer inLayers) encoded
    refine (Json.follow_eq_ok path keys form value).2 ⟨place, reads, ?_⟩
    apply (overlay_holds_iff merges.lays _ merged form value folded (snapshots_written layers wrote)
      mergedWrote place scalar present).2
    refine ⟨stronger.map Layer.snapshot, layer.snapshot, weaker.map Layer.snapshot, document,
      by simp [split], ?_, layerWrote, held⟩
    intro snapshot member
    obtain ⟨other, inStronger, rfl⟩ := List.mem_map.1 member
    exact strongerOpen other inStronger

/-- A traced leaf is never a combination, and a leaf that the folded layers hold is attributed to the
first layer that defines it. -/
theorem leaf_attributed (merges : PlaceByPlace written opens) (layers : List (Layer α)) (merged : α)
    (folded : overlay? (layers.map Layer.snapshot) = some merged)
    (wrote : AllWritten written layers)
    (forms : WrittenForms) (mergedWrote : written merged forms.merged)
    (belongs : List.Forall₂ WrittenForms.Belongs layers forms.layers)
    (sorted : forms.merged.Sorted) (keys : List String)
    (listed : keys ∈ segmentLeaves forms.merged) (leaf : TracedLeaf)
    (found : forms.leaf keys = .ok leaf) :
    leaf.attribution ≠ .combined ∧
      ∀ value, forms.merged.follow leaf.path keys = .ok value → value ≠ .null →
        ∃ stronger layer weaker, FirstDefining leaf.path keys layers stronger weaker layer value ∧
          leaf.attribution = .layer ⟨layer.scope, layer.revision, leaf.path, value, true⟩ := by
  obtain ⟨-, traced, attributed⟩ := WrittenForms.leaf_eq_ok forms keys leaf found
  have nonempty : forms.layers ≠ [] := by
    intro empty
    rw [empty] at belongs
    rw [List.forall₂_nil_right_iff.1 belongs] at folded
    cases folded
  obtain ⟨same, outcome⟩ := WrittenForms.trace_eq_ok forms leaf.path keys _ _ nonempty traced
  have supplied (value : Json) (followed : forms.merged.follow leaf.path keys = .ok value)
      (present : value ≠ .null) :
      ∃ stronger layer weaker, FirstDefining leaf.path keys layers stronger weaker layer value ∧
        leaf.attribution = .layer ⟨layer.scope, layer.revision, leaf.path, value, true⟩ := by
    have inDocument := (List.mem_filter.1 listed).1
    have isLeaf := leaf_of_followed leaf.path forms.merged value keys sorted inDocument followed
    obtain ⟨stronger, layer, weaker, -, -, first, -⟩ :=
      first_defining_of_followed merges leaf.path keys layers merged forms.merged value folded wrote
        mergedWrote followed present (Or.inr isLeaf)
    have won := (WrittenForms.winner_eq_some_iff leaf.path keys layers forms.layers belongs _).2
      ⟨stronger, layer, weaker, value, first, rfl⟩
    refine ⟨stronger, layer, weaker, first, ?_⟩
    rw [attributed, same, attributionOf, won]
  refine ⟨?_, supplied⟩
  rcases outcome with ⟨winner, won, -⟩ | ⟨lost, followed⟩
  · rw [attributed, attributionOf, won]
    simp
  · rw [attributed, attributionOf, lost]
    intro combined
    cases null : leaf.value.isNull with
    | true => simp [null] at combined
    | false =>
        have present : leaf.value ≠ .null := by
          intro isNull
          rw [isNull] at null
          cases null
        obtain ⟨stronger, layer, weaker, -, layered⟩ := supplied leaf.value followed present
        rw [attributed, attributionOf, lost] at layered
        simp [null] at layered

omit [Writable α] in
theorem resolve_eq_ok (stack : Stack α) (wiring : Wiring) (current : Configuration α)
    (resolved : stack.resolve wiring = .ok current) :
    overlay? (stack.layers.map Layer.snapshot) = some current.value ∧
      current.layers = stack.layers := by
  unfold Stack.resolve at resolved
  split at resolved
  · rename_i value folded
    cases resolved
    exact ⟨folded, rfl⟩
  · cases resolved

end

namespace Snapshot

theorem snapshots_place_by_place (model : Model) (owners : Owners) :
    PlaceByPlace (Writes model owners) fun snapshot place =>
      snapshot.value.Open model.declarations owners place model.type where
  lays := snapshots_lay_over model owners
  encodes := fun _ _ wrote => wrote.2
  silent := by
    intro snapshot place other form found agrees opened otherHeld held
    obtain ⟨regular, wrote⟩ := otherHeld
    exact null_of_open place other snapshot.value model.type form found regular agrees opened wrote
      held

/-- Attribution is sound: no leaf is attributed to a combination, and a leaf that the merge holds is
attributed to the first layer that defines it. The strongest layer's scalars are all merged. -/
theorem leaves_attributed_to_strongest (model : Model)
    (regular : model.type.Throughout model.declarations (Ty.Regular model.declarations))
    (stack : Stack (Snapshot model)) (sorted : ∀ layer ∈ stack.layers, layer.snapshot.value.Sorted)
    (written : ∀ layer ∈ stack.layers, ∃ document, encode layer.snapshot = some document)
    (wiring : Wiring) (current : Configuration (Snapshot model))
    (resolved : stack.resolve wiring = .ok current) :
    ∃ merged, encode current.value = some merged ∧
      (∀ leaves, current.tracedLeaves = .ok leaves → ∀ leaf ∈ leaves,
        leaf.attribution ≠ .combined ∧
        ∃ keys, Path.parse leaf.path = .ok keys ∧
          ∀ value, merged.get leaf.path = .ok value → value ≠ .null →
            ∃ stronger layer weaker,
              FirstDefining leaf.path keys stack.layers stronger weaker layer value ∧
              leaf.attribution = .layer ⟨layer.scope, layer.revision, leaf.path, value, true⟩) ∧
      ∀ strongest weaker document, stack.layers = strongest :: weaker →
        encode strongest.snapshot = some document → ∀ path keys value, value.isScalar →
          document.follow path keys = .ok value → merged.follow path keys = .ok value := by
  have merges := snapshots_place_by_place model (byKey model.declarations)
  obtain ⟨folded, sameLayers⟩ := resolve_eq_ok stack wiring current resolved
  have wrote : AllWritten (Writes model (byKey model.declarations)) stack.layers := by
    intro layer member
    obtain ⟨document, encoded⟩ := written layer member
    exact ⟨document, ⟨sorted layer member, placed_of_regular _ _ regular⟩, encoded⟩
  obtain ⟨merged, mergedWrote⟩ :=
    overlay_written merges.lays _ current.value folded (snapshots_written stack.layers wrote)
  have mergedSorted := sorted_write _ mergedWrote.1.sorted _ _ mergedWrote.2
  refine ⟨merged, mergedWrote.2, ?_, ?_⟩
  · intro leaves traced leaf member
    obtain ⟨forms, wroteForms, each⟩ :=
      Configuration.traced_leaves_eq_ok current leaves traced
    obtain ⟨formWrote, belongs⟩ := WrittenForms.of_configuration_eq_ok current forms wroteForms
    rw [mergedWrote.2] at formWrote
    cases formWrote
    rw [sameLayers] at belongs
    obtain ⟨keys, listed, found⟩ := each leaf member
    obtain ⟨inDocument, nonempty⟩ := List.mem_filter.1 listed
    have parsed : Path.parse leaf.path = .ok keys := by
      rw [(WrittenForms.leaf_eq_ok forms keys leaf found).1]
      exact Path.parse_join keys (by simpa using nonempty)
        (proper_of_mem_leaf_paths _ keys inDocument)
    obtain ⟨attributed, first⟩ := leaf_attributed merges stack.layers current.value folded wrote
      forms mergedWrote belongs mergedSorted keys listed leaf found
    refine ⟨attributed, keys, parsed, ?_⟩
    intro value held present
    rw [Json.get, parsed] at held
    exact first value held present
  · intro strongest weaker document split strongestWrote path keys value scalar followed
    have present : value ≠ .null := by
      intro same
      subst same
      cases scalar
    have layerWrote := written_of_encode merges strongest.snapshot document
      (wrote strongest (by simp [split])) strongestWrote
    obtain ⟨place, reads, held⟩ := (Json.follow_eq_ok path keys document value).1 followed
    refine (Json.follow_eq_ok path keys merged value).2 ⟨place, reads, ?_⟩
    apply (overlay_holds_iff merges.lays _ current.value merged value folded
      (snapshots_written stack.layers wrote) mergedWrote place scalar present).2
    rw [split, List.map_cons]
    exact supplied_by_first strongest.snapshot _ document place value layerWrote held

/-- A number over that of the same file, which is spelled otherwise. -/
def respelledStack : Stack FileNumbers where
  layers :=
    [ .ofScope (Scope.ofName "user" 20) (.single "logs" 1)
    , .ofScope (Scope.ofName "defaults" 10) (.single "logs/" 2) ]

/-- Where a key has several spellings, the leaf is attributed to the layer that gave the spelling, with
another value than the merged one, and the strongest layer's scalar is not merged under its own key. -/
theorem respelled_leaf_attributed_to_weaker :
    ∃ current merged leaf document, respelledStack.resolve {} = .ok current ∧
      encode current.value = some merged ∧ current.tracedLeaves = .ok [leaf] ∧
      merged.get leaf.path = .ok (.ofInt 1) ∧
      leaf.attribution = .layer ⟨Scope.ofName "defaults" 10, "", "logs/", .ofInt 2, true⟩ ∧
      encode (FileNumbers.single "logs" 1) = some document ∧
      document.get "logs" = .ok (.ofInt 1) ∧ merged.get "logs" = .error (.noKey "logs" "logs") :=
  ⟨_, _, _, _, rfl, rfl, rfl, rfl, rfl, rfl, rfl, rfl⟩

theorem retry_regular :
    (Ty.named "retry").Throughout Catalogue.declarations (Ty.Regular Catalogue.declarations) := by
  refine throughout_retry _ ?_ (fun _ => trivial) (fun _ => trivial)
  intro declared known
  cases known
  refine ⟨⟨by decide, by decide⟩, ?_⟩
  intro field member skips presence
  simp only [Catalogue.retry, List.mem_cons, List.not_mem_nil, or_false] at member
  rcases member with rfl | rfl <;> cases presence

def retryStack : Stack (Snapshot (Catalogue.declared "retry")) where
  layers :=
    [ .ofScope (Scope.ofName "user" 20) ⟨.product [.present (.atom (.int 3)), .absent]⟩
    , .ofScope (Scope.ofName "defaults" 10)
        ⟨.product [.present (.atom (.int 1)), .present (.atom (.int 250))]⟩ ]

theorem retries_attributed_to_strongest :
    ∃ current merged, retryStack.resolve {} = .ok current ∧ encode current.value = some merged ∧
      merged.follow "attempts" ["attempts"] = .ok (.ofInt 3) ∧
      (current.tracedLeaves.map List.length = .ok 2) ∧
      ∀ leaves, current.tracedLeaves = .ok leaves → ∀ leaf ∈ leaves,
        leaf.attribution ≠ .combined := by
  obtain ⟨merged, wrote, leaves, strongest⟩ := leaves_attributed_to_strongest
    (Catalogue.declared "retry") retry_regular retryStack
    (by
      simp only [retryStack, List.forall_mem_cons, List.not_mem_nil, false_implies,
        implies_true, and_true]
      constructor
      · exact .product _ (by simp [Value.Everywhere.present, Value.Everywhere.atom,
          Value.Everywhere.absent])
      · exact .product _ (by simp [Value.Everywhere.present, Value.Everywhere.atom]))
    (by
      simp only [retryStack, List.forall_mem_cons, List.not_mem_nil, false_implies,
        implies_true, and_true]
      exact ⟨⟨_, rfl⟩, ⟨_, rfl⟩⟩) {} _ rfl
  refine ⟨_, merged, rfl, wrote, ?_, rfl, ?_⟩
  · exact strongest _ _ _ rfl rfl "attempts" ["attempts"] (.ofInt 3) rfl rfl
  · intro traced found leaf member
    exact (leaves traced found leaf member).1

end Snapshot

end LayeredConfig
