import LayeredConfig.Proofs.LeafPlaces
import LayeredConfig.Proofs.Traces

/-!
# A configuration lists its leaves

Listing the leaves of a configuration fails only where a snapshot has no written form. Each leaf of the
effective snapshot whose keys can stand in a path is then listed under its own path, and nothing else is.
-/
set_option autoImplicit false

namespace LayeredConfig

namespace Json

/-- The places of the leaves that a path can name; the root has no path. -/
def listedPlaces (merged : Json) : List (List Hop) :=
  merged.leafPlaces.filter fun place => !place.isEmpty

theorem segment_leaves_eq (merged : Json) :
    segmentLeaves merged = (listedPlaces merged).map (List.map Hop.segment) := by
  simp only [segmentLeaves, listedPlaces, leaf_paths_eq, List.filter_map]
  congr 2
  funext place
  cases place <;> rfl

theorem mem_listed_places (merged : Json) (sorted : merged.Sorted) (place : List Hop) :
    place ∈ listedPlaces merged ↔
      place ≠ [] ∧ (∀ hop ∈ place, hop.Addressable) ∧
        ∃ leaf, at? place merged = some leaf ∧ leaf.isLeaf := by
  simp [listedPlaces, mem_leaf_places merged sorted, and_comm]

theorem followed_of_listed (merged : Json) (sorted : merged.Sorted) (indexed : merged.Indexed)
    (path : String) (keys : List String) (listed : keys ∈ segmentLeaves merged) :
    ∃ value, merged.follow path keys = .ok value := by
  rw [segment_leaves_eq] at listed
  obtain ⟨place, inPlaces, rfl⟩ := List.mem_map.1 listed
  obtain ⟨-, -, leaf, held, -⟩ := (mem_listed_places merged sorted place).1 inPlaces
  have reads := segments_read merged indexed place (by simp [held])
  exact ⟨leaf, (follow_eq_ok _ _ _ _).2 ⟨place, reads, held⟩⟩

end Json

namespace WrittenForms

theorem trace_of_followed (forms : WrittenForms) (path : String) (keys : List String) (value : Json)
    (followed : forms.merged.follow path keys = .ok value) :
    ∃ both, forms.trace path keys = .ok both := by
  have answered : followKeys path forms.merged keys = .ok value := by simp [followKeys, followed]
  unfold WrittenForms.trace
  rw [answered]
  split
  · exact ⟨_, rfl⟩
  · simp only
    split <;> exact ⟨_, rfl⟩

theorem leaves_at_followed (forms : WrittenForms) (paths : List (List String))
    (followed : ∀ keys ∈ paths, ∃ value, forms.merged.follow (Path.join keys) keys = .ok value) :
    ∃ leaves, forms.leavesAt paths = .ok leaves ∧
      leaves.map TracedLeaf.path = paths.map Path.join := by
  induction paths with
  | nil => exact ⟨[], rfl, rfl⟩
  | cons keys paths ih =>
      obtain ⟨⟨value, here⟩, later⟩ := List.forall_mem_cons.1 followed
      obtain ⟨⟨found, trace⟩, traced⟩ := trace_of_followed forms (Path.join keys) keys value here
      obtain ⟨leaves, rest, others⟩ := ih later
      refine ⟨⟨Path.join keys, found, attributionOf found trace, trace⟩ :: leaves, ?_, ?_⟩
      · simp only [leavesAt, leaf, traced, rest]
        rfl
      · simp [others]

section

variable {α : Type} [Writable α]

theorem of_layers_written (layers : List (Layer α))
    (written : ∀ layer ∈ layers, ∃ document, encode layer.snapshot = some document) :
    ∃ forms, ofLayers layers = .ok forms := by
  induction layers with
  | nil => exact ⟨[], rfl⟩
  | cons layer layers ih =>
      obtain ⟨⟨document, wrote⟩, others⟩ := List.forall_mem_cons.1 written
      obtain ⟨forms, rest⟩ := ih others
      have first : ofLayer layer = .ok ⟨layer.scope, layer.revision, document⟩ := by
        unfold ofLayer writtenForm
        rw [wrote]
        rfl
      refine ⟨⟨layer.scope, layer.revision, document⟩ :: forms, ?_⟩
      simp only [ofLayers, first, rest]
      rfl

theorem of_configuration_written (current : Configuration α) (merged : Json)
    (wrote : encode current.value = some merged)
    (written : ∀ layer ∈ current.layers, ∃ document, encode layer.snapshot = some document) :
    ∃ forms, ofConfiguration current = .ok forms ∧ forms.merged = merged := by
  obtain ⟨layers, wroteLayers⟩ := of_layers_written current.layers written
  refine ⟨⟨merged, layers, current.wiring.scope.getD .anonymous⟩, ?_, rfl⟩
  unfold ofConfiguration writtenForm
  rw [wrote, wroteLayers]
  rfl

end

end WrittenForms

namespace Configuration

variable {α : Type} [Writable α]

/-- Listing the leaves of a configuration whose snapshots are written never fails. The listed paths are
parsed to the places of the leaves that keys without dots lead to, of each leaf once, in document order,
and no path is listed twice. Every document in memory keeps its keys in order and has no list beyond the
range of indices. -/
theorem leaves_listed_once (current : Configuration α) (merged : Json)
    (wrote : encode current.value = some merged)
    (written : ∀ layer ∈ current.layers, ∃ document, encode layer.snapshot = some document)
    (sorted : merged.Sorted) (indexed : merged.Indexed) :
    ∃ (leaves : List TracedLeaf) (places : List (List Hop)),
      current.tracedLeaves = .ok leaves ∧
      (leaves.map fun leaf => Path.parse leaf.path) =
        (places.map fun place => .ok (place.map Hop.segment)) ∧
      (∀ place, place ∈ places ↔
        place ≠ [] ∧ (∀ hop ∈ place, hop.Addressable) ∧
          ∃ leaf, Json.at? place merged = some leaf ∧ leaf.isLeaf) ∧
      places.Pairwise (List.Lex Hop.Precedes) ∧ (leaves.map TracedLeaf.path).Nodup := by
  obtain ⟨forms, wroteForms, rfl⟩ :=
    WrittenForms.of_configuration_written current merged wrote written
  have listed := Json.mem_listed_places forms.merged sorted
  have followed (keys : List String) :=
    Json.followed_of_listed forms.merged sorted indexed (Path.join keys) keys
  obtain ⟨leaves, found, paths⟩ := WrittenForms.leaves_at_followed forms _ followed
  have traced : current.tracedLeaves = .ok leaves := by
    unfold tracedLeaves
    rw [wroteForms]
    exact found
  have parsed (place : List Hop) (member : place ∈ Json.listedPlaces forms.merged) :
      Path.parse (Path.join (place.map Hop.segment)) = .ok (place.map Hop.segment) := by
    apply parse_of_listed forms.merged
    rw [Json.segment_leaves_eq]
    exact List.mem_map_of_mem member
  have ordered : (Json.listedPlaces forms.merged).Pairwise (List.Lex Hop.Precedes) :=
    (Json.leaf_places_ordered forms.merged sorted).filter _
  rw [Json.segment_leaves_eq, List.map_map] at paths
  refine ⟨leaves, Json.listedPlaces forms.merged, traced, ?_, listed, ordered, ?_⟩
  · calc leaves.map (fun leaf => Path.parse leaf.path)
        = (leaves.map TracedLeaf.path).map Path.parse := by rw [List.map_map]; rfl
      _ = (Json.listedPlaces forms.merged).map fun place =>
            Path.parse (Path.join (place.map Hop.segment)) := by rw [paths, List.map_map]; rfl
      _ = (Json.listedPlaces forms.merged).map fun place => .ok (place.map Hop.segment) :=
            List.map_congr_left parsed
  · rw [paths]
    refine List.pairwise_map.2 (ordered.imp_of_mem ?_)
    intro first second inFirst inSecond before same
    have segments : first.map Hop.segment = second.map Hop.segment := by
      have both := parsed first inFirst
      have same : Path.join (first.map Hop.segment) = Path.join (second.map Hop.segment) := same
      rw [same, parsed second inSecond] at both
      exact (Except.ok.inj both).symm
    exact segments_ne_of_lex first second before segments

/-- A document with a key that cannot stand in a path, over a layer that sets one of its leaves. -/
def routedPorts : Configuration Json where
  value := .object
    [("hosts", .array [.string "a", .object []]), ("ports", .object [("http", .ofInt 80),
      ("x.y", .ofInt 1)])]
  layers := [.ofScope (Scope.ofName "user" 20) (.object [("ports", .object [("http", .ofInt 80)])])]
  wiring := {}

theorem routed_ports_listed_once :
    ∃ (leaves : List TracedLeaf) (places : List (List Hop)),
      routedPorts.tracedLeaves = .ok leaves ∧
      (leaves.map fun leaf => Path.parse leaf.path) =
        (places.map fun place => .ok (place.map Hop.segment)) ∧
      [.member "hosts", .item 1] ∈ places ∧ [.member "ports", .member "x.y"] ∉ places ∧
      places.Pairwise (List.Lex Hop.Precedes) ∧ (leaves.map TracedLeaf.path).Nodup := by
  have sorted : routedPorts.value.Sorted := by
    simp [routedPorts, Json.Sorted, Json.SortedMembers, Json.SortedItems, Members.Sorted,
      Members.keys, Json.ofInt]
    decide
  have indexed : routedPorts.value.Indexed := by
    refine Json.indexed_object _ (List.forall_mem_cons.2 ⟨?_, List.forall_mem_singleton.2 ?_⟩)
    · refine Json.indexed_array _ (by decide) (List.forall_mem_cons.2 ⟨?_, List.forall_mem_singleton.2 ?_⟩)
      · exact Json.indexed_scalar _ (by simp) (by simp)
      · exact Json.indexed_object _ (List.forall_mem_nil _)
    · refine Json.indexed_object _ (List.forall_mem_cons.2 ⟨?_, List.forall_mem_singleton.2 ?_⟩)
      · exact Json.indexed_scalar _ (by simp [Json.ofInt]) (by simp [Json.ofInt])
      · exact Json.indexed_scalar _ (by simp [Json.ofInt]) (by simp [Json.ofInt])
  obtain ⟨leaves, places, traced, paths, listed, ordered, distinct⟩ :=
    leaves_listed_once routedPorts routedPorts.value rfl
      (List.forall_mem_singleton.2 ⟨_, rfl⟩) sorted indexed
  refine ⟨leaves, places, traced, paths, (listed _).2 ?_, ?_, ordered, distinct⟩
  · exact ⟨by decide, by decide, .object [], rfl, rfl⟩
  · intro member
    have addressable := ((listed _).1 member).2.1 (.member "x.y") (by simp)
    exact absurd addressable (by decide)

end Configuration

end LayeredConfig
