import LayeredConfig.Proofs.LeafListing
import LayeredConfig.Proofs.Outcomes
import Mathlib.Data.List.Nodup

/-!
# Paths as joined segments

A path is its segments with dots between them, and is parsed to no others. What is not such a path is
empty or has an empty segment, and the fault says which. Places of a document that lead to nodes are
joined to different paths, so that no two leaves are listed under one path.
-/
set_option autoImplicit false

namespace LayeredConfig

namespace Path

theorem parse_eq_ok_iff_joined (path : String) (segments : List String) :
    parse path = .ok segments ↔
      segments ≠ [] ∧ (∀ segment ∈ segments, segment ≠ "" ∧ '.' ∉ segment.toList) ∧
        ".".intercalate segments = path := by
  rw [← join_eq_intercalate]
  constructor
  · intro parsed
    have proper := segment_of_parsed path segments parsed
    refine ⟨parsed_ne_nil path segments parsed, ?_, ?_⟩
    · intro segment member
      exact (segment_iff segment).1 (proper segment member)
    · obtain ⟨rfl, -⟩ := (parse_eq_ok_iff path segments).1 parsed
      exact join_split path
  · intro joined
    obtain ⟨nonempty, proper, rfl⟩ := joined
    refine parse_join segments nonempty ?_
    intro segment member
    exact (segment_iff segment).2 (proper segment member)

theorem parse_eq_error_iff (path : String) (fault : PathFault) :
    parse path = .error fault ↔
      path = "" ∧ fault = .emptyPath ∨
        path ≠ "" ∧ (∀ segments, parse path ≠ .ok segments) ∧ fault = .blankSegment path := by
  by_cases empty : path = ""
  · simp [parse, empty, eq_comm]
  · by_cases blank : (split path).any (· = "")
    · have failed : parse path = .error (.blankSegment path) := by
        simp only [parse, if_neg empty, if_pos blank]
      simp [failed, empty, eq_comm]
    · have parsed : parse path = .ok (split path) := by
        simp only [parse, if_neg empty, if_neg blank]
      simp [parsed, empty]

end Path

theorem segment_proper (hop : Hop) (addressable : hop.Addressable) : Path.isSegment hop.segment := by
  cases hop with
  | member key => exact addressable
  | item index => exact Path.segment_of_index index

namespace Json

theorem hop_eq_of_segment (document : Json) (first second : Hop)
    (firstHeld : (below? first document).isSome) (secondHeld : (below? second document).isSome)
    (same : first.segment = second.segment) : first = second := by
  cases document with
  | object members =>
      cases first with
      | item index => cases firstHeld
      | member key =>
          cases second with
          | item index => cases secondHeld
          | member other => exact congrArg Hop.member same
  | array items =>
      cases first with
      | member key => cases firstHeld
      | item index =>
          cases second with
          | member key => cases secondHeld
          | item other => exact congrArg Hop.item (Path.of_index_injective index other same)
  | _ => cases first <;> cases firstHeld

theorem place_eq_of_segments (document : Json) (first second : List Hop)
    (firstHeld : (at? first document).isSome) (secondHeld : (at? second document).isSome)
    (same : first.map Hop.segment = second.map Hop.segment) : first = second := by
  induction first generalizing document second with
  | nil => simpa [eq_comm] using same
  | cons hop rest ih =>
      cases second with
      | nil => cases same
      | cons other others =>
          obtain ⟨here, below⟩ := List.cons.inj same
          obtain ⟨leaf, held⟩ := Option.isSome_iff_exists.1 firstHeld
          obtain ⟨otherLeaf, otherHeld⟩ := Option.isSome_iff_exists.1 secondHeld
          obtain ⟨node, down, restHeld⟩ := Option.bind_eq_some_iff.1 held
          obtain ⟨otherNode, otherDown, othersHeld⟩ := Option.bind_eq_some_iff.1 otherHeld
          obtain rfl : hop = other :=
            hop_eq_of_segment document hop other (by simp [down]) (by simp [otherDown]) here
          obtain rfl : node = otherNode := Option.some.inj (down.symm.trans otherDown)
          rw [ih node others (by simp [restHeld]) (by simp [othersHeld]) below]

theorem parse_of_place (place : List Hop) (nonempty : place ≠ [])
    (addressable : ∀ hop ∈ place, hop.Addressable) :
    Path.parse (".".intercalate (place.map Hop.segment)) = .ok (place.map Hop.segment) := by
  rw [← Path.join_eq_intercalate]
  refine Path.parse_join _ (by simpa using nonempty) ?_
  intro segment member
  obtain ⟨hop, inPlace, rfl⟩ := List.mem_map.1 member
  exact segment_proper hop (addressable hop inPlace)

theorem place_eq_of_paths (document : Json) (first second : List Hop)
    (firstNonempty : first ≠ []) (secondNonempty : second ≠ [])
    (firstAddressable : ∀ hop ∈ first, hop.Addressable)
    (secondAddressable : ∀ hop ∈ second, hop.Addressable)
    (firstHeld : (at? first document).isSome) (secondHeld : (at? second document).isSome)
    (same : ".".intercalate (first.map Hop.segment) = ".".intercalate (second.map Hop.segment)) :
    first = second := by
  have firstParsed := parse_of_place first firstNonempty firstAddressable
  have secondParsed := parse_of_place second secondNonempty secondAddressable
  rw [same, secondParsed] at firstParsed
  have segments := Except.ok.inj firstParsed
  exact place_eq_of_segments document first second firstHeld secondHeld segments.symm

end Json

namespace WrittenForms

theorem paths_of_leaves_at (forms : WrittenForms) (paths : List (List String))
    (leaves : List TracedLeaf) (found : forms.leavesAt paths = .ok leaves) :
    leaves.map TracedLeaf.path = paths.map Path.join := by
  induction paths generalizing leaves with
  | nil =>
      cases found
      rfl
  | cons keys paths ih =>
      obtain ⟨leaf, here, found⟩ := (bind_eq_ok _ _ _).1 found
      obtain ⟨others, later, found⟩ := (bind_eq_ok _ _ _).1 found
      cases found
      have named := (leaf_eq_ok forms keys leaf here).1
      simp only [List.map_cons, named, ih others later]

end WrittenForms

namespace Configuration

variable {α : Type} [Writable α]

theorem paths_of_traced (current : Configuration α) (merged : Json)
    (wrote : encode current.value = some merged) (leaves : List TracedLeaf)
    (traced : current.tracedLeaves = .ok leaves) :
    leaves.map TracedLeaf.path =
      (Json.listedPlaces merged).map fun place => ".".intercalate (place.map Hop.segment) := by
  obtain ⟨forms, wroteForms, found⟩ := (bind_eq_ok _ _ _).1 traced
  have wroteMerged := (WrittenForms.of_configuration_eq_ok current forms wroteForms).1
  obtain rfl : merged = forms.merged := Option.some.inj (wrote.symm.trans wroteMerged)
  have paths := WrittenForms.paths_of_leaves_at forms _ leaves found
  rw [paths, Json.segment_leaves_eq, List.map_map]
  exact List.map_congr_left fun place _ => Path.join_eq_intercalate _

end Configuration

theorem Json.listed_places_nodup (merged : Json) (sorted : merged.Sorted) :
    (listedPlaces merged).Nodup := by
  have ordered : (listedPlaces merged).Pairwise (List.Lex Hop.Precedes) :=
    (leaf_places_ordered merged sorted).filter _
  refine ordered.imp ?_
  intro first second before same
  subst same
  exact segments_ne_of_lex first first before rfl

namespace Path

/-- Paths and lists of segments correspond one to one. A path is parsed to the one list of non-empty texts
without dots that it is joined from, and every such list comes back from the path that it is joined to. The
empty path and a path with an empty segment are refused, each by its own fault. The leaves of a
configuration are listed under the paths joined from the keys and indices of their places, which are parsed
to just these, and no two leaves share a path. -/
theorem segments_joined_or_blamed :
    (∀ path segments, parse path = .ok segments ↔
      segments ≠ [] ∧ (∀ segment ∈ segments, segment ≠ "" ∧ '.' ∉ segment.toList) ∧
        ".".intercalate segments = path) ∧
    (∀ segments, segments ≠ [] →
      (∀ segment ∈ segments, segment ≠ "" ∧ '.' ∉ segment.toList) →
        parse (".".intercalate segments) = .ok segments) ∧
    (∀ path fault, parse path = .error fault ↔
      path = "" ∧ fault = .emptyPath ∨
        path ≠ "" ∧ (∀ segments, parse path ≠ .ok segments) ∧ fault = .blankSegment path) ∧
    ∀ (α : Type) [Writable α] (current : Configuration α) (merged : Json) (leaves : List TracedLeaf),
      encode current.value = some merged → merged.Sorted → current.tracedLeaves = .ok leaves →
      ∃ places : List (List Hop),
        (∀ place, place ∈ places ↔
          place ≠ [] ∧ (∀ hop ∈ place, hop.Addressable) ∧
            ∃ leaf, Json.at? place merged = some leaf ∧ leaf.isLeaf) ∧
        leaves.map TracedLeaf.path =
          places.map (fun place => ".".intercalate (place.map Hop.segment)) ∧
        (∀ place ∈ places,
          parse (".".intercalate (place.map Hop.segment)) = .ok (place.map Hop.segment)) ∧
        (leaves.map TracedLeaf.path).Nodup := by
  refine ⟨parse_eq_ok_iff_joined, ?_, parse_eq_error_iff, ?_⟩
  · intro segments nonempty proper
    exact (parse_eq_ok_iff_joined _ segments).2 ⟨nonempty, proper, rfl⟩
  · intro α _ current merged leaves wrote sorted traced
    have listed := Json.mem_listed_places merged sorted
    have paths := current.paths_of_traced merged wrote leaves traced
    refine ⟨Json.listedPlaces merged, listed, paths, ?_, ?_⟩
    · intro place member
      obtain ⟨nonempty, addressable, -⟩ := (listed place).1 member
      exact Json.parse_of_place place nonempty addressable
    · rw [paths]
      refine List.Nodup.map_on ?_ (Json.listed_places_nodup merged sorted)
      intro first inFirst second inSecond same
      obtain ⟨nonempty, addressable, leaf, held, -⟩ := (listed first).1 inFirst
      obtain ⟨otherNonempty, otherAddressable, other, otherHeld, -⟩ := (listed second).1 inSecond
      exact Json.place_eq_of_paths merged first second nonempty otherNonempty addressable
        otherAddressable (by simp [held]) (by simp [otherHeld]) same

/-- A host in a list, beside a key that reads like the path to it. -/
def shadowedHost : Configuration Json :=
  .ofValue (.object [("hosts", .array [.string "a"]), ("hosts.0", .string "b")])

theorem host_path_parsed_back :
    parse "hosts.0" = .ok ["hosts", "0"] ∧ parse "hosts..0" = .error (.blankSegment "hosts..0") ∧
      parse "" = .error .emptyPath ∧
      ∃ leaves, shadowedHost.tracedLeaves = .ok leaves ∧
        leaves.map TracedLeaf.path = ["hosts.0"] ∧ (leaves.map TracedLeaf.path).Nodup := by
  have sorted : shadowedHost.value.Sorted := by
    simp only [shadowedHost, Configuration.ofValue, Configuration.wired, Json.Sorted,
      Json.SortedMembers, Json.SortedItems, and_true]
    decide
  obtain ⟨joined, parsed, blamed, leaves⟩ := segments_joined_or_blamed
  have blank : ∀ segments, parse "hosts..0" ≠ .ok segments := by
    intro segments
    have failed : parse "hosts..0" = .error (.blankSegment "hosts..0") := rfl
    simp [failed]
  obtain ⟨places, -, -, -, distinct⟩ := leaves Json shadowedHost _ _ rfl sorted rfl
  refine ⟨parsed ["hosts", "0"] (by decide) (by decide), ?_, ?_, _, rfl, rfl, distinct⟩
  · exact (blamed "hosts..0" _).2 (Or.inr ⟨by decide, blank, rfl⟩)
  · exact (blamed "" _).2 (Or.inl ⟨rfl, rfl⟩)

end Path

end LayeredConfig
