import LayeredConfig.Proofs.Documents
import LayeredConfig.Proofs.Laying
import LayeredConfig.Proofs.PathText
import LayeredConfig.Trace.Leaves

/-!
# Leaves of documents

The key paths that are listed for a sorted document lead to leaves of it, and each can be written
as a path.
-/
set_option autoImplicit false

namespace LayeredConfig

theorem mem_member_leaf_paths (members : List (String × Json)) (keys : List String)
    (listed : keys ∈ memberLeafPaths members) :
    ∃ key value rest, (key, value) ∈ members ∧ Path.isSegment key ∧ rest ∈ leafPaths value ∧
      keys = key :: rest := by
  induction members with
  | nil => simp [memberLeafPaths] at listed
  | cons member members ih =>
      obtain ⟨key, value⟩ := member
      simp only [memberLeafPaths] at listed
      rcases List.mem_append.1 listed with here | later
      · split at here
        · rename_i proper
          obtain ⟨rest, below, same⟩ := List.mem_map.1 here
          exact ⟨key, value, rest, by simp, proper, below, same.symm⟩
        · cases here
      · obtain ⟨other, below, rest, member, others⟩ := ih later
        exact ⟨other, below, rest, List.mem_cons_of_mem _ member, others⟩

theorem mem_item_leaf_paths (start : Nat) (items : List Json) (keys : List String)
    (listed : keys ∈ itemLeafPaths start items) :
    ∃ index item rest, items[index]? = some item ∧ rest ∈ leafPaths item ∧
      keys = Path.ofIndex (start + index) :: rest := by
  induction items generalizing start with
  | nil => simp [itemLeafPaths] at listed
  | cons item items ih =>
      simp only [itemLeafPaths] at listed
      rcases List.mem_append.1 listed with here | later
      · obtain ⟨rest, below, same⟩ := List.mem_map.1 here
        exact ⟨0, item, rest, rfl, below, same.symm⟩
      · obtain ⟨index, other, rest, held, below, same⟩ := ih (start + 1) later
        exact ⟨index + 1, other, rest, by simpa using held, below, by
          rw [same, Nat.add_assoc, Nat.add_comm 1]⟩

theorem mem_object_leaf_paths (members : List (String × Json)) (keys : List String)
    (listed : keys ∈ leafPaths (.object members)) :
    (members = [] ∧ keys = []) ∨ keys ∈ memberLeafPaths members := by
  cases members with
  | nil => exact Or.inl ⟨rfl, by simpa [leafPaths] using listed⟩
  | cons member members => exact Or.inr (by simpa only [leafPaths] using listed)

theorem mem_array_leaf_paths (items : List Json) (keys : List String)
    (listed : keys ∈ leafPaths (.array items)) :
    (items = [] ∧ keys = []) ∨ keys ∈ itemLeafPaths 0 items := by
  cases items with
  | nil => exact Or.inl ⟨rfl, by simpa [leafPaths] using listed⟩
  | cons item items => exact Or.inr (by simpa only [leafPaths] using listed)

theorem proper_of_mem_leaf_paths (document : Json) (keys : List String)
    (listed : keys ∈ leafPaths document) : ∀ segment ∈ keys, Path.isSegment segment := by
  induction document using Json.induct generalizing keys with
  | object members ih =>
      rcases mem_object_leaf_paths members keys listed with ⟨-, rfl⟩ | inside
      · exact List.forall_mem_nil _
      · obtain ⟨key, value, rest, member, proper, below, rfl⟩ :=
          mem_member_leaf_paths members keys inside
        exact List.forall_mem_cons.2 ⟨proper, ih _ member rest below⟩
  | array items ih =>
      rcases mem_array_leaf_paths items keys listed with ⟨-, rfl⟩ | inside
      · exact List.forall_mem_nil _
      · obtain ⟨index, item, rest, held, below, rfl⟩ := mem_item_leaf_paths 0 items keys inside
        exact List.forall_mem_cons.2
          ⟨Path.segment_of_index _, ih item (List.mem_of_getElem? held) rest below⟩
  | _ =>
      obtain rfl : keys = [] := by simpa [leafPaths] using listed
      exact List.forall_mem_nil _

theorem parse_of_listed (document : Json) (keys : List String)
    (listed : keys ∈ segmentLeaves document) : Path.parse (Path.join keys) = .ok keys := by
  obtain ⟨inDocument, nonempty⟩ := List.mem_filter.1 listed
  exact Path.parse_join keys (by simpa using nonempty)
    (proper_of_mem_leaf_paths document keys inDocument)

theorem leaf_of_followed (path : String) (document value : Json) (keys : List String)
    (sorted : document.Sorted) (listed : keys ∈ leafPaths document)
    (followed : document.follow path keys = .ok value) : value.isLeaf := by
  induction document using Json.induct generalizing keys with
  | object members ih =>
      rcases mem_object_leaf_paths members keys listed with ⟨rfl, rfl⟩ | inside
      · cases followed
        rfl
      · obtain ⟨key, below, rest, member, -, restListed, rfl⟩ :=
          mem_member_leaf_paths members keys inside
        have found := Members.find_of_mem key below members sorted.1.nodup member
        have belowSorted := (Json.sorted_members_iff members).1 sorted.2 _ member
        simp only [Json.follow, Json.child, found] at followed
        exact ih _ member rest belowSorted restListed followed
  | array items ih =>
      rcases mem_array_leaf_paths items keys listed with ⟨rfl, rfl⟩ | inside
      · cases followed
        rfl
      · obtain ⟨index, item, rest, held, restListed, rfl⟩ := mem_item_leaf_paths 0 items keys inside
        rw [Nat.zero_add] at followed
        simp only [Json.follow, Json.child] at followed
        cases named : Path.index? (Path.ofIndex index) with
        | none => simp [named] at followed
        | some found =>
            obtain rfl := Path.index_of_index index found named
            have member := List.mem_of_getElem? held
            have itemSorted := (Json.sorted_items_iff items).1 sorted item member
            simp only [named, held] at followed
            exact ih item member rest itemSorted restListed followed
  | _ =>
      obtain rfl : keys = [] := by simpa [leafPaths] using listed
      cases followed
      rfl

end LayeredConfig
