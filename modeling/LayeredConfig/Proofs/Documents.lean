import LayeredConfig.Json.Merge
import LayeredConfig.Proofs.Members

/-!
# Merging documents key by key

Two objects merge as the union of their members. Merging keeps documents sorted, so that equal
look-ups mean equal documents on both sides of every law about merging.
-/
set_option autoImplicit false

namespace LayeredConfig.Json

@[elab_as_elim]
theorem induct {motive : Json → Prop} (null : motive .null)
    (bool : ∀ value, motive (.bool value)) (number : ∀ value, motive (.number value))
    (string : ∀ value, motive (.string value))
    (array : ∀ items, (∀ item ∈ items, motive item) → motive (.array items))
    (object : ∀ members, (∀ member ∈ members, motive member.2) → motive (.object members))
    (document : Json) : motive document :=
  @Json.rec motive (fun items => ∀ item ∈ items, motive item)
    (fun members => ∀ member ∈ members, motive member.2) (fun member => motive member.2)
    null bool number string array object (List.forall_mem_nil _)
    (fun _ _ head tail => List.forall_mem_cons.2 ⟨head, tail⟩) (List.forall_mem_nil _)
    (fun _ _ head tail => List.forall_mem_cons.2 ⟨head, tail⟩) (fun _ _ value => value) document

theorem merge_members_union (strong weak : List (String × Json)) :
    mergeMembers strong weak = Members.union merge strong weak := by
  induction strong with
  | nil => simp only [mergeMembers, Members.union]
  | cons member rest ih =>
      obtain ⟨key, value⟩ := member
      simp only [mergeMembers, Members.union, ih]
      cases Members.find? key weak <;> rfl

@[simp] theorem merge_null_left (weak : Json) : merge .null weak = weak := by
  simp only [merge]

@[simp] theorem merge_objects (strong weak : List (String × Json)) :
    merge (.object strong) (.object weak) = .object (Members.union merge strong weak) := by
  simp only [merge, merge_members_union]

@[simp] theorem merge_null_right (strong : Json) : merge strong .null = strong := by
  cases strong <;> simp only [merge]

theorem eq_null_of_merge (strong weak : Json) (same : merge strong weak = .null) :
    strong = .null := by
  cases strong with
  | null => rfl
  | _ => cases weak <;> simp [merge] at same

theorem sorted_items_iff (items : List Json) :
    SortedItems items ↔ ∀ item ∈ items, item.Sorted := by
  induction items with
  | nil => simp [SortedItems]
  | cons item rest ih => simp [SortedItems, ih]

theorem sorted_members_iff (members : List (String × Json)) :
    SortedMembers members ↔ ∀ member ∈ members, member.2.Sorted := by
  induction members with
  | nil => simp [SortedMembers]
  | cons member rest ih => simp [SortedMembers, ih]

theorem sorted_merge (strong weak : Json) (strongSorted : strong.Sorted)
    (weakSorted : weak.Sorted) : (strong.merge weak).Sorted := by
  induction strong using induct generalizing weak with
  | null => simpa using weakSorted
  | bool value => simpa only [merge] using strongSorted
  | number value => simpa only [merge] using strongSorted
  | string value => simpa only [merge] using strongSorted
  | array items ih => simpa only [merge] using strongSorted
  | object strong ih =>
      cases weak with
      | object weak =>
          obtain ⟨strongKeys, strongValues⟩ := strongSorted
          obtain ⟨weakKeys, weakValues⟩ := weakSorted
          rw [sorted_members_iff] at strongValues weakValues
          rw [merge_objects]
          refine ⟨Members.sorted_union _ _ _ weakKeys, (sorted_members_iff _).2 ?_⟩
          intro member found
          rcases Members.mem_union _ _ _ _ found with stronger | weaker | both
          · exact strongValues member stronger
          · exact weakValues member weaker
          · obtain ⟨first, second, inStrong, inWeak, combined⟩ := both
            rw [combined]
            exact ih _ inStrong second (strongValues _ inStrong) (weakValues _ inWeak)
      | _ => simpa only [merge] using strongSorted

end LayeredConfig.Json
