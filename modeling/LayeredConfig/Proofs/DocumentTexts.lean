import LayeredConfig.Proofs.Documents
import LayeredConfig.Proofs.JsonTexts

/-!
# Documents from their texts

A sorted document is the document of its text, read with any budget that its containers do not exceed. The
text is legible when every number of the document reads back.
-/
set_option autoImplicit false

namespace LayeredConfig

namespace JsonText

mutual

def depth : JsonText → Nat
  | .null | .bool _ | .number _ | .string _ => 0
  | .array items => depthItems items + 1
  | .object members => depthMembers members + 1

def depthItems : List JsonText → Nat
  | [] => 0
  | item :: rest => max item.depth (depthItems rest)

def depthMembers : List (Option String × JsonText) → Nat
  | [] => 0
  | (_, value) :: rest => max value.depth (depthMembers rest)

end

theorem depth_items_le (items : List JsonText) (bound : Nat) :
    depthItems items ≤ bound ↔ ∀ item ∈ items, item.depth ≤ bound := by
  induction items with
  | nil => simp [depthItems]
  | cons item rest ih => simp [depthItems, ih]

theorem depth_members_le (members : List (Option String × JsonText)) (bound : Nat) :
    depthMembers members ≤ bound ↔ ∀ member ∈ members, member.2.depth ≤ bound := by
  induction members with
  | nil => simp [depthMembers]
  | cons member rest ih => simp [depthMembers, ih]

theorem array_within (items : List JsonText) (budget : Nat) (within : (array items).depth ≤ budget) :
    ∃ inner, budget = inner + 1 ∧ ∀ item ∈ items, item.depth ≤ inner := by
  rw [depth] at within
  obtain ⟨inner, rfl⟩ := Nat.exists_eq_add_of_le' (Nat.one_le_of_lt within)
  exact ⟨inner, rfl, (depth_items_le items inner).1 (Nat.le_of_succ_le_succ within)⟩

theorem object_within (members : List (Option String × JsonText)) (budget : Nat)
    (within : (object members).depth ≤ budget) :
    ∃ inner, budget = inner + 1 ∧ ∀ member ∈ members, member.2.depth ≤ inner := by
  rw [depth] at within
  obtain ⟨inner, rfl⟩ := Nat.exists_eq_add_of_le' (Nat.one_le_of_lt within)
  exact ⟨inner, rfl, (depth_members_le members inner).1 (Nat.le_of_succ_le_succ within)⟩

end JsonText

namespace Json

theorem to_text_items_eq (items : List Json) : toTextItems items = items.map toText := by
  induction items with
  | nil => rfl
  | cons item rest ih => simp only [toTextItems, List.map_cons, ih]

theorem to_text_members_eq (members : List (String × Json)) :
    toTextMembers members = members.map fun member => (some member.1, member.2.toText) := by
  induction members with
  | nil => rfl
  | cons member rest ih => simp only [toTextMembers, List.map_cons, ih]

theorem of_text_items (budget : Nat) (items : List Json)
    (each : ∀ item ∈ items, ofText? budget item.toText = some item) :
    ofTextItems? budget (toTextItems items) = some items := by
  induction items with
  | nil => rfl
  | cons item rest ih =>
      obtain ⟨here, later⟩ := List.forall_mem_cons.1 each
      simp [toTextItems, ofTextItems?, here, ih later]

theorem of_text_members (budget : Nat) (members : List (String × Json))
    (each : ∀ member ∈ members, ofText? budget member.2.toText = some member.2) :
    ofTextMembers? budget (toTextMembers members) = some members := by
  induction members with
  | nil => rfl
  | cons member rest ih =>
      obtain ⟨here, later⟩ := List.forall_mem_cons.1 each
      simp [toTextMembers, ofTextMembers?, here, ih later]

theorem of_text_to_text (document : Json) (sorted : document.Sorted) (budget : Nat)
    (within : document.toText.depth ≤ budget) : ofText? budget document.toText = some document := by
  induction document using induct generalizing budget with
  | null => simp [toText, ofText?]
  | bool value => simp [toText, ofText?]
  | number value => simp [toText, ofText?]
  | string value => simp [toText, ofText?]
  | array items ih =>
      have each := (sorted_items_iff items).1 sorted
      rw [toText] at within ⊢
      obtain ⟨inner, rfl, inside⟩ := JsonText.array_within _ budget within
      rw [to_text_items_eq, List.forall_mem_map] at inside
      rw [ofText?, of_text_items inner items fun item member =>
        ih item member (each item member) inner (inside item member)]
      rfl
  | object members ih =>
      obtain ⟨ordered, values⟩ := sorted
      rw [sorted_members_iff] at values
      rw [toText] at within ⊢
      obtain ⟨inner, rfl, inside⟩ := JsonText.object_within _ budget within
      rw [to_text_members_eq, List.forall_mem_map] at inside
      rw [ofText?, of_text_members inner members fun member listed =>
        ih member listed (values member listed) inner (inside member listed), Option.map_some,
        Members.ofList_of_sorted members ordered]

mutual

def numbers : Json → List Number
  | .null | .bool _ | .string _ => []
  | .number value => [value]
  | .array items => itemNumbers items
  | .object members => memberNumbers members

def itemNumbers : List Json → List Number
  | [] => []
  | item :: rest => item.numbers ++ itemNumbers rest

def memberNumbers : List (String × Json) → List Number
  | [] => []
  | (_, value) :: rest => value.numbers ++ memberNumbers rest

end

theorem mem_item_numbers (items : List Json) (value : Number) :
    value ∈ itemNumbers items ↔ ∃ item ∈ items, value ∈ item.numbers := by
  induction items with
  | nil => simp [itemNumbers]
  | cons item rest ih => simp [itemNumbers, ih]

theorem mem_member_numbers (members : List (String × Json)) (value : Number) :
    value ∈ memberNumbers members ↔ ∃ member ∈ members, value ∈ member.2.numbers := by
  induction members with
  | nil => simp [memberNumbers]
  | cons member rest ih => simp [memberNumbers, ih]

theorem legible_text (document : Json) (readBack : ∀ value ∈ document.numbers, value.ReadsBack) :
    document.toText.Legible := by
  induction document using induct with
  | null => exact .null
  | bool value => exact .bool value
  | number value => exact .number value (readBack value (List.mem_singleton_self _))
  | string value => exact .string value
  | array items ih =>
      rw [toText, to_text_items_eq]
      refine .array _ (List.forall_mem_map.2 fun item member => ih item member ?_)
      exact fun value inside => readBack value ((mem_item_numbers items value).2 ⟨item, member, inside⟩)
  | object members ih =>
      rw [toText, to_text_members_eq]
      refine .object _ (List.forall_mem_map.2 fun _ _ => rfl)
        (List.forall_mem_map.2 fun member listed => ih member listed ?_)
      exact fun value inside =>
        readBack value ((mem_member_numbers members value).2 ⟨member, listed, inside⟩)

end Json

end LayeredConfig
