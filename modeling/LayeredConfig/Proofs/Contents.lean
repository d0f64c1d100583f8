import LayeredConfig.Proofs.Snapshots

/-!
# What lies over something or nothing

A value lies over a weaker one or over nothing. A container then lies over the content of the weaker
container of its kind, if there is one, and shows nothing of anything else.
-/
set_option autoImplicit false

namespace LayeredConfig

namespace Members

variable {α : Type}

theorem find_over (combine : α → α → α) (key : String) (strong : Members α)
    (below : Option (Members α)) : find? key (below.elim strong (union combine strong)) =
      (find? key strong).elim (below.bind (find? key)) fun value =>
        some ((below.bind (find? key)).elim value (combine value)) := by
  cases below with
  | none =>
      simp only [Option.elim_none, Option.bind_none]
      cases find? key strong <;> rfl
  | some weak => exact find_union combine key strong weak

theorem sorted_over (combine : α → α → α) (strong : Members α) (below : Option (Members α))
    (strongSorted : strong.Sorted) (belowSorted : ∀ weak ∈ below, weak.Sorted) :
    (below.elim strong (union combine strong)).Sorted := by
  cases below with
  | none => exact strongSorted
  | some weak => exact sorted_union _ _ _ (belowSorted weak rfl)

end Members

namespace Snapshot.Value

@[simp] theorem merge_absent_right (strong : Value) : strong.merge .absent = strong := by
  cases strong <;> simp only [merge]

def present? : Value → Option Value
  | .present value => some value
  | _ => none

def held? : Value → Option Value
  | .held value => some value
  | _ => none

def parts? : Value → Option (List Value)
  | .product parts => some parts
  | _ => none

def entries? : Value → Option (List (String × Value))
  | .map entries => some entries
  | _ => none

def document? : Value → Option Json
  | .dynamic document => some document
  | _ => none

theorem present_over (value : Value) (below : Option Value) :
    below.elim (.present value) (merge (.present value)) =
      .present ((below.bind present?).elim value (merge value)) := by
  cases below with
  | none => rfl
  | some weak => cases weak <;> simp [merge, present?]

theorem held_over (value : Value) (below : Option Value) :
    below.elim (.held value) (merge (.held value)) =
      .held ((below.bind held?).elim value (merge value)) := by
  cases below with
  | none => rfl
  | some weak => cases weak <;> simp [merge, held?]

theorem product_over (parts : List Value) (below : Option Value) :
    below.elim (.product parts) (merge (.product parts)) =
      .product ((below.bind parts?).elim parts (mergeParts parts)) := by
  cases below with
  | none => rfl
  | some weak => cases weak <;> simp [merge, parts?]

theorem map_over (entries : List (String × Value)) (below : Option Value) :
    below.elim (.map entries) (merge (.map entries)) =
      .map ((below.bind entries?).elim entries (Members.union merge entries)) := by
  cases below with
  | none => rfl
  | some weak => cases weak <;> simp [merge, entries?, merge_entries_union]

theorem dynamic_over (document : Json) (below : Option Value) :
    below.elim (.dynamic document) (merge (.dynamic document)) =
      .dynamic ((below.bind document?).elim document document.merge) := by
  cases below with
  | none => rfl
  | some weak => cases weak <;> simp [merge, document?]

theorem parts_over (parts : List Value) (below : Option (List Value)) (index : Nat) :
    (below.elim parts (mergeParts parts))[index]? =
      parts[index]?.map fun part => (below.bind (·[index]?)).elim part (merge part) := by
  cases below with
  | none => simp
  | some weak => exact merge_parts_at parts weak index

end Snapshot.Value

end LayeredConfig
