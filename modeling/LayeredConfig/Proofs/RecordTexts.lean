import LayeredConfig.Json.Record
import LayeredConfig.Proofs.DocumentTexts
import LayeredConfig.Proofs.Reading

/-!
# Records from their texts

A record is written as an object of the members that are present. Each of its members is found again under
its name, absent where it was left out, and what is left out is restored by a default.
-/
set_option autoImplicit false

namespace LayeredConfig.JsonText

def present (members : List (String × Option JsonText)) : List (Option String × JsonText) :=
  members.filterMap fun (key, value) => value.map fun value => (some key, value)

theorem of_members_eq (members : List (String × Option JsonText)) :
    ofMembers members = .object (present members) :=
  rfl

theorem mem_present (members : List (String × Option JsonText)) (found : Option String × JsonText) :
    found ∈ present members ↔
      ∃ name value, (name, some value) ∈ members ∧ found = (some name, value) := by
  rw [present, List.mem_filterMap]
  constructor
  · rintro ⟨⟨name, _ | value⟩, listed, held⟩
    · cases held
    · cases held
      exact ⟨name, value, listed, rfl⟩
  · rintro ⟨name, value, listed, rfl⟩
    exact ⟨(name, some value), listed, rfl⟩

theorem forall_mem_present (members : List (String × Option JsonText))
    (holds : Option String × JsonText → Prop) :
    (∀ found ∈ present members, holds found) ↔
      ∀ name value, (name, some value) ∈ members → holds (some name, value) := by
  constructor
  · intro each name value listed
    exact each _ ((mem_present members _).2 ⟨name, value, listed, rfl⟩)
  · intro each found listed
    obtain ⟨name, value, held, rfl⟩ := (mem_present members found).1 listed
    exact each name value held

theorem present_cons (name : String) (value : Option JsonText)
    (rest : List (String × Option JsonText)) :
    present ((name, value) :: rest) = (value.toList.map fun text => (some name, text)) ++ present rest := by
  cases value <;> rfl

theorem present_under (members : List (String × Option JsonText))
    (distinct : (members.map Prod.fst).Nodup) (name : String) (value : Option JsonText)
    (listed : (name, value) ∈ members) :
    ((present members).filter fun member => member.1 = some name) =
      value.toList.map fun text => (some name, text) := by
  induction members with
  | nil => cases listed
  | cons member rest ih =>
      obtain ⟨key, held⟩ := member
      obtain ⟨fresh, restDistinct⟩ := List.nodup_cons.1 distinct
      rw [present_cons, List.filter_append, List.filter_map]
      rcases List.mem_cons.1 listed with same | later
      · cases same
        have elsewhere : ((present rest).filter fun member => member.1 = some name) = [] := by
          rw [List.filter_eq_nil_iff, forall_mem_present]
          intro other text there same
          cases of_decide_eq_true same
          exact fresh (List.mem_map.2 ⟨_, there, rfl⟩)
        rw [elsewhere, List.append_nil]
        simp [Function.comp_def]
      · have different : key ≠ name := by
          rintro rfl
          exact fresh (List.mem_map.2 ⟨_, later, rfl⟩)
        rw [ih restDistinct later]
        simp [Function.comp_def, different]

/-- The members of a written record are read in their order, absent where they were left out. -/
theorem fields_of_members (members : List (String × Option JsonText))
    (distinct : (members.map Prod.fst).Nodup) :
    (ofMembers members).fields? (members.map Prod.fst) = some (members.map Prod.snd) := by
  have keyed : (present members).all fun member => member.1.isSome :=
    List.all_eq_true.2 ((forall_mem_present members _).2 fun _ _ _ => rfl)
  rw [of_members_eq, fields?, if_pos keyed, Snapshot.map_m_eq_some, List.forall₂_map_left_iff,
    List.forall₂_map_right_iff, List.forall₂_same]
  rintro ⟨name, value⟩ listed
  rw [member?, present_under members distinct name value listed]
  cases value <;> rfl

theorem legible_of_members (members : List (String × Option JsonText))
    (inside : ∀ name value, (name, some value) ∈ members → value.Legible) :
    (ofMembers members).Legible :=
  .object _ ((forall_mem_present members _).2 fun _ _ _ => rfl) ((forall_mem_present members _).2 inside)

/-- A budget that a written record does not exceed leaves one for its members. -/
theorem members_within (members : List (String × Option JsonText)) (budget : Nat)
    (within : (ofMembers members).depth ≤ budget) :
    ∃ inner, budget = inner + 1 ∧
      ∀ name value, (name, some value) ∈ members → value.depth ≤ inner := by
  obtain ⟨inner, rfl, each⟩ := object_within (present members) budget within
  exact ⟨inner, rfl, (forall_mem_present members _).1 each⟩

theorem read_written_list {α β : Type} (read : β → Option α) (write : α → β) (values : List α)
    (each : ∀ value ∈ values, read (write value) = some value) :
    (values.map write).mapM read = some values := by
  rw [Snapshot.map_m_eq_some, List.forall₂_map_left_iff, List.forall₂_same]
  exact each

theorem read_written_members {α : Type} (read : JsonText → Option α) (write : α → JsonText)
    (members : Members α) (ordered : members.Sorted)
    (each : ∀ member ∈ members, read (write member.2) = some member.2) :
    readMembers read (.object (members.map fun member => (some member.1, write member.2))) =
      some members := by
  have pairs := read_written_list
    (fun text : Option String × JsonText =>
      text.1.bind fun key => (read text.2).bind fun value => some (key, value))
    (fun member : String × α => (some member.1, write member.2)) members (by
      intro member listed
      simp [each member listed])
  simp only [readMembers, Option.bind_eq_bind, Option.pure_def]
  rw [pairs, Option.bind_some, Members.ofList_of_sorted members ordered]

theorem read_non_empty (value : String) : readOr "" readString (writeNonEmpty value) = some value := by
  rw [writeNonEmpty]
  split_ifs with empty
  · rw [empty]
    rfl
  · rfl

theorem legible_non_empty (value : String) (text : JsonText) (written : writeNonEmpty value = some text) :
    text.Legible := by
  rw [writeNonEmpty] at written
  split_ifs at written
  cases written
  exact .string value

end LayeredConfig.JsonText
