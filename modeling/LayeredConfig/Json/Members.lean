/-!
# Sorted members

A finite map with text keys is a list of pairs. Insertion keeps the keys in increasing order
(`Sorted.insert`), and look-up after insertion does not depend on the order (`find?_insert`).
-/
set_option autoImplicit false

namespace LayeredConfig

abbrev Members (α : Type) := List (String × α)

namespace Members

variable {α β : Type}

def find? (key : String) : Members α → Option α
  | [] => none
  | (k, value) :: rest => if k = key then some value else find? key rest

def contains (key : String) (members : Members α) : Bool :=
  (find? key members).isSome

/-- Put a value at a key: in place of the member with that key, or before the first greater key. -/
def insert (key : String) (value : α) : Members α → Members α
  | [] => [(key, value)]
  | (k, v) :: rest =>
      match compare key k with
      | .lt => (key, value) :: (k, v) :: rest
      | .eq => (key, value) :: rest
      | .gt => (k, v) :: insert key value rest

/-- The members of a list of pairs, a later pair replacing an earlier one of the same key. -/
def ofList (pairs : List (String × α)) : Members α :=
  pairs.foldl (fun members pair => insert pair.1 pair.2 members) []

def keys (members : Members α) : List String :=
  members.map Prod.fst

def values (members : Members α) : List α :=
  members.map Prod.snd

def Sorted (members : Members α) : Prop :=
  members.keys.Pairwise (fun a b => compare a b = .lt)

instance (members : Members α) : Decidable members.Sorted :=
  inferInstanceAs (Decidable (List.Pairwise _ _))

/-- Look-up after insertion sees the new value at its key and the old ones elsewhere. -/
theorem find?_insert (key other : String) (value : α) (members : Members α) :
    find? other (insert key value members) =
      if other = key then some value else find? other members := by
  induction members with
  | nil => simp [insert, find?, eq_comm]
  | cons member rest ih =>
    obtain ⟨k, v⟩ := member
    simp only [insert]
    split
    · simp [find?, eq_comm]
    · rename_i equal
      have same := Std.LawfulEqOrd.eq_of_compare equal
      subst same
      simp only [find?, eq_comm (a := other)]
      split <;> rfl
    · rename_i greater
      simp only [find?, ih]
      by_cases found : k = other
      · subst found
        have distinct : k ≠ key := by
          rintro rfl
          simp at greater
        simp [distinct]
      · simp [found]

theorem mem_keys_insert {key other : String} {value : α} {members : Members α} :
    other ∈ keys (insert key value members) ↔ other = key ∨ other ∈ keys members := by
  induction members with
  | nil => simp [insert, keys]
  | cons member rest ih =>
    obtain ⟨k, v⟩ := member
    simp only [keys] at ih
    simp only [insert]
    split
    · simp [keys]
    · rename_i equal
      have same := Std.LawfulEqOrd.eq_of_compare equal
      simp [keys, same]
    · simp [keys, ih, or_left_comm]

theorem Sorted.insert {key : String} {value : α} {members : Members α}
    (sorted : members.Sorted) : Sorted (Members.insert key value members) := by
  induction members with
  | nil => simp [Sorted, Members.insert, keys]
  | cons member rest ih =>
    obtain ⟨k, v⟩ := member
    have ⟨below, restSorted⟩ := List.pairwise_cons.1 sorted
    simp only [Members.insert]
    split
    · rename_i less
      refine List.pairwise_cons.2 ⟨fun other found => ?_, sorted⟩
      rcases List.mem_cons.1 found with rfl | found
      · exact less
      · exact Std.TransCmp.lt_trans less (below other found)
    · rename_i equal
      have same := Std.LawfulEqOrd.eq_of_compare equal
      subst same
      exact sorted
    · rename_i greater
      refine List.pairwise_cons.2 ⟨fun other found => ?_, ih restSorted⟩
      rcases mem_keys_insert.1 found with rfl | found
      · exact Std.OrientedCmp.lt_of_gt greater
      · exact below other found

theorem sorted_ofList (pairs : List (String × α)) : Sorted (ofList pairs) := by
  suffices general : ∀ members : Members α, Sorted members →
      Sorted (pairs.foldl (fun members pair => insert pair.1 pair.2 members) members) from
    general [] List.Pairwise.nil
  induction pairs with
  | nil => exact fun _ sorted => sorted
  | cons pair rest ih => exact fun _ sorted => ih _ sorted.insert

end Members

end LayeredConfig
