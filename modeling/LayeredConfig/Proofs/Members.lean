import LayeredConfig.Json.Members
import Mathlib.Data.List.Forall2

/-!
# Looking up members

Sorted members are determined by what is found at each key. `union` lays one list of members over
another, and the members it holds at a key come from the two sides at that key alone.
-/
set_option autoImplicit false

namespace LayeredConfig.Members

variable {α β : Type}

theorem mem_of_find (key : String) (value : α) (members : Members α)
    (found : find? key members = some value) : (key, value) ∈ members := by
  induction members with
  | nil => simp [find?] at found
  | cons member rest ih =>
      obtain ⟨other, held⟩ := member
      by_cases same : other = key
      · subst same
        have values : held = value := by simpa [find?] using found
        simp [values]
      · have later : find? key rest = some value := by simpa [find?, same] using found
        exact List.mem_cons_of_mem _ (ih later)

theorem find_eq_none (key : String) (members : Members α) :
    find? key members = none ↔ key ∉ members.keys := by
  induction members with
  | nil => simp [find?, keys]
  | cons member rest ih =>
      obtain ⟨other, held⟩ := member
      by_cases same : other = key
      · simp [find?, keys, same]
      · simpa [find?, keys, same, Ne.symm same] using ih

theorem find_of_mem (key : String) (value : α) (members : Members α)
    (distinct : members.keys.Nodup) (member : (key, value) ∈ members) :
    find? key members = some value := by
  induction members with
  | nil => cases member
  | cons first rest ih =>
      obtain ⟨other, held⟩ := first
      obtain ⟨fresh, restDistinct⟩ := List.nodup_cons.1 distinct
      rcases List.mem_cons.1 member with same | later
      · cases same
        simp [find?]
      · have different : other ≠ key := by
          intro same
          subst same
          exact fresh (List.mem_map.2 ⟨_, later, rfl⟩)
        simpa [find?, different] using ih restDistinct later

theorem Sorted.nodup {members : Members α} (sorted : members.Sorted) : members.keys.Nodup := by
  apply List.Pairwise.imp _ sorted
  intro first second less same
  subst same
  simp at less

theorem Sorted.tail {member : String × α} {rest : Members α}
    (sorted : Sorted (member :: rest)) : rest.Sorted :=
  (List.pairwise_cons.1 sorted).2

private theorem sorted_head_le {key other : String} {held value : α} {left : Members α}
    (sorted : Sorted ((key, held) :: left))
    (found : find? other ((key, held) :: left) = some value) :
    key = other ∨ compare key other = .lt := by
  rcases List.mem_cons.1 (mem_of_find _ _ _ found) with same | later
  · cases same
    exact Or.inl rfl
  · exact Or.inr ((List.pairwise_cons.1 sorted).1 other (List.mem_map_of_mem later))

theorem eq_of_find_eq (left right : Members α) (leftSorted : left.Sorted)
    (rightSorted : right.Sorted) (same : ∀ key, find? key left = find? key right) :
    left = right := by
  induction left generalizing right with
  | nil =>
      cases right with
      | nil => rfl
      | cons member rest => simpa [find?] using same member.1
  | cons member rest ih =>
      obtain ⟨key, value⟩ := member
      cases right with
      | nil => simpa [find?] using same key
      | cons other others =>
          obtain ⟨otherKey, otherValue⟩ := other
          have keysAgree : key = otherKey := by
            have leftFound : find? otherKey ((key, value) :: rest) = some otherValue := by
              simpa [find?] using same otherKey
            have rightFound : find? key ((otherKey, otherValue) :: others) = some value := by
              simpa [find?] using (same key).symm
            have below := sorted_head_le leftSorted leftFound
            have above := sorted_head_le rightSorted rightFound
            rcases below with equal | less
            · exact equal
            · rcases above with equal | greater
              · exact equal.symm
              · have back := Std.OrientedCmp.gt_of_lt greater
                rw [less] at back
                cases back
          subst keysAgree
          have valuesAgree : value = otherValue := by simpa [find?] using same key
          have restAgree : ∀ query, find? query rest = find? query others := by
            intro query
            by_cases equal : key = query
            · subst equal
              rw [(find_eq_none key rest).2 (List.nodup_cons.1 leftSorted.nodup).1,
                (find_eq_none key others).2 (List.nodup_cons.1 rightSorted.nodup).1]
            · simpa [find?, equal] using same query
          rw [valuesAgree, ih others leftSorted.tail rightSorted.tail restAgree]

theorem insert_ne_nil (key : String) (value : α) (members : Members α) :
    insert key value members ≠ [] := by
  cases members with
  | nil => simp [insert]
  | cons member rest =>
      simp only [insert]
      split <;> simp

@[simp] theorem insert_insert (key : String) (first second : α) (members : Members α) :
    insert key second (insert key first members) = insert key second members := by
  induction members with
  | nil => simp [insert]
  | cons member rest ih =>
      obtain ⟨other, held⟩ := member
      simp only [insert]
      cases order : compare key other with
      | lt => simp [insert]
      | eq => simp [insert]
      | gt => simp [insert, order, ih]

theorem insert_found (key : String) (value : α) (members : Members α) (sorted : members.Sorted)
    (found : find? key members = some value) : insert key value members = members := by
  apply eq_of_find_eq _ _ sorted.insert sorted
  intro other
  rw [find?_insert]
  split_ifs with same
  · rw [same, found]
  · rfl

theorem insert_comm (first second : String) (value other : α) (members : Members α)
    (sorted : members.Sorted) (different : first ≠ second) :
    insert first value (insert second other members) =
      insert second other (insert first value members) := by
  apply eq_of_find_eq _ _ sorted.insert.insert sorted.insert.insert
  intro key
  simp only [find?_insert]
  by_cases atFirst : key = first
  · subst atFirst
    simp [different]
  · simp [atFirst]

private theorem find_fold_insert (key : String) (pairs : List (String × α)) (members : Members α)
    (distinct : keys pairs |>.Nodup) :
    find? key (pairs.foldl (fun members pair => insert pair.1 pair.2 members) members) =
      (find? key pairs).or (find? key members) := by
  induction pairs generalizing members with
  | nil => rfl
  | cons pair rest ih =>
      obtain ⟨fresh, restDistinct⟩ := List.nodup_cons.1 distinct
      rw [List.foldl_cons, ih _ restDistinct, find?_insert]
      by_cases same : pair.1 = key
      · subst same
        simp [find?, (find_eq_none pair.1 rest).2 fresh]
      · simp [find?, same, Ne.symm same]

theorem find_ofList (key : String) (pairs : List (String × α)) (distinct : (keys pairs).Nodup) :
    find? key (ofList pairs) = find? key pairs := by
  rw [ofList, find_fold_insert key pairs [] distinct]
  simp [find?]

theorem ofList_of_sorted (members : Members α) (sorted : members.Sorted) : ofList members = members :=
  eq_of_find_eq _ _ (sorted_ofList members) sorted fun key => find_ofList key members sorted.nodup

/-- The stronger members over the weaker ones, values of a common key being combined. -/
def union (combine : α → α → α) : Members α → Members α → Members α
  | [], weak => weak
  | (key, value) :: rest, weak =>
      insert key ((find? key weak).elim value (combine value)) (union combine rest weak)

theorem find_union (combine : α → α → α) (key : String) (strong weak : Members α) :
    find? key (union combine strong weak) =
      (find? key strong).elim (find? key weak) fun value =>
        some ((find? key weak).elim value (combine value)) := by
  induction strong with
  | nil => rfl
  | cons member rest ih =>
      obtain ⟨first, value⟩ := member
      rw [union, find?_insert, ih]
      by_cases same : first = key
      · subst same
        simp [find?]
      · simp [find?, same, Ne.symm same]

theorem sorted_union (combine : α → α → α) (strong weak : Members α) (sorted : weak.Sorted) :
    (union combine strong weak).Sorted := by
  induction strong with
  | nil => exact sorted
  | cons member rest ih => exact Sorted.insert ih

/-- Unions regroup where the values of the keys that all three have do. -/
theorem union_assoc (combine : α → α → α) (first second third : Members α)
    (sorted : third.Sorted)
    (assoc : ∀ key value other last, find? key first = some value →
      find? key second = some other → find? key third = some last →
        combine value (combine other last) = combine (combine value other) last) :
    union combine first (union combine second third) =
      union combine (union combine first second) third := by
  apply eq_of_find_eq
  · exact sorted_union _ _ _ (sorted_union _ _ _ sorted)
  · exact sorted_union _ _ _ sorted
  · intro key
    simp only [find_union]
    cases inFirst : find? key first with
    | none => rfl
    | some value =>
        cases inSecond : find? key second with
        | none => rfl
        | some other =>
            cases inThird : find? key third with
            | none => rfl
            | some last =>
                have same := assoc key value other last inFirst inSecond inThird
                simp [same]

theorem union_eq_nil (combine : α → α → α) (strong weak : Members α)
    (empty : union combine strong weak = []) : strong = [] := by
  cases strong with
  | nil => rfl
  | cons member rest => exact absurd empty (insert_ne_nil _ _ _)

theorem union_nil (combine : α → α → α) (strong : Members α) (sorted : strong.Sorted) :
    union combine strong [] = strong := by
  refine eq_of_find_eq _ _ (sorted_union combine strong [] List.Pairwise.nil) sorted fun key => ?_
  rw [find_union]
  cases find? key strong <;> rfl

theorem mem_insert (key : String) (value : α) (members : Members α) (member : String × α)
    (found : member ∈ insert key value members) : member = (key, value) ∨ member ∈ members := by
  induction members with
  | nil => simpa [insert] using found
  | cons first rest ih =>
      simp only [insert] at found
      split at found
      · simpa using found
      · rcases List.mem_cons.1 found with same | later
        · exact Or.inl same
        · exact Or.inr (List.mem_cons_of_mem _ later)
      · rcases List.mem_cons.1 found with same | later
        · exact Or.inr (by simp [same])
        · rcases ih later with fresh | old
          · exact Or.inl fresh
          · exact Or.inr (List.mem_cons_of_mem _ old)

private theorem mem_fold_insert (pairs : List (String × α)) (members : Members α)
    (member : String × α)
    (found : member ∈ pairs.foldl (fun members pair => insert pair.1 pair.2 members) members) :
    member ∈ pairs ∨ member ∈ members := by
  induction pairs generalizing members with
  | nil => exact Or.inr found
  | cons pair rest ih =>
      rcases ih _ found with later | kept
      · exact Or.inl (List.mem_cons_of_mem _ later)
      · rcases mem_insert _ _ _ _ kept with here | old
        · exact Or.inl (by simp [here])
        · exact Or.inr old

theorem mem_ofList (pairs : List (String × α)) (member : String × α)
    (found : member ∈ ofList pairs) : member ∈ pairs := by
  rcases mem_fold_insert pairs [] member found with listed | none
  · exact listed
  · cases none

theorem mem_union (combine : α → α → α) (strong weak : Members α) (member : String × α)
    (found : member ∈ union combine strong weak) :
    member ∈ strong ∨ member ∈ weak ∨
      ∃ first second, (member.1, first) ∈ strong ∧ (member.1, second) ∈ weak ∧
        member.2 = combine first second := by
  induction strong with
  | nil => exact Or.inr (Or.inl found)
  | cons head rest ih =>
      obtain ⟨key, value⟩ := head
      rcases mem_insert _ _ _ _ found with same | later
      · cases other : find? key weak with
        | none =>
            rw [other] at same
            exact Or.inl (by simp [same])
        | some second =>
            rw [other] at same
            refine Or.inr (Or.inr ⟨value, second, ?_, ?_, ?_⟩)
            · simp [same]
            · simpa [same] using mem_of_find _ _ _ other
            · simp [same]
      · rcases ih later with stronger | weaker | ⟨first, second, inStrong, inWeak, combined⟩
        · exact Or.inl (List.mem_cons_of_mem _ stronger)
        · exact Or.inr (Or.inl weaker)
        · exact Or.inr (Or.inr ⟨first, second, List.mem_cons_of_mem _ inStrong, inWeak, combined⟩)

/-- Lists with the same keys whose values are related one by one. -/
def Related (related : α → β → Prop) : Members α → Members β → Prop :=
  List.Forall₂ fun first second => first.1 = second.1 ∧ related first.2 second.2

theorem find_related (related : α → β → Prop) (key : String) (first : Members α)
    (second : Members β) (pairs : Related related first second) :
    (find? key first = none ∧ find? key second = none) ∨
      ∃ value other, find? key first = some value ∧ find? key second = some other ∧
        related value other := by
  induction pairs with
  | nil => exact Or.inl ⟨rfl, rfl⟩
  | @cons member other rest others head tail ih =>
      by_cases same : member.1 = key
      · exact Or.inr ⟨member.2, other.2, by simp [find?, same], by simp [find?, ← head.1, same],
          head.2⟩
      · simpa [find?, same, ← head.1] using ih

theorem insert_related (related : α → β → Prop) (key : String) (value : α) (other : β)
    (first : Members α) (second : Members β) (pairs : Related related first second)
    (holds : related value other) : Related related (insert key value first) (insert key other second) := by
  induction pairs with
  | nil => exact List.Forall₂.cons ⟨rfl, holds⟩ List.Forall₂.nil
  | @cons member opposite rest others head tail ih =>
      simp only [insert, ← head.1]
      split
      · exact List.Forall₂.cons ⟨rfl, holds⟩ (List.Forall₂.cons ⟨rfl, head.2⟩ tail)
      · exact List.Forall₂.cons ⟨rfl, holds⟩ tail
      · exact List.Forall₂.cons ⟨rfl, head.2⟩ ih

theorem union_related (related : α → β → Prop) (combine : α → α → α) (combineOther : β → β → β)
    (strong weak : Members α) (strongOther weakOther : Members β)
    (strongPairs : Related related strong strongOther) (weakPairs : Related related weak weakOther)
    (combines : ∀ member ∈ strong, ∀ value opposite opposed, related member.2 opposite →
      related value opposed → related (combine member.2 value) (combineOther opposite opposed)) :
    Related related (union combine strong weak) (union combineOther strongOther weakOther) := by
  induction strongPairs with
  | nil => exact weakPairs
  | @cons member other rest others head tail ih =>
      obtain ⟨first, later⟩ := List.forall_mem_cons.1 combines
      obtain ⟨key, value⟩ := member
      obtain ⟨otherKey, opposite⟩ := other
      obtain rfl : key = otherKey := head.1
      apply insert_related _ _ _ _ _ _ (ih later)
      rcases find_related related key weak weakOther weakPairs with
        ⟨missing, otherMissing⟩ | ⟨found, otherFound, inWeak, inOther, holds⟩
      · simpa [missing, otherMissing] using head.2
      · simpa [inWeak, inOther] using first found opposite otherFound head.2 holds

end LayeredConfig.Members
