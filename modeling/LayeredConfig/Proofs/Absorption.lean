import LayeredConfig.Proofs.Contents
import LayeredConfig.Proofs.SortedSnapshots

/-!
# What a value absorbs

A value hides what lies below it, in part or in full. Laid over its own result it changes nothing, and
what it hides stays hidden when another value comes between: two results that it does not tell apart are
not told apart further up either. Both hold of every merge, although merges of documents do not regroup.
-/
set_option autoImplicit false

namespace LayeredConfig

variable {α β : Type}

/-- A value lies over something or nothing. `again` lays it over its own result, and `between` lays it
over another value that lies over results which it does not tell apart. -/
structure Absorbs (merge : α → α → α) (kept : α → Prop) (value : α) : Prop where
  again : ∀ below : Option α, (∀ weak ∈ below, kept weak) →
    merge value (below.elim value (merge value)) = below.elim value (merge value)
  between : ∀ (middle : α) (below other : Option α), kept middle →
    (∀ weak ∈ below, kept weak) → (∀ weak ∈ other, kept weak) →
    below.elim value (merge value) = other.elim value (merge value) →
      merge value (below.elim middle (merge middle)) = merge value (other.elim middle (merge middle))

theorem absorbs_whole (merge : α → α → α) (kept : α → Prop) (value : α)
    (whole : ∀ weak, merge value weak = value) : Absorbs merge kept value where
  again below _ := by
    cases below with
    | none => exact whole value
    | some weak => simp only [Option.elim_some, whole]
  between middle below other _ _ _ _ := by rw [whole, whole]

theorem absorbs_blank (merge : α → α → α) (kept : α → Prop) (value : α)
    (shows : ∀ weak, merge value weak = weak) (silent : ∀ strong, merge strong value = strong) :
    Absorbs merge kept value where
  again below _ := shows _
  between middle below other _ _ _ same := by
    cases below with
    | none =>
        cases other with
        | none => rfl
        | some weak =>
            have blank : value = weak := by simpa [shows] using same
            simp [shows, ← blank, silent]
    | some weak =>
        cases other with
        | none =>
            have blank : weak = value := by simpa [shows] using same
            simp [shows, blank, silent]
        | some other =>
            have equal : weak = other := by simpa [shows] using same
            rw [equal]

/-- A container whose content absorbs. What comes between may be another container of the kind, a blank
value, or something of which the container shows nothing. -/
theorem absorbs_container {merge : α → α → α} {kept : α → Prop} {inner : β → β → β}
    {keptInside : β → Prop} (wrap : β → α) (content : α → Option β) (value : β)
    (absorbs : Absorbs inner keptInside value) (wrapped : ∀ part, content (wrap part) = some part)
    (inside : ∀ whole, kept whole → ∀ part ∈ content whole, keptInside part)
    (laid : ∀ (part : β) (below : Option α), below.elim (wrap part) (merge (wrap part)) =
      wrap ((below.bind content).elim part (inner part)))
    (middles : ∀ middle, (∃ part, middle = wrap part) ∨
      ((∀ weak, merge middle weak = weak) ∧ merge (wrap value) middle = wrap value) ∨
      ∀ below : Option α, merge (wrap value) (below.elim middle (merge middle)) = wrap value) :
    Absorbs merge kept (wrap value) := by
  have insideBelow (below : Option α) (keptBelow : ∀ weak ∈ below, kept weak) :
      ∀ part ∈ below.bind content, keptInside part := by
    intro part member
    obtain ⟨weak, inBelow, found⟩ := Option.bind_eq_some_iff.1 member
    exact inside weak (keptBelow weak inBelow) part found
  have laidOver (part : β) : merge (wrap value) (wrap part) = wrap (inner value part) := by
    simpa [wrapped] using laid value (some (wrap part))
  constructor
  · intro below keptBelow
    rw [laid, laidOver, absorbs.again _ (insideBelow below keptBelow)]
  · intro middle below other keptMiddle keptBelow keptOther same
    rcases middles middle with ⟨part, rfl⟩ | ⟨shows, silent⟩ | foreign
    · rw [laid, laid] at same
      have sameInside := congrArg content same
      rw [wrapped, wrapped, Option.some_inj] at sameInside
      rw [laid, laid, laidOver, laidOver, absorbs.between part _ _
        (inside _ keptMiddle part (wrapped part)) (insideBelow below keptBelow)
        (insideBelow other keptOther) sameInside]
    · have through (below : Option α) : merge (wrap value) (below.elim middle (merge middle)) =
          below.elim (wrap value) (merge (wrap value)) := by
        cases below with
        | none => exact silent
        | some weak => simp only [Option.elim_some, shows]
      rw [through, through, same]
    · rw [foreign, foreign]

namespace Members

theorem absorbs_union (combine : α → α → α) (kept : α → Prop) (strong : Members α)
    (sorted : strong.Sorted) (absorbs : ∀ member ∈ strong, Absorbs combine kept member.2) :
    Absorbs (union combine)
      (fun members => members.Sorted ∧ ∀ member ∈ members, kept member.2) strong := by
  have keptBelow (key : String) (below : Option (Members α))
      (belowKept : ∀ weak ∈ below, weak.Sorted ∧ ∀ member ∈ weak, kept member.2) :
      ∀ weak ∈ below.bind (find? key), kept weak := by
    intro weak found
    obtain ⟨members, inBelow, held⟩ := Option.bind_eq_some_iff.1 found
    exact (belowKept members inBelow).2 _ (mem_of_find _ _ _ held)
  constructor
  · intro below belowKept
    have belowSorted := sorted_over combine strong below sorted fun weak held =>
      (belowKept weak held).1
    apply eq_of_find_eq _ _ (sorted_union _ _ _ belowSorted) belowSorted
    intro key
    rw [find_union, find_over]
    cases found : find? key strong with
    | none => rfl
    | some value =>
        have again := (absorbs _ (mem_of_find _ _ _ found)).again _ (keptBelow key below belowKept)
        simpa using again
  · intro middle below other middleKept belowKept otherKept same
    have sortedOver (below : Option (Members α))
        (belowKept : ∀ weak ∈ below, weak.Sorted ∧ ∀ member ∈ weak, kept member.2) :=
      sorted_over combine middle below middleKept.1 fun weak held => (belowKept weak held).1
    apply eq_of_find_eq _ _ (sorted_union _ _ _ (sortedOver below belowKept))
      (sorted_union _ _ _ (sortedOver other otherKept))
    intro key
    have sameFound := congrArg (find? key) same
    rw [find_over, find_over] at sameFound
    rw [find_union, find_union, find_over, find_over]
    cases found : find? key strong with
    | none =>
        simp only [found, Option.elim_none] at sameFound
        rw [sameFound]
    | some value =>
        simp only [found, Option.elim_some, Option.some_inj] at sameFound
        simp only [Option.elim_some, Option.some_inj]
        cases inMiddle : find? key middle with
        | none => simpa only [Option.elim_none] using sameFound
        | some between =>
            exact (absorbs _ (mem_of_find _ _ _ found)).between between _ _
              (middleKept.2 _ (mem_of_find _ _ _ inMiddle)) (keptBelow key below belowKept)
              (keptBelow key other otherKept) sameFound

end Members

namespace Json

def members? : Json → Option (List (String × Json))
  | .object members => some members
  | _ => none

theorem members_laid (members : List (String × Json)) (below : Option Json) :
    below.elim (.object members) (merge (.object members)) =
      .object ((below.bind members?).elim members (Members.union merge members)) := by
  cases below with
  | none => rfl
  | some weak =>
      cases weak with
      | object others => exact merge_objects members others
      | _ => simp only [Option.elim_some, merge, Option.bind_some, members?, Option.elim_none]

theorem absorbs (document : Json) (sorted : document.Sorted) :
    Absorbs merge Json.Sorted document := by
  induction document using induct with
  | null => exact absorbs_blank _ _ _ merge_null_left merge_null_right
  | object members ih =>
      obtain ⟨keys, values⟩ := sorted
      rw [sorted_members_iff] at values
      have inside := Members.absorbs_union merge Json.Sorted members keys fun member found =>
        ih member found (values member found)
      apply absorbs_container Json.object members? members inside (fun _ => rfl) ?kept members_laid
      case kept =>
        intro whole wholeSorted part found
        cases whole with
        | object others =>
            cases found
            exact ⟨wholeSorted.1, (sorted_members_iff _).1 wholeSorted.2⟩
        | _ => cases found
      intro middle
      cases middle with
      | null => exact Or.inr (Or.inl ⟨merge_null_left, merge_null_right _⟩)
      | object others => exact Or.inl ⟨others, rfl⟩
      | _ =>
          right
          right
          intro below
          cases below <;> simp only [Option.elim_some, Option.elim_none, merge]
  | _ =>
      apply absorbs_whole
      intro weak
      simp only [merge]

end Json

namespace Snapshot

namespace Value

/-- Whether two values are of one shape, whatever they hold. -/
def Alike (value other : Value) : Prop :=
  value.ctorIdx = other.ctorIdx

theorem merge_unlike (strong weak : Value) (set : strong ≠ .absent) (unlike : ¬ strong.Alike weak) :
    strong.merge weak = strong := by
  cases strong <;> cases weak <;>
    first
    | exact absurd rfl set
    | exact absurd rfl unlike
    | simp only [merge]

theorem merge_alike (strong weak : Value) (set : strong ≠ .absent) :
    strong.Alike (strong.merge weak) := by
  cases strong <;> cases weak <;>
    first
    | exact absurd rfl set
    | (simp only [merge]; rfl)

/-- What comes between a container and what lies below is absent, alike, or hidden. -/
theorem absorbs_content {β : Type} {inner : β → β → β} {keptInside : β → Prop} (wrap : β → Value)
    (content : Value → Option β) (value : β) (absorbs : Absorbs inner keptInside value)
    (wrapped : ∀ part, content (wrap part) = some part) (set : wrap value ≠ .absent)
    (alike : ∀ middle, (wrap value).Alike middle → ∃ part, middle = wrap part)
    (inside : ∀ whole : Value, whole.Sorted → ∀ part ∈ content whole, keptInside part)
    (laid : ∀ (part : β) (below : Option Value), below.elim (wrap part) (merge (wrap part)) =
      wrap ((below.bind content).elim part (inner part))) :
    Absorbs merge Value.Sorted (wrap value) := by
  apply absorbs_container wrap content value absorbs wrapped inside laid
  intro middle
  by_cases blank : middle = .absent
  · subst blank
    exact Or.inr (Or.inl ⟨fun weak => by simp only [merge], merge_absent_right _⟩)
  by_cases same : (wrap value).Alike middle
  · exact Or.inl (alike middle same)
  right
  right
  intro below
  apply merge_unlike _ _ set
  cases below with
  | none => exact same
  | some weak =>
      intro alikeMerged
      exact same (alikeMerged.trans (merge_alike middle weak blank).symm)

theorem absorbs_parts (kept : Value → Prop) (parts : List Value)
    (absorbs : ∀ part ∈ parts, Absorbs merge kept part) :
    Absorbs mergeParts (fun parts => ∀ part ∈ parts, kept part) parts := by
  have keptAt (index : Nat) (below : Option (List Value))
      (belowKept : ∀ weak ∈ below, ∀ part ∈ weak, kept part) :
      ∀ part ∈ below.bind (·[index]?), kept part := by
    intro part found
    obtain ⟨weak, inBelow, held⟩ := Option.bind_eq_some_iff.1 found
    exact belowKept weak inBelow part (List.mem_of_getElem? held)
  constructor
  · intro below belowKept
    apply List.ext_getElem?
    intro index
    rw [merge_parts_at, parts_over]
    cases found : parts[index]? with
    | none => rfl
    | some part =>
        have again := (absorbs part (List.mem_of_getElem? found)).again _
          (keptAt index below belowKept)
        simpa using again
  · intro middle below other middleKept belowKept otherKept same
    apply List.ext_getElem?
    intro index
    have sameAt := congrArg (·[index]?) same
    simp only [parts_over] at sameAt
    rw [merge_parts_at, merge_parts_at, parts_over, parts_over]
    cases found : parts[index]? with
    | none => rfl
    | some part =>
        simp only [found, Option.map_some, Option.some_inj] at sameAt
        simp only [Option.map_some, Option.some_inj]
        cases inMiddle : middle[index]? with
        | none => rfl
        | some between =>
            exact (absorbs part (List.mem_of_getElem? found)).between between _ _
              (middleKept _ (List.mem_of_getElem? inMiddle)) (keptAt index below belowKept)
              (keptAt index other otherKept) sameAt

theorem absorbs_present (value : Value) (absorbs : Absorbs merge Value.Sorted value) :
    Absorbs merge Value.Sorted (.present value) := by
  apply absorbs_content .present present? value absorbs (fun _ => rfl) nofun
  case alike =>
    intro middle alike
    cases middle with
    | present part => exact ⟨part, rfl⟩
    | _ => cases alike
  case inside =>
    intro whole sorted part found
    cases sorted with
    | present content inside =>
        cases found
        exact inside
    | _ => cases found
  case laid => exact present_over

theorem absorbs_held (value : Value) (absorbs : Absorbs merge Value.Sorted value) :
    Absorbs merge Value.Sorted (.held value) := by
  apply absorbs_content .held held? value absorbs (fun _ => rfl) nofun
  case alike =>
    intro middle alike
    cases middle with
    | held part => exact ⟨part, rfl⟩
    | _ => cases alike
  case inside =>
    intro whole sorted part found
    cases sorted with
    | held content inside =>
        cases found
        exact inside
    | _ => cases found
  case laid => exact held_over

theorem absorbs_product (parts : List Value)
    (absorbs : ∀ part ∈ parts, Absorbs merge Value.Sorted part) :
    Absorbs merge Value.Sorted (.product parts) := by
  apply absorbs_content .product parts? parts (absorbs_parts _ _ absorbs) (fun _ => rfl) nofun
  case alike =>
    intro middle alike
    cases middle with
    | product others => exact ⟨others, rfl⟩
    | _ => cases alike
  case inside =>
    intro whole sorted part found
    cases sorted with
    | product others inside =>
        cases found
        exact inside
    | _ => cases found
  case laid => exact product_over

theorem absorbs_map (entries : List (String × Value)) (sorted : Members.Sorted entries)
    (absorbs : ∀ entry ∈ entries, Absorbs merge Value.Sorted entry.2) :
    Absorbs merge Value.Sorted (.map entries) := by
  apply absorbs_content .map entries? entries (Members.absorbs_union _ _ entries sorted absorbs)
    (fun _ => rfl) nofun
  case alike =>
    intro middle alike
    cases middle with
    | map others => exact ⟨others, rfl⟩
    | _ => cases alike
  case inside =>
    intro whole sorted part found
    cases sorted with
    | map others keys inside =>
        cases found
        exact ⟨keys, inside⟩
    | _ => cases found
  case laid => exact map_over

theorem absorbs_dynamic (document : Json) (sorted : document.Sorted) :
    Absorbs merge Value.Sorted (.dynamic document) := by
  apply absorbs_content .dynamic document? document (document.absorbs sorted) (fun _ => rfl) nofun
  case alike =>
    intro middle alike
    cases middle with
    | dynamic other => exact ⟨other, rfl⟩
    | _ => cases alike
  case inside =>
    intro whole sorted part found
    cases sorted with
    | dynamic other holds =>
        cases found
        exact holds
    | _ => cases found
  case laid => exact dynamic_over

theorem absorbs (value : Value) (sorted : value.Sorted) :
    Absorbs merge Value.Sorted value := by
  induction sorted with
  | absent =>
      apply absorbs_blank _ _ _ _ merge_absent_right
      intro weak
      simp only [merge]
  | present value inside ih => exact absorbs_present value ih
  | held value inside ih => exact absorbs_held value ih
  | product parts inside ih => exact absorbs_product parts ih
  | map entries sorted inside ih => exact absorbs_map entries sorted ih
  | dynamic document sorted => exact absorbs_dynamic document sorted
  | _ =>
      apply absorbs_whole
      intro weak
      simp only [merge]

end Value

end Snapshot

end LayeredConfig
