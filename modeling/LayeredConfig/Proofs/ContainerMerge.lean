import LayeredConfig.Proofs.SnapshotLayers

/-!
# Merging containers place by place

The merge of two written values is written, and its form is the stronger one laid over the weaker one:
at a place that the stronger value leaves open stands what the weaker one is written as. Options, maps
and lists of a fixed length hand this on from their parts.
-/
set_option autoImplicit false

namespace LayeredConfig.Snapshot

open Json (Laid reach? at? below?)

/-- The merge of two written values keeps its fields apart, is written, and is laid out. -/
def Value.LaidOver (declarations : Declarations) (owners : Owners) (strong weak : Value) (type : Ty)
    (strongForm weakForm : Json) : Prop :=
  (strong.merge weak).Placed declarations owners type ∧
    ∃ form, write declarations (strong.merge weak) type = some form ∧
      Laid (fun value => value.isScalar) (fun place => strong.Open declarations owners place type)
        (some strongForm) (some weakForm) (some form)

def Value.Lays (declarations : Declarations) (owners : Owners) (strong : Value) : Prop :=
  ∀ (weak : Value) (type : Ty) (strongForm weakForm : Json),
    strong.Regular declarations owners type → weak.Regular declarations owners type →
    write declarations strong type = some strongForm →
    write declarations weak type = some weakForm →
    strong.LaidOver declarations owners weak type strongForm weakForm

variable {declarations : Declarations} {owners : Owners}

theorem lays_whole (strong : Value) (kept : ∀ weak, strong.merge weak = strong)
    (closed : ∀ place type, ¬ strong.Open declarations owners place type) :
    strong.Lays declarations owners := by
  intro weak type strongForm weakForm regular _ strongWrote _
  unfold Value.LaidOver
  rw [kept weak]
  exact ⟨regular.placed, strongForm, strongWrote, Laid.whole _ _ fun place => closed place type⟩

theorem lays_absent : Value.Lays declarations owners .absent := by
  intro weak type strongForm weakForm regular weakRegular strongWrote weakWrote
  unfold Value.LaidOver
  simp only [Value.merge]
  refine ⟨weakRegular.placed, weakForm, weakWrote, ?_⟩
  apply Laid.inherited
  · exact fun place => .absent place type
  · intro value held
    exact open_silent [] .absent type strongForm value regular (.absent [] type) strongWrote held
  · simp

theorem laid_alone (value : Value) (type : Ty) (form : Json) (weak : Option Json)
    (regular : value.Regular declarations owners type)
    (wrote : write declarations value type = some form)
    (nothing : ∀ place found, value.Open declarations owners place type →
      reach? place weak = some found → found = .null) :
    Laid (fun value => value.isScalar) (fun place => value.Open declarations owners place type)
      (some form) weak (some form) :=
  Laid.alone _ _
    (fun place found opened held =>
      open_silent place value type form found regular opened wrote held) nothing

theorem lays_present (value : Value) (lays : value.Lays declarations owners) :
    (Value.present value).Lays declarations owners := by
  intro weak type strongForm weakForm regular weakRegular strongWrote weakWrote
  cases type <;> simp only [write, reduceCtorEq] at strongWrote
  rename_i content
  have inside : value.Regular declarations owners content :=
    regular_part _ _ _ _ regular (.present value content)
  unfold Value.LaidOver
  simp only [open_present_iff]
  rcases option_of_written weak weakForm content weakWrote with ⟨rfl, rfl⟩ | ⟨other, rfl, otherWrote⟩
  · simp only [Value.merge, write]
    refine ⟨regular.placed, strongForm, strongWrote, ?_⟩
    apply laid_alone value content strongForm _ inside strongWrote
    intro place found _ held
    exact Json.null_below place found held
  · obtain ⟨placed, form, wrote, laid⟩ := lays other content strongForm weakForm inside
      (regular_part _ _ _ _ weakRegular (.present other content)) strongWrote otherWrote
    simp only [Value.merge, write]
    refine ⟨.intro _ _ trivial ?_, form, wrote, laid⟩
    intro part inner partInside
    cases partInside
    exact placed

theorem lays_held (value : Value) (lays : value.Lays declarations owners) :
    (Value.held value).Lays declarations owners := by
  intro weak type strongForm weakForm regular weakRegular strongWrote weakWrote
  simp only [write, Option.bind_eq_some_iff] at strongWrote
  obtain ⟨content, holds, contentWrote⟩ := strongWrote
  obtain ⟨other, rfl, otherWrote⟩ := held_of_written weak type content weakForm holds weakWrote
  obtain ⟨placed, form, wrote, laid⟩ := lays other content strongForm weakForm
    (regular_part _ _ _ _ regular (.held value type content holds))
    (regular_part _ _ _ _ weakRegular (.held other type content holds)) contentWrote otherWrote
  unfold Value.LaidOver
  simp only [open_held_iff _ _ type content holds, Value.merge, write, holds, Option.bind_some]
  refine ⟨.intro _ _ trivial ?_, form, wrote, laid⟩
  intro part inner inside
  cases inside with
  | held _ _ otherContent otherHolds =>
      rw [holds] at otherHolds
      cases otherHolds
      exact placed

theorem lays_dynamic (document : Json) : (Value.dynamic document).Lays declarations owners := by
  intro weak type strongForm weakForm _ _ strongWrote weakWrote
  cases type <;> simp only [write, reduceCtorEq, Option.some.injEq] at strongWrote
  obtain rfl := dynamic_of_written weak weakForm weakWrote
  subst strongWrote
  unfold Value.LaidOver
  simp only [Value.merge, write, open_dynamic_iff]
  refine ⟨.intro _ _ trivial ?_, _, rfl, Laid.settle_fewer _ _ _ ?_ (Json.merge_laid _ _)⟩
  · intro part inner inside
    cases inside
  · intro value scalar
    cases value <;> simp_all [Json.isScalar, Json.isWhole]

theorem part_laid (part : Value) (other : Option Value) (type : Ty) (form : Json)
    (regular : part.Regular declarations owners type)
    (lays : part.Lays declarations owners) (wrote : write declarations part type = some form)
    (others : ∀ weak, other = some weak → weak.Regular declarations owners type ∧
      ∃ form, write declarations weak type = some form) :
    (other.elim part part.merge).Placed declarations owners type ∧
      ∃ result, write declarations (other.elim part part.merge) type = some result ∧
        Laid (fun value => value.isScalar) (fun place => part.Open declarations owners place type)
          (some form) (other.bind fun weak => write declarations weak type) (some result) := by
  cases other with
  | none =>
      exact ⟨regular.placed, form, wrote, laid_alone part type form none regular wrote (by simp)⟩
  | some weak =>
      obtain ⟨weakRegular, weakForm, weakWrote⟩ := others weak rfl
      have both := lays weak type form weakForm regular weakRegular wrote weakWrote
      simpa only [Option.elim_some, Option.bind_some, weakWrote, Value.LaidOver] using both

theorem lays_map (entries : List (String × Value))
    (lays : ∀ entry ∈ entries, entry.2.Lays declarations owners) :
    (Value.map entries).Lays declarations owners := by
  intro weak type strongForm weakForm regular weakRegular strongWrote weakWrote
  cases type <;> simp only [write, reduceCtorEq, Option.map_eq_some_iff] at strongWrote
  rename_i keys content
  obtain ⟨strongMembers, strongEntries, rfl⟩ := strongWrote
  obtain ⟨others, weakMembers, rfl, weakEntries, rfl⟩ :=
    map_of_written weak weakForm keys content weakWrote
  have inside (entry : String × Value) (member : entry ∈ entries) :
      entry.2.Regular declarations owners content :=
    regular_part _ _ _ _ regular (.entry entries keys content entry member)
  have weakInside (entry : String × Value) (member : entry ∈ others) :
      entry.2.Regular declarations owners content :=
    regular_part _ _ _ _ weakRegular (.entry others keys content entry member)
  have each (entry : String × Value) (member : entry ∈ Members.union Value.merge entries others) :
      entry.2.Placed declarations owners content ∧
        ∃ form, write declarations entry.2 content = some form := by
    rcases Members.mem_union _ _ _ _ member with stronger | weaker | both
    · exact ⟨(inside entry stronger).placed,
        entry_form entries content strongMembers strongEntries entry stronger⟩
    · exact ⟨(weakInside entry weaker).placed,
        entry_form others content weakMembers weakEntries entry weaker⟩
    · obtain ⟨first, second, inStrong, inWeak, combined⟩ := both
      obtain ⟨firstForm, firstWrote⟩ := entry_form entries content strongMembers strongEntries _ inStrong
      obtain ⟨secondForm, secondWrote⟩ := entry_form others content weakMembers weakEntries _ inWeak
      obtain ⟨placed, form, wrote, -⟩ := lays _ inStrong second content firstForm secondForm
        (inside _ inStrong) (weakInside _ inWeak) firstWrote secondWrote
      exact combined ▸ ⟨placed, form, wrote⟩
  obtain ⟨members, wroteMembers⟩ := entries_exist _ content fun entry member => (each entry member).2
  unfold Value.LaidOver
  simp only [Value.merge, Value.merge_entries_union, write, wroteMembers, Option.map_some]
  refine ⟨.intro _ _ trivial ?_, .object members, rfl, ?_⟩
  · intro part inner partInside
    cases partInside with
    | entry _ _ _ entry member => exact (each entry member).1
  have strongAt := find_entries entries content strongMembers strongEntries
  have weakAt := find_entries others content weakMembers weakEntries
  have mergedAt := find_entries _ content members wroteMembers
  apply Laid.object
  · simp [Json.isScalar]
  · intro inside
    cases inside
  · intro key
    simp only [open_entry_iff]
    rw [strongAt, weakAt, mergedAt, Members.find_union]
    cases found : Members.find? key entries with
    | none => exact Laid.inherited _ _ (fun _ => trivial) (by simp) (by simp)
    | some value =>
        have member := Members.mem_of_find _ _ _ found
        obtain ⟨form, wrote⟩ := entry_form entries content strongMembers strongEntries _ member
        obtain ⟨-, result, resultWrote, laid⟩ := part_laid value (Members.find? key others) content
          form (inside _ member) (lays _ member) wrote fun weak weakFound => by
            have weakMember := Members.mem_of_find _ _ _ weakFound
            exact ⟨weakInside _ weakMember,
              entry_form others content weakMembers weakEntries _ weakMember⟩
        simpa only [Option.elim_some, Option.bind_some, wrote, resultWrote] using laid

theorem items_laid (strong weak merged : List (Value × Ty)) (strongForms weakForms : List Json)
    (regular : ∀ part ∈ strong, part.1.Regular declarations owners part.2)
    (weakRegular : ∀ part ∈ weak, part.1.Regular declarations owners part.2)
    (lays : ∀ part ∈ strong, part.1.Lays declarations owners)
    (strongWrote : List.Forall₂ (fun part form => write declarations part.1 part.2 = some form)
      strong strongForms)
    (weakWrote : List.Forall₂ (fun part form => write declarations part.1 part.2 = some form)
      weak weakForms)
    (typed : ∀ (index : Nat) part other, strong[index]? = some part →
      weak[index]? = some other → other.2 = part.2)
    (merges : ∀ index : Nat, merged[index]? = strong[index]?.map fun part =>
      ((weak[index]?.map Prod.fst).elim part.1 part.1.merge, part.2)) :
    (∀ part ∈ merged, part.1.Placed declarations owners part.2) ∧
    ∃ forms, List.Forall₂ (fun part form => write declarations part.1 part.2 = some form)
        merged forms ∧
      ∀ opens : List Hop → Prop, ¬ opens [] → (∀ (index : Nat) rest, opens (.item index :: rest) ↔
        strong[index]?.elim False fun part => part.1.Open declarations owners rest part.2) →
      Laid (fun value => value.isScalar) opens (some (.array strongForms))
        (some (.array weakForms)) (some (.array forms)) := by
  have step (index : Nat) (part : Value × Ty) (found : strong[index]? = some part) :
      ∃ whole result, merged[index]? = some whole ∧ whole.1.Placed declarations owners whole.2 ∧
        write declarations whole.1 whole.2 = some result ∧
        Laid (fun value => value.isScalar) (fun place => part.1.Open declarations owners place part.2)
          strongForms[index]? weakForms[index]? (some result) := by
    have member := List.mem_of_getElem? found
    obtain ⟨form, wrote⟩ := form_of_mem _ _ _ strongWrote part member
    obtain ⟨placed, result, resultWrote, laid⟩ := part_laid part.1 (weak[index]?.map Prod.fst) part.2
      form (regular part member) (lays part member) wrote fun other otherFound => by
        obtain ⟨typedOther, otherHeld, rfl⟩ := Option.map_eq_some_iff.1 otherFound
        have otherMember := List.mem_of_getElem? otherHeld
        rw [← typed index part typedOther found otherHeld]
        exact ⟨weakRegular _ otherMember, form_of_mem _ _ _ weakWrote typedOther otherMember⟩
    refine ⟨_, result, by rw [merges index, found]; rfl, placed, resultWrote, ?_⟩
    rw [forms_at _ _ _ strongWrote, forms_at _ _ _ weakWrote, found]
    have same : (weak[index]?.bind fun part => write declarations part.1 part.2) =
        (weak[index]?.map Prod.fst).bind fun other => write declarations other part.2 := by
      cases held : weak[index]? with
      | none => rfl
      | some other => simp [typed index part other found held]
    simpa only [Option.bind_some, wrote, same] using laid
  have each (part : Value × Ty) (member : part ∈ merged) :
      part.1.Placed declarations owners part.2 ∧
        ∃ form, write declarations part.1 part.2 = some form := by
    obtain ⟨index, held⟩ := List.mem_iff_getElem?.1 member
    cases found : strong[index]? with
    | none => simp [merges index, found] at held
    | some own =>
        obtain ⟨whole, result, wholeHeld, placed, resultWrote, -⟩ := step index own found
        rw [held] at wholeHeld
        cases wholeHeld
        exact ⟨placed, result, resultWrote⟩
  obtain ⟨forms, wrote⟩ := forms_exist (fun part => write declarations part.1 part.2) merged
    fun part member => (each part member).2
  refine ⟨fun part member => (each part member).1, forms, wrote, ?_⟩
  intro opens root inside
  apply Laid.array
  · simp [Json.isScalar]
  · exact root
  · intro index
    simp only [inside]
    cases found : strong[index]? with
    | none =>
        rw [forms_at _ _ _ strongWrote, forms_at _ _ _ wrote, merges index, found]
        exact Laid.whole none _ fun place => not_false
    | some part =>
        obtain ⟨whole, result, wholeHeld, -, resultWrote, laid⟩ := step index part found
        rw [forms_at _ _ _ wrote, wholeHeld, Option.bind_some, resultWrote]
        exact laid

theorem lays_array (parts : List Value) (lays : ∀ part ∈ parts, part.Lays declarations owners)
    (size : Nat) (item : Ty) (weak : Value) (strongForm weakForm : Json)
    (regular : (Value.product parts).Regular declarations owners (.array size item))
    (weakRegular : weak.Regular declarations owners (.array size item))
    (strongWrote : write declarations (.product parts) (.array size item) = some strongForm)
    (weakWrote : write declarations weak (.array size item) = some weakForm) :
    (Value.product parts).LaidOver declarations owners weak (.array size item) strongForm
      weakForm := by
  simp only [write, Option.map_eq_some_iff, write_items_iff] at strongWrote
  obtain ⟨strongForms, strongWrote, rfl⟩ := strongWrote
  obtain ⟨others, weakForms, rfl, othersWrote, rfl⟩ :=
    array_of_written weak weakForm size item weakWrote
  rw [write_items_iff] at othersWrote
  obtain ⟨placed, forms, wrote, laid⟩ := items_laid (parts.map (·, item)) (others.map (·, item))
    ((Value.mergeParts parts others).map (·, item)) strongForms weakForms
    (by
      intro part member
      obtain ⟨value, held, rfl⟩ := List.mem_map.1 member
      exact regular_part _ _ _ _ regular (.arrayItem parts size item value held))
    (by
      intro part member
      obtain ⟨value, held, rfl⟩ := List.mem_map.1 member
      exact regular_part _ _ _ _ weakRegular (.arrayItem others size item value held))
    (by
      intro part member
      obtain ⟨value, held, rfl⟩ := List.mem_map.1 member
      exact lays value held)
    (List.forall₂_map_left_iff.2 strongWrote) (List.forall₂_map_left_iff.2 othersWrote)
    (by
      intro index part other found otherFound
      rw [List.getElem?_map, Option.map_eq_some_iff] at found otherFound
      obtain ⟨-, -, rfl⟩ := found
      obtain ⟨-, -, rfl⟩ := otherFound
      rfl)
    (by
      intro index
      simp only [List.getElem?_map, Value.merge_parts_at]
      cases parts[index]? <;> cases others[index]? <;> rfl)
  unfold Value.LaidOver
  simp only [Value.merge, write, Option.map_eq_some_iff, write_items_iff]
  refine ⟨.intro _ _ trivial ?_, .array forms, ⟨forms, List.forall₂_map_left_iff.1 wrote, rfl⟩,
    laid _ ?_ ?_⟩
  · intro part inner inside
    cases inside with
    | arrayItem _ _ _ _ member => exact placed _ (List.mem_map_of_mem member)
  · exact not_open_product_root parts _
  · intro index rest
    rw [open_array_item_iff, List.getElem?_map]
    cases parts[index]? <;> rfl

theorem lays_tuple (parts : List Value) (lays : ∀ part ∈ parts, part.Lays declarations owners)
    (items : List Ty) (weak : Value) (strongForm weakForm : Json)
    (regular : (Value.product parts).Regular declarations owners (.tuple items))
    (weakRegular : weak.Regular declarations owners (.tuple items))
    (strongWrote : write declarations (.product parts) (.tuple items) = some strongForm)
    (weakWrote : write declarations weak (.tuple items) = some weakForm) :
    (Value.product parts).LaidOver declarations owners weak (.tuple items) strongForm weakForm := by
  simp only [write, Option.map_eq_some_iff, write_tuple_iff] at strongWrote
  obtain ⟨strongForms, ⟨strongSize, strongWrote⟩, rfl⟩ := strongWrote
  obtain ⟨others, weakForms, rfl, othersWrote, rfl⟩ :=
    tuple_of_written weak weakForm items weakWrote
  obtain ⟨weakSize, othersWrote⟩ := (write_tuple_iff _ _ _).1 othersWrote
  obtain ⟨placed, forms, wrote, laid⟩ := items_laid (parts.zip items) (others.zip items)
    ((Value.mergeParts parts others).zip items) strongForms weakForms
    (fun part member => regular_part _ _ _ _ regular (.tupleItem parts items part member))
    (fun part member => regular_part _ _ _ _ weakRegular (.tupleItem others items part member))
    (fun part member => lays part.1 (List.of_mem_zip member).1) strongWrote othersWrote
    (by
      intro index part other found otherFound
      have type := (List.getElem?_zip_eq_some.1 found).2
      have otherType := (List.getElem?_zip_eq_some.1 otherFound).2
      rw [type] at otherType
      exact (Option.some.inj otherType).symm)
    (by
      intro index
      simp only [List.zip, List.getElem?_zipWith', Value.merge_parts_at]
      cases parts[index]? <;> cases others[index]? <;> cases items[index]? <;> rfl)
  unfold Value.LaidOver
  simp only [Value.merge, write, Option.map_eq_some_iff, write_tuple_iff]
  refine ⟨.intro _ _ trivial ?_, .array forms,
    ⟨forms, ⟨by rw [Value.length_merge_parts, strongSize], wrote⟩, rfl⟩, laid _ ?_ ?_⟩
  · intro part inner inside
    cases inside with
    | tupleItem _ _ _ member => exact placed _ member
  · exact not_open_product_root parts _
  · intro index rest
    exact open_tuple_item_iff index rest parts items

end LayeredConfig.Snapshot
