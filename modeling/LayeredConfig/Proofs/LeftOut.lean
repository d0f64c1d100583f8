import LayeredConfig.Proofs.Contents
import LayeredConfig.Proofs.Records

/-!
# What fields leave out

A field may be left out of the written form at some of its values. Layers agree with the merge as long
as these say nothing, so that any weaker value shows through, or let no weaker value take part. A test
that also picks out other values may leave out the merge of two values that are both written.
-/
set_option autoImplicit false

namespace LayeredConfig.Snapshot

/-- A value of a type that says nothing. -/
inductive Value.Silent (declarations : Declarations) : Value → Ty → Prop
  | absent (content : Ty) : Silent declarations .absent (.option content)
  | held (value : Value) (type content : Ty) (holds : type.held? declarations = some content)
      (inside : Silent declarations value content) : Silent declarations (.held value) type
  | map (keys : KeyKind) (type : Ty) : Silent declarations (.map []) (.map keys type)
  | dynamic : Silent declarations (.dynamic .null) .json

/-- A value of a type in which no weaker value takes part. -/
inductive Value.Whole (declarations : Declarations) : Value → Ty → Prop
  | atom (value : Atom) (kind : Scalar) : Whole declarations (.atom value) (.scalar kind)
  | frozen (value : Value) (content : Ty) : Whole declarations (.frozen value) (.replaced content)
  | sequence (items : List Value) (item : Ty) :
      Whole declarations (.sequence items) (.sequence item)
  | variant (chosen : String) (content : Value) (name : String) (alternatives : List Alternative)
      (blank : Value) (tagging : Tagging)
      (known : declarations name = some (.enumeration alternatives blank tagging)) :
      Whole declarations (.variant chosen content) (.named name)
  | held (value : Value) (type content : Ty) (holds : type.held? declarations = some content)
      (inside : Whole declarations value content) : Whole declarations (.held value) type

/-- A field that leaves out only values that say nothing or let no weaker value take part. -/
def Field.Careful (declarations : Declarations) (field : Field) : Prop :=
  ∀ skips, field.presence = .sometimes skips → ∀ value, skips value →
    value.Silent declarations field.type ∨ value.Whole declarations field.type

/-- Whether a field is left out because it says nothing. -/
def Field.Hushes (declarations : Declarations) (field : Field) (value : Value) : Prop :=
  field.omits value ∧ value.Silent declarations field.type

variable {declarations : Declarations}

theorem not_hushed_of_kept (field : Field) (value : Value) (kept : field.omits value = false) :
    ¬ field.Hushes declarations value := by
  intro hushed
  rw [hushed.1] at kept
  cases kept

theorem writes_of_silent (value : Value) (type : Ty) (silent : value.Silent declarations type) :
    ∃ form, write declarations value type = some form := by
  induction silent with
  | absent content => exact ⟨.null, by simp only [write]⟩
  | held value type content holds _ ih => simpa [write, holds] using ih
  | map keys type => exact ⟨.object [], by simp only [write, writeEntries, Option.map_some]⟩
  | dynamic => exact ⟨.null, by simp only [write]⟩

/-- What says nothing gives way to every weaker value of the type. -/
theorem silent_merge (value weak : Value) (type : Ty) (form : Json)
    (silent : value.Silent declarations type) (wrote : write declarations weak type = some form) :
    value.merge weak = weak := by
  induction silent generalizing weak with
  | absent content => simp only [Value.merge]
  | held value type content holds _ ih =>
      obtain ⟨inner, rfl, innerWrote⟩ := held_of_written weak type content form holds wrote
      simp only [Value.merge, ih inner innerWrote]
  | map keys type =>
      obtain ⟨entries, -, rfl, -, -⟩ := map_of_written weak form keys type wrote
      simp only [Value.merge, Value.mergeEntries]
  | dynamic =>
      obtain rfl := dynamic_of_written weak form wrote
      simp only [Value.merge, Json.merge_null_left]

theorem whole_merge (value weak : Value) (type : Ty) (whole : value.Whole declarations type) :
    value.merge weak = value := by
  induction whole generalizing weak with
  | held value type content _ _ ih => cases weak <;> simp only [Value.merge, ih]
  | _ => simp only [Value.merge]

/-- Of two values of one type both let weaker values take part or neither does. -/
theorem whole_of_written (value other : Value) (type : Ty) (form : Json)
    (wrote : write declarations value type = some form) (whole : other.Whole declarations type) :
    value.Whole declarations type := by
  induction whole generalizing value with
  | atom _ kind =>
      obtain ⟨atom, rfl, -⟩ := atom_of_written value form kind wrote
      exact .atom atom kind
  | frozen _ content =>
      obtain ⟨inner, rfl, -⟩ := frozen_of_written value form content wrote
      exact .frozen inner content
  | sequence _ item =>
      obtain ⟨items, -, rfl, -⟩ := sequence_of_written value form item wrote
      exact .sequence items item
  | variant _ _ name alternatives blank tagging known =>
      obtain ⟨chosen, content, rfl⟩ :=
        variant_of_written value form name alternatives blank tagging known wrote
      exact .variant chosen content name alternatives blank tagging known
  | held _ type content holds _ ih =>
      obtain ⟨inner, rfl, innerWrote⟩ := held_of_written value type content form holds wrote
      exact .held inner type content holds (ih inner innerWrote)

/-- Over a weaker value that says nothing, a value is kept. -/
theorem merge_silent (value weak : Value) (type : Ty) (form : Json) (sorted : value.Sorted)
    (wrote : write declarations value type = some form) (silent : weak.Silent declarations type) :
    value.merge weak = value := by
  induction silent generalizing value with
  | absent content => exact Value.merge_absent_right value
  | held weak type content holds _ ih =>
      obtain ⟨inner, rfl, innerWrote⟩ := held_of_written value type content form holds wrote
      cases sorted with
      | held _ inside => simp only [Value.merge, ih inner inside innerWrote]
  | map keys type =>
      obtain ⟨entries, -, rfl, -, -⟩ := map_of_written value form keys type wrote
      cases sorted with
      | map _ keysSorted _ =>
          rw [Value.merge, Value.merge_entries_union, Members.union_nil _ _ keysSorted]
  | dynamic =>
      obtain rfl := dynamic_of_written value form wrote
      simp only [Value.merge, Json.merge_null_right]

/-- Where a merge says nothing, its stronger side did not either. -/
theorem merge_eq_of_silent (value weak merged : Value) (type : Ty) (form : Json)
    (wrote : write declarations value type = some form) (same : value.merge weak = merged)
    (silent : merged.Silent declarations type) : merged = value := by
  induction silent generalizing value weak with
  | absent content =>
      rcases option_of_written value form content wrote with ⟨rfl, -⟩ | ⟨inner, rfl, -⟩
      · rfl
      · cases weak <;> simp only [Value.merge, reduceCtorEq] at same
  | held merged type content holds _ ih =>
      obtain ⟨inner, rfl, innerWrote⟩ := held_of_written value type content form holds wrote
      cases weak <;> simp only [Value.merge, Value.held.injEq] at same
      case held weak => rw [ih inner weak innerWrote same]
      all_goals rw [same]
  | map keys type =>
      obtain ⟨entries, -, rfl, -, -⟩ := map_of_written value form keys type wrote
      cases weak <;> simp only [Value.merge, Value.map.injEq] at same
      case map others =>
        rw [Value.merge_entries_union] at same
        rw [Members.union_eq_nil _ _ _ same]
      all_goals rw [same]
  | dynamic =>
      obtain rfl := dynamic_of_written value form wrote
      cases weak <;> simp only [Value.merge, Value.dynamic.injEq] at same
      case dynamic other => rw [Json.eq_null_of_merge _ _ same]
      all_goals rw [same]

theorem skips_of_omits (field : Field) (value : Value) (written : field.isWritten)
    (omitted : field.omits value) : ∃ skips, field.presence = .sometimes skips ∧ skips value := by
  cases presence : field.presence with
  | sometimes skips => exact ⟨skips, rfl, by simpa [Field.omits, presence] using omitted⟩
  | _ => simp_all [Field.omits, Field.isWritten]

theorem silent_or_whole (field : Field) (value : Value) (careful : field.Careful declarations)
    (written : field.isWritten) (omitted : field.omits value) :
    value.Silent declarations field.type ∨ value.Whole declarations field.type := by
  obtain ⟨skips, presence, skipped⟩ := skips_of_omits field value written omitted
  exact careful skips presence value skipped

theorem kept_merge (field : Field) (part other : Value) (form : Json)
    (careful : field.Careful declarations) (kept : field.omits part = false)
    (wrote : write declarations part field.type = some form) :
    field.omits (part.merge other) = false := by
  by_contra omitted
  have same : part.merge other = part := by
    rcases silent_or_whole field _ careful (written_of_kept field part kept) (by simpa using omitted)
      with silent | whole
    · exact merge_eq_of_silent part other _ _ form wrote rfl silent
    · exact whole_merge part other _ (whole_of_written part _ _ form wrote whole)
  rw [same] at omitted
  exact omitted kept

theorem merge_omitted (field : Field) (part other : Value) (form : Json)
    (careful : field.Careful declarations) (sorted : part.Sorted) (kept : field.omits part = false)
    (wrote : write declarations part field.type = some form) (omitted : field.omits other) :
    part.merge other = part := by
  rcases silent_or_whole field other careful (written_of_kept field part kept) omitted with
    silent | whole
  · exact merge_silent part other field.type form sorted wrote silent
  · exact whole_merge part other _ (whole_of_written part other _ form wrote whole)

theorem silent_of_held (value : Value) (type content : Ty)
    (holds : type.held? declarations = some content)
    (silent : (Value.held value).Silent declarations type) : value.Silent declarations content := by
  cases silent with
  | held _ _ other otherHolds inside =>
      cases holds.symm.trans otherHolds
      exact inside

theorem whole_of_held (value : Value) (type content : Ty)
    (holds : type.held? declarations = some content)
    (whole : (Value.held value).Whole declarations type) : value.Whole declarations content := by
  cases whole with
  | held _ _ other otherHolds inside =>
      cases holds.symm.trans otherHolds
      exact inside

/-- Two values of one type both say nothing or both let no weaker value take part. -/
theorem not_silent_and_whole (value other : Value) (type : Ty)
    (silent : value.Silent declarations type) : ¬ other.Whole declarations type := by
  intro whole
  induction silent generalizing other with
  | held value type content holds _ ih =>
      cases whole with
      | held other _ otherContent otherHolds inside =>
          rw [holds] at otherHolds
          cases otherHolds
          exact ih other inside
      | _ => simp_all [Ty.held?]
  | _ =>
      cases whole with | held other _ content holds inside => simp [Ty.held?] at holds

/-- No weaker value takes part in an alternative that holds nothing. -/
theorem alone_merge (value weak : Value) (alone : value.isAlone) : value.merge weak = value := by
  induction value using Value.induct generalizing weak with
  | present value ih => cases weak <;> simp only [Value.merge, ih _ alone]
  | held value ih => cases weak <;> simp only [Value.merge, ih _ alone]
  | frozen | variant => simp only [Value.merge]
  | _ => simp [Value.isAlone] at alone

theorem is_double_merge (strong weak : Value) (double : (strong.merge weak).isDouble) :
    strong.isDouble ∨ weak.isDouble := by
  induction strong using Value.induct generalizing weak with
  | absent => exact Or.inr (by simpa only [Value.merge] using double)
  | present value ih =>
      cases weak <;> simp only [Value.merge, Value.isDouble] at double ⊢
      case present weak => exact ih weak double
      all_goals exact Or.inl double
  | held value ih =>
      cases weak <;> simp only [Value.merge, Value.isDouble] at double ⊢
      case held weak => exact ih weak double
      all_goals exact Or.inl double
  | product parts | map entries | dynamic document =>
      cases weak <;> simp [Value.merge, Value.isDouble] at double
  | _ => exact Or.inl (by simpa only [Value.merge] using double)

theorem not_double_of_alone (value : Value) (alone : value.isAlone) : ¬ value.isDouble := by
  induction value using Value.induct with
  | present value ih | held value ih | frozen value ih => exact ih alone
  | variant => exact Bool.false_ne_true
  | _ => simp [Value.isAlone] at alone

theorem not_double_of_lays (value : Value) (type : Ty) (form : Json)
    (wrote : write declarations value type = some form) (lays : value.LaysMembers form) :
    ¬ value.isDouble := by
  intro double
  rcases lays with ⟨-, whole⟩ | ⟨members, rfl⟩ | ⟨_, -, alone⟩
  · rw [whole] at double
    cases double
  · induction value using Value.induct generalizing type with
    | atom value =>
        cases value <;> simp only [Value.isDouble, Bool.false_eq_true] at double
        cases type <;> simp only [write, reduceCtorEq] at wrote
        case scalar kind => cases kind <;> simp [Scalar.write] at wrote <;> split at wrote <;> cases wrote
    | present value ih | frozen value ih =>
        cases type <;> simp only [write, reduceCtorEq] at wrote
        exact ih _ double wrote
    | held value ih =>
        simp only [write, Option.bind_eq_some_iff] at wrote
        obtain ⟨content, -, contentWrote⟩ := wrote
        exact ih content double contentWrote
    | _ => simp [Value.isDouble] at double
  · exact not_double_of_alone value alone double

theorem silent_merge_omitted (field : Field) (value weak : Value)
    (careful : field.Careful declarations) (written : field.isWritten)
    (silent : value.Silent declarations field.type) (omitted : field.omits weak) :
    value.merge weak = weak := by
  rcases silent_or_whole field weak careful written omitted with weakSilent | whole
  · obtain ⟨form, wrote⟩ := writes_of_silent weak field.type weakSilent
    exact silent_merge value weak field.type form silent wrote
  · exact absurd whole (not_silent_and_whole value weak field.type silent)

end LayeredConfig.Snapshot
