import LayeredConfig.Proofs.ContainerMerge

/-!
# Merging records place by place

A field that one side leaves out may still be written by the other. Field by field the contributions
to a record are laid out, and so is the record, as long as its fields stay apart.
-/
set_option autoImplicit false

namespace LayeredConfig.Snapshot

open Json (Laid reach? at? below?)

variable {declarations : Declarations} {owners : Owners}

/-- A field that is not flattened merges over the weaker field in its place: it stays written or left
out, and its forms are laid out. -/
structure Field.LaysForm (declarations : Declarations) (owners : Owners) (field : Field)
    (part other : Value) : Prop where
  writes : field.Writes declarations (part.merge other)
  placed : field.omits (part.merge other) = false →
    (part.merge other).Placed declarations owners field.type
  laid : Laid (fun value => value.isScalar)
    (fun place => field.Hushes declarations part ∨ part.Open declarations owners place field.type)
    (field.form? declarations part) (field.form? declarations other)
    (field.form? declarations (part.merge other))

/-- A field over the weaker field in its place, one hop below their records. -/
structure Field.Lays (declarations : Declarations) (owners : Owners) (naming : Option NamingRule)
    (field : Field) (part other : Value) : Prop where
  writes : field.Writes declarations (part.merge other)
  placed : field.omits (part.merge other) = false →
    (part.merge other).Placed declarations owners field.type
  laid : ∀ hop, (field.presence = .flattened → ∃ key, hop = .member key) →
    Laid (fun value => value.isScalar) (fun rest => field.Open declarations owners part hop rest)
      (Field.below? declarations naming (field, part) hop)
      (Field.below? declarations naming (field, other) hop)
      (Field.below? declarations naming (field, part.merge other) hop)

theorem not_open_of_whole (place : List Hop) (value : Value) (type : Ty)
    (whole : value.Whole declarations type) : ¬ value.Open declarations owners place type := by
  intro opened
  induction whole generalizing place with
  | held value type content holds _ ih =>
      exact ih place ((open_held_iff place value type content holds).1 opened)
  | _ => cases opened

theorem lays_form_kept (field : Field) (part other : Value) (own : field.presence ≠ .flattened)
    (careful : field.Careful declarations) (lays : part.Lays declarations owners)
    (regular : part.Regular declarations owners field.type)
    (otherRegular : field.omits other = false → other.Regular declarations owners field.type)
    (partWrites : field.Writes declarations part) (otherWrites : field.Writes declarations other)
    (kept : field.omits part = false) : field.LaysForm declarations owners part other := by
  obtain ⟨form, wrote, partForm⟩ := form_of_writes field part partWrites kept
  have opens (place : List Hop) : field.Hushes declarations part ∨
      part.Open declarations owners place field.type ↔
        part.Open declarations owners place field.type := by
    simp [not_hushed_of_kept field part kept]
  cases omitted : field.omits other with
  | false =>
      obtain ⟨weakForm, weakWrote, otherForm⟩ := form_of_writes field other otherWrites omitted
      obtain ⟨placed, result, resultWrote, laid⟩ := lays other field.type form weakForm regular
        (otherRegular omitted) wrote weakWrote
      have mergedKept := kept_merge field part other form careful kept wrote
      refine ⟨Or.inr ⟨result, resultWrote, fun flattened => absurd flattened own⟩, fun _ => placed, ?_⟩
      have mergedForm : field.form? declarations (part.merge other) = some result := by
        simp [Field.form?, mergedKept, resultWrote]
      simp only [opens]
      rw [partForm, otherForm, mergedForm]
      exact laid
  | true =>
      have same := merge_omitted field part other form careful regular.sorted kept wrote omitted
      refine ⟨same.symm ▸ partWrites, fun _ => same.symm ▸ regular.placed, ?_⟩
      simp only [opens]
      rw [same, partForm, form_of_omits field other omitted]
      exact laid_alone part field.type form none regular wrote (by simp)

/-- A part that is left out gives way to the weaker one, is kept, or neither is ever written. -/
theorem lays_form_omitted (field : Field) (part other : Value) (careful : field.Careful declarations)
    (otherPlaced : field.omits other = false → other.Placed declarations owners field.type)
    (otherWrites : field.Writes declarations other) (omitted : field.omits part = true) :
    field.LaysForm declarations owners part other := by
  have partForm : field.form? declarations part = none := form_of_omits field part omitted
  by_cases written : field.isWritten
  · rcases silent_or_whole field part careful written omitted with silent | whole
    · have same : part.merge other = other := by
        rcases otherWrites with otherOmitted | ⟨form, wrote, -⟩
        · exact silent_merge_omitted field part other careful written silent otherOmitted
        · exact silent_merge part other field.type form silent wrote
      refine ⟨same.symm ▸ otherWrites, fun kept => same.symm ▸ otherPlaced (same ▸ kept), ?_⟩
      rw [same, partForm]
      exact Laid.inherited _ _ (fun _ => Or.inl ⟨omitted, silent⟩) (by simp) (by simp)
    · have same := whole_merge part other field.type whole
      refine ⟨Or.inl (same.symm ▸ omitted), fun kept => ?_, ?_⟩
      · rw [same, omitted] at kept
        cases kept
      · rw [same, partForm]
        apply Laid.whole
        rintro place (hushed | opened)
        · exact not_silent_and_whole part part field.type hushed.2 whole
        · exact not_open_of_whole place part field.type whole opened
  · have unwritten : field.isWritten = false := by simpa using written
    have never (value : Value) := omits_of_not_written field value unwritten
    refine ⟨Or.inl (never _), fun kept => absurd kept (by simp [never]), ?_⟩
    simp only [form_of_omits field _ (never _)]
    exact Laid.nothing

variable (owners) in
/-- Over an alternative that holds nothing, a value gives way or stays, as a whole. -/
theorem merge_over_alone (value weak : Value) (type : Ty) (form weakForm : Json)
    (wrote : write declarations value type = some form)
    (weakWrote : write declarations weak type = some weakForm) (alone : weak.isAlone) :
    (value.merge weak = weak ∧ form = .null ∧ ∀ place, value.Open declarations owners place type) ∨
      (value.merge weak = value ∧ ∀ place, ¬ value.Open declarations owners place type) := by
  induction weak using Value.induct generalizing value type with
  | present weak ih =>
      cases type <;> simp only [write, reduceCtorEq] at weakWrote
      rename_i content
      rcases option_of_written value form content wrote with ⟨rfl, rfl⟩ | ⟨inner, rfl, innerWrote⟩
      · exact Or.inl ⟨by simp only [Value.merge], rfl, fun place => .absent place _⟩
      · simp only [Value.merge, Value.present.injEq, open_present_iff]
        exact ih inner content innerWrote weakWrote alone
  | held weak ih =>
      simp only [write] at weakWrote
      obtain ⟨content, holds, innerWrote⟩ := Option.bind_eq_some_iff.1 weakWrote
      obtain ⟨inner, rfl, contentWrote⟩ := held_of_written value type content form holds wrote
      simp only [Value.merge, Value.held.injEq, open_held_iff _ inner type content holds]
      exact ih inner content contentWrote innerWrote alone
  | frozen weak =>
      cases type <;> simp only [write, reduceCtorEq] at weakWrote
      obtain ⟨inner, rfl, -⟩ := frozen_of_written value form _ wrote
      exact Or.inr ⟨by simp only [Value.merge], fun place opened => by cases opened⟩
  | variant chosen content =>
      cases type <;> simp only [write, reduceCtorEq] at weakWrote
      split at weakWrote <;> try cases weakWrote
      rename_i known
      obtain ⟨other, inner, rfl⟩ := variant_of_written value form _ _ _ _ known wrote
      exact Or.inr ⟨by simp only [Value.merge], fun place opened => by cases opened⟩
  | _ => simp [Value.isAlone] at alone

/-- Where two values can be laid into a record, so can their merge. -/
theorem lays_members_merge (part other : Value) (type : Ty) (form weakForm result : Json)
    {opens : List Hop → Prop} (wrote : write declarations part type = some form)
    (weakWrote : write declarations other type = some weakForm) (lays : part.LaysMembers form)
    (weakLays : other.LaysMembers weakForm) (named : ¬ part.isAlone) (otherNamed : ¬ other.isAlone)
    (laid : Laid (fun value => value.isScalar) opens (some form) (some weakForm) (some result)) :
    (part.merge other).LaysMembers result ∧ laidForm result = result := by
  have shape (value : Value) (written : Json) (lies : value.LaysMembers written)
      (named : ¬ value.isAlone) : written = .null ∨ ∃ members, written = .object members := by
    rcases lies with ⟨null, -⟩ | object | ⟨_, -, alone⟩
    · exact Or.inl null
    · exact Or.inr object
    · exact absurd alone named
  rcases laid.null_or_object _ _ _ (shape part form lays named)
    (shape other weakForm weakLays otherNamed) with rfl | ⟨members, rfl⟩
  · refine ⟨Or.inl ⟨rfl, ?_⟩, rfl⟩
    by_contra number
    rcases is_double_merge part other (by simpa using number) with double | double
    · exact not_double_of_lays part type form wrote lays double
    · exact not_double_of_lays other type weakForm weakWrote weakLays double
  · exact ⟨Or.inr (Or.inl ⟨members, rfl⟩), rfl⟩

theorem lays_flattened (naming : Option NamingRule) (field : Field) (part other : Value)
    (flattened : field.presence = .flattened) (lays : part.Lays declarations owners)
    (regular : part.Regular declarations owners field.type)
    (otherRegular : other.Regular declarations owners field.type)
    (partWrites : field.Writes declarations part) (otherWrites : field.Writes declarations other) :
    field.Lays declarations owners naming part other := by
  obtain ⟨form, wrote, laysForm⟩ := form_of_flattened field part flattened partWrites
  obtain ⟨weakForm, otherWrote, laysWeak⟩ := form_of_flattened field other flattened otherWrites
  have opens (key : String) (rest : List Hop) : field.Open declarations owners part (.member key) rest ↔
      part.Open declarations owners (.member key :: rest) field.type := by
    have kept : field.omits part = false := by simp [Field.omits, flattened]
    simp [Field.Open, not_hushed_of_kept field part kept, Field.placeIn, flattened]
  -- A name that stands for an alternative comes from one side as a whole.
  have stays (same : part.merge other = part)
      (closed : ∀ place, ¬ part.Open declarations owners place field.type) :
      field.Lays declarations owners naming part other := by
    refine ⟨same.symm ▸ partWrites, fun _ => same.symm ▸ regular.placed, ?_⟩
    intro hop keyed
    obtain ⟨key, rfl⟩ := keyed flattened
    rw [same]
    exact Laid.whole _ _ fun place opened => closed _ ((opens key place).1 opened)
  by_cases named : part.isAlone
  · exact stays (alone_merge part other named)
      fun place => not_open_of_alone place part field.type named
  by_cases otherNamed : other.isAlone
  · rcases merge_over_alone owners part other field.type form weakForm wrote otherWrote
      otherNamed with ⟨same, rfl, opened⟩ | ⟨same, closed⟩
    · refine ⟨same.symm ▸ otherWrites, fun _ => same.symm ▸ otherRegular.placed, ?_⟩
      intro hop keyed
      obtain ⟨key, rfl⟩ := keyed flattened
      rw [same, below_of_flattened naming field part .null key flattened wrote laysForm]
      exact Laid.inherited _ _ (fun place => (opens key place).2 (opened _))
        (by simp [laidForm, Json.below?]) fun _ => rfl
    · exact stays same closed
  obtain ⟨placed, result, resultWrote, laid⟩ :=
    lays other field.type form weakForm regular otherRegular wrote otherWrote
  obtain ⟨laysResult, resultForm⟩ := lays_members_merge part other field.type form weakForm result
    wrote otherWrote laysForm laysWeak named otherNamed laid
  refine ⟨Or.inr ⟨_, resultWrote, fun _ => laysResult⟩, fun _ => placed, ?_⟩
  intro hop keyed
  obtain ⟨key, rfl⟩ := keyed flattened
  simp only [opens]
  rw [below_of_flattened naming field part form key flattened wrote laysForm,
    below_of_flattened naming field other weakForm key flattened otherWrote laysWeak,
    below_of_flattened naming field _ result key flattened resultWrote laysResult, resultForm,
    laid_form_of_lays part form laysForm named, laid_form_of_lays other weakForm laysWeak otherNamed]
  exact laid.below _ _ _ (.member key)

theorem field_lays (naming : Option NamingRule) (field : Field) (part other : Value)
    (careful : field.Careful declarations) (lays : part.Lays declarations owners)
    (regular : field.omits part = false → part.Regular declarations owners field.type)
    (otherRegular : field.omits other = false → other.Regular declarations owners field.type)
    (partWrites : field.Writes declarations part) (otherWrites : field.Writes declarations other) :
    field.Lays declarations owners naming part other := by
  by_cases flattened : field.presence = .flattened
  · have kept (value : Value) : field.omits value = false := by simp [Field.omits, flattened]
    exact lays_flattened naming field part other flattened lays (regular (kept part))
      (otherRegular (kept other)) partWrites otherWrites
  · have layers : field.LaysForm declarations owners part other := by
      cases omitted : field.omits part with
      | true =>
          exact lays_form_omitted field part other careful
            (fun kept => (otherRegular kept).placed) otherWrites omitted
      | false =>
          exact lays_form_kept field part other flattened careful lays (regular omitted)
            otherRegular partWrites otherWrites omitted
    refine ⟨layers.writes, layers.placed, ?_⟩
    intro hop _
    have placeIn (rest : List Hop) : field.placeIn hop rest = rest := by
      cases presence : field.presence <;> simp_all [Field.placeIn]
    simp only [Field.Open, placeIn]
    rcases below_of_own naming field hop flattened with nowhere | there
    · rw [nowhere part, nowhere other, nowhere (part.merge other)]
      exact Laid.nothing
    · rw [there part, there other, there (part.merge other)]
      exact layers.laid

def Record.FieldsLay (declarations : Declarations) (owners : Owners) (declared : Record)
    (parts others : List Value) : Prop :=
  ∀ field part other, (field, part) ∈ declared.fields.zip parts →
    (field, other) ∈ declared.fields.zip others →
      field.Lays declarations owners declared.keyRule part other

theorem record_fields_lay (name : String) (declared : Record) (parts others : List Value)
    (lays : ∀ part ∈ parts, part.Lays declarations owners)
    (known : declarations name = some (.record declared))
    (regular : (Value.product parts).Regular declarations owners (.named name))
    (weakRegular : (Value.product others).Regular declarations owners (.named name))
    (writes : ∀ part ∈ declared.fields.zip parts, part.1.Writes declarations part.2)
    (weakWrites : ∀ part ∈ declared.fields.zip others, part.1.Writes declarations part.2) :
    declared.FieldsLay declarations owners parts others := by
  intro field part other inStrong inWeak
  obtain ⟨inFields, inParts⟩ := List.of_mem_zip inStrong
  have careful := (placed_apart _ _ regular.placed declared known).2 field inFields
  have partRegular (kept : field.omits part = false) :
      part.Regular declarations owners field.type :=
    regular_part _ _ _ _ regular (.field parts name declared (field, part) known inStrong kept)
  have otherRegular (kept : field.omits other = false) :
      other.Regular declarations owners field.type :=
    regular_part _ _ _ _ weakRegular (.field others name declared (field, other) known inWeak kept)
  exact field_lays _ field part other careful (lays part inParts) partRegular otherRegular
    (writes _ inStrong) (weakWrites _ inWeak)

/-- No field of a merged record contributes a key that neither side does. -/
theorem merged_apart (name : String) (declared : Record) (parts others : List Value)
    (size : parts.length = declared.fields.length)
    (weakSize : others.length = declared.fields.length)
    (apart : declared.Apart declarations owners name parts)
    (weakApart : declared.Apart declarations owners name others)
    (fields : declared.FieldsLay declarations owners parts others) :
    declared.Apart declarations owners name (Value.mergeParts parts others) := by
  apply apart_merge owners name declared parts others size weakSize apart weakApart
  intro field part other inStrong inWeak key inMerged
  by_contra neither
  obtain ⟨notStrong, notWeak⟩ := not_or.1 neither
  rw [← Members.find_eq_none] at notStrong notWeak
  have laid := (fields field part other inStrong inWeak).laid (.member key) fun _ => ⟨key, rfl⟩
  have nothing := laid.adds [] ((Json.reach_root _).trans notStrong)
    ((Json.reach_root _).trans notWeak)
  rw [Json.reach_root] at nothing
  exact (Members.find_eq_none _ _).1 nothing inMerged

theorem merged_record (name : String) (declared : Record) (parts others : List Value)
    (known : declarations name = some (.record declared))
    (size : parts.length = declared.fields.length)
    (weakSize : others.length = declared.fields.length)
    (regular : (Value.product parts).Regular declarations owners (.named name))
    (weakRegular : (Value.product others).Regular declarations owners (.named name))
    (fields : declared.FieldsLay declarations owners parts others) :
    (∀ part ∈ declared.fields.zip (Value.mergeParts parts others),
      part.1.Writes declarations part.2) ∧
    (Value.product (Value.mergeParts parts others)).Regular declarations owners (.named name) := by
  obtain ⟨apart, careful⟩ := placed_apart _ _ regular.placed declared known
  obtain ⟨weakApart, -⟩ := placed_apart _ _ weakRegular.placed declared known
  have each (field : Field) (merged : Value)
      (member : (field, merged) ∈ declared.fields.zip (Value.mergeParts parts others)) :
      field.Writes declarations merged ∧
        (field.omits merged = false → merged.Placed declarations owners field.type) := by
    obtain ⟨part, other, inStrong, inWeak, rfl⟩ :=
      mem_zip_merge _ _ _ size weakSize field merged member
    have both := fields field part other inStrong inWeak
    exact ⟨both.writes, both.placed⟩
  refine ⟨fun part member => (each part.1 part.2 member).1, ?_, .intro _ _ ?_ ?_⟩
  · simpa only [Value.merge] using sorted_merge _ _ regular.sorted weakRegular.sorted
  · intro otherDeclared otherKnown
    rw [known] at otherKnown
    cases otherKnown
    exact ⟨merged_apart name declared parts others size weakSize apart weakApart fields, careful⟩
  · intro part inner inside
    cases inside with
    | field _ _ otherDeclared both otherKnown member kept =>
        rw [known] at otherKnown
        cases otherKnown
        exact (each both.1 both.2 member).2 kept

theorem lays_record (parts : List Value) (lays : ∀ part ∈ parts, part.Lays declarations owners)
    (name : String) (declared : Record) (known : declarations name = some (.record declared))
    (container : declared.form = .container) (weak : Value) (strongForm weakForm : Json)
    (regular : (Value.product parts).Regular declarations owners (.named name))
    (weakRegular : weak.Regular declarations owners (.named name))
    (strongWrote : write declarations (.product parts) (.named name) = some strongForm)
    (weakWrote : write declarations weak (.named name) = some weakForm) :
    (Value.product parts).LaidOver declarations owners weak (.named name) strongForm weakForm := by
  obtain ⟨others, rfl⟩ := product_of_written weak weakForm name declared known weakWrote
  have apart := (placed_apart _ _ regular.placed declared known).1
  obtain ⟨strongSize, strongWrites, strongSame⟩ :=
    (write_record_iff name declared parts strongForm known container).1 strongWrote
  obtain ⟨weakSize, weakWrites, -⟩ :=
    (write_record_iff name declared others weakForm known container).1 weakWrote
  have fields : declared.FieldsLay declarations owners parts others :=
    record_fields_lay name declared parts others lays known regular weakRegular strongWrites weakWrites
  obtain ⟨mergedWrites, mergedRegular⟩ := merged_record name declared parts others known strongSize
    weakSize regular weakRegular fields
  have mergedWrote := (write_record_iff name declared _ _ known container).2
    ⟨by rw [Value.length_merge_parts, strongSize], mergedWrites, rfl⟩
  have inside (hop : Hop) : Laid (fun value => value.isScalar)
      (fun rest => (Value.product parts).Open declarations owners (hop :: rest) (.named name))
      (below? hop strongForm) (below? hop weakForm)
      (below? hop (declared.body declarations (Value.mergeParts parts others))) := by
    simp only [open_field_iff hop _ parts name declared known]
    rw [below_record name declared parts strongForm hop known container regular strongWrote,
      below_record name declared others weakForm hop known container weakRegular weakWrote,
      below_record name declared _ _ hop known container mergedRegular mergedWrote]
    rcases slot_merge owners name declared hop parts others strongSize weakSize with
      ⟨strongAt, weakAt, mergedAt⟩ | ⟨field, part, other, inStrong, inWeak, strongAt, weakAt, mergedAt⟩
    · rw [strongAt, weakAt, mergedAt]
      exact Laid.nothing
    · rw [strongAt, weakAt, mergedAt]
      exact (fields field part other inStrong inWeak).laid hop
        (key_of_flattened owners name declared hop parts (field, part) apart strongAt)
  unfold Value.LaidOver
  rw [Value.merge]
  refine ⟨mergedRegular.placed, _, mergedWrote, ?_⟩
  subst strongSame
  apply Laid.container _ _ _ (not_open_product_root parts _) _ _ _ inside
  · unfold Record.body
    cases declared.layout <;> simp
  · unfold Record.body
    cases declared.layout <;> simp [Json.isScalar]
  · intro either
    rcases either with scalar | leaf
    · unfold Record.body at scalar
      cases layout : declared.layout <;> simp [Json.isScalar, layout] at scalar
    · apply body_eq_of_leaf declared parts (Value.mergeParts parts others) leaf
      intro hop nothing
      simpa using (inside hop).stays [] (by simpa using nothing)

theorem merge_int_parts (strong weak : List Value) (values : List Int)
    (integers : intParts strong = some values) : Value.mergeParts strong weak = strong := by
  induction strong generalizing weak values with
  | nil => cases weak <;> simp only [Value.mergeParts]
  | cons part parts ih =>
      cases part with
      | atom value =>
          cases value with
          | int value =>
              simp only [intParts, Option.map_eq_some_iff] at integers
              obtain ⟨rest, restIntegers, -⟩ := integers
              cases weak with
              | nil => simp only [Value.mergeParts]
              | cons other others =>
                  simp only [Value.mergeParts, Value.merge, ih others rest restIntegers]
          | _ => simp [intParts] at integers
      | _ => simp [intParts] at integers

theorem lays_dotted (parts : List Value) (name : String) (declared : Record)
    (known : declarations name = some (.record declared)) (dotted : declared.form = .dotted)
    (weak : Value) (strongForm weakForm : Json)
    (regular : (Value.product parts).Regular declarations owners (.named name))
    (strongWrote : write declarations (.product parts) (.named name) = some strongForm) :
    (Value.product parts).LaidOver declarations owners weak (.named name) strongForm weakForm := by
  have kept : (Value.product parts).merge weak = .product parts := by
    simp only [write, known, dotted, Option.map_eq_some_iff] at strongWrote
    obtain ⟨values, integers, -⟩ := strongWrote
    cases weak with
    | product others => rw [Value.merge, merge_int_parts parts others values integers]
    | _ => simp only [Value.merge]
  unfold Value.LaidOver
  rw [kept]
  refine ⟨regular.placed, strongForm, strongWrote, Laid.whole _ _ ?_⟩
  intro place opened
  cases place with
  | nil => exact not_open_product_root parts _ opened
  | cons hop rest =>
      rw [open_field_iff hop rest parts name declared known] at opened
      simp [Record.slot?, dotted] at opened

end LayeredConfig.Snapshot
