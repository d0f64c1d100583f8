import LayeredConfig.Proofs.Filling
import LayeredConfig.Proofs.SnapshotLayers

/-!
# The written form of what is filled in

What is filled in from below is written where the value was, if what came in is written, and its written
form holds every scalar that the form of the value held.
-/
set_option autoImplicit false

namespace LayeredConfig

namespace Json

theorem kept_in_of_below (document filled : Json) (mixed : ¬ document.isScalar)
    (inside : ∀ hop below, below? hop document = some below →
      ∃ other, below? hop filled = some other ∧ below.KeptIn other) : document.KeptIn filled := by
  intro place value scalar held
  cases place with
  | nil =>
      cases held
      exact absurd scalar mixed
  | cons hop rest =>
      obtain ⟨below, down, heldBelow⟩ := Option.bind_eq_some_iff.1 held
      obtain ⟨other, otherDown, kept⟩ := inside hop below down
      rw [at_cons, otherDown]
      exact kept rest value scalar heldBelow

end Json

namespace Snapshot

variable {declarations : Declarations} {required : Prop}

/-- The scalars of the form that a value is written as are in the form that another is written as. -/
def Value.FormKept (declarations : Declarations) (value other : Value) (type : Ty) : Prop :=
  ∀ form otherForm, write declarations value type = some form →
    write declarations other type = some otherForm → form.KeptIn otherForm

theorem kept_forms {α : Type} (form : α → Option Json) (values others : List α)
    (forms otherForms : List Json) (sized : others.length = values.length)
    (written : List.Forall₂ (fun value result => form value = some result) values forms)
    (otherWritten : List.Forall₂ (fun value result => form value = some result) others otherForms)
    (inside : ∀ (index : Nat) value other own otherOwn, values[index]? = some value →
      others[index]? = some other → form value = some own → form other = some otherOwn →
        own.KeptIn otherOwn) :
    (Json.array forms).KeptIn (.array otherForms) := by
  apply Json.kept_in_of_below _ _ (by simp [Json.isScalar])
  intro hop below down
  cases hop with
  | member key => cases down
  | item index =>
      have found : forms[index]? = some below := down
      rw [forms_at form values forms written] at found
      obtain ⟨value, valueAt, own⟩ := Option.bind_eq_some_iff.1 found
      have bound : index < others.length := by
        have inValues := (List.getElem?_eq_some_iff.1 valueAt).1
        omega
      have otherAt := List.getElem?_eq_getElem bound
      obtain ⟨otherOwn, otherWrote⟩ :=
        form_of_mem _ _ _ otherWritten _ (List.mem_of_getElem? otherAt)
      refine ⟨otherOwn, ?_, inside index value _ below otherOwn valueAt otherAt own otherWrote⟩
      rw [Json.below?, forms_at form others otherForms otherWritten, otherAt]
      exact otherWrote

theorem form_kept_array (parts others : List Value) (size : Nat) (item : Ty)
    (sized : others.length = parts.length)
    (inside : ∀ (index : Nat) part other, parts[index]? = some part → others[index]? = some other →
      part.FormKept declarations other item) :
    (Value.product parts).FormKept declarations (.product others) (.array size item) := by
  intro form otherForm wrote otherWrote
  simp only [write, Option.map_eq_some_iff, write_items_iff] at wrote otherWrote
  obtain ⟨forms, written, rfl⟩ := wrote
  obtain ⟨otherForms, otherWritten, rfl⟩ := otherWrote
  apply kept_forms _ parts others forms otherForms sized written otherWritten
  intro index part other own otherOwn partAt otherAt ownWrote otherOwnWrote
  exact inside index part other partAt otherAt own otherOwn ownWrote otherOwnWrote

theorem form_kept_tuple (parts others : List Value) (items : List Ty)
    (sized : others.length = parts.length)
    (inside : ∀ (index : Nat) part other item, parts[index]? = some part →
      others[index]? = some other → items[index]? = some item →
        part.FormKept declarations other item) :
    (Value.product parts).FormKept declarations (.product others) (.tuple items) := by
  intro form otherForm wrote otherWrote
  simp only [write, Option.map_eq_some_iff, write_tuple_iff] at wrote otherWrote
  obtain ⟨forms, ⟨-, written⟩, rfl⟩ := wrote
  obtain ⟨otherForms, ⟨-, otherWritten⟩, rfl⟩ := otherWrote
  apply kept_forms (fun part : Value × Ty => write declarations part.1 part.2) _ _ forms otherForms
    (by simp [sized]) written otherWritten
  intro index part other own otherOwn partAt otherAt ownWrote otherOwnWrote
  obtain ⟨partIn, itemAt⟩ := List.getElem?_zip_eq_some.1 partAt
  obtain ⟨otherIn, otherItemAt⟩ := List.getElem?_zip_eq_some.1 otherAt
  rw [itemAt, Option.some_inj] at otherItemAt
  rw [← otherItemAt] at otherOwnWrote
  exact inside index part.1 other.1 part.2 partIn otherIn itemAt own otherOwn ownWrote otherOwnWrote

theorem form_kept_map (entries others : List (String × Value)) (keys : KeyKind) (type : Ty)
    (kept : ∀ key, Members.find? key others = none → Members.find? key entries = none)
    (inside : ∀ key value other, Members.find? key entries = some value →
      Members.find? key others = some other → value.FormKept declarations other type) :
    (Value.map entries).FormKept declarations (.map others) (.map keys type) := by
  intro form otherForm wrote otherWrote
  simp only [write, Option.map_eq_some_iff] at wrote otherWrote
  obtain ⟨members, written, rfl⟩ := wrote
  obtain ⟨otherMembers, otherWritten, rfl⟩ := otherWrote
  apply Json.kept_in_of_below _ _ (by simp [Json.isScalar])
  intro hop below down
  cases hop with
  | item index => cases down
  | member key =>
      have found : Members.find? key members = some below := down
      rw [find_entries entries type members written] at found
      obtain ⟨value, inEntries, own⟩ := Option.bind_eq_some_iff.1 found
      cases inOthers : Members.find? key others with
      | none =>
          rw [kept key inOthers] at inEntries
          cases inEntries
      | some other =>
          obtain ⟨otherOwn, otherOwnWrote⟩ :=
            entry_form others type otherMembers otherWritten _ (Members.mem_of_find _ _ _ inOthers)
          refine ⟨otherOwn, ?_, inside key value other inEntries inOthers below otherOwn own
            otherOwnWrote⟩
          rw [Json.below?, find_entries others type otherMembers otherWritten, inOthers]
          exact otherOwnWrote

theorem plain_of_separate (declared : Record) (separate : declared.Separate) (field : Field)
    (member : field ∈ declared.fields) : field.presence ≠ .flattened := by
  unfold Record.Separate at separate
  cases layout : declared.layout with
  | members =>
      rw [layout] at separate
      exact separate.1 field member
  | items =>
      rw [layout] at separate
      intro flattened
      have always := separate field member (by simp [Field.isWritten, flattened])
      rw [flattened] at always
      cases always

theorem slot_of_same_size (owners : Owners) (name : String) (declared : Record) (hop : Hop)
    (parts others : List Value) (sized : others.length = parts.length) (field : Field) (part : Value)
    (found : declared.slot? owners name (declared.fields.zip parts) hop = some (field, part)) :
    ∃ (other : Value) (index : Nat),
      declared.slot? owners name (declared.fields.zip others) hop = some (field, other) ∧
        declared.fields[index]? = some field ∧ parts[index]? = some part ∧
          others[index]? = some other := by
  have firstOf : (parts.zip others).map Prod.fst = parts := List.map_fst_zip (by omega)
  have secondOf : (parts.zip others).map Prod.snd = others := List.map_snd_zip (by omega)
  have firsts : declared.fields.zip parts =
      (declared.fields.zip (parts.zip others)).map fun pair => (pair.1, pair.2.1) := by
    conv_lhs => rw [← firstOf, List.zip_map_right]
    rfl
  have seconds : declared.fields.zip others =
      (declared.fields.zip (parts.zip others)).map fun pair => (pair.1, pair.2.2) := by
    conv_lhs => rw [← secondOf, List.zip_map_right]
    rfl
  rw [firsts, slot_map owners name declared hop _ Prod.fst] at found
  obtain ⟨⟨_, _, other⟩, selected, same⟩ := Option.map_eq_some_iff.1 found
  cases same
  obtain ⟨index, atIndex⟩ :=
    List.mem_iff_getElem?.1 (mem_of_slot owners name declared hop _ _ selected)
  obtain ⟨fieldAt, bothAt⟩ := List.getElem?_zip_eq_some.1 atIndex
  obtain ⟨partAt, otherAt⟩ := List.getElem?_zip_eq_some.1 bothAt
  refine ⟨other, index, ?_, fieldAt, partAt, otherAt⟩
  rw [seconds, slot_map owners name declared hop _ Prod.snd, selected]
  rfl

theorem int_parts_stay (parts others : List Value) (values : List Int)
    (integers : intParts parts = some values) (sized : others.length = parts.length)
    (atoms : ∀ (index : Nat) atom, parts[index]? = some (.atom atom) →
      others[index]? = some (.atom atom)) : others = parts := by
  induction parts generalizing others values with
  | nil => exact List.length_eq_zero_iff.1 sized
  | cons part parts ih =>
      cases others with
      | nil => cases sized
      | cons other others =>
          cases part with
          | atom value =>
              cases value with
              | int value =>
                  simp only [intParts, Option.map_eq_some_iff] at integers
                  obtain ⟨rest, restIntegers, -⟩ := integers
                  obtain rfl := Option.some.inj (atoms 0 (.int value) rfl)
                  rw [ih others rest restIntegers (by simpa using sized) fun index => atoms (index + 1)]
              | _ => simp [intParts] at integers
          | _ => simp [intParts] at integers

theorem dotted_parts_stay (parts others : List Value) (name : String) (declared : Record)
    (known : declarations name = some (.record declared)) (dotted : declared.form = .dotted)
    (sized : others.length = parts.length)
    (atoms : ∀ (index : Nat) atom, parts[index]? = some (.atom atom) →
      others[index]? = some (.atom atom))
    (written : (Value.product parts).IsWritten declarations (.named name)) : others = parts := by
  obtain ⟨form, wrote⟩ := written
  simp only [write, known, dotted, Option.map_eq_some_iff] at wrote
  obtain ⟨values, integers, -⟩ := wrote
  exact int_parts_stay parts others values integers sized atoms

theorem field_form_kept (field : Field) (part other : Value) (below : Json)
    (shown : field.form? declarations part = some below)
    (inside : field.isWritten → (field.omits part = false → field.omits other = false) ∧
      part.FormKept declarations other field.type)
    (writes : field.Writes declarations other) :
    ∃ form, field.form? declarations other = some form ∧ below.KeptIn form := by
  unfold Field.form? at shown
  split at shown
  · cases shown
  · rename_i kept
    obtain ⟨stays, formKept⟩ := inside (written_of_kept field part (by simpa using kept))
    obtain ⟨form, wrote, formed⟩ := form_of_writes field other writes (stays (by simpa using kept))
    exact ⟨form, formed, formKept below form shown wrote⟩

theorem form_kept_record (parts others : List Value) (name : String) (declared : Record)
    (known : declarations name = some (.record declared)) (separate : declared.Separate)
    (sized : others.length = parts.length)
    (atoms : ∀ (index : Nat) atom, parts[index]? = some (.atom atom) →
      others[index]? = some (.atom atom))
    (inside : ∀ (index : Nat) field part other, declared.fields[index]? = some field →
      parts[index]? = some part → others[index]? = some other → declared.form = .container →
        field.isWritten → (field.omits part = false → field.omits other = false) ∧
          part.FormKept declarations other field.type) :
    (Value.product parts).FormKept declarations (.product others) (.named name) := by
  intro form otherForm wrote otherWrote
  cases shape : declared.form with
  | dotted =>
      have same := dotted_parts_stay parts others name declared known shape sized atoms ⟨form, wrote⟩
      rw [same, wrote] at otherWrote
      cases otherWrote
      exact fun _ _ _ held => held
  | container =>
      have plain := plain_of_separate declared separate
      have body (parts : List Value)
          (writes : ∀ part ∈ declared.fields.zip parts, part.1.Writes declarations part.2) (hop : Hop) :=
        below_body (byKey declarations) name declared parts hop shape
          (apart_of_separate name declared parts known separate)
          (fun part member => distinct_of_own _ part.1 part.2 (plain _ (List.of_mem_zip member).1))
          writes
      obtain ⟨-, writes, rfl⟩ := (write_record_iff name declared parts form known shape).1 wrote
      obtain ⟨-, otherWrites, rfl⟩ :=
        (write_record_iff name declared others otherForm known shape).1 otherWrote
      apply Json.kept_in_of_below
      · unfold Record.body
        cases declared.layout <;> simp [Json.isScalar]
      · intro hop below down
        rw [body parts writes] at down
        obtain ⟨⟨field, part⟩, selected, contributed⟩ := Option.bind_eq_some_iff.1 down
        obtain ⟨other, index, otherSelected, fieldAt, partAt, otherAt⟩ :=
          slot_of_same_size _ name declared hop parts others sized field part selected
        have own := plain field (List.mem_of_getElem? fieldAt)
        rcases @below_of_own declarations declared.keyRule field hop own with missed | hit
        · rw [missed] at contributed
          cases contributed
        · rw [hit] at contributed
          have otherIn : (field, other) ∈ declared.fields.zip others :=
            mem_of_slot _ name declared hop _ _ otherSelected
          obtain ⟨otherOwn, otherFormed, kept⟩ := field_form_kept field part other below contributed
            (inside index field part other fieldAt partAt otherAt shape) (otherWrites _ otherIn)
          refine ⟨otherOwn, ?_, kept⟩
          rw [body others otherWrites, otherSelected, Option.bind_some, hit, otherFormed]

/-- What says nothing after it was filled in said nothing before. -/
theorem eq_of_filled_silent (value other : Value) (type : Ty)
    (filled : value.Filled declarations required other type)
    (silent : other.Silent declarations type) : other = value := by
  induction filled with
  | same => rfl
  | absent value content offered =>
      cases silent with
      | absent => rfl
      | held _ _ _ holds => cases holds
  | held value other type content holds inside ih =>
      rw [ih (silent_of_held other type content holds silent)]
  | map entries others keys type sorted stays inside added =>
      cases silent
      cases entries with
      | nil => rfl
      | cons entry rest => simpa [Members.find?] using stays entry.1 rfl
  | dynamic document other kept speaks =>
      cases silent
      rw [speaks rfl]
  | _ => cases silent

/-- Nothing is filled into a value in which no other takes part. -/
theorem eq_of_filled_whole (value other : Value) (type : Ty)
    (filled : value.Filled declarations required other type)
    (whole : value.Whole declarations type ∨ other.Whole declarations type) : other = value := by
  induction filled with
  | same => rfl
  | absent value content offered =>
      rcases whole with whole | whole
      · cases whole
      · cases whole with | held _ _ _ holds => cases holds
  | held value other type content holds inside ih =>
      rw [ih (whole.imp (whole_of_held value type content holds)
        (whole_of_held other type content holds))]
  | _ => rcases whole with whole | whole <;> cases whole

theorem omits_of_filled (field : Field) (value other : Value) (careful : field.Careful declarations)
    (filled : value.Filled declarations required other field.type)
    (kept : field.omits value = false) : field.omits other = false := by
  by_contra omitted
  have written := written_of_kept field value kept
  have same : other = value := by
    rcases silent_or_whole field other careful written (by simpa using omitted) with silent | whole
    · exact eq_of_filled_silent value other field.type filled silent
    · exact eq_of_filled_whole value other field.type filled (Or.inr whole)
  rw [same] at omitted
  exact omitted kept

theorem array_item_shows (parts : List Value) (size : Nat) (item : Ty)
    (sized : parts.length = (List.replicate size item).length) (index : Nat) (part : Value)
    (partAt : parts[index]? = some part) :
    (List.replicate size item)[index]? = some item ∧
      (Ty.array size item).Shows declarations index := by
  have inParts := (List.getElem?_eq_some_iff.1 partAt).1
  have bound : index < size := by simpa [sized] using inParts
  exact ⟨List.getElem?_replicate_of_lt bound, shows_unnamed _ index (by simp)⟩

theorem form_kept_product (parts others : List Value) (type : Ty) (types : List Ty)
    (laid : type.parts? declarations = some types) (sized : parts.length = types.length)
    (otherSized : others.length = types.length) (regular : type.Regular declarations)
    (atoms : ∀ (index : Nat) atom, parts[index]? = some (.atom atom) →
      others[index]? = some (.atom atom))
    (filled : ∀ (index : Nat) part other inner, parts[index]? = some part →
      others[index]? = some other → types[index]? = some inner → type.Shows declarations index →
        part.Filled declarations required other inner ∧ part.FormKept declarations other inner) :
    (Value.product parts).FormKept declarations (.product others) type := by
  have sameSize : others.length = parts.length := by rw [sized, otherSized]
  cases type with
  | array size item =>
      obtain rfl : types = List.replicate size item := (Option.some.inj laid).symm
      apply form_kept_array parts others size item sameSize
      intro index part other partAt otherAt
      obtain ⟨itemAt, shows⟩ := array_item_shows parts size item sized index part partAt
      exact (filled index part other item partAt otherAt itemAt shows).2
  | tuple items =>
      obtain rfl : types = items := (Option.some.inj laid).symm
      apply form_kept_tuple parts others types sameSize
      intro index part other item partAt otherAt itemAt
      have shows : (Ty.tuple types).Shows declarations index := shows_unnamed _ index (by simp)
      exact (filled index part other item partAt otherAt itemAt shows).2
  | named name =>
      simp only [Ty.parts?] at laid
      split at laid
      · rename_i declared known
        obtain rfl := Option.some.inj laid
        apply form_kept_record parts others name declared known (regular declared known).1 sameSize
          atoms
        intro index field part other fieldAt partAt otherAt container written
        have innerAt : (declared.fields.map Field.type)[index]? = some field.type := by
          rw [List.getElem?_map, fieldAt]
          rfl
        have shows := shows_field name declared field index known fieldAt container written
        obtain ⟨partFilled, kept⟩ := filled index part other _ partAt otherAt innerAt shows
        have careful := (regular declared known).2 field (List.mem_of_getElem? fieldAt)
        exact ⟨omits_of_filled field part other careful partFilled, kept⟩
      · cases laid
  | _ => cases laid

theorem form_kept_content (wrap : Value → Value) (value other : Value) (outer content : Ty)
    (same : ∀ inner, write declarations (wrap inner) outer = write declarations inner content)
    (kept : value.FormKept declarations other content) :
    (wrap value).FormKept declarations (wrap other) outer := by
  intro form otherForm wrote otherWrote
  rw [same] at wrote otherWrote
  exact kept form otherForm wrote otherWrote

theorem written_content (wrap : Value → Value) (value other : Value) (outer content : Ty)
    (same : ∀ inner, write declarations (wrap inner) outer = write declarations inner content)
    (stays : value.IsWritten declarations content → other.IsWritten declarations content)
    (written : (wrap value).IsWritten declarations outer) :
    (wrap other).IsWritten declarations outer := by
  unfold Value.IsWritten at written stays ⊢
  rw [same] at written ⊢
  exact stays written

/-- What is filled in is written with every scalar that was written before. -/
theorem form_kept_of_filled (value other : Value) (type : Ty)
    (regular : type.Throughout declarations (Ty.Regular declarations))
    (filled : value.Filled declarations required other type) :
    value.FormKept declarations other type := by
  induction filled with
  | same value type =>
      intro form otherForm wrote otherWrote
      rw [wrote] at otherWrote
      cases otherWrote
      exact fun _ _ _ held => held
  | absent value content offered =>
      intro form otherForm wrote _ place held scalar atPlace
      simp only [write, Option.some_inj] at wrote
      subst wrote
      obtain rfl := Json.null_below place held atPlace
      cases scalar
  | present value other content inside ih =>
      apply form_kept_content Value.present value other _ content (fun _ => by simp only [write])
      exact ih (throughout_inside _ _ _ regular (.option content))
  | held value other type content holds inside ih =>
      apply form_kept_content Value.held value other type content
        (fun _ => by simp only [write, holds, Option.bind_some])
      exact ih (throughout_inside _ _ _ regular (.held type content holds))
  | product parts others type types laid sized otherSized atoms inside ih =>
      apply form_kept_product parts others type types laid sized otherSized
        (throughout_here _ _ regular) atoms
      intro index part other inner partAt otherAt innerAt shows
      have merges := merges_part type inner types laid (List.mem_of_getElem? innerAt)
      exact ⟨inside index part other inner partAt otherAt innerAt shows,
        ih index part other inner partAt otherAt innerAt shows
          (throughout_inside _ _ _ regular merges)⟩
  | map entries others keys type sorted kept inside added ih =>
      apply form_kept_map entries others keys type kept
      intro key value other found otherFound
      exact ih key value other found otherFound (throughout_inside _ _ _ regular (.map keys type))
  | dynamic document other kept =>
      intro form otherForm wrote otherWrote
      simp only [write, Option.some_inj] at wrote otherWrote
      subst wrote otherWrote
      exact kept

theorem written_map (entries others : List (String × Value)) (keys : KeyKind) (type : Ty)
    (sorted : Members.Sorted others)
    (inside : ∀ key value other, Members.find? key entries = some value →
      Members.find? key others = some other → other.IsWritten declarations type)
    (added : ∀ key other, Members.find? key entries = none → Members.find? key others = some other →
      other.IsWritten declarations type) :
    (Value.map others).IsWritten declarations (.map keys type) := by
  have each : ∀ entry ∈ others, ∃ form, write declarations entry.2 type = some form := by
    rintro ⟨key, other⟩ member
    have otherFound := Members.find_of_mem key other others sorted.nodup member
    cases found : Members.find? key entries with
    | none => exact added key other found otherFound
    | some value => exact inside key value other found otherFound
  obtain ⟨written, wrote⟩ := entries_exist others type each
  exact ⟨.object written, by simp [write, wrote]⟩

/-- What said nothing is written after it was filled in, or says nothing still. -/
theorem written_of_filled_silent (value other : Value) (type : Ty) (needed : required)
    (filled : value.Filled declarations required other type)
    (silent : value.Silent declarations type) : other.IsWritten declarations type := by
  induction filled with
  | same value type => exact writes_of_silent value type silent
  | absent value content offered => exact offered.2 needed
  | held value other type content holds inside ih =>
      obtain ⟨form, wrote⟩ := ih (silent_of_held value type content holds silent)
      exact ⟨form, by simpa only [write, holds, Option.bind_some] using wrote⟩
  | map entries others keys content sorted kept inside added =>
      cases silent
      apply written_map [] others keys content sorted
      · intro key value other found
        cases found
      · intro key other missing found
        exact (added key other missing found).2 needed
  | dynamic document other kept => exact ⟨other, by simp only [write]⟩
  | _ => cases silent

/-- A field that is written or left out is written or left out after it was filled in: what may take the
place of a field that is left out is written. -/
theorem writes_of_filled (field : Field) (part other : Value) (needed : required)
    (own : field.presence ≠ .flattened) (careful : field.Careful declarations)
    (filled : field.isWritten → part.Filled declarations required other field.type ∧
      (part.IsWritten declarations field.type → other.IsWritten declarations field.type))
    (writes : field.Writes declarations part) : field.Writes declarations other := by
  have plain (written : other.IsWritten declarations field.type) : field.Writes declarations other := by
    obtain ⟨form, wrote⟩ := written
    exact Or.inr ⟨form, wrote, fun flattened => absurd flattened own⟩
  by_cases written : field.isWritten
  · obtain ⟨inside, stays⟩ := filled written
    rcases writes with omitted | ⟨form, wrote, -⟩
    · rcases silent_or_whole field part careful written omitted with silent | whole
      · exact plain (written_of_filled_silent part other field.type needed inside silent)
      · rw [eq_of_filled_whole part other field.type inside (Or.inl whole)]
        exact Or.inl omitted
    · exact plain (stays ⟨form, wrote⟩)
  · exact Or.inl (omits_of_not_written field other (by simpa using written))

/-- What stands at the position of an item in a list of the same length. -/
theorem opposite_of_mem {α β : Type} (first : List α) (second : List β)
    (sized : second.length = first.length) (item : β) (member : item ∈ second) :
    ∃ (index : Nat) (opposite : α), first[index]? = some opposite ∧ second[index]? = some item := by
  obtain ⟨index, found⟩ := List.mem_iff_getElem?.1 member
  have bound : index < first.length := by
    have inSecond := (List.getElem?_eq_some_iff.1 found).1
    omega
  exact ⟨index, first[index], List.getElem?_eq_getElem bound, found⟩

theorem written_array (parts others : List Value) (size : Nat) (item : Ty)
    (sized : others.length = parts.length)
    (stays : ∀ (index : Nat) part other, parts[index]? = some part → others[index]? = some other →
      part.IsWritten declarations item → other.IsWritten declarations item)
    (written : (Value.product parts).IsWritten declarations (.array size item)) :
    (Value.product others).IsWritten declarations (.array size item) := by
  obtain ⟨form, wrote⟩ := written
  simp only [write, Option.map_eq_some_iff, write_items_iff] at wrote
  obtain ⟨_, partsWritten, -⟩ := wrote
  have each : ∀ other ∈ others, ∃ form, write declarations other item = some form := by
    intro other member
    obtain ⟨index, part, partAt, otherAt⟩ := opposite_of_mem parts others sized other member
    apply stays index part other partAt otherAt
    exact form_of_mem _ _ _ partsWritten part (List.mem_of_getElem? partAt)
  obtain ⟨forms, othersWritten⟩ := forms_exist (fun other => write declarations other item) others each
  have items := (write_items_iff others item forms).2 othersWritten
  exact ⟨.array forms, by simp only [write, items, Option.map_some]⟩

theorem written_tuple (parts others : List Value) (items : List Ty)
    (matched : others.length = items.length) (sized : others.length = parts.length)
    (stays : ∀ (index : Nat) part other item, parts[index]? = some part →
      others[index]? = some other → items[index]? = some item →
        part.IsWritten declarations item → other.IsWritten declarations item)
    (written : (Value.product parts).IsWritten declarations (.tuple items)) :
    (Value.product others).IsWritten declarations (.tuple items) := by
  obtain ⟨form, wrote⟩ := written
  simp only [write, Option.map_eq_some_iff, write_tuple_iff] at wrote
  obtain ⟨_, ⟨-, partsWritten⟩, -⟩ := wrote
  have each : ∀ other ∈ others.zip items,
      ∃ form, write declarations other.1 other.2 = some form := by
    rintro ⟨other, item⟩ member
    obtain ⟨index, ⟨part, _⟩, partAt, otherAt⟩ := opposite_of_mem (parts.zip items)
      (others.zip items) (by simp [sized]) (other, item) member
    obtain ⟨otherIn, itemAt⟩ := List.getElem?_zip_eq_some.1 otherAt
    obtain ⟨partIn, sameAt⟩ := List.getElem?_zip_eq_some.1 partAt
    rw [itemAt, Option.some_inj] at sameAt
    subst sameAt
    apply stays index part other item partIn otherIn itemAt
    exact form_of_mem _ _ _ partsWritten _ (List.mem_of_getElem? partAt)
  obtain ⟨forms, othersWritten⟩ := forms_exist
    (fun part : Value × Ty => write declarations part.1 part.2) (others.zip items) each
  have parts := (write_tuple_iff others items forms).2 ⟨matched, othersWritten⟩
  exact ⟨.array forms, by simp only [write, parts, Option.map_some]⟩

theorem written_record (parts others : List Value) (name : String) (declared : Record)
    (needed : required) (known : declarations name = some (.record declared))
    (regular : declared.Regular declarations) (sized : others.length = parts.length)
    (atoms : ∀ (index : Nat) atom, parts[index]? = some (.atom atom) →
      others[index]? = some (.atom atom))
    (filled : ∀ (index : Nat) field part other, declared.fields[index]? = some field →
      parts[index]? = some part → others[index]? = some other → declared.form = .container →
        field.isWritten → part.Filled declarations required other field.type ∧
          (part.IsWritten declarations field.type → other.IsWritten declarations field.type))
    (written : (Value.product parts).IsWritten declarations (.named name)) :
    (Value.product others).IsWritten declarations (.named name) := by
  cases shape : declared.form with
  | dotted =>
      rw [dotted_parts_stay parts others name declared known shape sized atoms written]
      exact written
  | container =>
      obtain ⟨form, wrote⟩ := written
      obtain ⟨partsSized, writes, -⟩ := (write_record_iff name declared parts form known shape).1 wrote
      refine ⟨_, (write_record_iff name declared others _ known shape).2
        ⟨sized.trans partsSized, ?_, rfl⟩⟩
      rintro ⟨field, other⟩ member
      obtain ⟨index, ⟨_, part⟩, partAt, otherAt⟩ := opposite_of_mem (declared.fields.zip parts)
        (declared.fields.zip others) (by simp [sized]) (field, other) member
      obtain ⟨fieldAt, otherIn⟩ := List.getElem?_zip_eq_some.1 otherAt
      obtain ⟨sameAt, partIn⟩ := List.getElem?_zip_eq_some.1 partAt
      rw [fieldAt, Option.some_inj] at sameAt
      subst sameAt
      apply writes_of_filled field part other needed
        (plain_of_separate declared regular.1 field (List.mem_of_getElem? fieldAt))
        (regular.2 field (List.mem_of_getElem? fieldAt))
      · intro shown
        exact filled index field part other fieldAt partIn otherIn shape shown
      · exact writes _ (List.mem_of_getElem? partAt)

theorem written_product (parts others : List Value) (type : Ty) (types : List Ty) (needed : required)
    (laid : type.parts? declarations = some types) (sized : parts.length = types.length)
    (otherSized : others.length = types.length) (regular : type.Regular declarations)
    (atoms : ∀ (index : Nat) atom, parts[index]? = some (.atom atom) →
      others[index]? = some (.atom atom))
    (filled : ∀ (index : Nat) part other inner, parts[index]? = some part →
      others[index]? = some other → types[index]? = some inner → type.Shows declarations index →
        part.Filled declarations required other inner ∧
          (part.IsWritten declarations inner → other.IsWritten declarations inner))
    (written : (Value.product parts).IsWritten declarations type) :
    (Value.product others).IsWritten declarations type := by
  have sameSize : others.length = parts.length := by rw [sized, otherSized]
  cases type with
  | array size item =>
      obtain rfl : types = List.replicate size item := (Option.some.inj laid).symm
      apply written_array parts others size item sameSize _ written
      intro index part other partAt otherAt
      obtain ⟨itemAt, shows⟩ := array_item_shows parts size item sized index part partAt
      exact (filled index part other item partAt otherAt itemAt shows).2
  | tuple items =>
      obtain rfl : types = items := (Option.some.inj laid).symm
      apply written_tuple parts others types otherSized sameSize _ written
      intro index part other item partAt otherAt itemAt
      have shows : (Ty.tuple types).Shows declarations index := shows_unnamed _ index (by simp)
      exact (filled index part other item partAt otherAt itemAt shows).2
  | named name =>
      simp only [Ty.parts?] at laid
      split at laid
      · rename_i declared known
        obtain rfl := Option.some.inj laid
        apply written_record parts others name declared needed known (regular declared known)
          sameSize atoms _ written
        intro index field part other fieldAt partAt otherAt container shown
        have innerAt : (declared.fields.map Field.type)[index]? = some field.type := by
          rw [List.getElem?_map, fieldAt]
          rfl
        have shows := shows_field name declared field index known fieldAt container shown
        exact filled index part other _ partAt otherAt innerAt shows
      · cases laid
  | _ => cases laid

/-- What is filled in is written if the value was and what came in is. -/
theorem written_of_filled (value other : Value) (type : Ty) (needed : required)
    (regular : type.Throughout declarations (Ty.Regular declarations))
    (filled : value.Filled declarations required other type)
    (written : value.IsWritten declarations type) : other.IsWritten declarations type := by
  induction filled with
  | same => exact written
  | absent value content offered => exact offered.2 needed
  | present value other content inside ih =>
      apply written_content Value.present value other _ content (fun _ => by simp only [write]) _ written
      exact ih (throughout_inside _ _ _ regular (.option content))
  | held value other type content holds inside ih =>
      apply written_content Value.held value other type content
        (fun _ => by simp only [write, holds, Option.bind_some]) _ written
      exact ih (throughout_inside _ _ _ regular (.held type content holds))
  | product parts others type types laid sized otherSized atoms inside ih =>
      apply written_product parts others type types needed laid sized otherSized
        (throughout_here _ _ regular) atoms _ written
      intro index part other inner partAt otherAt innerAt shows
      have merges := merges_part type inner types laid (List.mem_of_getElem? innerAt)
      exact ⟨inside index part other inner partAt otherAt innerAt shows,
        ih index part other inner partAt otherAt innerAt shows
          (throughout_inside _ _ _ regular merges)⟩
  | map entries others keys type sorted kept inside added ih =>
      obtain ⟨form, wrote⟩ := written
      simp only [write, Option.map_eq_some_iff] at wrote
      obtain ⟨members, entriesWrote, -⟩ := wrote
      apply written_map entries others keys type sorted
      · intro key value other found otherFound
        exact ih key value other found otherFound (throughout_inside _ _ _ regular (.map keys type))
          (entry_form entries type members entriesWrote _ (Members.mem_of_find _ _ _ found))
      · intro key other missing found
        exact (added key other missing found).2 needed
  | dynamic document other kept => exact ⟨other, by simp only [write]⟩

end Snapshot

end LayeredConfig
