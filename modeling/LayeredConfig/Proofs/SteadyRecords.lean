import LayeredConfig.Proofs.Reading
import LayeredConfig.Proofs.Records
import LayeredConfig.Proofs.Typing

/-!
# Steady records

A steady record writes each of its fields under a key of its own, and what it leaves out is left out
again after it was read. Its fields are read from the members that they were written as.
-/
set_option autoImplicit false

namespace LayeredConfig.Snapshot

/-- A field that is written, or left out, as it was before it was read. A test that leaves it out holds of
what a missing member is read as, and of nothing that is read from a written member. -/
def Field.Steady (declarations : Declarations) (declared : Record) (field : Field) : Prop :=
  match field.presence with
  | .always => True
  | .sometimes skips =>
      (∀ missing, declared.readMember [] field = some missing → skips missing) ∧
        ∀ part form found, part.HasType declarations field.type → skips part = false →
          write declarations part field.type = some form →
          read declarations form field.type = some found → skips found = false
  | .readOnly | .skipped | .flattened => False

/-- A record that is read as it is written, all of its fields under keys of their own. -/
structure Record.Steady (declarations : Declarations) (declared : Record) : Prop where
  container : declared.form = .container
  fields : ∀ field ∈ declared.fields, field.Steady declarations declared
  separate : declared.Separate

variable {declarations : Declarations}

theorem plain_of_steady (declared : Record) (field : Field)
    (steady : field.Steady declarations declared) :
    field.isWritten ∧ field.presence ≠ .flattened ∧ field.presence ≠ .skipped := by
  cases presence : field.presence <;> simp_all [Field.Steady, Field.isWritten]

theorem steady_of_always (declared : Record) (container : declared.form = .container)
    (always : ∀ field ∈ declared.fields, field.presence = .always)
    (distinct : (declared.fields.map fun field => field.memberKey declared.keyRule).Nodup) :
    declared.Steady declarations := by
  refine ⟨container, fun field member => by simp [Field.Steady, always field member], ?_⟩
  unfold Record.Separate
  cases declared.layout with
  | items => exact fun field member _ => always field member
  | members =>
      refine ⟨fun field member => by simp [always field member], ?_⟩
      exact distinct.sublist (List.filter_sublist.map _)

/-- An optional field that is left out while it is unset is steady, if nothing that it may hold is written
as `null`. -/
theorem steady_of_unset (declared : Record) (field : Field) (content : Ty)
    (presence : field.presence = .sometimes Value.isUnset) (type : field.type = .option content)
    (blank : declared.defaulted → field.blank = .absent)
    (said : ∀ value, write declarations value content ≠ some .null) :
    field.Steady declarations declared := by
  simp only [Field.Steady, presence]
  constructor
  · intro missing found
    obtain rfl : missing = .absent := by
      simp only [Record.readMember, presence, Members.find?, type, Ty.missing?] at found
      split at found
      · rename_i defaulted
        exact (Option.some.inj found).symm.trans (blank defaulted)
      · exact (Option.some.inj found).symm
    rfl
  · intro part form found typed kept wrote reads
    rw [type] at typed wrote reads
    rcases typed_option part content typed with rfl | ⟨inner, rfl, -⟩
    · cases kept
    · simp only [write] at wrote
      have speaks : form.isNull = false := by
        cases form <;> first | rfl | exact absurd wrote (said inner)
      rw [read_option, speaks, if_neg (by simp)] at reads
      obtain ⟨value, -, rfl⟩ := Option.map_eq_some_iff.1 reads
      rfl

section

variable (name : String) (declared : Record) (parts : List Value)
  (known : declarations name = some (.record declared)) (steady : declared.Steady declarations)
  (writes : ∀ part ∈ declared.fields.zip parts, part.1.Writes declarations part.2)

include known steady writes

theorem find_body (layout : declared.layout = .members) (members : List (String × Json))
    (body : declared.body declarations parts = .object members) (key : String) :
    Members.find? key members =
      ((byKey declarations name key).bind ((declared.fields.zip parts)[·]?)).bind fun part =>
        if part.1.memberKey declared.keyRule = key then part.1.form? declarations part.2
        else none := by
  have apart := apart_of_separate name declared parts known steady.separate
  have plain (part : Field × Value) (member : part ∈ declared.fields.zip parts) :
      part.1.presence ≠ .flattened :=
    (plain_of_steady declared part.1 (steady.fields _ (List.of_mem_zip member).1)).2.1
  have below := below_body (byKey declarations) name declared parts (.member key) steady.container apart
    (fun part member => distinct_of_own _ part.1 part.2 (plain part member)) writes
  rw [body] at below
  simp only [Json.below?, Record.slot?, steady.container, layout] at below
  rw [below]
  apply Option.bind_congr
  intro part selected
  obtain ⟨index, -, held⟩ := Option.bind_eq_some_iff.1 selected
  simp only [Field.below?, members_of_own _ part.1 part.2 (plain part (List.mem_of_getElem? held))]
  cases part.1.form? declarations part.2 with
  | none => simp [Members.find?]
  | some form => simp [Members.find?]

theorem find_of_field (layout : declared.layout = .members) (members : List (String × Json))
    (body : declared.body declarations parts = .object members) (index : Nat) (field : Field)
    (part : Value) (fieldAt : declared.fields[index]? = some field)
    (partAt : parts[index]? = some part) :
    Members.find? (field.memberKey declared.keyRule) members = field.form? declarations part := by
  have separate := steady.separate
  simp only [Record.Separate, layout] at separate
  have written := (plain_of_steady declared field
    (steady.fields field (List.mem_of_getElem? fieldAt))).1
  have both : (declared.fields.zip parts)[index]? = some (field, part) :=
    List.getElem?_zip_eq_some.2 ⟨fieldAt, partAt⟩
  rw [find_body name declared parts known steady writes layout members body,
    owner_of_field name declared index field known separate.2 fieldAt written]
  simp [both]

theorem field_of_find (layout : declared.layout = .members) (members : List (String × Json))
    (body : declared.body declarations parts = .object members) (key : String) (form : Json)
    (held : Members.find? key members = some form) :
    ∃ (index : Nat) (field : Field) (part : Value), declared.fields[index]? = some field ∧
      parts[index]? = some part ∧ field.memberKey declared.keyRule = key ∧
        field.form? declarations part = some form := by
  rw [find_body name declared parts known steady writes layout members body] at held
  obtain ⟨⟨field, part⟩, selected, formed⟩ := Option.bind_eq_some_iff.1 held
  obtain ⟨index, -, both⟩ := Option.bind_eq_some_iff.1 selected
  obtain ⟨fieldAt, partAt⟩ := List.getElem?_zip_eq_some.1 both
  split at formed
  · rename_i same
    exact ⟨index, field, part, fieldAt, partAt, same, formed⟩
  · cases formed

omit known in
theorem item_of_field (layout : declared.layout = .items) (items : List Json)
    (body : declared.body declarations parts = .array items)
    (sized : parts.length = declared.fields.length) :
    items.length = declared.fields.length ∧ ∀ (index : Nat) field part,
      declared.fields[index]? = some field → parts[index]? = some part →
        items[index]? = field.form? declarations part := by
  have separate := steady.separate
  simp only [Record.Separate, layout] at separate
  obtain rfl : _ = items := by simpa [Record.body, layout] using body
  have whole : ((declared.fields.zip parts).filter fun part => part.1.isWritten) =
      declared.fields.zip parts := by
    rw [List.filter_eq_self]
    intro part member
    exact (plain_of_steady declared part.1 (steady.fields _ (List.of_mem_zip member).1)).1
  have places (index : Nat) := items_at declared.keyRule index (declared.fields.zip parts)
    (fun part member => separate _ (List.of_mem_zip member).1) writes
  rw [whole] at places
  have each (index : Nat) (field : Field) (part : Value)
      (fieldAt : declared.fields[index]? = some field) (partAt : parts[index]? = some part) :
      (((declared.fields.zip parts).flatMap
        (Field.members declarations declared.keyRule)).map Prod.snd)[index]? =
          field.form? declarations part := by
    have both : (declared.fields.zip parts)[index]? = some (field, part) :=
      List.getElem?_zip_eq_some.2 ⟨fieldAt, partAt⟩
    rw [places, both, Option.bind_some]
  refine ⟨Nat.le_antisymm ?_ (Nat.le_of_not_lt fun short => ?_), each⟩
  · rw [← List.getElem?_eq_none_iff, places]
    simp [sized]
  · obtain ⟨field, fieldAt⟩ : ∃ field, declared.fields[_]? = some field :=
      ⟨_, List.getElem?_eq_getElem short⟩
    obtain ⟨part, partAt⟩ : ∃ part, parts[_]? = some part :=
      ⟨_, List.getElem?_eq_getElem (sized.symm ▸ short)⟩
    have both : (field, part) ∈ declared.fields.zip parts :=
      List.mem_of_getElem? (List.getElem?_zip_eq_some.2 ⟨fieldAt, partAt⟩)
    have inFields := List.mem_of_getElem? fieldAt
    have always := separate field inFields (plain_of_steady declared _ (steady.fields _ inFields)).1
    obtain ⟨form, -, formed⟩ := form_of_writes field part (writes _ both)
      (never_omits_always field part always)
    have there := each _ field part fieldAt partAt
    rw [formed] at there
    simp at there

end

theorem read_member_eq (declared : Record) (field : Field) (members : List (String × Json))
    (steady : field.Steady declarations declared) :
    declared.readMember (memberReaders declarations members) field =
      (Members.find? (field.memberKey declared.keyRule) members).elim (declared.readMember [] field)
        fun form => read declarations form field.type := by
  have kept := (plain_of_steady declared field steady).2.2
  unfold Record.readMember
  rw [find_reader]
  cases presence : field.presence with
  | skipped => exact absurd presence kept
  | _ => cases Members.find? (field.memberKey declared.keyRule) members <;> rfl

theorem read_record_members (name : String) (declared : Record) (members : List (String × Json))
    (found : Value) (known : declarations name = some (.record declared))
    (steady : declared.Steady declarations) (layout : declared.layout = .members)
    (reads : read declarations (.object members) (.named name) = some found) :
    ∃ values, found = .product values ∧ values.length = declared.fields.length ∧
      ∀ (index : Nat) field value, declared.fields[index]? = some field →
        values[index]? = some value →
          declared.readMember (memberReaders declarations members) field = some value := by
  simp only [read, Level.read, Level.readIn, Level.readNamed, known, Record.read, steady.container,
    layout, Option.map_eq_some_iff] at reads
  obtain ⟨values, each, rfl⟩ := reads
  refine ⟨values, rfl, read_members_at declared _ _ declared.fields values ?_ each⟩
  intro field member
  exact (plain_of_steady declared field (steady.fields field member)).2.1

theorem read_record_items (name : String) (declared : Record) (items : List Json)
    (found : Value) (known : declarations name = some (.record declared))
    (steady : declared.Steady declarations) (layout : declared.layout = .items)
    (sized : items.length = declared.fields.length)
    (reads : read declarations (.array items) (.named name) = some found) :
    ∃ values, found = .product values ∧ values.length = declared.fields.length ∧
      ∀ (index : Nat) field item value, declared.fields[index]? = some field →
        items[index]? = some item → values[index]? = some value →
          read declarations item field.type = some value := by
  simp only [read, Level.read, Level.readIn, Level.readNamed, known, Record.read, steady.container,
    item_readers_eq, Option.map_eq_some_iff] at reads
  obtain ⟨values, each, rfl⟩ := reads
  have separate := steady.separate
  simp only [Record.Separate, layout] at separate
  split at each
  · cases each
  · refine ⟨values, rfl, read_items_at declared declared.fields items values ?_ sized each⟩
    intro field member
    exact separate field member (plain_of_steady declared field (steady.fields field member)).1

/-- What a steady field was written as, or that it was left out, is what it is written as again. -/
theorem form_again (declared : Record) (field : Field) (part value : Value)
    (steady : field.Steady declarations declared) (typed : part.HasType declarations field.type)
    (writes : field.Writes declarations part)
    (returns : ∀ form found, write declarations part field.type = some form →
      read declarations form field.type = some found →
        write declarations found field.type = some form)
    (reads : (field.form? declarations part).elim (declared.readMember [] field)
      (fun form => read declarations form field.type) = some value) :
    field.Writes declarations value ∧
      field.form? declarations value = field.form? declarations part := by
  have plain := plain_of_steady declared field steady
  cases omitted : field.omits part with
  | true =>
      rw [form_of_omits field part omitted] at reads ⊢
      have omittedAgain : field.omits value := by
        cases presence : field.presence with
        | sometimes skips =>
            simp only [Field.Steady, presence] at steady
            simpa [Field.omits, presence] using steady.1 value reads
        | _ => simp_all [Field.omits]
      exact ⟨Or.inl omittedAgain, form_of_omits field value omittedAgain⟩
  | false =>
      obtain ⟨form, wrote, formed⟩ := form_of_writes field part writes omitted
      rw [formed] at reads ⊢
      have again := returns form value wrote reads
      have kept : field.omits value = false := by
        cases presence : field.presence with
        | sometimes skips =>
            simp only [Field.Steady, presence] at steady
            simp only [Field.omits, presence] at omitted ⊢
            exact steady.2 part form value typed omitted wrote reads
        | _ => simp_all [Field.omits]
      exact ⟨Or.inr ⟨form, again, fun flattened => absurd flattened plain.2.1⟩, by
        simp [Field.form?, kept, again]⟩

end LayeredConfig.Snapshot
