import LayeredConfig.Proofs.Laying
import LayeredConfig.Proofs.SortedSnapshots
import Mathlib.Data.List.Nodup

/-!
# Fields of records

A record writes the fields that it does not leave out, in their order; a flattened field contributes
the members of its own object. Where no two fields share a key, the written record holds at a place
what the one field that owns it contributes, and a merged record has there the merge of two fields.
-/
set_option autoImplicit false

namespace LayeredConfig.Snapshot

def Field.isWritten (field : Field) : Bool :=
  match field.presence with
  | .readOnly | .skipped => false
  | _ => true

def Field.form? (declarations : Declarations) (field : Field) (value : Value) : Option Json :=
  if field.omits value then none else write declarations value field.type

/-- Whether the written form of a value can be laid into a record: an object can, what says nothing,
but not the `null` that stands for a number, and the name of an alternative, but no other text. -/
def Value.LaysMembers (value : Value) (form : Json) : Prop :=
  (form = .null ∧ value.isDouble = false) ∨ (∃ members, form = .object members) ∨
    ∃ chosen, form = .string chosen ∧ value.isAlone

/-- The object that is laid into a record where a name stands for an alternative. -/
def laidForm : Json → Json
  | .string chosen => .object [(chosen, .null)]
  | form => form

/-- Whether a field is left out or has a written form, which can be laid into its record if it is
flattened. -/
def Field.Writes (declarations : Declarations) (field : Field) (value : Value) : Prop :=
  field.omits value ∨ ∃ form, write declarations value field.type = some form ∧
    (field.presence = .flattened → value.LaysMembers form)

def Field.members (declarations : Declarations) (naming : Option NamingRule)
    (part : Field × Value) : List (String × Json) :=
  ((part.1.form? declarations part.2).bind (part.1.contribute naming part.2)).getD []

def Field.below? (declarations : Declarations) (naming : Option NamingRule)
    (part : Field × Value) : Hop → Option Json
  | .member key => Members.find? key (Field.members declarations naming part)
  | .item _ => part.1.form? declarations part.2

/-- For each record and key the position of the one field that may write it. -/
abbrev Owners := String → String → Option Nat

/-- A record keeps its fields apart: each writes keys that it owns, and no item is left out of some
values only. -/
def Record.Apart (declarations : Declarations) (owners : Owners) (name : String)
    (declared : Record) (parts : List Value) : Prop :=
  match declared.layout with
  | .members => ∀ (index : Nat) part, (declared.fields.zip parts)[index]? = some part →
      ∀ key ∈ Members.keys (Field.members declarations declared.keyRule part),
        owners name key = some index
  | .items => ∀ field ∈ declared.fields, field.isWritten → field.presence = .always

/-- A record of which every value keeps its fields apart: no field is flattened, the keys of members
differ, and items are written always or never. -/
def Record.Separate (declared : Record) : Prop :=
  match declared.layout with
  | .members => (∀ field ∈ declared.fields, field.presence ≠ .flattened) ∧
      ((declared.fields.filter Field.isWritten).map
        fun field => field.memberKey declared.keyRule).Nodup
  | .items => ∀ field ∈ declared.fields, field.isWritten → field.presence = .always

/-- Each key is owned by the first field that is written under it. -/
def byKey (declarations : Declarations) : Owners := fun name key =>
  match declarations name with
  | some (.record declared) => declared.fields.findIdx? fun field =>
      field.isWritten && field.memberKey declared.keyRule = key
  | _ => none

def Record.body (declarations : Declarations) (declared : Record) (parts : List Value) : Json :=
  let members := (declared.fields.zip parts).flatMap (Field.members declarations declared.keyRule)
  match declared.layout with
  | .members => .object (Members.ofList members)
  | .items => .array (members.map Prod.snd)

/-- The field that a hop from a written record leads to, among the fields with what they hold. -/
def Record.slot? {α : Type} (owners : Owners) (name : String) (declared : Record)
    (parts : List (Field × α)) (hop : Hop) : Option (Field × α) :=
  match declared.form, declared.layout, hop with
  | .container, .members, .member key => (owners name key).bind (parts[·]?)
  | .container, .items, .item index => (parts.filter fun part => part.1.isWritten)[index]?
  | _, _, _ => none

variable {declarations : Declarations}

theorem laid_form_of_lays (value : Value) (form : Json) (lays : value.LaysMembers form)
    (named : ¬ value.isAlone) : laidForm form = form := by
  rcases lays with ⟨rfl, -⟩ | ⟨members, rfl⟩ | ⟨_, -, alone⟩
  · rfl
  · rfl
  · exact absurd alone named

theorem omits_of_not_written (field : Field) (value : Value) (unwritten : field.isWritten = false) :
    field.omits value = true := by
  cases presence : field.presence <;> simp_all [Field.isWritten, Field.omits]

theorem never_omits_always (field : Field) (value : Value) (always : field.presence = .always) :
    field.omits value = false := by
  simp [Field.omits, always]

theorem form_of_omits (field : Field) (value : Value) (omitted : field.omits value) :
    field.form? declarations value = none := by
  simp [Field.form?, omitted]

theorem form_of_writes (field : Field) (value : Value) (writes : field.Writes declarations value)
    (kept : field.omits value = false) :
    ∃ form, write declarations value field.type = some form ∧
      field.form? declarations value = some form := by
  rcases writes with omitted | ⟨form, wrote, -⟩
  · rw [kept] at omitted
    cases omitted
  · exact ⟨form, wrote, by simp [Field.form?, kept, wrote]⟩

theorem written_of_kept (field : Field) (value : Value) (kept : field.omits value = false) :
    field.isWritten := by
  by_contra unwritten
  rw [omits_of_not_written field value (by simpa using unwritten)] at kept
  cases kept

theorem written_of_form (field : Field) (value : Value) (form : Json)
    (formed : field.form? declarations value = some form) :
    field.isWritten ∧ write declarations value field.type = some form := by
  unfold Field.form? at formed
  split at formed
  · cases formed
  · rename_i kept
    exact ⟨written_of_kept field value (by simpa using kept), formed⟩

theorem members_of_omits (naming : Option NamingRule) (field : Field) (value : Value)
    (omitted : field.omits value) : Field.members declarations naming (field, value) = [] := by
  simp [Field.members, form_of_omits field value omitted]

theorem members_of_own (naming : Option NamingRule) (field : Field) (value : Value)
    (own : field.presence ≠ .flattened) :
    Field.members declarations naming (field, value) =
      ((field.form? declarations value).map (field.memberKey naming, ·)).toList := by
  unfold Field.members
  cases field.form? declarations value with
  | none => rfl
  | some form => cases presence : field.presence <;> simp_all [Field.contribute]

theorem below_of_own (naming : Option NamingRule) (field : Field) (hop : Hop)
    (own : field.presence ≠ .flattened) :
    (∀ value, Field.below? declarations naming (field, value) hop = none) ∨
      ∀ value, Field.below? declarations naming (field, value) hop =
        field.form? declarations value := by
  cases hop with
  | item index => exact Or.inr fun value => rfl
  | member key =>
      simp only [Field.below?, members_of_own naming field _ own]
      by_cases same : field.memberKey naming = key
      · refine Or.inr fun value => ?_
        cases field.form? declarations value <;> simp [Members.find?, same]
      · refine Or.inl fun value => ?_
        cases field.form? declarations value <;> simp [Members.find?, same]

theorem below_of_flattened (naming : Option NamingRule) (field : Field) (value : Value)
    (form : Json) (key : String) (flattened : field.presence = .flattened)
    (wrote : write declarations value field.type = some form) (lays : value.LaysMembers form) :
    Field.below? declarations naming (field, value) (.member key) =
      Json.below? (.member key) (laidForm form) := by
  rcases lays with ⟨rfl, whole⟩ | ⟨members, rfl⟩ | ⟨chosen, rfl, alone⟩
  · simp [Field.below?, Field.members, Field.form?, Field.omits, Field.contribute, flattened, wrote,
      whole, laidForm, Json.below?, Members.find?]
  · simp [Field.below?, Field.members, Field.form?, Field.omits, Field.contribute, flattened, wrote,
      laidForm, Json.below?]
  · simp [Field.below?, Field.members, Field.form?, Field.omits, Field.contribute, flattened, wrote,
      alone, laidForm, Json.below?]

theorem form_of_flattened (field : Field) (value : Value) (flattened : field.presence = .flattened)
    (writes : field.Writes declarations value) :
    ∃ form, write declarations value field.type = some form ∧ value.LaysMembers form := by
  rcases writes with omitted | ⟨form, wrote, lays⟩
  · simp [Field.omits, flattened] at omitted
  · exact ⟨form, wrote, lays flattened⟩

theorem distinct_of_own (naming : Option NamingRule) (field : Field) (value : Value)
    (own : field.presence ≠ .flattened) :
    (Members.keys (Field.members declarations naming (field, value))).Nodup := by
  rw [members_of_own naming field value own]
  cases field.form? declarations value <;> simp [Members.keys]

theorem distinct_of_sorted (naming : Option NamingRule) (field : Field) (value : Value)
    (sorted : value.Sorted) :
    (Members.keys (Field.members declarations naming (field, value))).Nodup := by
  by_cases flattened : field.presence = .flattened
  · unfold Field.members
    cases formed : field.form? declarations value with
    | none => exact List.nodup_nil
    | some form =>
        have wrote : write declarations value field.type = some form := by
          simpa [Field.form?, Field.omits, flattened] using formed
        have formSorted := sorted_write value sorted _ form wrote
        cases form with
        | object members => simpa [Field.contribute, flattened] using formSorted.1.nodup
        | null => by_cases number : value.isDouble <;>
            simp [Field.contribute, flattened, number, Members.keys]
        | string chosen => by_cases alone : value.isAlone <;>
            simp [Field.contribute, flattened, alone, Members.keys]
        | _ => simp [Field.contribute, flattened, Members.keys]
  · exact distinct_of_own naming field value flattened

theorem owner_of_field (name : String) (declared : Record) (index : Nat) (field : Field)
    (known : declarations name = some (.record declared))
    (distinct : ((declared.fields.filter Field.isWritten).map
      fun field => field.memberKey declared.keyRule).Nodup)
    (fieldAt : declared.fields[index]? = some field) (written : field.isWritten) :
    byKey declarations name (field.memberKey declared.keyRule) = some index := by
  obtain ⟨inside, same⟩ := List.getElem?_eq_some_iff.1 fieldAt
  simp only [byKey, known]
  rw [List.findIdx?_eq_some_iff_getElem]
  refine ⟨inside, by simp [same, written], ?_⟩
  intro earlier less
  have pairs := List.pairwise_iff_getElem.1
    (List.pairwise_filter.1 (List.pairwise_map.1 distinct)) earlier index (by omega) inside less
  rw [same] at pairs
  simp only [Bool.and_eq_true, decide_eq_true_eq, not_and]
  exact fun earlierWritten => pairs earlierWritten written

theorem apart_of_separate (name : String) (declared : Record) (parts : List Value)
    (known : declarations name = some (.record declared)) (separate : declared.Separate) :
    declared.Apart declarations (byKey declarations) name parts := by
  unfold Record.Separate at separate
  unfold Record.Apart
  cases layout : declared.layout with
  | items => simpa only [layout] using separate
  | members =>
      rw [layout] at separate
      obtain ⟨plain, distinct⟩ := separate
      intro index otherHeld held key inMembers
      obtain ⟨field, value⟩ := otherHeld
      obtain ⟨fieldHeld, -⟩ := List.getElem?_zip_eq_some.1 held
      have inFields := List.mem_of_getElem? fieldHeld
      rw [members_of_own _ field value (plain field inFields)] at inMembers
      cases formed : field.form? declarations value with
      | none => simp [formed, Members.keys] at inMembers
      | some form =>
          obtain rfl : key = field.memberKey declared.keyRule := by
            simpa [formed, Members.keys] using inMembers
          exact owner_of_field name declared index field known distinct fieldHeld
            (written_of_form field value form formed).1

theorem write_fields_iff (naming : Option NamingRule) (parts : List Value) (fields : List Field)
    (members : List (String × Json)) :
    writeFields declarations naming parts fields = some members ↔
      parts.length = fields.length ∧
        (∀ part ∈ fields.zip parts, part.1.Writes declarations part.2) ∧
        (fields.zip parts).flatMap (Field.members declarations naming) = members := by
  induction fields generalizing parts members with
  | nil => cases parts <;> simp [writeFields]
  | cons field fields ih =>
      cases parts with
      | nil => simp [writeFields]
      | cons value parts =>
          simp only [writeFields, List.zip_cons_cons, List.length_cons, Nat.add_right_cancel_iff,
            List.forall_mem_cons, List.flatMap_cons]
          by_cases omitted : field.omits value
          · rw [if_pos omitted, members_of_omits naming field value omitted, ih, List.nil_append]
            simp [Field.Writes, omitted]
          · rw [if_neg omitted]
            have kept : field.omits value = false := by simpa using omitted
            cases wrote : write declarations value field.type with
            | none => simp [Field.Writes, kept, wrote]
            | some form =>
                simp only [Option.bind_some]
                cases contributed : field.contribute naming value form with
                | none =>
                    have stuck : ¬ field.Writes declarations value := by
                      intro either
                      rcases either with omitted | ⟨other, otherWrote, lays⟩
                      · simp [kept] at omitted
                      · rw [wrote] at otherWrote
                        cases otherWrote
                        by_cases flattened : field.presence = .flattened
                        · rcases lays flattened with ⟨rfl, whole⟩ | ⟨members, rfl⟩ | ⟨_, rfl, alone⟩
                          · simp [Field.contribute, flattened, whole] at contributed
                          · simp [Field.contribute, flattened] at contributed
                          · simp [Field.contribute, flattened, alone] at contributed
                        · cases presence : field.presence <;>
                            simp_all [Field.contribute]
                    simp [stuck]
                | some own =>
                    have ownMembers : Field.members declarations naming (field, value) = own := by
                      simp [Field.members, Field.form?, kept, wrote, contributed]
                    have writes : field.Writes declarations value := by
                      refine Or.inr ⟨form, wrote, ?_⟩
                      intro flattened
                      cases form with
                      | null => exact Or.inl ⟨rfl, by simp_all [Field.contribute]⟩
                      | object members => exact Or.inr (Or.inl ⟨members, rfl⟩)
                      | string chosen =>
                          exact Or.inr (Or.inr ⟨chosen, rfl, by simp_all [Field.contribute]⟩)
                      | _ => simp [Field.contribute, flattened] at contributed
                    rw [ownMembers]
                    constructor
                    · intro all
                      split at all
                      · rename_i first others same restWrote
                        cases same
                        cases all
                        obtain ⟨sizes, restWrites, rest⟩ := (ih parts others).1 restWrote
                        exact ⟨sizes, ⟨writes, restWrites⟩, by rw [rest]⟩
                      · cases all
                    · intro held
                      obtain ⟨sizes, ⟨-, restWrites⟩, rfl⟩ := held
                      rw [(ih parts _).2 ⟨sizes, restWrites, rfl⟩]

theorem write_record_iff (name : String) (declared : Record) (parts : List Value) (form : Json)
    (known : declarations name = some (.record declared))
    (container : declared.form = .container) :
    write declarations (.product parts) (.named name) = some form ↔
      parts.length = declared.fields.length ∧
        (∀ part ∈ declared.fields.zip parts, part.1.Writes declarations part.2) ∧
        declared.body declarations parts = form := by
  simp only [write, known, container, Record.body]
  cases layout : declared.layout with
  | members =>
      simp only [Option.map_eq_some_iff, write_fields_iff, and_assoc, exists_and_left,
        exists_eq_left']
  | items =>
      have rule : declared.keyRule = none := by simp [Record.keyRule, layout]
      rw [rule]
      simp only [Option.map_eq_some_iff, write_fields_iff, and_assoc, exists_and_left,
        exists_eq_left']

/-- Where every part contributes distinct keys that it owns, the members made of all parts hold at a
key what the owner of the key contributes. -/
theorem find_of_owner {α : Type} (contribution : α → List (String × Json))
    (owner : String → Option Nat) (parts : List α)
    (owned : ∀ (index : Nat) part, parts[index]? = some part →
      ∀ key ∈ Members.keys (contribution part), owner key = some index)
    (distinct : ∀ part ∈ parts, (Members.keys (contribution part)).Nodup) (key : String) :
    Members.find? key (Members.ofList (parts.flatMap contribution)) =
      ((owner key).bind (parts[·]?)).bind fun part => Members.find? key (contribution part) := by
  have allDistinct : (Members.keys (parts.flatMap contribution)).Nodup := by
    rw [Members.keys, List.map_flatMap, List.nodup_flatMap]
    refine ⟨distinct, List.pairwise_iff_getElem.2 ?_⟩
    intro first second firstInside secondInside less shared inFirst inSecond
    have firstOwns := owned first _ (List.getElem?_eq_getElem firstInside) shared inFirst
    have secondOwns := owned second _ (List.getElem?_eq_getElem secondInside) shared inSecond
    rw [firstOwns] at secondOwns
    cases secondOwns
    omega
  rw [Members.find_ofList _ _ allDistinct]
  ext value
  constructor
  · intro found
    obtain ⟨part, inParts, member⟩ := List.mem_flatMap.1 (Members.mem_of_find _ _ _ found)
    obtain ⟨index, held⟩ := List.mem_iff_getElem?.1 inParts
    have owns := owned index part held key (List.mem_map_of_mem member)
    have partFound := Members.find_of_mem _ _ _ (distinct part inParts) member
    simp [owns, held, partFound]
  · intro found
    obtain ⟨part, selected, partFound⟩ := Option.bind_eq_some_iff.1 found
    obtain ⟨index, -, held⟩ := Option.bind_eq_some_iff.1 selected
    exact Members.find_of_mem _ _ _ allDistinct (List.mem_flatMap.2
      ⟨part, List.mem_of_getElem? held, Members.mem_of_find _ _ _ partFound⟩)

/-- Where items are written always or never, the written record holds at an index what the field of
that position is written as. -/
theorem items_at (naming : Option NamingRule) (index : Nat) (parts : List (Field × Value))
    (steady : ∀ part ∈ parts, part.1.isWritten → part.1.presence = .always)
    (writes : ∀ part ∈ parts, part.1.Writes declarations part.2) :
    ((parts.flatMap (Field.members declarations naming)).map Prod.snd)[index]? =
      ((parts.filter fun part => part.1.isWritten)[index]?).bind
        fun part => part.1.form? declarations part.2 := by
  induction parts generalizing index with
  | nil => rfl
  | cons part parts ih =>
      obtain ⟨field, value⟩ := part
      obtain ⟨fieldSteady, partsSteady⟩ := List.forall_mem_cons.1 steady
      obtain ⟨fieldWrites, partsWrite⟩ := List.forall_mem_cons.1 writes
      simp only [List.flatMap_cons, List.filter_cons]
      by_cases written : field.isWritten
      · have always : field.presence = .always := fieldSteady written
        have own : field.presence ≠ .flattened := by simp [always]
        obtain ⟨form, -, wrote⟩ :=
          form_of_writes field value fieldWrites (never_omits_always field value always)
        rw [members_of_own naming field value own, wrote]
        cases index with
        | zero => simp [written, wrote]
        | succ index => simpa [written] using ih index partsSteady partsWrite
      · have unwritten : field.isWritten = false := by simpa using written
        rw [members_of_omits naming field value (omits_of_not_written field value unwritten)]
        simpa [unwritten] using ih index partsSteady partsWrite

theorem below_body (owners : Owners) (name : String) (declared : Record) (parts : List Value)
    (hop : Hop) (container : declared.form = .container)
    (apart : declared.Apart declarations owners name parts)
    (distinct : ∀ part ∈ declared.fields.zip parts,
      (Members.keys (Field.members declarations declared.keyRule part)).Nodup)
    (writes : ∀ part ∈ declared.fields.zip parts, part.1.Writes declarations part.2) :
    Json.below? hop (declared.body declarations parts) =
      (declared.slot? owners name (declared.fields.zip parts) hop).bind
        fun part => Field.below? declarations declared.keyRule part hop := by
  unfold Record.Apart at apart
  unfold Record.body Record.slot?
  rw [container]
  cases layout : declared.layout with
  | members =>
      rw [layout] at apart
      cases hop with
      | item index => rfl
      | member key =>
          exact find_of_owner _ (owners name) _ apart distinct key
  | items =>
      rw [layout] at apart
      cases hop with
      | member key => rfl
      | item index =>
          exact items_at _ _ _ (fun part member => apart _ (List.of_mem_zip member).1) writes

theorem body_eq_of_leaf (declared : Record) (strong merged : List Value)
    (leaf : (declared.body declarations merged).isLeaf)
    (stays : ∀ hop, Json.below? hop (declared.body declarations merged) = none →
      Json.below? hop (declared.body declarations strong) = none) :
    declared.body declarations strong = declared.body declarations merged := by
  unfold Record.body at *
  cases layout : declared.layout with
  | members =>
      rw [layout] at leaf stays
      exact Json.object_eq_of_leaf _ _ leaf stays
  | items =>
      rw [layout] at leaf stays
      exact Json.array_eq_of_leaf _ _ leaf stays

theorem body_eq_of_forms (declared : Record) (parts others : List Value)
    (own : ∀ field ∈ declared.fields, field.presence ≠ .flattened)
    (sized : parts.length = others.length)
    (same : ∀ (index : Nat) field part other, declared.fields[index]? = some field →
      parts[index]? = some part → others[index]? = some other →
        field.form? declarations part = field.form? declarations other) :
    declared.body declarations parts = declared.body declarations others := by
  have each : (declared.fields.zip parts).map (Field.members declarations declared.keyRule) =
      (declared.fields.zip others).map (Field.members declarations declared.keyRule) := by
    apply List.ext_getElem (by simp [sized])
    intro index inside otherInside
    simp only [List.length_map, List.length_zip, Nat.lt_min] at inside otherInside
    simp only [List.getElem_map, List.getElem_zip]
    have plain := own declared.fields[index] (List.getElem_mem inside.1)
    have forms := same index _ _ _ (List.getElem?_eq_getElem inside.1)
      (List.getElem?_eq_getElem inside.2) (List.getElem?_eq_getElem otherInside.2)
    rw [members_of_own _ _ _ plain, members_of_own _ _ _ plain, forms]
  simp only [Record.body, List.flatMap_def, each]

section

variable {α β : Type} (owners : Owners) (name : String) (declared : Record) (hop : Hop)

theorem mem_of_slot (parts : List (Field × α)) (part : Field × α)
    (found : declared.slot? owners name parts hop = some part) : part ∈ parts := by
  unfold Record.slot? at found
  split at found
  · obtain ⟨index, -, held⟩ := Option.bind_eq_some_iff.1 found
    exact List.mem_of_getElem? held
  · exact (List.mem_filter.1 (List.mem_of_getElem? found)).1
  · cases found

theorem key_of_flattened (parts : List Value) (part : Field × Value)
    (apart : declared.Apart declarations owners name parts)
    (found : declared.slot? owners name (declared.fields.zip parts) hop = some part)
    (flattened : part.1.presence = .flattened) : ∃ key, hop = .member key := by
  unfold Record.Apart at apart
  unfold Record.slot? at found
  split at found
  · exact ⟨_, rfl⟩
  · rename_i layout
    rw [layout] at apart
    obtain ⟨member, written⟩ := List.mem_filter.1 (List.mem_of_getElem? found)
    have always := apart part.1 (List.of_mem_zip member).1 written
    rw [flattened] at always
    cases always
  · cases found

theorem slot_map (parts : List (Field × α)) (value : α → β) :
    declared.slot? owners name (parts.map fun part => (part.1, value part.2)) hop =
      (declared.slot? owners name parts hop).map fun part => (part.1, value part.2) := by
  unfold Record.slot?
  split
  · cases owners name _ <;> simp
  · rw [List.filter_map, List.getElem?_map]
    rfl
  · rfl

end

theorem zip_merge (fields : List Field) (strong weak : List Value)
    (strongSize : strong.length = fields.length) (weakSize : weak.length = fields.length) :
    ∃ both : List (Field × Value × Value),
      fields.zip strong = both.map (fun part => (part.1, part.2.1)) ∧
      fields.zip weak = both.map (fun part => (part.1, part.2.2)) ∧
      fields.zip (Value.mergeParts strong weak) =
        both.map fun part => (part.1, part.2.1.merge part.2.2) := by
  induction fields generalizing strong weak with
  | nil => exact ⟨[], rfl, rfl, rfl⟩
  | cons field fields ih =>
      cases strong with
      | nil => cases strongSize
      | cons part strong =>
          cases weak with
          | nil => cases weakSize
          | cons other weak =>
              obtain ⟨both, strongSame, weakSame, mergedSame⟩ :=
                ih strong weak (by simpa using strongSize) (by simpa using weakSize)
              exact ⟨(field, part, other) :: both, by simp [strongSame], by simp [weakSame],
                by simp [Value.mergeParts, mergedSame]⟩

theorem mem_zip_merge (fields : List Field) (strong weak : List Value)
    (strongSize : strong.length = fields.length) (weakSize : weak.length = fields.length)
    (field : Field) (merged : Value)
    (member : (field, merged) ∈ fields.zip (Value.mergeParts strong weak)) :
    ∃ part other, (field, part) ∈ fields.zip strong ∧ (field, other) ∈ fields.zip weak ∧
      merged = part.merge other := by
  obtain ⟨both, strongSame, weakSame, mergedSame⟩ := zip_merge fields strong weak strongSize weakSize
  rw [mergedSame] at member
  obtain ⟨⟨_, part, other⟩, inBoth, same⟩ := List.mem_map.1 member
  cases same
  exact ⟨part, other, strongSame ▸ List.mem_map_of_mem inBoth,
    weakSame ▸ List.mem_map_of_mem inBoth, rfl⟩

theorem apart_merge (owners : Owners) (name : String) (declared : Record)
    (strong weak : List Value) (strongSize : strong.length = declared.fields.length)
    (weakSize : weak.length = declared.fields.length)
    (strongApart : declared.Apart declarations owners name strong)
    (weakApart : declared.Apart declarations owners name weak)
    (adds : ∀ field part other, (field, part) ∈ declared.fields.zip strong →
      (field, other) ∈ declared.fields.zip weak →
      ∀ key ∈ Members.keys (Field.members declarations declared.keyRule (field, part.merge other)),
        key ∈ Members.keys (Field.members declarations declared.keyRule (field, part)) ∨
          key ∈ Members.keys (Field.members declarations declared.keyRule (field, other))) :
    declared.Apart declarations owners name (Value.mergeParts strong weak) := by
  unfold Record.Apart at *
  cases layout : declared.layout with
  | items =>
      rw [layout] at strongApart
      exact strongApart
  | members =>
      rw [layout] at strongApart weakApart
      obtain ⟨both, strongSame, weakSame, mergedSame⟩ :=
        zip_merge declared.fields strong weak strongSize weakSize
      rw [mergedSame]
      intro index merged held key inMerged
      obtain ⟨⟨field, part, other⟩, found, rfl⟩ := Option.map_eq_some_iff.1
        (List.getElem?_map.symm.trans held)
      have strongAt : (declared.fields.zip strong)[index]? = some (field, part) := by
        rw [strongSame, List.getElem?_map, found]
        rfl
      have weakAt : (declared.fields.zip weak)[index]? = some (field, other) := by
        rw [weakSame, List.getElem?_map, found]
        rfl
      rcases adds field part other (List.mem_of_getElem? strongAt) (List.mem_of_getElem? weakAt) key
        inMerged with inStrong | inWeak
      · exact strongApart index _ strongAt key inStrong
      · exact weakApart index _ weakAt key inWeak

theorem slot_merge (owners : Owners) (name : String) (declared : Record) (hop : Hop)
    (strong weak : List Value) (strongSize : strong.length = declared.fields.length)
    (weakSize : weak.length = declared.fields.length) :
    (declared.slot? owners name (declared.fields.zip strong) hop = none ∧
      declared.slot? owners name (declared.fields.zip weak) hop = none ∧
      declared.slot? owners name (declared.fields.zip (Value.mergeParts strong weak)) hop = none) ∨
    ∃ field part other, (field, part) ∈ declared.fields.zip strong ∧
      (field, other) ∈ declared.fields.zip weak ∧
      declared.slot? owners name (declared.fields.zip strong) hop = some (field, part) ∧
      declared.slot? owners name (declared.fields.zip weak) hop = some (field, other) ∧
      declared.slot? owners name (declared.fields.zip (Value.mergeParts strong weak)) hop =
        some (field, part.merge other) := by
  obtain ⟨both, strongSame, weakSame, mergedSame⟩ :=
    zip_merge declared.fields strong weak strongSize weakSize
  rw [strongSame, weakSame, mergedSame]
  rw [slot_map owners name declared hop both Prod.fst, slot_map owners name declared hop both Prod.snd,
    slot_map owners name declared hop both fun values => values.1.merge values.2]
  cases selected : declared.slot? owners name both hop with
  | none => exact Or.inl ⟨rfl, rfl, rfl⟩
  | some parts =>
      have member := mem_of_slot owners name declared hop both parts selected
      exact Or.inr ⟨parts.1, parts.2.1, parts.2.2, List.mem_map_of_mem member,
        List.mem_map_of_mem member, rfl, rfl, rfl⟩

end LayeredConfig.Snapshot
