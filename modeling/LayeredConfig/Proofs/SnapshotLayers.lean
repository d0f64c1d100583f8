import LayeredConfig.Proofs.DocumentLayers
import LayeredConfig.Proofs.LeftOut

/-!
# Layers of snapshots

An unset option, a missing key of a map and a `null` of a dynamic document leave a place open. Lists,
alternatives, replaced values and scalars settle every place below them, whatever they are written
as: a `null` inside of them does not inherit.
-/
set_option autoImplicit false

namespace LayeredConfig.Snapshot

open Json (Laid reach? at? below?)

/-- A part that merges inside a value, each with its type. A field that is left out is no part. -/
inductive Value.Part (declarations : Declarations) : Value → Ty → Value → Ty → Prop
  | present (value : Value) (content : Ty) :
      Part declarations (.present value) (.option content) value content
  | held (value : Value) (type content : Ty) (holds : type.held? declarations = some content) :
      Part declarations (.held value) type value content
  | entry (entries : List (String × Value)) (keys : KeyKind) (type : Ty) (entry : String × Value)
      (member : entry ∈ entries) : Part declarations (.map entries) (.map keys type) entry.2 type
  | arrayItem (parts : List Value) (size : Nat) (item : Ty) (part : Value)
      (member : part ∈ parts) : Part declarations (.product parts) (.array size item) part item
  | tupleItem (parts : List Value) (items : List Ty) (part : Value × Ty)
      (member : part ∈ parts.zip items) :
      Part declarations (.product parts) (.tuple items) part.1 part.2
  | field (parts : List Value) (name : String) (declared : Record) (part : Field × Value)
      (known : declarations name = some (.record declared))
      (member : part ∈ declared.fields.zip parts) (kept : part.1.omits part.2 = false) :
      Part declarations (.product parts) (.named name) part.2 part.1.type

/-- A record keeps its fields apart, and is careful about what they leave out. Nothing is asked of
other values. -/
def Value.KeepsApart (declarations : Declarations) (owners : Owners) : Value → Ty → Prop
  | .product parts, .named name => ∀ declared, declarations name = some (.record declared) →
      declared.Apart declarations owners name parts ∧
        ∀ field ∈ declared.fields, field.Careful declarations
  | _, _ => True

/-- Every record that merges inside a value, itself included, keeps its fields apart. -/
inductive Value.Placed (declarations : Declarations) (owners : Owners) : Value → Ty → Prop
  | intro (value : Value) (type : Ty) (apart : value.KeepsApart declarations owners type)
      (inside : ∀ part inner, value.Part declarations type part inner →
        Placed declarations owners part inner) : Placed declarations owners value type

/-- A value with sorted maps of which the records keep their fields apart. -/
structure Value.Regular (declarations : Declarations) (owners : Owners) (value : Value) (type : Ty) :
    Prop where
  sorted : value.Sorted
  placed : value.Placed declarations owners type

/-- A record of which every value keeps its fields apart, and that is careful about what they leave
out. -/
def Record.Regular (declarations : Declarations) (declared : Record) : Prop :=
  declared.Separate ∧ ∀ field ∈ declared.fields, field.Careful declarations

/-- A record type is regular as its declaration is; nothing is asked of other types. -/
def Ty.Regular (declarations : Declarations) : Ty → Prop
  | .named name => ∀ declared, declarations name = some (.record declared) →
      declared.Regular declarations
  | _ => True

/-- The place inside a field, of a place that leads from its record to the field. -/
def Field.placeIn (field : Field) (hop : Hop) (rest : List Hop) : List Hop :=
  match field.presence with
  | .flattened => hop :: rest
  | _ => rest

/-- A value of a type leaves a place of its written form open to weaker layers. -/
inductive Value.Open (declarations : Declarations) (owners : Owners) :
    List Hop → Value → Ty → Prop
  | absent (place : List Hop) (type : Ty) : Open declarations owners place .absent type
  | present (place : List Hop) (value : Value) (content : Ty)
      (inside : Open declarations owners place value content) :
      Open declarations owners place (.present value) (.option content)
  | held (place : List Hop) (value : Value) (type content : Ty)
      (holds : type.held? declarations = some content)
      (inside : Open declarations owners place value content) :
      Open declarations owners place (.held value) type
  | missing (key : String) (rest : List Hop) (entries : List (String × Value)) (keys : KeyKind)
      (type : Ty) (missing : Members.find? key entries = none) :
      Open declarations owners (.member key :: rest) (.map entries) (.map keys type)
  | entry (key : String) (rest : List Hop) (entries : List (String × Value)) (keys : KeyKind)
      (type : Ty) (value : Value) (found : Members.find? key entries = some value)
      (inside : Open declarations owners rest value type) :
      Open declarations owners (.member key :: rest) (.map entries) (.map keys type)
  | arrayItem (index : Nat) (rest : List Hop) (parts : List Value) (size : Nat) (item : Ty)
      (part : Value) (found : parts[index]? = some part)
      (inside : Open declarations owners rest part item) :
      Open declarations owners (.item index :: rest) (.product parts) (.array size item)
  | tupleItem (index : Nat) (rest : List Hop) (parts : List Value) (items : List Ty)
      (part : Value × Ty) (found : (parts.zip items)[index]? = some part)
      (inside : Open declarations owners rest part.1 part.2) :
      Open declarations owners (.item index :: rest) (.product parts) (.tuple items)
  | unwritten (hop : Hop) (rest : List Hop) (parts : List Value) (name : String)
      (declared : Record) (part : Field × Value)
      (known : declarations name = some (.record declared))
      (found : declared.slot? owners name (declared.fields.zip parts) hop = some part)
      (unwritten : part.1.Hushes declarations part.2) :
      Open declarations owners (hop :: rest) (.product parts) (.named name)
  | field (hop : Hop) (rest : List Hop) (parts : List Value) (name : String)
      (declared : Record) (part : Field × Value)
      (known : declarations name = some (.record declared))
      (found : declared.slot? owners name (declared.fields.zip parts) hop = some part)
      (inside : Open declarations owners (part.1.placeIn hop rest) part.2 part.1.type) :
      Open declarations owners (hop :: rest) (.product parts) (.named name)
  | dynamic (place : List Hop) (document : Json) (opened : document.opens place) :
      Open declarations owners place (.dynamic document) .json

/-- Whether a field's part of a value leaves a place open that leads from the record to the field. -/
def Field.Open (declarations : Declarations) (owners : Owners) (field : Field) (part : Value)
    (hop : Hop) (rest : List Hop) : Prop :=
  field.Hushes declarations part ∨
    part.Open declarations owners (field.placeIn hop rest) field.type

variable {declarations : Declarations} {owners : Owners}

theorem placed_part (value part : Value) (type inner : Ty)
    (placed : value.Placed declarations owners type)
    (inside : value.Part declarations type part inner) : part.Placed declarations owners inner := by
  cases placed with
  | intro _ _ _ parts => exact parts part inner inside

theorem placed_apart (value : Value) (type : Ty) (placed : value.Placed declarations owners type) :
    value.KeepsApart declarations owners type := by
  cases placed with
  | intro _ _ apart _ => exact apart

theorem sorted_part (value part : Value) (type inner : Ty) (sorted : value.Sorted)
    (inside : value.Part declarations type part inner) : part.Sorted := by
  cases inside with
  | present value content => cases sorted with | present _ inside => exact inside
  | held value type content => cases sorted with | held _ inside => exact inside
  | entry entries keys type entry member =>
      cases sorted with | map _ _ inside => exact inside entry member
  | arrayItem parts size item part member =>
      cases sorted with | product _ inside => exact inside _ member
  | tupleItem parts items part member =>
      cases sorted with | product _ inside => exact inside _ (List.of_mem_zip member).1
  | field parts name declared part known member kept =>
      cases sorted with | product _ inside => exact inside _ (List.of_mem_zip member).2

theorem regular_part (value part : Value) (type inner : Ty)
    (regular : value.Regular declarations owners type)
    (inside : value.Part declarations type part inner) :
    part.Regular declarations owners inner where
  sorted := sorted_part value part type inner regular.sorted inside
  placed := placed_part value part type inner regular.placed inside

theorem keeps_apart_of_regular (value : Value) (type : Ty)
    (regular : type.Regular declarations) :
    value.KeepsApart declarations (byKey declarations) type := by
  cases value with
  | product parts =>
      cases type with
      | named name =>
          intro declared known
          obtain ⟨separate, careful⟩ := regular declared known
          exact ⟨apart_of_separate name declared parts known separate, careful⟩
      | _ => trivial
  | _ => trivial

theorem placed_of_regular (value : Value) (type : Ty)
    (regular : type.Throughout declarations (Ty.Regular declarations)) :
    value.Placed declarations (byKey declarations) type := by
  have apart (value : Value) (type : Ty)
      (regular : type.Throughout declarations (Ty.Regular declarations)) :=
    keeps_apart_of_regular value type (throughout_here _ _ regular)
  induction value using Value.induct generalizing type with
  | present value ih =>
      refine .intro _ _ (apart _ type regular) ?_
      intro part inner inside
      cases inside
      exact ih inner (throughout_inside _ _ _ regular (.option inner))
  | held value ih =>
      refine .intro _ _ (apart _ type regular) ?_
      intro part inner inside
      cases inside with
      | held _ _ _ holds => exact ih inner (throughout_inside _ _ _ regular (.held type inner holds))
  | product parts ih =>
      refine .intro _ _ (apart _ type regular) ?_
      intro part inner inside
      cases inside with
      | arrayItem _ size _ _ member =>
          exact ih part member inner (throughout_inside _ _ _ regular (.array size inner))
      | tupleItem _ items both member =>
          obtain ⟨inParts, inItems⟩ := List.of_mem_zip member
          exact ih both.1 inParts both.2 (throughout_inside _ _ _ regular (.tuple items _ inItems))
      | field _ name declared both known member _ =>
          obtain ⟨inFields, inParts⟩ := List.of_mem_zip member
          exact ih both.2 inParts _
            (throughout_inside _ _ _ regular (.field name declared both.1 known inFields))
  | map entries ih =>
      refine .intro _ _ (apart _ type regular) ?_
      intro part inner inside
      cases inside with
      | entry _ keys _ entry member =>
          exact ih entry member inner (throughout_inside _ _ _ regular (.map keys inner))
  | _ =>
      refine .intro _ _ (apart _ type regular) ?_
      intro part inner inside
      cases inside

theorem open_present_iff (place : List Hop) (value : Value) (content : Ty) :
    (Value.present value).Open declarations owners place (.option content) ↔
      value.Open declarations owners place content := by
  constructor
  · intro opened
    cases opened with | present _ _ _ inside => exact inside
  · exact .present place value content

theorem open_held_iff (place : List Hop) (value : Value) (type content : Ty)
    (holds : type.held? declarations = some content) :
    (Value.held value).Open declarations owners place type ↔
      value.Open declarations owners place content := by
  constructor
  · intro opened
    cases opened with
    | held _ _ _ other otherHolds inside =>
        rw [holds] at otherHolds
        cases otherHolds
        exact inside
  · exact .held place value type content holds

theorem open_entry_iff (key : String) (rest : List Hop) (entries : List (String × Value))
    (keys : KeyKind) (type : Ty) :
    (Value.map entries).Open declarations owners (.member key :: rest) (.map keys type) ↔
      (Members.find? key entries).elim True fun value =>
        value.Open declarations owners rest type := by
  constructor
  · intro opened
    cases opened with
    | missing _ _ _ _ _ missing =>
        rw [missing]
        trivial
    | entry _ _ _ _ _ value found inside =>
        rw [found]
        exact inside
  · intro opened
    cases found : Members.find? key entries with
    | none => exact .missing key rest entries keys type found
    | some value =>
        rw [found] at opened
        exact .entry key rest entries keys type value found opened

theorem open_array_item_iff (index : Nat) (rest : List Hop) (parts : List Value) (size : Nat)
    (item : Ty) :
    (Value.product parts).Open declarations owners (.item index :: rest) (.array size item) ↔
      parts[index]?.elim False fun part => part.Open declarations owners rest item := by
  constructor
  · intro opened
    cases opened with
    | arrayItem _ _ _ _ _ part found inside =>
        rw [found]
        exact inside
  · intro opened
    cases found : parts[index]? with
    | none => simp [found] at opened
    | some part =>
        rw [found] at opened
        exact .arrayItem index rest parts size item part found opened

theorem open_tuple_item_iff (index : Nat) (rest : List Hop) (parts : List Value)
    (items : List Ty) :
    (Value.product parts).Open declarations owners (.item index :: rest) (.tuple items) ↔
      (parts.zip items)[index]?.elim False fun part =>
        part.1.Open declarations owners rest part.2 := by
  constructor
  · intro opened
    cases opened with
    | tupleItem _ _ _ _ part found inside =>
        rw [found]
        exact inside
  · intro opened
    cases found : (parts.zip items)[index]? with
    | none => simp [found] at opened
    | some part =>
        rw [found] at opened
        exact .tupleItem index rest parts items part found opened

theorem open_field_iff (hop : Hop) (rest : List Hop) (parts : List Value) (name : String)
    (declared : Record) (known : declarations name = some (.record declared)) :
    (Value.product parts).Open declarations owners (hop :: rest) (.named name) ↔
      (declared.slot? owners name (declared.fields.zip parts) hop).elim False fun part =>
        part.1.Open declarations owners part.2 hop rest := by
  constructor
  · intro opened
    cases opened with
    | unwritten _ _ _ _ other part otherKnown found unwritten =>
        rw [known] at otherKnown
        cases otherKnown
        rw [found]
        exact Or.inl unwritten
    | field _ _ _ _ other part otherKnown found inside =>
        rw [known] at otherKnown
        cases otherKnown
        rw [found]
        exact Or.inr inside
  · intro opened
    cases found : declared.slot? owners name (declared.fields.zip parts) hop with
    | none => simp [found] at opened
    | some part =>
        rw [found] at opened
        rcases opened with unwritten | inside
        · exact .unwritten hop rest parts name declared part known found unwritten
        · exact .field hop rest parts name declared part known found inside

theorem not_open_product_root (parts : List Value) (type : Ty) :
    ¬ (Value.product parts).Open declarations owners [] type := by
  intro opened
  cases opened

theorem open_dynamic_iff (place : List Hop) (document : Json) :
    (Value.dynamic document).Open declarations owners place .json ↔ document.opens place := by
  constructor
  · intro opened
    cases opened with | dynamic _ _ opened => exact opened
  · exact .dynamic place document

theorem below_record (name : String) (declared : Record) (parts : List Value) (form : Json)
    (hop : Hop) (known : declarations name = some (.record declared))
    (container : declared.form = .container)
    (regular : (Value.product parts).Regular declarations owners (.named name))
    (wrote : write declarations (.product parts) (.named name) = some form) :
    below? hop form = (declared.slot? owners name (declared.fields.zip parts) hop).bind
      fun part => Field.below? declarations declared.keyRule part hop := by
  obtain ⟨-, writes, rfl⟩ := (write_record_iff name declared parts form known container).1 wrote
  apply below_body owners name declared parts hop container
    (placed_apart _ _ regular.placed declared known).1 ?_ writes
  intro part member
  cases regular.sorted with
  | product _ inside =>
      exact distinct_of_sorted _ part.1 part.2 (inside _ (List.of_mem_zip member).2)

theorem hop_of_slot (declared : Record) (name : String) (parts : List (Field × Value))
    (values : List Value) (hop otherHop : Hop) (part : Field × Value) (below : Json)
    (found : declared.slot? owners name parts hop = some part) (agrees : hop.Agrees otherHop)
    (down : below? otherHop (declared.body declarations values) = some below) :
    declared.form = .container ∧ hop = otherHop := by
  unfold Record.slot? at found
  unfold Record.body at down
  split at found <;> cases layout : declared.layout <;> cases otherHop <;>
    simp_all [below?, Hop.Agrees]

theorem not_open_of_alone (place : List Hop) (value : Value) (type : Ty) (alone : value.isAlone) :
    ¬ value.Open declarations owners place type := by
  intro opened
  induction opened with
  | present _ _ _ _ ih => exact ih alone
  | held _ _ _ _ _ _ ih => exact ih alone
  | _ => simp [Value.isAlone] at alone

/-- What is written at a place of a record is at a place of the field on the way, unless a name stands
there for an alternative. -/
theorem field_of_held (name : String) (declared : Record) (parts : List Value)
    (form held : Json) (hop otherHop : Hop) (rest others : List Hop) (part : Field × Value)
    (known : declarations name = some (.record declared))
    (regular : (Value.product parts).Regular declarations owners (.named name))
    (wrote : write declarations (.product parts) (.named name) = some form)
    (found : declared.slot? owners name (declared.fields.zip parts) hop = some part)
    (agrees : List.Forall₂ Hop.Agrees (hop :: rest) (otherHop :: others))
    (reached : at? (otherHop :: others) form = some held) :
    part.1.omits part.2 = false ∧ (¬ part.2.isAlone → ∃ own place,
      write declarations part.2 part.1.type = some own ∧
        List.Forall₂ Hop.Agrees (part.1.placeIn hop rest) place ∧ at? place own = some held) := by
  obtain ⟨head, tail⟩ := List.forall₂_cons.1 agrees
  obtain ⟨below, down, heldBelow⟩ := Option.bind_eq_some_iff.1 reached
  have container : declared.form = .container := by
    by_contra other
    cases form : declared.form <;> simp_all [Record.slot?]
  obtain ⟨-, writes, rfl⟩ := (write_record_iff name declared parts form known container).1 wrote
  obtain ⟨-, rfl⟩ := hop_of_slot declared name _ parts hop otherHop part below found head down
  rw [below_record name declared parts _ hop known container regular wrote, found] at down
  obtain ⟨field, value⟩ := part
  have inside := mem_of_slot owners name declared hop _ _ found
  by_cases flattened : field.presence = .flattened
  · obtain ⟨form, own, lays⟩ := form_of_flattened field value flattened (writes _ inside)
    refine ⟨by simp [Field.omits, flattened], fun named => ⟨form, hop :: others, own, ?_, ?_⟩⟩
    · simpa [Field.placeIn, flattened] using agrees
    · obtain ⟨key, rfl⟩ := key_of_flattened owners name declared hop parts (field, value)
        (placed_apart _ _ regular.placed declared known).1 found flattened
      rw [Option.bind_some, below_of_flattened _ field value form key flattened own lays,
        laid_form_of_lays value form lays named] at down
      rw [Json.at_cons, down]
      exact heldBelow
  · have placeIn : field.placeIn hop rest = rest := by
      cases presence : field.presence <;> simp_all [Field.placeIn]
    have held : field.form? declarations value = some below := by
      rcases below_of_own declared.keyRule field hop flattened with nothing | same
      · rw [Option.bind_some, nothing value] at down
        cases down
      · rwa [Option.bind_some, same value] at down
    unfold Field.form? at held
    split at held
    · cases held
    · rename_i kept
      exact ⟨by simpa using kept, fun _ => ⟨below, others, held, placeIn.symm ▸ tail, heldBelow⟩⟩

/-- A value that leaves a place open is written with no value there, nor where another reading of the
same path leads. -/
theorem null_of_open (place other : List Hop) (value : Value) (type : Ty) (form held : Json)
    (regular : value.Regular declarations owners type)
    (agrees : List.Forall₂ Hop.Agrees place other)
    (opened : value.Open declarations owners place type)
    (wrote : write declarations value type = some form) (reached : at? other form = some held) :
    held = .null := by
  -- The induction goes down the way on which the place is found open; the other reading of the path
  -- goes the same way, or ends where no container of its kind is written.
  induction opened generalizing other form with
  | absent place type =>
      cases type <;> simp only [write, reduceCtorEq, Option.some.injEq] at wrote
      subst wrote
      exact Json.null_below other held reached
  | present place value content _ ih =>
      simp only [write] at wrote
      exact ih other form (regular_part _ _ _ _ regular (.present value content)) agrees wrote reached
  | held place value type content holds _ ih =>
      simp only [write, holds, Option.bind_some] at wrote
      exact ih other form (regular_part _ _ _ _ regular (.held value type content holds)) agrees wrote
        reached
  | missing key rest entries keys type missing =>
      simp only [write, Option.map_eq_some_iff] at wrote
      obtain ⟨members, wroteEntries, rfl⟩ := wrote
      obtain ⟨others, below, down, -⟩ := Json.at_object key rest other members held agrees reached
      simp [find_entries entries type members wroteEntries, missing] at down
  | entry key rest entries keys type value found _ ih =>
      simp only [write, Option.map_eq_some_iff] at wrote
      obtain ⟨members, wroteEntries, rfl⟩ := wrote
      obtain ⟨others, below, down, tail, heldBelow⟩ :=
        Json.at_object key rest other members held agrees reached
      rw [find_entries entries type members wroteEntries, found, Option.bind_some] at down
      have inside : Value.Part declarations (.map entries) (.map keys type) value type :=
        .entry entries keys type (key, value) (Members.mem_of_find _ _ _ found)
      exact ih others below (regular_part _ _ _ _ regular inside) tail down heldBelow
  | arrayItem index rest parts size item part found _ ih =>
      simp only [write, Option.map_eq_some_iff, write_items_iff] at wrote
      obtain ⟨items, wroteItems, rfl⟩ := wrote
      obtain ⟨others, below, down, tail, heldBelow⟩ :=
        Json.at_array index rest other items held agrees reached
      rw [forms_at _ _ _ wroteItems, found, Option.bind_some] at down
      have inside : Value.Part declarations (.product parts) (.array size item) part item :=
        .arrayItem parts size item part (List.mem_of_getElem? found)
      exact ih others below (regular_part _ _ _ _ regular inside) tail down heldBelow
  | tupleItem index rest parts types part found _ ih =>
      simp only [write, Option.map_eq_some_iff, write_tuple_iff] at wrote
      obtain ⟨items, ⟨-, wroteItems⟩, rfl⟩ := wrote
      obtain ⟨others, below, down, tail, heldBelow⟩ :=
        Json.at_array index rest other items held agrees reached
      rw [forms_at _ _ _ wroteItems, found, Option.bind_some] at down
      have inside : Value.Part declarations (.product parts) (.tuple types) part.1 part.2 :=
        .tupleItem parts types part (List.mem_of_getElem? found)
      exact ih others below (regular_part _ _ _ _ regular inside) tail down heldBelow
  | unwritten hop rest parts name declared part known found unwritten =>
      cases agrees with
      | @cons _ otherHop _ others head tail =>
          obtain ⟨kept, -⟩ := field_of_held name declared parts form held hop otherHop rest others
            part known regular wrote found (.cons head tail) reached
          exact absurd unwritten (not_hushed_of_kept part.1 part.2 kept)
  | field hop rest parts name declared part known found opened ih =>
      cases agrees with
      | @cons _ otherHop _ others head tail =>
          obtain ⟨kept, inField⟩ := field_of_held name declared parts form held hop otherHop rest others
            part known regular wrote found (.cons head tail) reached
          obtain ⟨own, place, ownWrote, placeAgrees, ownHeld⟩ :=
            inField fun alone => not_open_of_alone _ part.2 part.1.type alone opened
          have inside : Value.Part declarations (.product parts) (.named name) part.2 part.1.type :=
            .field parts name declared part known (mem_of_slot _ _ _ _ _ _ found) kept
          exact ih place own (regular_part _ _ _ _ regular inside) placeAgrees ownWrote ownHeld
  | dynamic place document opened =>
      simp only [write, Option.some.injEq] at wrote
      subst wrote
      exact Json.null_of_opens place other document held agrees opened reached

theorem open_silent (place : List Hop) (value : Value) (type : Ty) (form held : Json)
    (regular : value.Regular declarations owners type)
    (opened : value.Open declarations owners place type)
    (wrote : write declarations value type = some form)
    (reached : reach? place (some form) = some held) : held = .null :=
  null_of_open place place value type form held regular (place_agrees_refl place) opened
    wrote reached

end LayeredConfig.Snapshot
