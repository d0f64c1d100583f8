import LayeredConfig.Proofs.SteadyRecords
import LayeredConfig.Proofs.Typing

/-!
# Written, read and written again

What is read from the written form of a value is written as that form again, provided that the records
inside are steady and that enumerations show the name of the chosen alternative around what it holds.
Reading may fail, since a number that is not finite is written as `null`.
-/
set_option autoImplicit false

namespace LayeredConfig.Snapshot

/-- Values of the outer type hold values of the inner one. -/
inductive Ty.Holds (declarations : Declarations) : Ty → Ty → Prop
  | merges (outer inner : Ty) (merges : outer.Merges declarations inner) :
      Holds declarations outer inner
  | replaced (content : Ty) : Holds declarations (.replaced content) content
  | sequence (item : Ty) : Holds declarations (.sequence item) item
  | alternative (name : String) (alternatives : List Alternative) (blank : Value)
      (tagging : Tagging) (chosen : Alternative)
      (known : declarations name = some (.enumeration alternatives blank tagging))
      (member : chosen ∈ alternatives) : Holds declarations (.named name) chosen.contents.type

/-- A declared type is steady when its record is, or when its alternatives are named from outside. -/
def Declaration.Steady (declarations : Declarations) : Declaration → Prop
  | .record declared => declared.Steady declarations
  | .enumeration _ _ tagging => tagging = .external
  | .newtype _ => True

/-- Everything declared inside a type is steady. -/
def Ty.Steady (declarations : Declarations) (type : Ty) : Prop :=
  ∀ name declared, Relation.ReflTransGen (Ty.Holds declarations) type (.named name) →
    declarations name = some declared → declared.Steady declarations

variable {declarations : Declarations}

theorem steady_inside (outer inner : Ty) (steady : outer.Steady declarations)
    (holds : outer.Holds declarations inner) : inner.Steady declarations :=
  fun name declared path => steady name declared (Relation.ReflTransGen.head holds path)

theorem steady_here (name : String) (declared : Declaration)
    (steady : (Ty.named name).Steady declarations) (known : declarations name = some declared) :
    declared.Steady declarations :=
  steady name declared Relation.ReflTransGen.refl known

theorem steady_of_inside (type : Ty)
    (here : ∀ name declared, type = .named name → declarations name = some declared →
      declared.Steady declarations)
    (inside : ∀ inner, type.Holds declarations inner → inner.Steady declarations) :
    type.Steady declarations := by
  intro name declared path known
  rcases Relation.ReflTransGen.cases_head path with rfl | ⟨next, holds, rest⟩
  · exact here name declared rfl known
  · exact inside next holds name declared rest known

theorem steady_scalar (kind : Scalar) : (Ty.scalar kind).Steady declarations := by
  refine steady_of_inside _ (fun _ _ same => by cases same) ?_
  intro inner holds
  cases holds with
  | merges _ _ merges => cases merges with | held _ _ content => cases content

theorem steady_option (content : Ty) (inside : content.Steady declarations) :
    (Ty.option content).Steady declarations := by
  refine steady_of_inside _ (fun _ _ same => by cases same) ?_
  intro inner holds
  cases holds with
  | merges _ _ merges =>
      cases merges with
      | option => exact inside
      | held _ _ other => cases other

theorem steady_map (keys : KeyKind) (content : Ty) (inside : content.Steady declarations) :
    (Ty.map keys content).Steady declarations := by
  refine steady_of_inside _ (fun _ _ same => by cases same) ?_
  intro inner holds
  cases holds with
  | merges _ _ merges =>
      cases merges with
      | map => exact inside
      | held _ _ other => cases other

theorem steady_record (name : String) (declared : Record)
    (known : declarations name = some (.record declared)) (steady : declared.Steady declarations)
    (inside : ∀ field ∈ declared.fields, field.type.Steady declarations) :
    (Ty.named name).Steady declarations := by
  apply steady_of_inside
  · intro other _ same otherKnown
    cases same
    cases known.symm.trans otherKnown
    exact steady
  · intro inner holds
    cases holds with
    | merges _ _ merges =>
        cases merges with
        | held _ _ content => simp [Ty.held?, known] at content
        | field _ _ field otherKnown member =>
            cases known.symm.trans otherKnown
            exact inside field member
    | alternative _ _ _ _ _ otherKnown => simp [known] at otherKnown

/-- Writing a value, reading it and writing it again changes nothing. -/
def Value.Returns (declarations : Declarations) (value : Value) (type : Ty) : Prop :=
  ∀ form found, write declarations value type = some form →
    read declarations form type = some found → write declarations found type = some form

/-- Reading what a record wrote reads each field from what it was written as, in both layouts, or as
missing where it was left out. -/
theorem fields_read_back (name : String) (declared : Record) (parts : List Value) (form : Json)
    (found : Value) (known : declarations name = some (.record declared))
    (steady : declared.Steady declarations)
    (wrote : write declarations (.product parts) (.named name) = some form)
    (reads : read declarations form (.named name) = some found) :
    ∃ values, found = .product values ∧ values.length = declared.fields.length ∧
      ∀ (index : Nat) field part value, declared.fields[index]? = some field →
        parts[index]? = some part → values[index]? = some value →
          (field.form? declarations part).elim (declared.readMember [] field)
            (fun form => read declarations form field.type) = some value := by
  obtain ⟨sizes, writes, body⟩ :=
    (write_record_iff name declared parts form known steady.container).1 wrote
  cases layout : declared.layout with
  | members =>
      obtain ⟨members, rfl⟩ : ∃ members, form = .object members := by
        exact ⟨_, by simpa [Record.body, layout] using body.symm⟩
      obtain ⟨values, rfl, valueSizes, readers⟩ :=
        read_record_members name declared members found known steady layout reads
      refine ⟨values, rfl, valueSizes, ?_⟩
      intro index field part value fieldAt partAt valueAt
      have held := find_of_field name declared parts known steady writes layout members body index
        field part fieldAt partAt
      have reader := read_member_eq declared field members
        (steady.fields field (List.mem_of_getElem? fieldAt))
      rw [held] at reader
      rw [← reader]
      exact readers index field value fieldAt valueAt
  | items =>
      obtain ⟨items, rfl⟩ : ∃ items, form = .array items := by
        exact ⟨_, by simpa [Record.body, layout] using body.symm⟩
      obtain ⟨sized, each⟩ := item_of_field declared parts steady writes layout items body sizes
      obtain ⟨values, rfl, valueSizes, readers⟩ :=
        read_record_items name declared items found known steady layout sized reads
      refine ⟨values, rfl, valueSizes, ?_⟩
      intro index field part value fieldAt partAt valueAt
      have inside : index < items.length := by
        have bound := (List.getElem?_eq_some_iff.1 fieldAt).1
        omega
      have itemAt := List.getElem?_eq_getElem inside
      have formed := (each index field part fieldAt partAt).symm.trans itemAt
      rw [formed]
      exact readers index field _ value fieldAt itemAt valueAt

theorem record_returns (name : String) (declared : Record) (parts : List Value)
    (known : declarations name = some (.record declared)) (steady : declared.Steady declarations)
    (typed : ∀ part ∈ declared.fields.zip parts, part.2.HasType declarations part.1.type)
    (inside : ∀ part ∈ declared.fields.zip parts, part.2.Returns declarations part.1.type) :
    (Value.product parts).Returns declarations (.named name) := by
  intro form found wrote reads
  obtain ⟨sizes, writes, body⟩ :=
    (write_record_iff name declared parts form known steady.container).1 wrote
  obtain ⟨values, rfl, valueSizes, readers⟩ :=
    fields_read_back name declared parts form found known steady wrote reads
  have again (index : Nat) (field : Field) (part value : Value)
      (fieldAt : declared.fields[index]? = some field) (partAt : parts[index]? = some part)
      (valueAt : values[index]? = some value) :
      field.Writes declarations value ∧
        field.form? declarations value = field.form? declarations part := by
    have both : (field, part) ∈ declared.fields.zip parts :=
      List.mem_of_getElem? (List.getElem?_zip_eq_some.2 ⟨fieldAt, partAt⟩)
    exact form_again declared field part value
      (steady.fields field (List.mem_of_getElem? fieldAt)) (typed _ both) (writes _ both)
      (inside _ both) (readers index field part value fieldAt partAt valueAt)
  refine (write_record_iff name declared values form known steady.container).2 ⟨valueSizes, ?_, ?_⟩
  · rintro ⟨field, value⟩ member
    obtain ⟨index, both⟩ := List.mem_iff_getElem?.1 member
    obtain ⟨fieldAt, valueAt⟩ := List.getElem?_zip_eq_some.1 both
    have bound := (List.getElem?_eq_some_iff.1 fieldAt).1
    have partAt := List.getElem?_eq_getElem (l := parts) (i := index) (by omega)
    exact (again index field _ value fieldAt partAt valueAt).1
  · rw [← body]
    exact body_eq_of_forms declared values parts
      (fun field member => (plain_of_steady declared field (steady.fields field member)).2.1)
      (by omega) fun index field part value fieldAt valueAt partAt =>
        (again index field value part fieldAt partAt valueAt).2

theorem read_int_eq (range : IntRange) (document : Json) (value : Nat)
    (reads : readInt range (read declarations document) = some value) :
    ∃ integer : Int, document = .ofInt integer ∧ range.contains integer ∧ value = integer.toNat := by
  unfold readInt at reads
  split at reads
  · rename_i integer found
    obtain rfl : integer.toNat = value := Option.some.inj reads
    cases document with
    | number number =>
        cases number with
        | int held =>
            simp only [read, Level.read, Level.readIn, Scalar.ofRange, Scalar.read] at found
            split at found
            · rename_i inside
              obtain rfl : held = integer := by simpa using found
              exact ⟨held, rfl, inside, rfl⟩
            · cases found
        | double held => cases found
    | _ => cases found
  · cases reads

theorem nonnegative_of_unsigned (bits : Nat) (value : Int)
    (inside : (IntRange.unsigned bits).contains value) : 0 ≤ value := by
  simp only [IntRange.contains, IntRange.unsigned, Bool.and_eq_true] at inside
  exact of_decide_eq_true inside.1

theorem read_duration_members (readers : List (String × Reader)) (atom : Atom)
    (scalar : Scalar.duration.read (.members readers) = some atom) :
    ∃ seconds nanoseconds, readers = [("nanos", nanoseconds), ("secs", seconds)] ∧
      readDuration seconds nanoseconds = some atom := by
  unfold Scalar.read at scalar
  split at scalar <;> try contradiction
  rename_i nanoseconds seconds _ same
  cases same
  exact ⟨seconds, nanoseconds, rfl, scalar⟩

theorem read_duration_object (members : List (String × Json)) (found : Value)
    (reads : read declarations (.object members) (.scalar .duration) = some found) :
    ∃ seconds nanoseconds : Int,
      members = [("nanos", .ofInt nanoseconds), ("secs", .ofInt seconds)] ∧
      0 ≤ seconds ∧ 0 ≤ nanoseconds ∧
      found = .atom (.duration (seconds.toNat + nanoseconds.toNat / nanosPerSecond)
        (nanoseconds.toNat % nanosPerSecond)) := by
  simp only [read, Level.read, Level.readIn, Option.map_eq_some_iff] at reads
  obtain ⟨atom, scalar, rfl⟩ := reads
  obtain ⟨secondReader, nanosecondReader, same, both⟩ := read_duration_members _ atom scalar
  obtain _ | ⟨⟨first, nanos⟩, _ | ⟨⟨second, secs⟩, _ | ⟨_, _⟩⟩⟩ := members
  case cons.cons.nil =>
    simp only [memberReaders, List.cons.injEq, Prod.mk.injEq, and_true] at same
    obtain ⟨⟨rfl, rfl⟩, rfl, rfl⟩ := same
    unfold readDuration at both
    split at both
    · rename_i seconds nanoseconds secondsRead nanosecondsRead
      obtain ⟨whole, rfl, wholeInside, rfl⟩ := read_int_eq _ secs seconds secondsRead
      obtain ⟨part, rfl, partInside, rfl⟩ := read_int_eq _ nanos nanoseconds nanosecondsRead
      refine ⟨whole, part, rfl, nonnegative_of_unsigned 64 whole wholeInside,
        nonnegative_of_unsigned 32 part partInside, ?_⟩
      simp only [carryDuration] at both
      split at both
      · exact congrArg Value.atom (Option.some.inj both).symm
      · cases both
    · cases both
  all_goals cases same

/-- A floating point number is written as itself, or as `null` when it is not finite. -/
theorem double_of_written (kind : Scalar) (number : Double) (form : Json)
    (wrote : write declarations (.atom (.double number)) (.scalar kind) = some form) :
    number.isFinite = true ∧ form = .number (.double number) ∨
      number.isFinite = false ∧ form = .null := by
  have shown : (if number.isFinite then .number (.double number) else .null : Json) = form := by
    cases kind with
    | double | single => simpa [write, Scalar.write] using wrote
    | _ => simp [write, Scalar.write] at wrote
  cases finite : number.isFinite with
  | true => exact Or.inl ⟨rfl, by simpa [finite] using shown.symm⟩
  | false => exact Or.inr ⟨rfl, by simpa [finite] using shown.symm⟩

theorem duration_returns (seconds nanoseconds : Nat)
    (holds : Scalar.duration.Holds (.duration seconds nanoseconds)) :
    (Value.atom (.duration seconds nanoseconds)).Returns declarations (.scalar .duration) := by
  intro form found wrote reads
  cases wrote
  obtain ⟨first, second, same, -, -, rfl⟩ := read_duration_object _ found reads
  obtain ⟨nanos, secs⟩ : (nanoseconds : Int) = second ∧ (seconds : Int) = first := by
    simpa [Json.ofInt] using same
  subst nanos secs
  -- What is held is below a second, so reading carries nothing.
  have whole : nanoseconds / nanosPerSecond = 0 := Nat.div_eq_of_lt holds.2
  have part : nanoseconds % nanosPerSecond = nanoseconds := Nat.mod_eq_of_lt holds.2
  simp [write, Scalar.write, whole, part]

theorem int_returns (range written : IntRange) (value : Int) :
    (Value.atom (.int value)).Returns declarations (.scalar (.int range written)) := by
  intro form found wrote reads
  simp only [write, Scalar.write] at wrote
  split at wrote
  · rename_i inside
    cases wrote
    simp only [read, Level.read, Level.readIn, Json.ofInt, Scalar.read] at reads
    split at reads
    · cases reads
      simp [write, Scalar.write, inside]
    · cases reads
  · cases wrote

theorem scalar_returns (kind : Scalar) (value : Atom) (holds : kind.Holds value) :
    (Value.atom value).Returns declarations (.scalar kind) := by
  cases kind with
  | duration =>
      cases value with
      | duration seconds nanoseconds => exact duration_returns seconds nanoseconds holds
      | _ => cases holds
  | int range written =>
      cases value with
      | int value => exact int_returns range written value
      | _ => cases holds
  | unit | bool | text =>
      intro form found wrote reads
      cases value <;> try cases holds
      cases wrote
      cases reads
      rfl
  | char =>
      cases value with
      | text value =>
          intro form found wrote reads
          cases wrote
          simp only [read, Level.read, Level.readIn, Scalar.read] at reads
          split at reads
          · cases reads
            rfl
          · cases reads
      | _ => cases holds
  | double =>
      cases value with
      | double value =>
          intro form found wrote reads
          obtain ⟨-, rfl⟩ | ⟨-, rfl⟩ := double_of_written .double value form wrote
          · cases reads
            exact wrote
          · cases reads
      | _ => cases holds
  | single =>
      cases value with
      | double value =>
          intro form found wrote reads
          obtain ⟨finite, rfl⟩ | ⟨-, rfl⟩ := double_of_written .single value form wrote
          · have rounded : value.toSingle = value := holds finite
            simp only [read, Level.read, Level.readIn, Scalar.read, rounded] at reads
            cases reads
            exact wrote
          · cases reads
      | _ => cases holds

theorem back_of_each {α β γ : Type} (there : α → β → Prop) (back : β → γ → Prop)
    (again : γ → β → Prop) (values : List α) (forms : List β) (others : List γ)
    (written : List.Forall₂ there values forms) (found : List.Forall₂ back forms others)
    (each : ∀ value ∈ values, ∀ form other, there value form → back form other → again other form) :
    List.Forall₂ again others forms := by
  induction written generalizing others with
  | nil =>
      cases found
      exact List.Forall₂.nil
  | cons head tail ih =>
      obtain ⟨here, later⟩ := List.forall_mem_cons.1 each
      cases found with
      | cons first rest => exact List.Forall₂.cons (here _ _ head first) (ih _ rest later)

theorem sequence_returns (items : List Value) (item : Ty)
    (inside : ∀ value ∈ items, value.Returns declarations item) :
    (Value.sequence items).Returns declarations (.sequence item) := by
  intro form found wrote reads
  simp only [write] at wrote
  obtain ⟨forms, itemsWrote, rfl⟩ := Option.map_eq_some_iff.1 wrote
  obtain ⟨values, rfl, itemsRead⟩ := read_sequence forms item found reads
  have again := back_of_each _ _ (fun value form => write declarations value item = some form)
    items forms values ((write_items_iff items item forms).1 itemsWrote) itemsRead
    (fun value member form other => inside value member form other)
  simp only [write, (write_items_iff values item forms).2 again, Option.map_some]

theorem map_returns (entries : List (String × Value)) (keys : KeyKind) (type : Ty)
    (inside : ∀ entry ∈ entries, entry.2.Returns declarations type) :
    (Value.map entries).Returns declarations (.map keys type) := by
  intro form found wrote reads
  simp only [write] at wrote
  obtain ⟨members, entriesWrote, rfl⟩ := Option.map_eq_some_iff.1 wrote
  simp only [read, Level.read, Level.readIn, Node.members?, Option.bind_some] at reads
  obtain ⟨values, membersRead, rfl⟩ := Option.map_eq_some_iff.1 reads
  have related := ((read_entries_eq keys type members values).1 membersRead).2
  have again := back_of_each _ _ (fun entry member => entry.1 = member.1 ∧
      write declarations entry.2 type = some member.2) entries members values
    ((write_entries_iff entries type members).1 entriesWrote) related
    (fun entry member form other wrote back =>
      ⟨back.1.symm, inside entry member form.2 other.2 wrote.2 back.2⟩)
  simp only [write, (write_entries_iff values type members).2 again, Option.map_some]

section

variable (content : Value) (name : String) (alternatives : List Alternative) (blank : Value)
  (chosen : Alternative)
  (known : declarations name = some (.enumeration alternatives blank .external))
  (same : (alternatives.find? fun other => other.name = chosen.name) = some chosen)

include known same

theorem write_held_variant (holds : chosen.contents ≠ .nothing) :
    write declarations (.variant chosen.name content) (.named name) =
      (write declarations content chosen.contents.type).map fun form =>
        .object [(chosen.name, form)] := by
  obtain ⟨label, contents⟩ := chosen
  simp only [write, known, same, Option.map_eq_bind]
  cases contents with
  | nothing => exact absurd rfl holds
  | value type => rfl
  | fields type => rfl

theorem read_held_variant (holds : chosen.contents ≠ .nothing) (form : Json) (found : Value)
    (reads : read declarations (.object [(chosen.name, form)]) (.named name) = some found) :
    ∃ value, read declarations form chosen.contents.type = some value ∧
      found = .variant chosen.name value := by
  obtain ⟨label, contents⟩ := chosen
  simp only [read, Level.read, Level.readIn, Level.readNamed, known, memberReaders, readAlternative,
    same] at reads
  cases contents with
  | nothing => exact absurd rfl holds
  | value type =>
      obtain ⟨value, contentRead, rfl⟩ := Option.map_eq_some_iff.1 reads
      exact ⟨value, contentRead, rfl⟩
  | fields type =>
      simp only at reads
      split at reads
      · obtain ⟨value, contentRead, rfl⟩ := Option.map_eq_some_iff.1 reads
        exact ⟨value, contentRead, rfl⟩
      · cases reads

theorem variant_returns (inside : content.Returns declarations chosen.contents.type) :
    (Value.variant chosen.name content).Returns declarations (.named name) := by
  intro form found wrote reads
  by_cases holds : chosen.contents = .nothing
  · obtain ⟨label, contents⟩ := chosen
    obtain rfl : contents = .nothing := holds
    simp only [write, known, same] at wrote
    cases wrote
    simp only [Tagging.writeAlone, read, Level.read, Level.readIn, Level.readNamed, known,
      readAlternative, same, Option.some.injEq] at reads
    subst reads
    simp only [write, known, same]
  · rw [write_held_variant content name alternatives blank chosen known same holds] at wrote
    obtain ⟨below, contentWrote, rfl⟩ := Option.map_eq_some_iff.1 wrote
    obtain ⟨value, contentRead, rfl⟩ :=
      read_held_variant name alternatives blank chosen known same holds below found reads
    rw [write_held_variant value name alternatives blank chosen known same holds,
      inside below value contentWrote contentRead]
    rfl

end

theorem tuple_returns (parts values : List Value) (types : List Ty) (forms : List Json)
    (inside : ∀ part ∈ parts.zip types, part.1.Returns declarations part.2)
    (wrote : writeTuple declarations parts types = some forms)
    (reads : readTuple (forms.map (read declarations)) types = some values) :
    writeTuple declarations values types = some forms := by
  induction types generalizing parts values forms with
  | nil =>
      cases parts <;> simp only [writeTuple, Option.some.injEq, reduceCtorEq] at wrote
      subst wrote
      simp only [List.map_nil, readTuple, Option.some.injEq] at reads
      subst reads
      simp only [writeTuple]
  | cons type types ih =>
      cases parts with
      | nil => simp [writeTuple] at wrote
      | cons part parts =>
          obtain ⟨here, later⟩ := List.forall_mem_cons.1 inside
          simp only [writeTuple] at wrote
          split at wrote
          · rename_i form rest formWrote restWrote
            cases wrote
            simp only [List.map_cons, readTuple] at reads
            split at reads
            · rename_i value others first restReads
              cases reads
              have again := here form value formWrote first
              have restAgain := ih parts others rest later restWrote restReads
              simp only [writeTuple, again, restAgain]
            · cases reads
          · cases wrote

theorem write_array_eq (parts : List Value) (item : Ty) (size : Nat) (sized : parts.length = size) :
    write declarations (.product parts) (.array size item) =
      write declarations (.product parts) (.tuple (List.replicate size item)) := by
  have same : writeItems declarations parts item =
      writeTuple declarations parts (List.replicate parts.length item) := by
    clear sized
    induction parts with
    | nil => simp only [writeItems, List.length_nil, List.replicate_zero, writeTuple]
    | cons part parts ih =>
        simp only [writeItems, List.length_cons, List.replicate_succ, writeTuple, ih]
  subst sized
  simp only [write, same]

theorem read_array_eq (document : Json) (size : Nat) (item : Ty) :
    read declarations document (.array size item) =
      read declarations document (.tuple (List.replicate size item)) := by
  cases document <;> rfl

theorem length_of_read_tuple (forms : List Json) (types : List Ty) (values : List Value)
    (reads : readTuple (forms.map (read declarations)) types = some values) :
    values.length = types.length := by
  obtain ⟨sizes, each⟩ := (read_tuple_eq forms types values).1 reads
  rw [← each.length_eq, List.length_zip]
  omega

theorem read_tuple_array (forms : List Json) (items : List Ty) (found : Value)
    (reads : read declarations (.array forms) (.tuple items) = some found) :
    ∃ values, readTuple (forms.map (read declarations)) items = some values ∧
      found = .product values := by
  simp only [read, Level.read, Level.readIn, Node.items?, Option.bind_some, item_readers_eq,
    Option.map_eq_some_iff] at reads
  obtain ⟨values, partsRead, rfl⟩ := reads
  exact ⟨values, partsRead, rfl⟩

theorem product_returns (parts : List Value) (items : List Ty)
    (inside : ∀ part ∈ parts.zip items, part.1.Returns declarations part.2) :
    (Value.product parts).Returns declarations (.tuple items) := by
  intro form found wrote reads
  simp only [write] at wrote
  obtain ⟨forms, partsWrote, rfl⟩ := Option.map_eq_some_iff.1 wrote
  obtain ⟨values, partsRead, rfl⟩ := read_tuple_array forms items found reads
  have again := tuple_returns parts values items forms inside partsWrote partsRead
  simp only [write, again, Option.map_some]

/-- An array is written and read as the tuple of as many items of its type. -/
theorem array_returns (parts : List Value) (size : Nat) (item : Ty) (sized : parts.length = size)
    (inside : ∀ part ∈ parts, part.Returns declarations item) :
    (Value.product parts).Returns declarations (.array size item) := by
  intro form found wrote reads
  rw [write_array_eq parts item size sized] at wrote
  rw [read_array_eq] at reads
  have again : write declarations found (.tuple (List.replicate size item)) = some form := by
    refine product_returns parts _ ?_ form found wrote reads
    intro part member
    obtain ⟨inParts, inTypes⟩ := List.of_mem_zip member
    rw [List.eq_of_mem_replicate inTypes]
    exact inside part.1 inParts
  obtain ⟨_, forms, -, -, rfl⟩ := tuple_of_written _ form _ wrote
  obtain ⟨values, partsRead, rfl⟩ := read_tuple_array forms _ found reads
  rw [write_array_eq values item size (by simpa using length_of_read_tuple forms _ values partsRead)]
  exact again

/-- What is read from the written form of a value is written as that form again. -/
theorem value_returns (value : Value) (type : Ty) (steady : type.Steady declarations)
    (typed : value.HasType declarations type) : value.Returns declarations type := by
  induction typed with
  | atom kind value holds => exact scalar_returns kind value holds
  | absent content =>
      intro form found wrote reads
      cases wrote
      rw [read_option] at reads
      cases reads
      rfl
  | present value content inside ih =>
      intro form found wrote reads
      rw [read_option] at reads
      split at reads
      · rename_i null
        cases reads
        cases form <;> first | rfl | cases null
      · obtain ⟨below, read, rfl⟩ := Option.map_eq_some_iff.1 reads
        exact ih (steady_inside _ _ steady (.merges _ _ (.option content))) form below wrote read
  | held value type content holds inside ih =>
      intro form found wrote reads
      rw [read_held form type content holds] at reads
      obtain ⟨below, read, rfl⟩ := Option.map_eq_some_iff.1 reads
      simp only [write, holds, Option.bind_some] at wrote ⊢
      exact ih (steady_inside _ _ steady (.merges _ _ (.held type content holds))) form below wrote read
  | replaced value content inside ih =>
      intro form found wrote reads
      rw [read_replaced] at reads
      obtain ⟨below, read, rfl⟩ := Option.map_eq_some_iff.1 reads
      exact ih (steady_inside _ _ steady (.replaced content)) form below wrote read
  | sequence items item inside ih =>
      refine sequence_returns items item ?_
      intro value member
      exact ih value member (steady_inside _ _ steady (.sequence item))
  | array parts size item sized inside ih =>
      refine array_returns parts size item sized ?_
      intro part member
      exact ih part member (steady_inside _ _ steady (.merges _ _ (.array size item)))
  | tuple parts items sized inside ih =>
      refine product_returns parts items ?_
      intro part member
      exact ih part member (steady_inside _ _ steady
        (.merges _ _ (.tuple items part.2 (List.of_mem_zip member).2)))
  | record parts name declared known sized inside ih =>
      refine record_returns name declared parts known (steady_here name _ steady known) inside ?_
      intro part member
      exact ih part member (steady_inside _ _ steady
        (.merges _ _ (.field name declared part.1 known (List.of_mem_zip member).1)))
  | map entries keys type sorted accepted inside ih =>
      refine map_returns entries keys type ?_
      intro entry member
      exact ih entry member (steady_inside _ _ steady (.merges _ _ (.map keys type)))
  | variant content name alternatives blank tagging chosen known found inside ih =>
      obtain rfl : tagging = .external := steady_here name _ steady known
      have steadyContent := steady_inside _ _ steady
        (.alternative name alternatives blank _ chosen known (List.mem_of_find?_eq_some found))
      exact variant_returns content name alternatives blank chosen known found (ih steadyContent)
  | dynamic document sorted =>
      intro form found wrote reads
      cases wrote
      rw [read_json] at reads
      cases reads
      rfl

end LayeredConfig.Snapshot
