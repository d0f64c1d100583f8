import LayeredConfig.Proofs.LeafPaths
import LayeredConfig.Proofs.Records

/-!
# Described containers and written nodes

A path is described from a type alone, a document is written from a value. The container of a step is
that of the node which the keys before it lead to, as long as each key stands for the field that is
written under it. An item is described at the position that it is declared at, and written at its place
among the items that are written: the two part behind an item that is left out.
-/
set_option autoImplicit false

namespace LayeredConfig

def Container.Holds (container : Container) (node : Json) : Prop :=
  match container with
  | .struct | .map => ∃ members, node = .object members
  | .sequence => ∃ items, node = .array items
  | .dynamic => True

/-- The container of each step holds the node that the keys before the step lead to, if that is set. -/
def Json.Fits (path : String) (document : Json) (steps : List Step) : Prop :=
  ∀ before step after, steps = before ++ step :: after → ∀ node,
    document.follow path (keysOf before) = .ok node → node ≠ .null → step.container.Holds node

namespace Json

theorem fits_cons (path : String) (document : Json) (first : Step) (rest : List Step)
    (here : first.container.Holds document)
    (below : ∀ child, document.child path first.key = .ok child → child.Fits path rest) :
    document.Fits path (first :: rest) := by
  intro before step after split node followed set
  cases before with
  | nil =>
      cases split
      cases followed
      exact here
  | cons _ more =>
      cases split
      simp only [keysOf, List.map_cons, follow] at followed
      split at followed
      · rename_i child down
        exact below child down more step after rfl node followed set
      · cases followed

/-- Nothing is told about an unset node, and nothing is below it. -/
theorem fits_null (path : String) (steps : List Step) : null.Fits path steps := by
  intro before step after _ node followed set
  cases before with
  | nil =>
      cases followed
      exact absurd rfl set
  | cons first more => cases followed

theorem fits_verbatim (path : String) (document : Json) (keys : List String) :
    document.Fits path (verbatimSteps keys) := by
  intro before step after split node _ _
  have member : step ∈ verbatimSteps keys := by simp [split]
  obtain ⟨key, -, rfl⟩ := List.mem_map.1 member
  trivial

end Json

/-- What is kept of some elements holds at an index the kept element before which so many are kept. -/
theorem filter_at_iff {α : Type} (test : α → Bool) (elements : List α) (index : Nat) (element : α) :
    (elements.filter test)[index]? = some element ↔ ∃ position : Nat,
      elements[position]? = some element ∧ test element ∧
        (elements.take position).countP test = index := by
  induction elements generalizing index with
  | nil => simp
  | cons first rest ih =>
      by_cases kept : test first
      · rw [List.filter_cons_of_pos kept]
        constructor
        · intro found
          cases index with
          | zero =>
              obtain rfl : first = element := by simpa using found
              exact ⟨0, rfl, kept, rfl⟩
          | succ index =>
              obtain ⟨position, held, passes, counted⟩ := (ih index).1 (by simpa using found)
              exact ⟨position + 1, by simpa using held, passes, by simp [kept, counted]⟩
        · rintro ⟨position, held, passes, counted⟩
          cases position with
          | zero =>
              obtain rfl : first = element := by simpa using held
              obtain rfl : 0 = index := by simpa using counted
              rfl
          | succ position =>
              obtain rfl : (rest.take position).countP test + 1 = index := by
                simpa [kept] using counted
              simpa using (ih _).2 ⟨position, by simpa using held, passes, rfl⟩
      · rw [List.filter_cons_of_neg kept, ih]
        constructor
        · rintro ⟨position, held, passes, counted⟩
          exact ⟨position + 1, by simpa using held, passes, by simp [kept, counted]⟩
        · rintro ⟨position, held, passes, counted⟩
          cases position with
          | zero =>
              obtain rfl : first = element := by simpa using held
              exact absurd passes kept
          | succ position =>
              exact ⟨position, by simpa using held, passes, by simpa [kept] using counted⟩

namespace Snapshot

/-- A record is written as its container, field by field: no field lends its members, and items are named
by their positions and are written always or never. -/
structure Record.Direct (declared : Record) : Prop where
  container : declared.form = .container
  own : ∀ field ∈ declared.fields, field.presence ≠ .flattened
  positions : declared.layout = .items → ∀ (index : Nat) field,
    declared.fields[index]? = some field → field.name = Path.ofIndex index ∧ field.rename = none ∧
      (field.isWritten → field.presence = .always)

def Record.writtenBefore (declared : Record) (position : Nat) : Nat :=
  (declared.fields.take position).countP Field.isWritten

/-- A segment means the field that is written under its key: no member of another type shares the key, and
no item before the one that is meant is left out. -/
def Record.Aligned (declared : Record) (segment : String) : Prop :=
  match declared.layout with
  | .members => ∀ field, declared.pathField? segment = some field → ∀ other ∈ declared.fields,
      other.isWritten → other.memberKey declared.keyRule = field.key → other.type = field.type
  | .items => ∀ index, segment = Path.ofIndex index → ∀ other ∈ declared.fields.take index,
      other.isWritten

theorem written_of_path_key (naming : Option NamingRule) (field : Field) (key : String)
    (keyed : field.pathKey? naming = some key) : field.isWritten := by
  cases presence : field.presence <;> simp_all [Field.pathKey?, Field.isWritten]

/-- Every segment means the field that is written under its key, where paths and documents give the fields
the same keys and no two fields share one. -/
theorem members_aligned (declared : Record) (layout : declared.layout = .members)
    (agree : ∀ field ∈ declared.fields, ∀ key, field.pathKey? declared.keyRule = some key →
      field.memberKey declared.keyRule = key)
    (distinct : ((declared.fields.filter Field.isWritten).map
      fun field => field.memberKey declared.keyRule).Nodup) (segment : String) :
    declared.Aligned segment := by
  simp only [Record.Aligned, layout]
  intro meant found other inFields written same
  have listed : meant ∈ declared.pathFields := by
    simp only [Record.pathField?, layout] at found
    rcases Option.or_eq_some_iff.1 found with named | ⟨-, keyed⟩
    · exact List.mem_of_find?_eq_some named
    · exact List.mem_of_find?_eq_some keyed
  obtain ⟨field, inside, made⟩ := List.mem_filterMap.1 listed
  obtain ⟨key, keyed, rfl⟩ := Option.map_eq_some_iff.1 made
  have fieldWritten := written_of_path_key declared.keyRule field key keyed
  have keys : other.memberKey declared.keyRule = field.memberKey declared.keyRule :=
    same.trans (agree field inside key keyed).symm
  rw [List.inj_on_of_nodup_map distinct (List.mem_filter.2 ⟨inFields, written⟩)
    (List.mem_filter.2 ⟨inside, fieldWritten⟩) keys]

theorem path_key_of_item (field : Field) (unrenamed : field.rename = none)
    (own : field.presence ≠ .flattened) :
    field.pathKey? none = if field.isWritten then some field.name else none := by
  cases presence : field.presence with
  | flattened => exact absurd presence own
  | _ => simp [Field.pathKey?, Field.isWritten, presence, unrenamed]

section

variable (declared : Record) (direct : declared.Direct) (layout : declared.layout = .items)

include direct layout

theorem mem_path_fields_of_items (meant : PathField) : meant ∈ declared.pathFields ↔
    ∃ (index : Nat) (field : Field), declared.fields[index]? = some field ∧ field.isWritten ∧
      meant = ⟨Path.ofIndex index, Path.ofIndex index, field.type⟩ := by
  have rule : declared.keyRule = none := by simp [Record.keyRule, layout]
  simp only [Record.pathFields, rule, List.mem_filterMap]
  constructor
  · rintro ⟨field, inFields, keyed⟩
    obtain ⟨index, held⟩ := List.mem_iff_getElem?.1 inFields
    obtain ⟨named, unrenamed, -⟩ := direct.positions layout index field held
    rw [path_key_of_item field unrenamed (direct.own field inFields)] at keyed
    by_cases written : field.isWritten
    · rw [if_pos written, named] at keyed
      exact ⟨index, field, held, written, (Option.some.inj keyed).symm⟩
    · rw [if_neg written] at keyed
      cases keyed
  · rintro ⟨index, field, held, written, rfl⟩
    have inFields := List.mem_of_getElem? held
    obtain ⟨named, unrenamed, -⟩ := direct.positions layout index field held
    refine ⟨field, inFields, ?_⟩
    rw [path_key_of_item field unrenamed (direct.own field inFields), if_pos written, named]
    rfl

/-- A segment means the item that is declared at that position, if it is written. -/
theorem path_field_of_items (segment : String) (meant : PathField) :
    declared.pathField? segment = some meant ↔ ∃ (index : Nat) (field : Field),
      segment = Path.ofIndex index ∧ declared.fields[index]? = some field ∧ field.isWritten ∧
        meant = ⟨segment, segment, field.type⟩ := by
  have listed := mem_path_fields_of_items declared direct layout
  simp only [Record.pathField?, layout]
  constructor
  · intro found
    have key : meant.key = segment := by simpa using List.find?_some found
    obtain ⟨index, field, held, written, rfl⟩ := (listed meant).1 (List.mem_of_find?_eq_some found)
    obtain rfl : Path.ofIndex index = segment := key
    exact ⟨index, field, rfl, held, written, rfl⟩
  · rintro ⟨index, field, rfl, held, written, rfl⟩
    have member := (listed _).2 ⟨index, field, held, written, rfl⟩
    cases found : declared.pathFields.find? (fun field => field.key = Path.ofIndex index) with
    | none =>
        have missed := List.find?_eq_none.1 found _ member
        simp at missed
    | some other =>
        have key : other.key = Path.ofIndex index := by simpa using List.find?_some found
        obtain ⟨position, same, otherHeld, -, rfl⟩ := (listed other).1 (List.mem_of_find?_eq_some found)
        obtain rfl := Path.of_index_injective position index key
        rw [held] at otherHeld
        cases otherHeld
        rfl

end

variable {declarations : Declarations}

theorem written_before_injective (declared : Record) (first second : Nat) (field other : Field)
    (held : declared.fields[first]? = some field) (written : field.isWritten)
    (otherHeld : declared.fields[second]? = some other) (otherWritten : other.isWritten)
    (same : declared.writtenBefore first = declared.writtenBefore second) : first = second := by
  have more (position later : Nat) (field : Field) (held : declared.fields[position]? = some field)
      (written : field.isWritten) (before : position < later) :
      declared.writtenBefore position < declared.writtenBefore later := by
    have next : declared.writtenBefore (position + 1) = declared.writtenBefore position + 1 := by
      simp [Record.writtenBefore, List.take_add_one, held, written]
    have grows : declared.writtenBefore (position + 1) ≤ declared.writtenBefore later :=
      (List.take_sublist_take_left (by omega)).countP_le
    omega
  rcases Nat.lt_trichotomy first second with before | equal | after
  · have less := more first second field held written before
    omega
  · exact equal
  · have less := more second first other otherHeld otherWritten after
    omega

/-- So many fields are written before a position as there are exactly where none is left out. -/
theorem written_before_eq_iff (declared : Record) (position : Nat)
    (inside : position ≤ declared.fields.length) :
    declared.writtenBefore position = position ↔
      ∀ field ∈ declared.fields.take position, field.isWritten := by
  have length : (declared.fields.take position).length = position := by simp [inside]
  rw [← List.countP_eq_length, length]
  rfl

section

variable (declared : Record) (direct : declared.Direct) (parts : List Value)
  (sizes : parts.length = declared.fields.length)
  (writes : ∀ part ∈ declared.fields.zip parts, part.1.Writes declarations part.2)

include direct sizes writes

theorem item_of_body_iff (layout : declared.layout = .items) (items : List Json)
    (body : declared.body declarations parts = .array items) (index : Nat) (item : Json) :
    items[index]? = some item ↔ ∃ (position : Nat) (field : Field) (part : Value),
      declared.fields[position]? = some field ∧ parts[position]? = some part ∧ field.isWritten ∧
        declared.writtenBefore position = index ∧
          write declarations part field.type = some item := by
  have steady : ∀ part ∈ declared.fields.zip parts, part.1.isWritten → part.1.presence = .always := by
    intro part member written
    obtain ⟨position, held⟩ := List.mem_iff_getElem?.1 (List.of_mem_zip member).1
    exact (direct.positions layout position part.1 held).2.2 written
  have firsts : (declared.fields.zip parts).map Prod.fst = declared.fields :=
    List.map_fst_zip (by omega)
  have counts (position : Nat) :
      ((declared.fields.zip parts).take position).countP (fun part => part.1.isWritten) =
        declared.writtenBefore position := by
    rw [Record.writtenBefore, ← firsts, ← List.map_take, List.countP_map, firsts]
    rfl
  obtain rfl : ((declared.fields.zip parts).flatMap
      (Field.members declarations declared.keyRule)).map Prod.snd = items := by
    simpa [Record.body, layout] using body
  rw [items_at declared.keyRule index _ steady writes, Option.bind_eq_some_iff]
  constructor
  · rintro ⟨⟨field, part⟩, kept, formed⟩
    obtain ⟨position, both, written, counted⟩ :=
      (filter_at_iff (fun part => part.1.isWritten) _ index (field, part)).1 kept
    obtain ⟨held, partHeld⟩ := List.getElem?_zip_eq_some.1 both
    rw [counts] at counted
    exact ⟨position, field, part, held, partHeld, written, counted,
      (written_of_form field part item formed).2⟩
  · rintro ⟨position, field, part, held, partHeld, written, counted, wrote⟩
    have both : (declared.fields.zip parts)[position]? = some (field, part) :=
      List.getElem?_zip_eq_some.2 ⟨held, partHeld⟩
    have never := never_omits_always field part (steady _ (List.mem_of_getElem? both) written)
    refine ⟨(field, part), ?_, by simp [Field.form?, never, wrote]⟩
    rw [← counts] at counted
    exact (filter_at_iff (fun part => part.1.isWritten) _ index (field, part)).2
      ⟨position, both, written, counted⟩

theorem child_of_aligned (segment : String) (aligned : declared.Aligned segment) (meant : PathField)
    (found : declared.pathField? segment = some meant) (path : String) (child : Json)
    (down : (declared.body declarations parts).child path meant.key = .ok child) :
    ∃ part, write declarations part meant.type = some child := by
  unfold Record.Aligned at aligned
  obtain ⟨hop, reads, below⟩ := (Json.child_eq_ok path meant.key _ child).1 down
  cases layout : declared.layout with
  | members =>
      rw [layout] at aligned
      simp only [Record.body, layout] at below
      cases hop with
      | item index => cases below
      | member key =>
          obtain rfl : meant.key = key := reads
          -- Any member of the key may be the one that is kept, so all of them must have the type.
          have member := Members.mem_ofList _ _ (Members.mem_of_find _ child _ below)
          obtain ⟨⟨field, part⟩, inParts, contributed⟩ := List.mem_flatMap.1 member
          have inFields := (List.of_mem_zip inParts).1
          rw [members_of_own _ field part (direct.own field inFields)] at contributed
          obtain ⟨form, formed, same⟩ : ∃ form, field.form? declarations part = some form ∧
              (field.memberKey declared.keyRule, form) = (meant.key, child) := by
            simpa using contributed
          obtain ⟨keys, forms⟩ := Prod.mk.inj same
          obtain ⟨written, wrote⟩ := written_of_form field part form formed
          rw [← aligned meant found field inFields written keys, ← forms]
          exact ⟨part, wrote⟩
  | items =>
      rw [layout] at aligned
      obtain ⟨index, field, rfl, held, written, rfl⟩ :=
        (path_field_of_items declared direct layout segment meant).1 found
      cases hop with
      | member key => simp [Record.body, layout, Json.below?] at below
      | item other =>
          obtain rfl := Path.index_of_index index other reads
          obtain ⟨items, body⟩ : ∃ items, declared.body declarations parts = .array items := by
            simp [Record.body, layout]
          rw [body] at below
          obtain ⟨position, writer, part, writerHeld, -, writes, counted, wrote⟩ :=
            (item_of_body_iff declared direct parts sizes writes layout items body other child).1 below
          obtain ⟨inside, -⟩ := List.getElem?_eq_some_iff.1 held
          -- As many are written before the meant item, and no two items share that number.
          have before := (written_before_eq_iff declared other (by omega)).2 (aligned other rfl)
          obtain rfl := written_before_injective declared position other writer field writerHeld writes
            held written (counted.trans before.symm)
          cases writerHeld.symm.trans held
          exact ⟨part, wrote⟩

end

theorem container_holds_body (declared : Record) (parts : List Value) :
    declared.layout.container.Holds (declared.body declarations parts) := by
  unfold Record.body
  cases layout : declared.layout with
  | members => exact ⟨_, rfl⟩
  | items => exact ⟨_, rfl⟩

/-- Along some segments, records are direct, and the segments mean the fields that are written under
their keys. -/
def Ty.Aligned (declarations : Declarations) (type : Ty) (segments : List String) : Prop :=
  ∀ declared segment, type.LooksUp declarations segments declared segment →
    declared.Direct ∧ declared.Aligned segment

theorem content_aligned (outer content : Ty) (segments : List String)
    (wraps : outer.content? declarations = some content) (aligned : outer.Aligned declarations segments) :
    content.Aligned declarations segments :=
  fun declared segment inside =>
    aligned declared segment (.content outer content segments declared segment wraps inside)

theorem item_aligned (outer item : Ty) (segment : String) (rest : List String)
    (holds : outer.item? = some item) (aligned : outer.Aligned declarations (segment :: rest)) :
    item.Aligned declarations rest :=
  fun declared looked inside =>
    aligned declared looked (.item outer item segment rest declared looked holds inside)

theorem fits_items (path segment : String) (item : Ty) (steps : List Step) (parts : List Value)
    (items : List Json) (wrote : writeItems declarations parts item = some items)
    (below : ∀ value document, write declarations value item = some document →
      document.Fits path steps) :
    (Json.array items).Fits path (⟨segment, .sequence⟩ :: steps) := by
  refine Json.fits_cons path _ _ steps ⟨items, rfl⟩ ?_
  intro child down
  obtain ⟨hop, -, held⟩ := (Json.child_eq_ok path segment _ child).1 down
  cases hop with
  | member key => cases held
  | item index =>
      obtain ⟨value, -, wroteItem⟩ := value_of_form_mem _ parts items
        ((write_items_iff parts item items).1 wrote) child (List.mem_of_getElem? held)
      exact below value child wroteItem

theorem fits_entries (path segment : String) (type : Ty) (steps : List Step)
    (entries : List (String × Value)) (members : List (String × Json))
    (wrote : writeEntries declarations entries type = some members)
    (below : ∀ value document, write declarations value type = some document →
      document.Fits path steps) :
    (Json.object members).Fits path (⟨segment, .map⟩ :: steps) := by
  refine Json.fits_cons path _ _ steps ⟨members, rfl⟩ ?_
  intro child down
  obtain ⟨hop, -, held⟩ := (Json.child_eq_ok path segment _ child).1 down
  cases hop with
  | item index => cases held
  | member key =>
      have found : Members.find? key members = some child := held
      rw [find_entries entries type members wrote] at found
      obtain ⟨value, -, wroteValue⟩ := Option.bind_eq_some_iff.1 found
      exact below value child wroteValue

theorem parts_of_written (name : String) (declared : Record) (value : Value) (document : Json)
    (known : declarations name = some (.record declared)) (direct : declared.Direct)
    (wrote : write declarations value (.named name) = some document) :
    ∃ parts, value = .product parts ∧ parts.length = declared.fields.length ∧
      (∀ part ∈ declared.fields.zip parts, part.1.Writes declarations part.2) ∧
      declared.body declarations parts = document := by
  obtain ⟨parts, rfl⟩ := product_of_written value document name declared known wrote
  exact ⟨parts, rfl, (write_record_iff name declared parts document known direct.container).1 wrote⟩

theorem content_of_written (type content : Ty) (value : Value) (document : Json)
    (wraps : type.content? declarations = some content)
    (wrote : write declarations value type = some document) :
    document = .null ∨ ∃ inner, write declarations inner content = some document := by
  rcases content_cases type content wraps with rfl | held
  · rcases option_of_written value document content wrote with ⟨-, said⟩ | ⟨inner, -, wroteInner⟩
    · exact Or.inl said
    · exact Or.inr ⟨inner, wroteInner⟩
  · obtain ⟨inner, -, wroteInner⟩ := held_of_written value type content document held wrote
    exact Or.inr ⟨inner, wroteInner⟩

theorem fits_contained (path segment : String) (type item : Ty) (value : Value) (document : Json)
    (steps : List Step) (holds : type.item? = some item)
    (wrote : write declarations value type = some document)
    (below : ∀ value document, write declarations value item = some document →
      document.Fits path steps) :
    document.Fits path (⟨segment, type.container⟩ :: steps) := by
  cases type with
  | sequence =>
      cases holds
      obtain ⟨parts, items, -, wroteItems, rfl⟩ := sequence_of_written value document item wrote
      exact fits_items path segment item _ parts items wroteItems below
  | array size =>
      cases holds
      obtain ⟨parts, items, -, wroteItems, rfl⟩ := array_of_written value document size item wrote
      exact fits_items path segment item _ parts items wroteItems below
  | map keys =>
      cases holds
      obtain ⟨entries, members, -, wroteEntries, rfl⟩ :=
        map_of_written value document keys item wrote
      exact fits_entries path segment item _ entries members wroteEntries below
  | _ => cases holds

theorem fits_described_cons (path segment : String) (rest : List String) (type : Ty) (value : Value)
    (document : Json) (wrote : write declarations value type = some document)
    (aligned : type.Aligned declarations (segment :: rest))
    (below : ∀ (inner : Ty) value document, write declarations value inner = some document →
      inner.Aligned declarations rest → document.Fits path (describe declarations rest inner)) :
    document.Fits path (describe declarations (segment :: rest) type) := by
  induction type using content_induction declarations generalizing value with
  | step type ih =>
      rcases entered_cases declarations type with ⟨content, wraps⟩ |
        ⟨-, item, holds⟩ | ⟨name, declared, rfl, known⟩ | ⟨wraps, holds, unknown⟩
      · rw [describe_content _ type content wraps]
        rcases content_of_written type content value document wraps wrote with rfl | ⟨inner, wroteInner⟩
        · exact Json.fits_null path _
        · exact ih content wraps inner wroteInner (content_aligned type content _ wraps aligned)
      · rw [describe_item segment rest type item holds]
        have inside := item_aligned type item segment rest holds aligned
        exact fits_contained path segment type item value document _ holds wrote
          fun value document wroteItem => below item value document wroteItem inside
      · obtain ⟨direct, here⟩ := aligned declared segment (.here name declared segment rest known)
        obtain ⟨parts, rfl, sizes, writes, rfl⟩ :=
          parts_of_written name declared value document known direct wrote
        cases meant : declared.pathField? segment with
        | some field =>
            rw [describe_field name segment rest declared known field meant]
            refine Json.fits_cons path _ _ _ (container_holds_body declared parts) ?_
            intro child down
            obtain ⟨part, wrotePart⟩ :=
              child_of_aligned declared direct parts sizes writes segment here field meant path child down
            refine below field.type part child wrotePart ?_
            intro inner looked inside
            exact aligned inner looked
              (.field name declared segment field rest inner looked known meant inside)
        | none =>
            rw [describe_no_field name segment rest declared known meant]
            exact Json.fits_cons path _ _ _ (container_holds_body declared parts)
              fun child _ => Json.fits_verbatim path child rest
      · rw [describe_verbatim _ type wraps holds unknown]
        exact Json.fits_verbatim path document _

/-- Along any segments, what is described holds what is written. -/
theorem fits_described (path : String) (segments : List String) (type : Ty) (value : Value)
    (document : Json) (wrote : write declarations value type = some document)
    (aligned : type.Aligned declarations segments) :
    document.Fits path (describe declarations segments type) := by
  induction segments generalizing type value document with
  | nil =>
      intro before step after split
      simp [describe] at split
  | cons segment rest ih =>
      exact fits_described_cons path segment rest type value document wrote aligned ih

/-- Records of members that paths and documents know by the same keys, no two of which are equal, are
described as they are written along every path. -/
theorem fits_of_agreeing_keys (type : Ty)
    (agreeing : ∀ segments (declared : Record) segment,
      type.LooksUp declarations segments declared segment →
        declared.Direct ∧ declared.layout = .members ∧
          (∀ field ∈ declared.fields, ∀ key, field.pathKey? declared.keyRule = some key →
            field.memberKey declared.keyRule = key) ∧
          ((declared.fields.filter Field.isWritten).map
            fun field => field.memberKey declared.keyRule).Nodup)
    (path : String) (segments : List String) (value : Value) (document : Json)
    (wrote : write declarations value type = some document) :
    document.Fits path (describe declarations segments type) := by
  refine fits_described path segments type value document wrote ?_
  intro declared segment looked
  obtain ⟨direct, layout, agree, distinct⟩ := agreeing segments declared segment looked
  exact ⟨direct, members_aligned declared layout agree distinct segment⟩

/-- The container of a step is that of the node which the keys before it lead to, as long as every segment
means the field that is written under its key. In a record of items, an item is described at the position
that it is declared at, and written at the index that counts the written items before it. That index is
described by the item that is written there exactly where no item before it is left out. -/
theorem described_shapes_hold (declarations : Declarations) :
    (∀ (type : Ty) value document segments, write declarations value type = some document →
      type.Aligned declarations segments → ∀ path before step after,
        describe declarations segments type = before ++ step :: after → ∀ node,
          document.follow path (keysOf before) = .ok node → node ≠ .null →
            step.container.Holds node) ∧
    ∀ name declared parts document, declarations name = some (.record declared) → declared.Direct →
      declared.layout = .items → write declarations (.product parts) (.named name) = some document →
      ∃ items, document = .array items ∧
        (∀ (index : Nat) item, items[index]? = some item ↔ ∃ (position : Nat) (field : Field) (part : Value),
          declared.fields[position]? = some field ∧ parts[position]? = some part ∧ field.isWritten ∧
            declared.writtenBefore position = index ∧
              write declarations part field.type = some item) ∧
        ∀ (position : Nat) field, declared.fields[position]? = some field → field.isWritten →
          (∀ rest, describe declarations (Path.ofIndex position :: rest) (.named name) =
            ⟨Path.ofIndex position, .sequence⟩ :: describe declarations rest field.type) ∧
          (declared.pathField? (Path.ofIndex (declared.writtenBefore position)) = some
              ⟨field.name, Path.ofIndex (declared.writtenBefore position), field.type⟩ ↔
            ∀ other ∈ declared.fields.take position, other.isWritten) := by
  constructor
  · intro type value document segments wrote aligned path
    exact fits_described path segments type value document wrote aligned
  · intro name declared parts document known direct layout wrote
    obtain ⟨_, same, sizes, writes, rfl⟩ :=
      parts_of_written name declared (.product parts) document known direct wrote
    cases same
    obtain ⟨items, body⟩ : ∃ items, declared.body declarations parts = .array items := by
      simp [Record.body, layout]
    refine ⟨items, body, item_of_body_iff declared direct parts sizes writes layout items body, ?_⟩
    intro position field held written
    have meant := path_field_of_items declared direct layout
    obtain ⟨named, -, -⟩ := direct.positions layout position field held
    obtain ⟨inside, -⟩ := List.getElem?_eq_some_iff.1 held
    constructor
    · intro rest
      have here := (meant _ _).2 ⟨position, field, rfl, held, written, rfl⟩
      rw [describe_field name _ rest declared known _ here, layout]
      rfl
    · rw [← written_before_eq_iff declared position (by omega)]
      constructor
      · intro found
        obtain ⟨_, _, -, -, -, same⟩ := (meant _ _).1 found
        have names := congrArg PathField.name same
        rw [named] at names
        exact (Path.of_index_injective _ _ names).symm
      · intro counted
        rw [counted]
        exact (meant _ _).2 ⟨position, field, rfl, held, written, by rw [named]⟩

/-- Two maps and a list, with an item between the maps that is never written. -/
def gappedItems : Record where
  fields := [
    ⟨"0", .map .text (.scalar .text), none, .always, .map []⟩,
    ⟨"1", .scalar .bool, none, .skipped, .atom (.bool false)⟩,
    ⟨"2", .map .text (.scalar .bool), none, .always, .map []⟩,
    ⟨"3", .sequence (.scalar .bool), none, .always, .sequence []⟩ ]
  layout := .items

def gappedDeclarations : Declarations := fun name =>
  if name = "gapped" then some (.record gappedItems) else none

def gappedValue : Value :=
  .product [.map [("x", .atom (.text "a"))], .atom (.bool true), .map [("y", .atom (.bool true))],
    .sequence [.atom (.bool false)]]

def gappedDocument : Json :=
  .array [.object [("x", .string "a")], .object [("y", .bool true)], .array [.bool false]]

theorem gapped_direct : gappedItems.Direct := by
  refine ⟨rfl, by decide, ?_⟩
  intro _ index field held
  match index with
  | 0 | 1 | 2 | 3 =>
      cases held
      exact ⟨by decide, rfl, by decide⟩
  | _ + 4 => simp [gappedItems] at held

/-- A path through the first item looks up nothing but that item. -/
theorem gapped_first_aligned : (Ty.named "gapped").Aligned gappedDeclarations ["0", "x"] := by
  have first : gappedItems.pathField? "0" = some ⟨"0", "0", .map .text (.scalar .text)⟩ := rfl
  intro declared segment looked
  cases looked with
  | content _ _ _ _ _ wraps => cases wraps
  | item _ _ _ _ _ _ holds => cases holds
  | here _ _ _ _ known =>
      obtain rfl : gappedItems = declared := by simpa [gappedDeclarations] using known
      refine ⟨gapped_direct, ?_⟩
      intro index same
      obtain rfl := Path.of_index_injective 0 index same
      exact List.forall_mem_nil _
  | field _ outer _ field _ _ _ known meant inside =>
      obtain rfl : gappedItems = outer := by simpa [gappedDeclarations] using known
      cases first.symm.trans meant
      cases inside with
      | content _ _ _ _ _ wraps => cases wraps
      | item _ item _ _ _ _ holds within =>
          cases holds
          cases within with
          | content _ _ _ _ _ wraps => cases wraps

/-- The item before the gap is an object, as its steps tell, and is described by what is written there. -/
theorem gapped_first_item_holds :
    write gappedDeclarations gappedValue (.named "gapped") = some gappedDocument ∧
      (Ty.named "gapped").Aligned gappedDeclarations ["0", "x"] ∧
      describe gappedDeclarations ["0", "x"] (.named "gapped") = [⟨"0", .sequence⟩, ⟨"x", .map⟩] ∧
      Container.map.Holds (.object [("x", .string "a")]) ∧
      gappedItems.pathField? "0" = some ⟨"0", "0", .map .text (.scalar .text)⟩ := by
  have wrote : write gappedDeclarations gappedValue (.named "gapped") = some gappedDocument := rfl
  have described : describe gappedDeclarations ["0", "x"] (.named "gapped") =
      [⟨"0", .sequence⟩, ⟨"x", .map⟩] := rfl
  obtain ⟨shapes, tuples⟩ := described_shapes_hold gappedDeclarations
  have holds := shapes (.named "gapped") gappedValue gappedDocument ["0", "x"] wrote
    gapped_first_aligned "0.x" [⟨"0", .sequence⟩] ⟨"x", .map⟩ [] described
    (.object [("x", .string "a")]) rfl (by simp)
  obtain ⟨_, -, -, meant⟩ := tuples "gapped" gappedItems _ gappedDocument rfl gapped_direct rfl wrote
  have before : gappedItems.writtenBefore 0 = 0 := rfl
  have first := (meant 0 _ rfl rfl).2.2 (List.forall_mem_nil _)
  rw [before] at first
  exact ⟨wrote, gapped_first_aligned, described, holds, first⟩

/-- Behind the gap, the list is written at the index of a map, and is described as that map. -/
theorem gapped_list_described_as_map :
    write gappedDeclarations gappedValue (.named "gapped") = some gappedDocument ∧
      describe gappedDeclarations ["2", "y"] (.named "gapped") = [⟨"2", .sequence⟩, ⟨"y", .map⟩] ∧
      gappedDocument.follow "2.y" ["2"] = .ok (.array [.bool false]) ∧
      ¬ Container.map.Holds (.array [.bool false]) := by
  refine ⟨rfl, rfl, rfl, ?_⟩
  rintro ⟨members, object⟩
  cases object

end Snapshot

end LayeredConfig
