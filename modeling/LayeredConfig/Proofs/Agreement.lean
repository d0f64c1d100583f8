import LayeredConfig.Catalogue.Basic
import LayeredConfig.Proofs.Records
import LayeredConfig.Snapshot.Basic

/-!
# Typed and dynamic merging

On plain types it does not matter whether snapshots are merged and then written, or written and then
merged as documents: an unset option is a `null`, a record is an object of its fields, and what is
replaced as a whole is written as a scalar or an array. Arrays, tuples, replaced values and
enumerations are not plain.
-/
set_option autoImplicit false

namespace LayeredConfig.Snapshot

/-- A record of members, all of them written under keys of their own. -/
structure Record.Plain (declared : Record) : Prop where
  container : declared.form = .container
  members : declared.layout = .members
  written : ∀ field ∈ declared.fields, field.presence = .always
  distinct : (declared.fields.map fun field => field.memberKey declared.keyRule).Nodup

/-- A type whose values merge as their written forms do, provided that the types inside do. -/
def Ty.Plain (declarations : Declarations) : Ty → Prop
  | .array _ _ | .tuple _ | .replaced _ => False
  | .named name => (∃ declared, declarations name = some (.record declared) ∧ declared.Plain) ∨
      ∃ declared, declarations name = some (.newtype declared)
  | _ => True

def Value.Finite : Value → Prop :=
  Value.Everywhere (fun atom => ∀ value, atom = .double value → value.isFinite) (fun _ => True)
    fun _ => True

/-- Writing a merge over any weaker value is merging what the two are written as. -/
def Value.Agrees (declarations : Declarations) (strong : Value) : Prop :=
  ∀ (weak : Value) (type : Ty) (strongForm weakForm : Json),
    type.Throughout declarations (Ty.Plain declarations) →
    write declarations strong type = some strongForm →
    write declarations weak type = some weakForm →
    write declarations (strong.merge weak) type = some (strongForm.merge weakForm)

variable {declarations : Declarations}

theorem separate_of_plain (declared : Record) (plain : declared.Plain) : declared.Separate := by
  unfold Record.Separate
  rw [plain.members]
  constructor
  · intro field member flattened
    rw [plain.written field member] at flattened
    cases flattened
  · exact plain.distinct.sublist (List.filter_sublist.map _)

theorem agrees_atom (value : Atom)
    (finite : ∀ double, value = .double double → double.isFinite) :
    (Value.atom value).Agrees declarations := by
  intro weak type strongForm weakForm plain strongWrote weakWrote
  cases type <;> simp only [write, reduceCtorEq] at strongWrote
  obtain ⟨other, rfl, otherWrote⟩ := atom_of_written weak weakForm _ weakWrote
  suffices kept : strongForm.merge weakForm = strongForm by
    simpa only [Value.merge, write, kept] using strongWrote
  unfold Scalar.write at strongWrote
  split at strongWrote
  case h_1 =>
    -- Only another unit is written under the unit type.
    cases other <;> simp only [Scalar.write, reduceCtorEq, Option.some.injEq] at otherWrote
    subst otherWrote
    cases strongWrote
    exact Json.merge_null_left _
  case h_3 =>
    split at strongWrote <;> cases strongWrote
    simp only [Json.ofInt, Json.merge]
  case h_4 value | h_5 value =>
    cases strongWrote
    simp only [finite value rfl, if_true, Json.merge]
  case h_8 =>
    cases other <;> simp only [Scalar.write, reduceCtorEq, Option.some.injEq] at otherWrote
    subst otherWrote
    cases strongWrote
    rfl
  all_goals
    cases strongWrote
    try simp only [Json.merge]

theorem agrees_present (value : Value) (agrees : value.Agrees declarations) :
    (Value.present value).Agrees declarations := by
  intro weak type strongForm weakForm plain strongWrote weakWrote
  cases type <;> simp only [write, reduceCtorEq] at strongWrote
  rename_i content
  have inside := throughout_inside _ _ _ plain (.option content)
  rcases option_of_written weak weakForm content weakWrote with ⟨rfl, rfl⟩ | ⟨other, rfl, otherWrote⟩
  · rw [Json.merge_null_right]
    simpa only [Value.merge, write] using strongWrote
  · have result := agrees other content strongForm weakForm inside strongWrote otherWrote
    simpa only [Value.merge, write] using result

theorem agrees_held (value : Value) (agrees : value.Agrees declarations) :
    (Value.held value).Agrees declarations := by
  intro weak type strongForm weakForm plain strongWrote weakWrote
  simp only [write] at strongWrote
  obtain ⟨content, holds, strongInside⟩ := Option.bind_eq_some_iff.1 strongWrote
  obtain ⟨other, rfl, weakInside⟩ := held_of_written weak type content weakForm holds weakWrote
  have inside := throughout_inside _ _ _ plain (.held type content holds)
  have result := agrees other content strongForm weakForm inside strongInside weakInside
  simpa only [Value.merge, write, holds, Option.bind_some] using result

theorem agrees_map (entries : List (String × Value))
    (agrees : ∀ entry ∈ entries, entry.2.Agrees declarations) :
    (Value.map entries).Agrees declarations := by
  intro weak type strongForm weakForm plain strongWrote weakWrote
  cases type <;> simp only [write, reduceCtorEq, Option.map_eq_some_iff] at strongWrote
  rename_i keys content
  have inside := throughout_inside _ _ _ plain (.map keys content)
  obtain ⟨strongMembers, strongEntries, rfl⟩ := strongWrote
  obtain ⟨others, weakMembers, rfl, weakEntries, rfl⟩ :=
    map_of_written weak weakForm keys content weakWrote
  rw [write_entries_iff] at strongEntries weakEntries
  have union := Members.union_related (fun value form => write declarations value content = some form)
    Value.merge Json.merge entries others strongMembers weakMembers strongEntries weakEntries
    (fun entry member value form other wrote otherWrote =>
      agrees entry member value content form other inside wrote otherWrote)
  simp only [Value.merge, Value.merge_entries_union, Json.merge_objects, write,
    Option.map_eq_some_iff, write_entries_iff]
  exact ⟨_, union, rfl⟩

theorem agrees_field (field : Field) (part other : Value)
    (always : field.presence = .always) (agrees : part.Agrees declarations)
    (plain : field.type.Throughout declarations (Ty.Plain declarations))
    (partWrites : field.Writes declarations part) (otherWrites : field.Writes declarations other) :
    ∃ form weakForm, field.form? declarations part = some form ∧
      field.form? declarations other = some weakForm ∧
      write declarations (part.merge other) field.type = some (form.merge weakForm) ∧
      field.form? declarations (part.merge other) = some (form.merge weakForm) := by
  obtain ⟨form, wrote, partForm⟩ :=
    form_of_writes field part partWrites (never_omits_always field part always)
  obtain ⟨weakForm, weakWrote, otherForm⟩ :=
    form_of_writes field other otherWrites (never_omits_always field other always)
  have merged := agrees other field.type form weakForm plain wrote weakWrote
  refine ⟨form, weakForm, partForm, otherForm, merged, ?_⟩
  simp [Field.form?, never_omits_always field _ always, merged]

theorem agrees_record (parts : List Value) (agrees : ∀ part ∈ parts, part.Agrees declarations)
    (name : String) (declared : Record) (known : declarations name = some (.record declared))
    (record : declared.Plain) (weak : Value) (strongForm weakForm : Json)
    (plain : (Ty.named name).Throughout declarations (Ty.Plain declarations))
    (strongWrote : write declarations (.product parts) (.named name) = some strongForm)
    (weakWrote : write declarations weak (.named name) = some weakForm) :
    write declarations ((Value.product parts).merge weak) (.named name) =
      some (strongForm.merge weakForm) := by
  obtain ⟨others, rfl⟩ := product_of_written weak weakForm name declared known weakWrote
  have body (values : List Value) (form : Json) :=
    write_record_iff name declared values form known record.container
  obtain ⟨strongSize, strongWrites, rfl⟩ := (body parts strongForm).1 strongWrote
  obtain ⟨weakSize, weakWrites, rfl⟩ := (body others weakForm).1 weakWrote
  have own (field : Field) (member : field ∈ declared.fields) : field.presence ≠ .flattened := by
    simp [record.written field member]
  have step (field : Field) (part other : Value)
      (inStrong : (field, part) ∈ declared.fields.zip parts)
      (inWeak : (field, other) ∈ declared.fields.zip others) := by
    obtain ⟨inFields, inParts⟩ := List.of_mem_zip inStrong
    exact agrees_field field part other (record.written field inFields) (agrees part inParts)
      (throughout_inside _ _ _ plain (.field name declared field known inFields))
      (strongWrites _ inStrong) (weakWrites _ inWeak)
  have mergedWrites : ∀ part ∈ declared.fields.zip (Value.mergeParts parts others),
      part.1.Writes declarations part.2 := by
    intro held member
    obtain ⟨field, merged⟩ := held
    obtain ⟨part, other, inStrong, inWeak, rfl⟩ :=
      mem_zip_merge _ _ _ strongSize weakSize field merged member
    obtain ⟨form, weakForm, -, -, merged, -⟩ := step field part other inStrong inWeak
    exact Or.inr ⟨_, merged, fun flattened => absurd flattened (own field (List.of_mem_zip inStrong).1)⟩
  have below (key : String) (values : List Value)
      (writes : ∀ part ∈ declared.fields.zip values, part.1.Writes declarations part.2) :=
    below_body (byKey declarations) name declared values (.member key) record.container
      (apart_of_separate name declared values known (separate_of_plain declared record))
      (fun part member => distinct_of_own _ part.1 part.2 (own part.1 (List.of_mem_zip member).1))
      writes
  rw [Value.merge]
  refine (body _ _).2 ⟨by rw [Value.length_merge_parts, strongSize], mergedWrites, ?_⟩
  simp only [Record.body, record.members, Json.merge_objects, Json.below?] at below ⊢
  congr 1
  apply Members.eq_of_find_eq _ _ (Members.sorted_ofList _)
    (Members.sorted_union _ _ _ (Members.sorted_ofList _))
  intro key
  rw [Members.find_union, below key _ mergedWrites, below key _ strongWrites,
    below key _ weakWrites]
  rcases slot_merge (byKey declarations) name declared (.member key) parts others strongSize
    weakSize with ⟨strongAt, weakAt, mergedAt⟩ |
    ⟨field, part, other, inStrong, inWeak, strongAt, weakAt, mergedAt⟩
  · rw [strongAt, weakAt, mergedAt]
    rfl
  · obtain ⟨form, weakForm, partForm, otherForm, -, mergedForm⟩ :=
      step field part other inStrong inWeak
    have fieldOwn := own field (List.of_mem_zip inStrong).1
    rw [strongAt, weakAt, mergedAt]
    simp only [Option.bind_some, Field.below?, members_of_own _ field _ fieldOwn, partForm,
      otherForm, mergedForm, Option.map_some, Option.toList_some]
    by_cases same : field.memberKey declared.keyRule = key <;> simp [Members.find?, same]

theorem agrees_product (parts : List Value) (agrees : ∀ part ∈ parts, part.Agrees declarations) :
    (Value.product parts).Agrees declarations := by
  intro weak type strongForm weakForm plain strongWrote weakWrote
  have here := throughout_here _ _ plain
  cases type with
  | named name =>
      rcases here with ⟨declared, known, record⟩ | ⟨declared, known⟩
      · exact agrees_record parts agrees name declared known record weak strongForm weakForm plain
          strongWrote weakWrote
      · simp [write, known] at strongWrote
  | array size item => exact here.elim
  | tuple items => exact here.elim
  | _ => simp [write] at strongWrote

theorem value_agrees (value : Value) (finite : value.Finite) : value.Agrees declarations := by
  induction finite with
  | atom value holds => exact agrees_atom value holds
  | absent =>
      intro weak type strongForm weakForm _ strongWrote weakWrote
      cases type <;> simp only [write, reduceCtorEq, Option.some.injEq] at strongWrote
      subst strongWrote
      rw [Json.merge_null_left]
      simpa only [Value.merge] using weakWrote
  | present value inside ih => exact agrees_present value ih
  | held value inside ih => exact agrees_held value ih
  | frozen value inside ih =>
      intro weak type strongForm weakForm plain strongWrote _
      cases type <;> simp only [write, reduceCtorEq] at strongWrote
      exact (throughout_here _ _ plain).elim
  | product parts inside ih => exact agrees_product parts ih
  | sequence items inside ih =>
      intro weak type strongForm weakForm _ strongWrote _
      cases type <;> simp only [write, reduceCtorEq, Option.map_eq_some_iff] at strongWrote
      obtain ⟨forms, wrote, rfl⟩ := strongWrote
      simp only [Value.merge, write, wrote, Option.map_some, Json.merge]
  | map entries holds inside ih => exact agrees_map entries ih
  | variant name content inside ih =>
      intro weak type strongForm weakForm plain strongWrote _
      cases type <;> simp only [write, reduceCtorEq] at strongWrote
      rcases throughout_here _ _ plain with ⟨declared, known, -⟩ | ⟨declared, known⟩ <;>
        simp [known] at strongWrote
  | dynamic document holds =>
      intro weak type strongForm weakForm _ strongWrote weakWrote
      cases type <;> simp only [write, reduceCtorEq, Option.some.injEq] at strongWrote
      obtain rfl := dynamic_of_written weak weakForm weakWrote
      subst strongWrote
      simp only [Value.merge, write]

theorem overlay_agrees (model : Model)
    (plain : model.type.Throughout model.declarations (Ty.Plain model.declarations))
    (layers : List (Snapshot model)) (documents : List Json) (merged : Snapshot model)
    (finite : ∀ layer ∈ layers, layer.value.Finite)
    (wrote : List.Forall₂ (fun layer document => encode layer = some document) layers documents)
    (folded : overlay? layers = some merged) :
    ∃ form, encode merged = some form ∧ overlay? documents = some form := by
  induction wrote generalizing merged with
  | nil => cases folded
  | @cons layer document layers documents head tail ih =>
      obtain ⟨layerFinite, othersFinite⟩ := List.forall_mem_cons.1 finite
      rcases overlay_cons layer merged layers folded with ⟨rfl, rfl⟩ | ⟨below, rest, rfl⟩
      · cases tail
        exact ⟨document, head, rfl⟩
      · obtain ⟨form, belowWrote, documentsFolded⟩ := ih below othersFinite rest
        refine ⟨document.merge form, ?_, ?_⟩
        · exact value_agrees layer.value layerFinite below.value model.type document form plain head
            belowWrote
        · rw [overlay?, documentsFolded]
          rfl

/-- On plain types, writing commutes with merging and with folding layers. -/
theorem merge_commutes_with_writing (model : Model)
    (plain : model.type.Throughout model.declarations (Ty.Plain model.declarations)) :
    (∀ (strong weak : Snapshot model) (strongForm weakForm : Json), strong.value.Finite →
      weak.value.Finite → encode strong = some strongForm → encode weak = some weakForm →
        encode (merge strong weak) = some (merge strongForm weakForm)) ∧
    ∀ (layers : List (Snapshot model)) (documents : List Json), layers ≠ [] →
      (∀ layer ∈ layers, layer.value.Finite) →
      List.Forall₂ (fun layer document => encode layer = some document) layers documents →
        ∃ merged form, overlay? layers = some merged ∧ encode merged = some form ∧
          overlay? documents = some form := by
  constructor
  · intro strong weak strongForm weakForm finite _ strongWrote weakWrote
    exact value_agrees strong.value finite weak.value model.type strongForm weakForm plain
      strongWrote weakWrote
  · intro layers documents nonempty finite wrote
    obtain ⟨merged, folded⟩ := overlay_nonempty layers nonempty
    obtain ⟨form, mergedWrote, documentsFolded⟩ :=
      overlay_agrees model plain layers documents merged finite wrote folded
    exact ⟨merged, form, folded, mergedWrote, documentsFolded⟩

theorem tree_plain :
    (Ty.named "tree").Throughout Catalogue.declarations (Ty.Plain Catalogue.declarations) := by
  have record : Catalogue.tree.Plain := ⟨rfl, rfl, by decide, by decide⟩
  have known : Catalogue.declarations "tree" = some (.record Catalogue.tree) := rfl
  refine throughout_of_closed (Ty.Plain Catalogue.declarations) (fun type =>
    type = .named "tree" ∨ type = .option (Catalogue.signed 64) ∨ type = Catalogue.signed 64 ∨
      type = .option (.box (.named "tree")) ∨ type = .box (.named "tree") ∨
      type = Catalogue.mapOf (.named "tree")) _ (Or.inl rfl) ?_ ?_
  · intro outer inner either merges
    cases merges with
    | field name declared field knownHere member =>
        obtain rfl : name = "tree" := by simpa [Catalogue.signed, Catalogue.mapOf] using either
        rw [known] at knownHere
        cases knownHere
        simp only [Catalogue.tree, List.mem_cons, List.not_mem_nil, or_false] at member
        rcases member with rfl | rfl | rfl <;> simp [Catalogue.optional, Catalogue.field]
    | held type content holds =>
        rcases either with rfl | rfl | rfl | rfl | rfl | rfl <;> cases holds
        exact Or.inl rfl
    | option =>
        obtain rfl | rfl : inner = Catalogue.signed 64 ∨ inner = .box (.named "tree") := by
          simpa [Catalogue.signed, Catalogue.mapOf] using either
        · simp
        · simp
    | _ => simp_all [Catalogue.signed, Catalogue.mapOf]
  · intro inner either
    rcases either with rfl | rfl | rfl | rfl | rfl | rfl
    · exact Or.inl ⟨Catalogue.tree, known, record⟩
    all_goals trivial

/-- A blank tree over one with a value and a kid. -/
theorem trees_merge_as_documents :
    ∃ (merged : Snapshot (Catalogue.declared "tree")) (form : Json),
      overlay? [⟨.product [.absent, .absent, .map []]⟩,
        ⟨.product [.present (.atom (.int 1)), .absent, .map [("x",
          .product [.absent, .absent, .map []])]]⟩] = some merged ∧ encode merged = some form ∧
      overlay? [.object [("child", .null), ("kids", .object []), ("value", .null)],
        .object [("child", .null), ("kids", .object [("x",
          .object [("child", .null), ("kids", .object []), ("value", .null)])]),
          ("value", .ofInt 1)]] = some form := by
  have blank : (Value.product [.absent, .absent, .map []]).Finite := by
    refine .product _ ?_
    simp [Value.Everywhere.absent, Value.Everywhere.map]
  have number : (Value.present (.atom (.int 1))).Finite := .present _ (.atom _ (by simp))
  have kids : (Value.map [("x", .product [.absent, .absent, .map []])]).Finite :=
    .map _ trivial (List.forall_mem_singleton.2 blank)
  have weak : (Value.product [.present (.atom (.int 1)), .absent, .map [("x",
      .product [.absent, .absent, .map []])]]).Finite := by
    refine .product _ ?_
    simp only [List.forall_mem_cons]
    exact ⟨number, .absent, kids, List.forall_mem_nil _⟩
  apply (merge_commutes_with_writing (Catalogue.declared "tree") tree_plain).2
  · simp
  · simp only [List.forall_mem_cons]
    exact ⟨blank, weak, List.forall_mem_nil _⟩
  · exact .cons rfl (.cons rfl .nil)

end LayeredConfig.Snapshot
