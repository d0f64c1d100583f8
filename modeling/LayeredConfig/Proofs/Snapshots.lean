import LayeredConfig.Proofs.Documents
import LayeredConfig.Snapshot.Write
import Mathlib.Data.List.Forall2
import Mathlib.Logic.Relation

/-!
# Parts of snapshots

A snapshot merges part by part, and its written form is made part by part. The lemmas here say for
each kind of container where a part of the written form comes from and what merging does to it.
-/
set_option autoImplicit false

namespace LayeredConfig.Snapshot

namespace Value

/-- Induction in which every part, item and entry has its own hypothesis. -/
@[elab_as_elim]
theorem induct {motive : Value → Prop} (atom : ∀ value, motive (.atom value))
    (absent : motive .absent) (present : ∀ value, motive value → motive (.present value))
    (held : ∀ value, motive value → motive (.held value))
    (frozen : ∀ value, motive value → motive (.frozen value))
    (product : ∀ parts, (∀ part ∈ parts, motive part) → motive (.product parts))
    (sequence : ∀ items, (∀ item ∈ items, motive item) → motive (.sequence items))
    (map : ∀ entries, (∀ entry ∈ entries, motive entry.2) → motive (.map entries))
    (variant : ∀ name content, motive content → motive (.variant name content))
    (dynamic : ∀ document, motive (.dynamic document)) (value : Value) : motive value :=
  @Value.rec motive (fun parts => ∀ part ∈ parts, motive part)
    (fun entries => ∀ entry ∈ entries, motive entry.2) (fun entry => motive entry.2)
    atom absent present held frozen product sequence map variant dynamic
    (List.forall_mem_nil _) (fun _ _ head tail => List.forall_mem_cons.2 ⟨head, tail⟩)
    (List.forall_mem_nil _) (fun _ _ head tail => List.forall_mem_cons.2 ⟨head, tail⟩)
    (fun _ _ value => value) value

theorem merge_entries_union (strong weak : List (String × Value)) :
    mergeEntries strong weak = Members.union merge strong weak := by
  induction strong with
  | nil => simp only [mergeEntries, Members.union]
  | cons entry rest ih =>
      obtain ⟨key, value⟩ := entry
      simp only [mergeEntries, Members.union, ih]
      cases Members.find? key weak <;> rfl

theorem merge_parts_at (strong weak : List Value) (index : Nat) :
    (mergeParts strong weak)[index]? =
      strong[index]?.map fun part => weak[index]?.elim part (merge part) := by
  induction strong generalizing weak index with
  | nil => simp only [mergeParts, List.getElem?_nil, Option.map_none]
  | cons part rest ih =>
      cases weak with
      | nil => simp [mergeParts]
      | cons other others => cases index <;> simp [mergeParts, ih]

theorem length_merge_parts (strong weak : List Value) :
    (mergeParts strong weak).length = strong.length := by
  induction strong generalizing weak with
  | nil => simp only [mergeParts]
  | cons part rest ih =>
      cases weak with
      | nil => simp only [mergeParts]
      | cons other others => simp only [mergeParts, List.length_cons, ih]

/-- The atoms, the maps and the dynamic documents of a value are all of a kind. -/
inductive Everywhere (atoms : Atom → Prop) (maps : List (String × Value) → Prop)
    (documents : Json → Prop) : Value → Prop
  | atom (value : Atom) (holds : atoms value) : Everywhere atoms maps documents (.atom value)
  | absent : Everywhere atoms maps documents .absent
  | present (value : Value) (inside : Everywhere atoms maps documents value) :
      Everywhere atoms maps documents (.present value)
  | held (value : Value) (inside : Everywhere atoms maps documents value) :
      Everywhere atoms maps documents (.held value)
  | frozen (value : Value) (inside : Everywhere atoms maps documents value) :
      Everywhere atoms maps documents (.frozen value)
  | product (parts : List Value) (inside : ∀ part ∈ parts, Everywhere atoms maps documents part) :
      Everywhere atoms maps documents (.product parts)
  | sequence (items : List Value) (inside : ∀ item ∈ items, Everywhere atoms maps documents item) :
      Everywhere atoms maps documents (.sequence items)
  | map (entries : List (String × Value)) (holds : maps entries)
      (inside : ∀ entry ∈ entries, Everywhere atoms maps documents entry.2) :
      Everywhere atoms maps documents (.map entries)
  | variant (name : String) (content : Value) (inside : Everywhere atoms maps documents content) :
      Everywhere atoms maps documents (.variant name content)
  | dynamic (document : Json) (holds : documents document) :
      Everywhere atoms maps documents (.dynamic document)

end Value

theorem mem_merge_parts (strong weak : List Value) (merged : Value)
    (member : merged ∈ Value.mergeParts strong weak) :
    merged ∈ strong ∨ ∃ part ∈ strong, ∃ other ∈ weak, merged = part.merge other := by
  obtain ⟨index, held⟩ := List.mem_iff_getElem?.1 member
  rw [Value.merge_parts_at] at held
  obtain ⟨part, found, same⟩ := Option.map_eq_some_iff.1 held
  have inStrong := List.mem_of_getElem? found
  cases otherFound : weak[index]? with
  | none =>
      rw [otherFound] at same
      exact Or.inl (same ▸ inStrong)
  | some other =>
      rw [otherFound] at same
      exact Or.inr ⟨part, inStrong, other, List.mem_of_getElem? otherFound, same.symm⟩

theorem everywhere_merge {atoms : Atom → Prop} {maps : List (String × Value) → Prop}
    {documents : Json → Prop}
    (unions : ∀ strong weak, maps strong → maps weak → maps (Members.union Value.merge strong weak))
    (merges : ∀ strong weak, documents strong → documents weak → documents (strong.merge weak))
    (strong weak : Value) (strongHolds : strong.Everywhere atoms maps documents)
    (weakHolds : weak.Everywhere atoms maps documents) :
    (strong.merge weak).Everywhere atoms maps documents := by
  induction strongHolds generalizing weak with
  | absent => simpa only [Value.merge] using weakHolds
  | present value inside ih =>
      cases weakHolds with
      | present other otherInside =>
          rw [Value.merge]
          exact .present _ (ih other otherInside)
      | _ =>
          simp only [Value.merge]
          exact .present _ inside
  | held value inside ih =>
      cases weakHolds with
      | held other otherInside =>
          rw [Value.merge]
          exact .held _ (ih other otherInside)
      | _ =>
          simp only [Value.merge]
          exact .held _ inside
  | product parts inside ih =>
      cases weakHolds with
      | product others otherInside =>
          rw [Value.merge]
          refine .product _ ?_
          intro merged member
          rcases mem_merge_parts parts others merged member with
            own | ⟨part, inParts, other, inOthers, rfl⟩
          · exact inside merged own
          · exact ih part inParts other (otherInside other inOthers)
      | _ =>
          simp only [Value.merge]
          exact .product _ inside
  | map entries holds inside ih =>
      cases weakHolds with
      | map others otherHolds otherInside =>
          rw [Value.merge, Value.merge_entries_union]
          refine .map _ (unions entries others holds otherHolds) ?_
          intro entry member
          rcases Members.mem_union _ _ _ _ member with stronger | weaker | both
          · exact inside entry stronger
          · exact otherInside entry weaker
          · obtain ⟨first, second, inStrong, inWeak, combined⟩ := both
            rw [combined]
            exact ih _ inStrong second (otherInside _ inWeak)
      | _ =>
          simp only [Value.merge]
          exact .map _ holds inside
  | dynamic document holds =>
      cases weakHolds with
      | dynamic other otherHolds =>
          rw [Value.merge]
          exact .dynamic _ (merges document other holds otherHolds)
      | _ =>
          simp only [Value.merge]
          exact .dynamic _ holds
  | atom value holds =>
      simp only [Value.merge]
      exact .atom _ holds
  | frozen value inside ih =>
      simp only [Value.merge]
      exact .frozen _ inside
  | sequence items inside ih =>
      simp only [Value.merge]
      exact .sequence _ inside
  | variant name content inside ih =>
      simp only [Value.merge]
      exact .variant _ _ inside

/-- Merging values of the outer type merges values of the inner one. -/
inductive Ty.Merges (declarations : Declarations) : Ty → Ty → Prop
  | option (content : Ty) : Merges declarations (.option content) content
  | held (type content : Ty) (holds : type.held? declarations = some content) :
      Merges declarations type content
  | array (size : Nat) (item : Ty) : Merges declarations (.array size item) item
  | tuple (items : List Ty) (item : Ty) (member : item ∈ items) :
      Merges declarations (.tuple items) item
  | map (keys : KeyKind) (value : Ty) : Merges declarations (.map keys value) value
  | field (name : String) (declared : Record) (field : Field)
      (known : declarations name = some (.record declared)) (member : field ∈ declared.fields) :
      Merges declarations (.named name) field.type

/-- A property of every type whose values merge inside the values of a type, itself included. -/
def Ty.Throughout (declarations : Declarations) (holds : Ty → Prop) (type : Ty) : Prop :=
  ∀ inner, Relation.ReflTransGen (Ty.Merges declarations) type inner → holds inner

variable {declarations : Declarations}

theorem throughout_here (holds : Ty → Prop) (type : Ty)
    (all : type.Throughout declarations holds) : holds type :=
  all type Relation.ReflTransGen.refl

theorem throughout_inside (holds : Ty → Prop) (type inner : Ty)
    (all : type.Throughout declarations holds) (merges : type.Merges declarations inner) :
    inner.Throughout declarations holds :=
  fun innermost path => all innermost (Relation.ReflTransGen.head merges path)

theorem throughout_of_inside (holds : Ty → Prop) (type : Ty) (here : holds type)
    (inside : ∀ inner, type.Merges declarations inner → inner.Throughout declarations holds) :
    type.Throughout declarations holds := by
  intro inner path
  rcases Relation.ReflTransGen.cases_head path with rfl | ⟨next, merges, rest⟩
  · exact here
  · exact inside next merges inner rest

/-- A set of types that is closed under merging inside settles a property of all of them. -/
theorem throughout_of_closed (holds closed : Ty → Prop) (type : Ty) (start : closed type)
    (step : ∀ outer inner, closed outer → outer.Merges declarations inner → closed inner)
    (all : ∀ inner, closed inner → holds inner) : type.Throughout declarations holds := by
  intro inner path
  apply all
  induction path with
  | refl => exact start
  | tail _ merges ih => exact step _ _ ih merges

theorem forms_at {α β : Type} (form : α → Option β) (values : List α) (forms : List β)
    (written : List.Forall₂ (fun value result => form value = some result) values forms)
    (index : Nat) : forms[index]? = values[index]?.bind form := by
  induction written generalizing index with
  | nil => rfl
  | cons head tail ih =>
      cases index with
      | zero => simp [head]
      | succ index => simpa using ih index

theorem forms_exist {α β : Type} (form : α → Option β) (values : List α)
    (each : ∀ value ∈ values, ∃ result, form value = some result) :
    ∃ forms, List.Forall₂ (fun value result => form value = some result) values forms := by
  induction values with
  | nil => exact ⟨[], List.Forall₂.nil⟩
  | cons value rest ih =>
      obtain ⟨⟨result, wrote⟩, others⟩ := List.forall_mem_cons.1 each
      obtain ⟨forms, written⟩ := ih others
      exact ⟨result :: forms, List.Forall₂.cons wrote written⟩

theorem form_of_mem {α β : Type} (related : α → β → Prop) (values : List α) (forms : List β)
    (written : List.Forall₂ related values forms) (value : α) (member : value ∈ values) :
    ∃ form, related value form := by
  induction written with
  | nil => cases member
  | cons head tail ih =>
      rcases List.mem_cons.1 member with rfl | later
      · exact ⟨_, head⟩
      · exact ih later

theorem value_of_form_mem {α β : Type} (related : α → β → Prop) (values : List α) (forms : List β)
    (written : List.Forall₂ related values forms) (form : β) (member : form ∈ forms) :
    ∃ value ∈ values, related value form := by
  induction written with
  | nil => cases member
  | cons head tail ih =>
      rcases List.mem_cons.1 member with rfl | later
      · exact ⟨_, List.mem_cons_self, head⟩
      · obtain ⟨value, inValues, holds⟩ := ih later
        exact ⟨value, List.mem_cons_of_mem _ inValues, holds⟩

theorem held_cases (type content : Ty) (holds : type.held? declarations = some content) :
    type = .box content ∨ type = .newtype content ∨ ∃ name declared,
      type = .named name ∧ declarations name = some (.newtype declared) ∧
        content = declared.content := by
  cases type with
  | box inner => exact Or.inl (congrArg Ty.box (Option.some.inj holds))
  | newtype inner => exact Or.inr (Or.inl (congrArg Ty.newtype (Option.some.inj holds)))
  | named name =>
      simp only [Ty.held?] at holds
      split at holds
      · rename_i declared known
        exact Or.inr (Or.inr ⟨name, declared, rfl, known, (Option.some.inj holds).symm⟩)
      · cases holds
  | _ => cases holds

section

attribute [local simp] write

theorem held_of_written (value : Value) (type content : Ty) (form : Json)
    (holds : type.held? declarations = some content)
    (wrote : write declarations value type = some form) :
    ∃ inner, value = .held inner ∧ write declarations inner content = some form := by
  cases value with
  | held inner => exact ⟨inner, rfl, by simpa [holds] using wrote⟩
  | _ =>
      rcases held_cases type content holds with rfl | rfl | ⟨name, declared, rfl, known, -⟩ <;>
        simp [*] at wrote

variable (value : Value) (form : Json)

theorem atom_of_written (kind : Scalar) (wrote : write declarations value (.scalar kind) = some form) :
    ∃ atom, value = .atom atom ∧ kind.write atom = some form := by
  cases value with
  | atom atom => exact ⟨atom, rfl, by simpa using wrote⟩
  | _ => simp [Ty.held?] at wrote

theorem option_of_written (content : Ty)
    (wrote : write declarations value (.option content) = some form) :
    value = .absent ∧ form = .null ∨
      ∃ inner, value = .present inner ∧ write declarations inner content = some form := by
  cases value with
  | absent => exact Or.inl ⟨rfl, by simpa using wrote.symm⟩
  | present inner => exact Or.inr ⟨inner, rfl, by simpa using wrote⟩
  | _ => simp [Ty.held?] at wrote

theorem frozen_of_written (content : Ty)
    (wrote : write declarations value (.replaced content) = some form) :
    ∃ inner, value = .frozen inner ∧ write declarations inner content = some form := by
  cases value with
  | frozen inner => exact ⟨inner, rfl, by simpa using wrote⟩
  | _ => simp [Ty.held?] at wrote

theorem sequence_of_written (item : Ty)
    (wrote : write declarations value (.sequence item) = some form) :
    ∃ items forms, value = .sequence items ∧ writeItems declarations items item = some forms ∧
      form = .array forms := by
  cases value with
  | sequence items =>
      simp only [write] at wrote
      obtain ⟨inner, innerWrote, rfl⟩ := Option.map_eq_some_iff.1 wrote
      exact ⟨items, inner, rfl, innerWrote, rfl⟩
  | _ => simp [Ty.held?] at wrote

theorem array_of_written (size : Nat) (item : Ty)
    (wrote : write declarations value (.array size item) = some form) :
    ∃ parts forms, value = .product parts ∧ writeItems declarations parts item = some forms ∧
      form = .array forms := by
  cases value with
  | product parts =>
      simp only [write] at wrote
      obtain ⟨inner, innerWrote, rfl⟩ := Option.map_eq_some_iff.1 wrote
      exact ⟨parts, inner, rfl, innerWrote, rfl⟩
  | _ => simp [Ty.held?] at wrote

theorem tuple_of_written (items : List Ty)
    (wrote : write declarations value (.tuple items) = some form) :
    ∃ parts forms, value = .product parts ∧ writeTuple declarations parts items = some forms ∧
      form = .array forms := by
  cases value with
  | product parts =>
      simp only [write] at wrote
      obtain ⟨inner, innerWrote, rfl⟩ := Option.map_eq_some_iff.1 wrote
      exact ⟨parts, inner, rfl, innerWrote, rfl⟩
  | _ => simp [Ty.held?] at wrote

theorem map_of_written (keys : KeyKind) (type : Ty)
    (wrote : write declarations value (.map keys type) = some form) :
    ∃ entries members, value = .map entries ∧
      writeEntries declarations entries type = some members ∧ form = .object members := by
  cases value with
  | map entries =>
      simp only [write] at wrote
      obtain ⟨inner, innerWrote, rfl⟩ := Option.map_eq_some_iff.1 wrote
      exact ⟨entries, inner, rfl, innerWrote, rfl⟩
  | _ => simp [Ty.held?] at wrote

theorem dynamic_of_written (wrote : write declarations value .json = some form) :
    value = .dynamic form := by
  cases value with
  | dynamic document => exact congrArg Value.dynamic (by simpa using wrote)
  | _ => simp [Ty.held?] at wrote

theorem product_of_written (name : String) (declared : Record)
    (known : declarations name = some (.record declared))
    (wrote : write declarations value (.named name) = some form) :
    ∃ parts, value = .product parts := by
  cases value with
  | product parts => exact ⟨parts, rfl⟩
  | _ => simp [Ty.held?, known] at wrote

theorem variant_of_written (name : String) (alternatives : List Alternative) (blank : Value)
    (tagging : Tagging) (known : declarations name = some (.enumeration alternatives blank tagging))
    (wrote : write declarations value (.named name) = some form) :
    ∃ chosen content, value = .variant chosen content := by
  cases value with
  | variant chosen content => exact ⟨chosen, content, rfl⟩
  | _ => simp [Ty.held?, known] at wrote

end

theorem write_items_iff (items : List Value) (type : Ty) (written : List Json) :
    writeItems declarations items type = some written ↔
      List.Forall₂ (fun item form => write declarations item type = some form) items written := by
  induction items generalizing written with
  | nil => simp [writeItems, eq_comm]
  | cons item rest ih =>
      simp only [writeItems]
      constructor
      · intro wrote
        split at wrote
        · rename_i form others itemWrote restWrote
          cases wrote
          exact List.Forall₂.cons itemWrote ((ih others).1 restWrote)
        · cases wrote
      · intro either
        rcases either with _ | ⟨itemWrote, restWrote⟩
        rw [itemWrote, (ih _).2 restWrote]

theorem write_tuple_iff (items : List Value) (types : List Ty) (written : List Json) :
    writeTuple declarations items types = some written ↔ items.length = types.length ∧
      List.Forall₂ (fun part form => write declarations part.1 part.2 = some form)
        (items.zip types) written := by
  induction items generalizing types written with
  | nil => cases types <;> simp [writeTuple, eq_comm]
  | cons item rest ih =>
      cases types with
      | nil => simp [writeTuple]
      | cons type types =>
          simp only [writeTuple, List.zip_cons_cons, List.length_cons, Nat.add_right_cancel_iff]
          constructor
          · intro wrote
            split at wrote
            · rename_i form others itemWrote restWrote
              cases wrote
              obtain ⟨sizes, parts⟩ := (ih types others).1 restWrote
              exact ⟨sizes, List.Forall₂.cons itemWrote parts⟩
            · cases wrote
          · intro held
            obtain ⟨sizes, _ | ⟨itemWrote, restWrote⟩⟩ := held
            rw [itemWrote, (ih types _).2 ⟨sizes, restWrote⟩]

theorem write_entries_iff (entries : List (String × Value)) (type : Ty)
    (written : List (String × Json)) :
    writeEntries declarations entries type = some written ↔
      List.Forall₂ (fun entry member => entry.1 = member.1 ∧
        write declarations entry.2 type = some member.2) entries written := by
  induction entries generalizing written with
  | nil => simp [writeEntries, eq_comm]
  | cons entry rest ih =>
      obtain ⟨key, value⟩ := entry
      simp only [writeEntries]
      constructor
      · intro wrote
        split at wrote
        · rename_i form others valueWrote restWrote
          cases wrote
          exact List.Forall₂.cons ⟨rfl, valueWrote⟩ ((ih others).1 restWrote)
        · cases wrote
      · intro either
        rcases either with _ | ⟨⟨sameKey, valueWrote⟩, restWrote⟩
        obtain rfl := sameKey
        rw [valueWrote, (ih _).2 restWrote]

theorem find_entries (entries : List (String × Value)) (type : Ty)
    (written : List (String × Json)) (wrote : writeEntries declarations entries type = some written)
    (key : String) :
    Members.find? key written =
      (Members.find? key entries).bind fun value => write declarations value type := by
  rw [write_entries_iff] at wrote
  induction wrote with
  | nil => rfl
  | @cons entry member rest members head tail ih =>
      by_cases same : entry.1 = key
      · simp [Members.find?, same, ← head.1, head.2]
      · simpa [Members.find?, same, ← head.1] using ih

theorem entry_form (entries : List (String × Value)) (type : Ty) (written : List (String × Json))
    (wrote : writeEntries declarations entries type = some written) (entry : String × Value)
    (member : entry ∈ entries) : ∃ form, write declarations entry.2 type = some form := by
  obtain ⟨form, -, entryWrote⟩ :=
    form_of_mem _ _ _ ((write_entries_iff _ _ _).1 wrote) entry member
  exact ⟨_, entryWrote⟩

theorem entries_exist (entries : List (String × Value)) (type : Ty)
    (each : ∀ entry ∈ entries, ∃ form, write declarations entry.2 type = some form) :
    ∃ written, writeEntries declarations entries type = some written := by
  induction entries with
  | nil => exact ⟨[], by simp only [writeEntries]⟩
  | cons entry rest ih =>
      obtain ⟨⟨form, wrote⟩, others⟩ := List.forall_mem_cons.1 each
      obtain ⟨written, restWrote⟩ := ih others
      exact ⟨(entry.1, form) :: written, by simp only [writeEntries, wrote, restWrote]⟩

end LayeredConfig.Snapshot
