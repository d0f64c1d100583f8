import LayeredConfig.Proofs.Members
import LayeredConfig.Snapshot.Read

/-!
# What is read from a document

A value is read part by part, as it is written: items from items, entries and fields from the members
under their keys.
-/
set_option autoImplicit false

namespace LayeredConfig.Snapshot

variable {declarations : Declarations}

theorem item_readers_eq (items : List Json) :
    itemReaders declarations items = items.map (read declarations) := by
  induction items with
  | nil => rfl
  | cons item rest ih => simp only [itemReaders, List.map_cons, ih]

theorem find_reader (key : String) (members : List (String × Json)) :
    Members.find? key (memberReaders declarations members) =
      (Members.find? key members).map (read declarations) := by
  induction members with
  | nil => rfl
  | cons member rest ih =>
      obtain ⟨other, value⟩ := member
      simp only [memberReaders, Members.find?, ih]
      split <;> rfl

theorem read_option (document : Json) (content : Ty) :
    read declarations document (.option content) =
      if document.isNull then some .absent
      else (read declarations document content).map .present := by
  cases document <;> simp only [read, Level.read, Level.readIn]

theorem read_in_of_bare (level : Level) (first second : String → Option Value) :
    (type : Ty) → type.isBare → level.readIn first type = level.readIn second type
  | .named _, bare => by cases bare
  | .option content, bare | .box content, bare | .newtype content, bare | .replaced content, bare => by
      simp only [Level.readIn, read_in_of_bare level first second content bare]
  | .scalar _, _ | .sequence _, _ | .array _ _, _ | .tuple _, _ | .map _ _, _ | .json, _ => by
      simp only [Level.readIn]

theorem read_held (document : Json) (type content : Ty)
    (held : type.held? declarations = some content) :
    read declarations document type = (read declarations document content).map .held := by
  cases type with
  | box inner | newtype inner =>
      cases held
      cases document <;> simp only [read, Level.read, Level.readIn]
  | named name =>
      simp only [Ty.held?] at held
      split at held
      · rename_i declared known
        cases held
        have inside (level : Level) : level.read declarations (.named name) =
            (level.read declarations declared.content).map .held := by
          simp only [Level.read, Level.readIn, Level.readNamed, known]
          rw [read_in_of_bare level _ _ _ declared.bare]
        cases document <;> simp only [read, inside]
      · cases held
  | _ => cases held

theorem read_replaced (document : Json) (content : Ty) :
    read declarations document (.replaced content) =
      (read declarations document content).map .frozen := by
  cases document <;> simp only [read, Level.read, Level.readIn]

theorem read_json (document : Json) : read declarations document .json = some (.dynamic document) := by
  cases document <;> simp only [read, Level.read, Level.readIn]

theorem map_m_eq_some {α β : Type} (form : α → Option β) (values : List α) (forms : List β) :
    values.mapM form = some forms ↔
      List.Forall₂ (fun value result => form value = some result) values forms := by
  induction values generalizing forms with
  | nil => simp [eq_comm]
  | cons value rest ih =>
      rw [List.mapM_cons, List.forall₂_cons_left_iff]
      constructor
      · intro mapped
        obtain ⟨first, here, others⟩ := Option.bind_eq_some_iff.1 mapped
        obtain ⟨later, there, same⟩ := Option.bind_eq_some_iff.1 others
        exact ⟨first, later, here, (ih later).1 there, (Option.some.inj same).symm⟩
      · intro held
        obtain ⟨first, later, here, there, rfl⟩ := held
        rw [here, (ih later).2 there]
        rfl

theorem read_sequence (items : List Json) (item : Ty) (found : Value)
    (reads : read declarations (.array items) (.sequence item) = some found) :
    ∃ values, found = .sequence values ∧
      List.Forall₂ (fun form value => read declarations form item = some value) items values := by
  simp only [read, Level.read, Level.readIn, Node.items?, Option.bind_some, item_readers_eq,
    Option.map_eq_some_iff] at reads
  obtain ⟨values, each, rfl⟩ := reads
  refine ⟨values, rfl, ?_⟩
  have mapped := (map_m_eq_some _ _ _).1 each
  exact List.forall₂_map_left_iff.1 mapped

theorem read_tuple_eq (items : List Json) (types : List Ty) (values : List Value) :
    readTuple (items.map (read declarations)) types = some values ↔
      items.length = types.length ∧
        List.Forall₂ (fun part value => read declarations part.1 part.2 = some value)
          (items.zip types) values := by
  induction items generalizing types values with
  | nil => cases types <;> simp [readTuple, eq_comm]
  | cons item items ih =>
      cases types with
      | nil => simp [readTuple]
      | cons type types =>
          simp only [List.map_cons, readTuple, List.length_cons, List.zip_cons_cons,
            Nat.add_right_cancel_iff]
          constructor
          · intro found
            split at found
            · rename_i value others first rest
              cases found
              obtain ⟨sizes, parts⟩ := (ih types others).1 rest
              exact ⟨sizes, List.Forall₂.cons first parts⟩
            · cases found
          · intro held
            obtain ⟨sizes, _ | ⟨first, rest⟩⟩ := held
            rw [first, (ih types _).2 ⟨sizes, rest⟩]

theorem read_entries_eq (keys : KeyKind) (type : Ty) (members : List (String × Json))
    (entries : List (String × Value)) :
    readEntries keys type (memberReaders declarations members) = some entries ↔
      (∀ member ∈ members, keys.accepts member.1) ∧
        Members.Related (fun form value => read declarations form type = some value) members
          entries := by
  induction members generalizing entries with
  | nil =>
      simp only [memberReaders, readEntries, Members.Related, List.forall₂_nil_left_iff,
        Option.some.injEq]
      exact ⟨fun same => ⟨List.forall_mem_nil _, same.symm⟩, fun held => held.2.symm⟩
  | cons member rest ih =>
      obtain ⟨key, form⟩ := member
      simp only [memberReaders, readEntries, List.forall_mem_cons]
      by_cases accepted : keys.accepts key
      · rw [if_pos accepted]
        constructor
        · intro found
          split at found
          · rename_i value others first later
            cases found
            obtain ⟨allAccepted, related⟩ := (ih others).1 later
            exact ⟨⟨accepted, allAccepted⟩, List.Forall₂.cons ⟨rfl, first⟩ related⟩
          · cases found
        · intro held
          obtain ⟨⟨-, allAccepted⟩, _ | ⟨first, later⟩⟩ := held
          obtain ⟨sameKey, firstRead⟩ := first
          obtain rfl := sameKey
          rw [firstRead, (ih _).2 ⟨allAccepted, later⟩]
      · rw [if_neg accepted]
        simp [accepted]

theorem read_members_at (declared : Record) (members left : List (String × Reader))
    (fields : List Field) (values : List Value)
    (plain : ∀ field ∈ fields, field.presence ≠ .flattened)
    (found : declared.readMembers declarations members left fields = some values) :
    values.length = fields.length ∧ ∀ (index : Nat) field value, fields[index]? = some field →
      values[index]? = some value → declared.readMember members field = some value := by
  induction fields generalizing values with
  | nil =>
      simp only [Record.readMembers, Option.some.injEq] at found
      subst found
      exact ⟨rfl, by simp⟩
  | cons field fields ih =>
      obtain ⟨own, others⟩ := List.forall_mem_cons.1 plain
      simp only [Record.readMembers] at found
      split at found
      · rename_i value rest first later
        cases found
        obtain ⟨sizes, each⟩ := ih rest others later
        refine ⟨by simp [sizes], ?_⟩
        intro index field value fieldAt valueAt
        cases index with
        | zero =>
            cases fieldAt
            cases valueAt
            exact first
        | succ index => exact each index field value (by simpa using fieldAt) (by simpa using valueAt)
      · cases found

theorem read_items_at (declared : Record) (fields : List Field) (items : List Json)
    (values : List Value) (always : ∀ field ∈ fields, field.presence = .always)
    (sized : items.length = fields.length)
    (found : declared.readItems fields (items.map (read declarations)) = some values) :
    values.length = fields.length ∧ ∀ (index : Nat) field item value,
      fields[index]? = some field → items[index]? = some item → values[index]? = some value →
        read declarations item field.type = some value := by
  induction fields generalizing items values with
  | nil =>
      cases items with
      | cons item items => cases sized
      | nil =>
          simp only [List.map_nil, Record.readItems, Option.some.injEq] at found
          subst found
          exact ⟨rfl, by simp⟩
  | cons field fields ih =>
      obtain ⟨own, others⟩ := List.forall_mem_cons.1 always
      cases items with
      | nil => cases sized
      | cons item items =>
          simp only [List.map_cons, Record.readItems, own] at found
          split at found
          · rename_i value rest first later
            cases found
            obtain ⟨sizes, each⟩ := ih items rest others (by simpa using sized) later
            refine ⟨by simp [sizes], ?_⟩
            intro index field other value fieldAt itemAt valueAt
            cases index with
            | zero =>
                cases fieldAt
                cases itemAt
                cases valueAt
                exact first
            | succ index =>
                exact each index field other value (by simpa using fieldAt) (by simpa using itemAt)
                  (by simpa using valueAt)
          · cases found

end LayeredConfig.Snapshot
