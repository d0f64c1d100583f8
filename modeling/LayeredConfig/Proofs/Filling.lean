import LayeredConfig.Proofs.SnapshotLayers
import LayeredConfig.Proofs.Typing

/-!
# Filling in from below

One value is another one filled in when it differs only where the other says nothing: an unset option
has become some value, and maps have further entries. A value over something weaker is itself filled in,
and what is filled in stays so under every stronger value. The second law is what lets a layer be added
beneath a whole fold.
-/
set_option autoImplicit false

namespace LayeredConfig

namespace Json

/-- Every scalar of a document is in another one in the same place. -/
def KeptIn (document filled : Json) : Prop :=
  ∀ place value, value.isScalar → at? place document = some value → at? place filled = some value

theorem whole_of_scalar (value : Json) (scalar : value.isScalar) : value.isWhole := by
  cases value <;> first | rfl | cases scalar

theorem kept_in_merge (document weak : Json) : document.KeptIn (document.merge weak) := by
  intro place value scalar held
  have laid := merge_laid document weak
  by_cases opened : opens place document
  · obtain rfl := laid.silent place value opened held
    cases scalar
  · exact laid.keeps place value opened (whole_of_scalar value scalar) held

theorem kept_in_over (document below filled : Json) (kept : below.KeptIn filled) :
    (document.merge below).KeptIn (document.merge filled) := by
  intro place value scalar held
  have laid := merge_laid document below
  have filledLaid := merge_laid document filled
  by_cases opened : opens place document
  · have present : value ≠ .null := by
      rintro rfl
      cases scalar
    have heldBelow := (laid.yields place value opened present).1 held
    exact (filledLaid.yields place value opened present).2 (kept place value scalar heldBelow)
  · have whole := whole_of_scalar value scalar
    obtain ⟨own, ownHeld, -, same⟩ := laid.owes place value opened held
    obtain rfl := same (Or.inl whole)
    exact filledLaid.keeps place own opened whole ownHeld

end Json

namespace Snapshot

variable (declarations : Declarations) (required : Prop)

def Value.IsWritten (value : Value) (type : Ty) : Prop :=
  ∃ form, write declarations value type = some form

/-- A value of a type that may come in from below. It is written if that is required. -/
def Value.Offered (value : Value) (type : Ty) : Prop :=
  value.HasType declarations type ∧ (required → value.IsWritten declarations type)

/-- A value of a type that lies below where nothing did. A field may leave it out, and a value in which
no other takes part need not have a written form then. -/
def Value.Arrives (value : Value) (type : Ty) : Prop :=
  value.HasType declarations type ∧
    (required → value.IsWritten declarations type ∨ value.Whole declarations type)

/-- Whether a part of a value can be seen in its written form: every part but a field that is never
written, and none of a record that is written as one text. -/
def Ty.Shows (type : Ty) (index : Nat) : Prop :=
  ∀ name declared field, type = .named name → declarations name = some (.record declared) →
    declared.fields[index]? = some field → declared.form = .container ∧ field.isWritten

theorem shows_unnamed {declarations : Declarations} (type : Ty) (index : Nat)
    (unnamed : ∀ name, type ≠ .named name) : type.Shows declarations index := by
  intro name _ _ same
  exact absurd same (unnamed name)

theorem shows_field {declarations : Declarations} (name : String) (declared : Record) (field : Field)
    (index : Nat) (known : declarations name = some (.record declared))
    (fieldAt : declared.fields[index]? = some field) (container : declared.form = .container)
    (written : field.isWritten) : (Ty.named name).Shows declarations index := by
  intro otherName otherDeclared otherField same otherKnown otherFieldAt
  cases same
  rw [known] at otherKnown
  cases otherKnown
  rw [fieldAt] at otherFieldAt
  cases otherFieldAt
  exact ⟨container, written⟩

/-- A value and what it is after it was filled in from below. -/
inductive Value.Filled : Value → Value → Ty → Prop
  | same (value : Value) (type : Ty) : Filled value value type
  | absent (value : Value) (content : Ty)
      (offered : value.Offered declarations required (.option content)) :
      Filled .absent value (.option content)
  | present (value other : Value) (content : Ty) (inside : Filled value other content) :
      Filled (.present value) (.present other) (.option content)
  | held (value other : Value) (type content : Ty) (holds : type.held? declarations = some content)
      (inside : Filled value other content) : Filled (.held value) (.held other) type
  | product (parts others : List Value) (type : Ty) (types : List Ty)
      (laid : type.parts? declarations = some types) (sized : parts.length = types.length)
      (otherSized : others.length = types.length)
      (atoms : ∀ (index : Nat) value, parts[index]? = some (.atom value) →
        others[index]? = some (.atom value))
      (inside : ∀ (index : Nat) part other inner, parts[index]? = some part →
        others[index]? = some other → types[index]? = some inner → type.Shows declarations index →
          Filled part other inner) :
      Filled (.product parts) (.product others) type
  | map (entries others : List (String × Value)) (keys : KeyKind) (type : Ty)
      (sorted : Members.Sorted others)
      (kept : ∀ key, Members.find? key others = none → Members.find? key entries = none)
      (inside : ∀ key value other, Members.find? key entries = some value →
        Members.find? key others = some other → Filled value other type)
      (added : ∀ key other, Members.find? key entries = none →
        Members.find? key others = some other → other.Offered declarations required type) :
      Filled (.map entries) (.map others) (.map keys type)
  | dynamic (document other : Json) (kept : document.KeptIn other)
      (speaks : other = .null → document = .null) :
      Filled (.dynamic document) (.dynamic other) .json

variable {declarations : Declarations} {required : Prop}

theorem offered_of_arrives (value : Value) (type : Ty)
    (arrives : value.Arrives declarations required type)
    (mixed : ¬ value.Whole declarations type) : value.Offered declarations required type :=
  ⟨arrives.1, fun needed => (arrives.2 needed).resolve_right mixed⟩

theorem arrives_of_offered (value : Value) (type : Ty)
    (offered : value.Offered declarations required type) :
    value.Arrives declarations required type :=
  ⟨offered.1, fun needed => Or.inl (offered.2 needed)⟩

theorem offered_inside (value part : Value) (type inner : Ty)
    (offered : value.Offered declarations required type)
    (typed : part.HasType declarations inner)
    (written : ∀ form, write declarations value type = some form →
      part.IsWritten declarations inner) : part.Offered declarations required inner := by
  refine ⟨typed, ?_⟩
  intro needed
  obtain ⟨form, wrote⟩ := offered.2 needed
  exact written form wrote

theorem arriving_part (parts : List Value) (type : Ty) (types : List Ty)
    (laid : type.parts? declarations = some types) (regular : type.Regular declarations)
    (offered : (Value.product parts).Offered declarations required type) (index : Nat) (part : Value)
    (inner : Ty) (partAt : parts[index]? = some part) (innerAt : types[index]? = some inner)
    (shows : type.Shows declarations index) : part.Arrives declarations required inner := by
  obtain ⟨_, same, -, partsTyped⟩ := typed_product _ type types laid offered.1
  cases same
  refine ⟨partsTyped index part inner partAt innerAt, fun needed => ?_⟩
  obtain ⟨form, wrote⟩ := offered.2 needed
  cases type with
  | array size item =>
      obtain rfl : types = List.replicate size item := (Option.some.inj laid).symm
      obtain rfl := List.eq_of_mem_replicate (List.mem_of_getElem? innerAt)
      simp only [write, Option.map_eq_some_iff, write_items_iff] at wrote
      obtain ⟨forms, written, -⟩ := wrote
      exact Or.inl (form_of_mem _ _ _ written part (List.mem_of_getElem? partAt))
  | tuple items =>
      obtain rfl : types = items := (Option.some.inj laid).symm
      simp only [write, Option.map_eq_some_iff, write_tuple_iff] at wrote
      obtain ⟨forms, ⟨-, written⟩, -⟩ := wrote
      have both : (parts.zip types)[index]? = some (part, inner) :=
        List.getElem?_zip_eq_some.2 ⟨partAt, innerAt⟩
      exact Or.inl (form_of_mem _ _ _ written _ (List.mem_of_getElem? both))
  | named name =>
      simp only [Ty.parts?] at laid
      split at laid
      · rename_i declared known
        obtain rfl := Option.some.inj laid
        rw [List.getElem?_map] at innerAt
        obtain ⟨field, fieldAt, rfl⟩ := Option.map_eq_some_iff.1 innerAt
        obtain ⟨container, written⟩ := shows name declared field rfl known fieldAt
        obtain ⟨-, writes, -⟩ := (write_record_iff name declared parts form known container).1 wrote
        have both : (declared.fields.zip parts)[index]? = some (field, part) :=
          List.getElem?_zip_eq_some.2 ⟨fieldAt, partAt⟩
        rcases writes _ (List.mem_of_getElem? both) with omitted | ⟨own, partWrote, -⟩
        · have careful := (regular declared known).2 field (List.mem_of_getElem? fieldAt)
          exact (silent_or_whole field part careful written omitted).imp_left
            (writes_of_silent part field.type)
        · exact Or.inl ⟨own, partWrote⟩
      · cases laid
  | _ => cases laid

theorem offered_entry (entries : List (String × Value)) (keys : KeyKind) (type : Ty)
    (offered : (Value.map entries).Offered declarations required (.map keys type)) (key : String)
    (value : Value) (found : Members.find? key entries = some value) :
    value.Offered declarations required type := by
  have member := Members.mem_of_find _ _ _ found
  cases offered.1 with
  | map _ _ _ sorted accepted inside =>
      apply offered_inside _ value _ type offered (inside _ member)
      intro form wrote
      simp only [write, Option.map_eq_some_iff] at wrote
      obtain ⟨members, written, -⟩ := wrote
      exact entry_form entries type members written _ member

/-- What lies below and what lies there after something was added at the bottom: where there was nothing
something has arrived, and what was there is filled in. -/
inductive Value.FilledBelow (declarations : Declarations) (required : Prop) :
    Option Value → Option Value → Ty → Prop
  | nothing (type : Ty) : FilledBelow declarations required none none type
  | added (value : Value) (type : Ty) (arrives : value.Arrives declarations required type) :
      FilledBelow declarations required none (some value) type
  | filled (value other : Value) (type : Ty)
      (inside : value.Filled declarations required other type) :
      FilledBelow declarations required (some value) (some other) type

theorem filled_below_same (below : Option Value) (type : Ty) :
    Value.FilledBelow declarations required below below type := by
  cases below with
  | none => exact .nothing type
  | some value => exact .filled value value type (.same value type)

theorem offered_content (value inner : Value) (outer content : Ty)
    (offered : value.Offered declarations required outer)
    (typed : inner.HasType declarations content)
    (same : write declarations value outer = write declarations inner content) :
    inner.Offered declarations required content := by
  apply offered_inside value inner outer content offered typed
  intro form wrote
  exact ⟨form, same ▸ wrote⟩

theorem filled_below_content (content? : Value → Option Value) (outer content : Ty)
    (offers : ∀ value, value.Arrives declarations required outer →
      Value.FilledBelow declarations required none (content? value) content)
    (fills : ∀ value other, value.Filled declarations required other outer →
      Value.FilledBelow declarations required (content? value) (content? other) content)
    (below filled : Option Value) (under : Value.FilledBelow declarations required below filled outer) :
    Value.FilledBelow declarations required (below.bind content?) (filled.bind content?) content := by
  cases under with
  | nothing => exact .nothing content
  | added value _ offer => exact offers value offer
  | filled value other _ inside => exact fills value other inside

theorem filled_below_present (below filled : Option Value) (content : Ty)
    (under : Value.FilledBelow declarations required below filled (.option content)) :
    Value.FilledBelow declarations required (below.bind Value.present?)
      (filled.bind Value.present?) content := by
  have offers (value : Value) (offer : value.Offered declarations required (.option content)) :
      Value.FilledBelow declarations required none value.present? content := by
    rcases typed_option value content offer.1 with rfl | ⟨inner, rfl, typed⟩
    · exact .nothing content
    · exact .added inner content (arrives_of_offered inner content
        (offered_content _ inner _ content offer typed (by simp only [write])))
  apply filled_below_content Value.present? _ content _ _ below filled under
  · exact fun value arrives => offers value (offered_of_arrives value _ arrives
      (not_silent_and_whole .absent value _ (.absent content)))
  intro value other inside
  cases inside with
  | same => exact filled_below_same _ _
  | absent _ _ offer => exact offers other offer
  | present inner otherInner _ innerFilled => exact .filled inner otherInner content innerFilled
  | held _ _ _ _ holds => cases holds
  | product _ _ _ types laid => cases laid

theorem filled_below_held (below filled : Option Value) (type content : Ty)
    (holds : type.held? declarations = some content)
    (under : Value.FilledBelow declarations required below filled type) :
    Value.FilledBelow declarations required (below.bind Value.held?) (filled.bind Value.held?)
      content := by
  apply filled_below_content Value.held? type content _ _ below filled under
  · intro value arrives
    obtain ⟨inner, rfl, typed⟩ := typed_held value type content holds arrives.1
    refine .added inner content ⟨typed, fun needed => (arrives.2 needed).imp ?_ ?_⟩
    · simp only [Value.IsWritten, write, holds, Option.bind_some, imp_self]
    · exact whole_of_held inner type content holds
  · intro value other inside
    cases inside with
    | same => exact filled_below_same _ _
    | held inner otherInner _ other otherHolds innerFilled =>
        cases holds.symm.trans otherHolds
        exact .filled inner otherInner content innerFilled
    | product _ _ _ types laid => simp [no_parts_of_held type content holds] at laid
    | _ => cases holds

theorem filled_below_part (below filled : Option Value) (type : Ty) (types : List Ty)
    (laid : type.parts? declarations = some types) (regular : type.Regular declarations)
    (under : Value.FilledBelow declarations required below filled type) (index : Nat) (inner : Ty)
    (innerAt : types[index]? = some inner) (shows : type.Shows declarations index) :
    Value.FilledBelow declarations required ((below.bind Value.parts?).bind (·[index]?))
      ((filled.bind Value.parts?).bind (·[index]?)) inner := by
  rw [Option.bind_assoc, Option.bind_assoc]
  apply filled_below_content _ type inner _ _ below filled under
  · intro value arrives
    obtain ⟨others, rfl, -, -⟩ := typed_product value type types laid arrives.1
    have offered := offered_of_arrives _ type arrives nofun
    simp only [Option.bind_some, Value.parts?]
    cases found : others[index]? with
    | none => exact .nothing inner
    | some part =>
        exact .added part inner
          (arriving_part others type types laid regular offered index part inner found innerAt shows)
  · intro value other inside
    cases inside with
    | same => exact filled_below_same _ _
    | product parts others _ otherTypes otherLaid sized otherSized _ partsFilled =>
        obtain rfl : otherTypes = types := Option.some.inj (otherLaid.symm.trans laid)
        have bound := (List.getElem?_eq_some_iff.1 innerAt).1
        have partAt := List.getElem?_eq_getElem (sized.symm ▸ bound)
        have otherAt := List.getElem?_eq_getElem (otherSized.symm ▸ bound)
        simp only [Option.bind_some, Value.parts?]
        rw [partAt, otherAt]
        exact .filled _ _ inner (partsFilled index _ _ inner partAt otherAt innerAt shows)
    | held _ _ _ content holds => simp [no_parts_of_held type content holds] at laid
    | _ => cases laid

theorem atoms_below (below filled : Option Value) (type : Ty)
    (under : Value.FilledBelow declarations required below filled type) (index : Nat) (atom : Atom)
    (found : (below.bind Value.parts?).bind (·[index]?) = some (.atom atom)) :
    (filled.bind Value.parts?).bind (·[index]?) = some (.atom atom) := by
  cases under with
  | nothing => exact found
  | added => cases found
  | filled value other _ inside =>
      cases inside with
      | same => exact found
      | product parts others _ _ _ _ _ atoms _ => exact atoms index atom found
      | _ => cases found

theorem filled_below_entry (below filled : Option Value) (keys : KeyKind) (type : Ty)
    (under : Value.FilledBelow declarations required below filled (.map keys type)) (key : String) :
    Value.FilledBelow declarations required ((below.bind Value.entries?).bind (Members.find? key))
      ((filled.bind Value.entries?).bind (Members.find? key)) type := by
  rw [Option.bind_assoc, Option.bind_assoc]
  apply filled_below_content _ _ type _ _ below filled under
  · intro value arrives
    have offer := offered_of_arrives value _ arrives
      (not_silent_and_whole (.map []) value _ (.map keys type))
    obtain ⟨others, rfl, -, -⟩ := typed_map value keys type offer.1
    simp only [Option.bind_some, Value.entries?]
    cases found : Members.find? key others with
    | none => exact .nothing type
    | some other =>
        exact .added other type (arrives_of_offered other type
          (offered_entry others keys type offer key other found))
  · intro value other inside
    cases inside with
    | same => exact filled_below_same _ _
    | held _ _ _ _ holds => cases holds
    | product _ _ _ types laid => cases laid
    | map entries others _ _ sorted kept entriesFilled added =>
        simp only [Option.bind_some, Value.entries?]
        cases found : Members.find? key entries with
        | none =>
            cases otherFound : Members.find? key others with
            | none => exact .nothing type
            | some other =>
                exact .added other type (arrives_of_offered other type (added key other found otherFound))
        | some value =>
            cases otherFound : Members.find? key others with
            | none =>
                rw [kept key otherFound] at found
                cases found
            | some other =>
                exact .filled value other type (entriesFilled key value other found otherFound)

theorem offered_below_entry (below filled : Option Value) (keys : KeyKind) (type : Ty)
    (under : Value.FilledBelow declarations required below filled (.map keys type)) (key : String)
    (other : Value) (missing : (below.bind Value.entries?).bind (Members.find? key) = none)
    (found : (filled.bind Value.entries?).bind (Members.find? key) = some other) :
    other.Offered declarations required type := by
  cases under with
  | nothing => cases found
  | added value _ arrives =>
      have offer := offered_of_arrives value _ arrives
        (not_silent_and_whole (.map []) value _ (.map keys type))
      obtain ⟨others, rfl, -, -⟩ := typed_map value keys type offer.1
      exact offered_entry others keys type offer key other found
  | filled value lower _ inside =>
      cases inside with
      | same =>
          rw [missing] at found
          cases found
      | held _ _ _ _ holds => cases holds
      | product _ _ _ types laid => cases laid
      | map entries others _ _ sorted kept entriesFilled added => exact added key other missing found

theorem sorted_below (below filled : Option Value) (keys : KeyKind) (type : Ty)
    (under : Value.FilledBelow declarations required below filled (.map keys type))
    (different : below ≠ filled) : ∀ others ∈ filled.bind Value.entries?, Members.Sorted others := by
  intro others found
  cases under with
  | nothing => cases found
  | added value _ offer =>
      obtain ⟨entries, rfl, sorted, -⟩ := typed_map value keys type offer.1
      cases found
      exact sorted
  | filled value other _ inside =>
      cases inside with
      | same => exact absurd rfl different
      | held _ _ _ _ holds => cases holds
      | product _ _ _ types laid => cases laid
      | map entries _ _ _ sorted =>
          cases found
          exact sorted

/-- Merging leaves an atom where what lies below keeps the atoms it has. -/
theorem atom_of_over (value : Value) (below filled : Option Value) (atom : Atom)
    (stays : below = some (.atom atom) → filled = some (.atom atom))
    (merged : below.elim value value.merge = .atom atom) :
    filled.elim value value.merge = .atom atom := by
  have whole (own : Atom) (below : Option Value) :
      below.elim (.atom own) (Value.merge (.atom own)) = .atom own := by
    cases below <;> simp [Value.merge]
  cases value with
  | atom own =>
      rw [whole] at merged ⊢
      exact merged
  | absent =>
      cases below with
      | none => cases merged
      | some weak =>
          simp only [Option.elim_some, Value.merge] at merged
          simp [stays (congrArg some merged), Value.merge]
  | _ => cases below with
      | none => cases merged
      | some weak => cases weak <;> simp [Value.merge] at merged

theorem filled_product (parts : List Value) (type : Ty) (below filled : Option Value)
    (regular : type.Throughout declarations (Ty.Regular declarations))
    (each : ∀ part ∈ parts, ∀ (below filled : Option Value) inner,
      part.HasType declarations inner →
      inner.Throughout declarations (Ty.Regular declarations) →
      Value.FilledBelow declarations required below filled inner →
        (below.elim part part.merge).Filled declarations required (filled.elim part part.merge) inner)
    (typed : (Value.product parts).HasType declarations type)
    (under : Value.FilledBelow declarations required below filled type) :
    (below.elim (.product parts) (Value.merge (.product parts))).Filled declarations required
      (filled.elim (.product parts) (Value.merge (.product parts))) type := by
  obtain ⟨types, laid⟩ := parts_of_typed_product parts type typed
  obtain ⟨_, same, partsSized, partsTyped⟩ := typed_product _ type types laid typed
  cases same
  have size (below : Option (List Value)) :
      (below.elim parts (Value.mergeParts parts)).length = parts.length := by
    cases below with
    | none => rfl
    | some weak => exact Value.length_merge_parts parts weak
  rw [Value.product_over, Value.product_over]
  apply Value.Filled.product _ _ type types laid (by rw [size, partsSized])
    (by rw [size, partsSized])
  · intro index atom merged
    rw [Value.parts_over] at merged ⊢
    obtain ⟨part, partAt, atomic⟩ := Option.map_eq_some_iff.1 merged
    rw [partAt, Option.map_some]
    exact congrArg some (atom_of_over part _ _ atom (atoms_below below filled type under index atom)
      atomic)
  · intro index part other inner partAt otherAt innerAt shows
    rw [Value.parts_over] at partAt otherAt
    obtain ⟨own, ownAt, rfl⟩ := Option.map_eq_some_iff.1 partAt
    rw [ownAt] at otherAt
    cases otherAt
    have merges := merges_part type inner types laid (List.mem_of_getElem? innerAt)
    exact each own (List.mem_of_getElem? ownAt) _ _ inner (partsTyped index own inner ownAt innerAt)
      (throughout_inside _ _ _ regular merges)
      (filled_below_part below filled type types laid (throughout_here _ _ regular) under index inner
        innerAt shows)

theorem filled_map (entries : List (String × Value)) (keys : KeyKind) (type : Ty)
    (below filled : Option Value)
    (each : ∀ entry ∈ entries, ∀ below filled : Option Value,
      Value.FilledBelow declarations required below filled type →
        (below.elim entry.2 entry.2.merge).Filled declarations required
          (filled.elim entry.2 entry.2.merge) type)
    (sorted : Members.Sorted entries)
    (under : Value.FilledBelow declarations required below filled (.map keys type)) :
    (below.elim (.map entries) (Value.merge (.map entries))).Filled declarations required
      (filled.elim (.map entries) (Value.merge (.map entries))) (.map keys type) := by
  -- Entries below that stay as they are may stand in any order, so they are not compared by key.
  by_cases different : below = filled
  · rw [different]
    exact .same _ _
  have entry (key : String) := filled_below_entry below filled keys type under key
  rw [Value.map_over, Value.map_over]
  apply Value.Filled.map _ _ _ _
    (Members.sorted_over _ _ _ sorted (sorted_below below filled keys type under different))
  · intro key missing
    rw [Members.find_over] at missing ⊢
    cases found : Members.find? key entries with
    | some value => simp [found] at missing
    | none =>
        simp only [found, Option.elim_none] at missing ⊢
        have there := entry key
        rw [missing] at there
        generalize (below.bind Value.entries?).bind (Members.find? key) = lower at there ⊢
        cases there
        rfl
  · intro key value other found otherFound
    rw [Members.find_over] at found otherFound
    cases inEntries : Members.find? key entries with
    | some own =>
        simp only [inEntries, Option.elim_some, Option.some_inj] at found otherFound
        subst found otherFound
        exact each _ (Members.mem_of_find _ _ _ inEntries) _ _ (entry key)
    | none =>
        simp only [inEntries, Option.elim_none] at found otherFound
        have there := entry key
        rw [found, otherFound] at there
        cases there with
        | filled _ _ _ inside => exact inside
  · intro key other missing found
    rw [Members.find_over] at missing found
    cases inEntries : Members.find? key entries with
    | some own => simp [inEntries] at missing
    | none =>
        simp only [inEntries, Option.elim_none] at missing found
        exact offered_below_entry below filled keys type under key other missing found

theorem filled_over (value : Value) (below filled : Option Value) (type : Ty)
    (typed : value.HasType declarations type)
    (regular : type.Throughout declarations (Ty.Regular declarations))
    (under : Value.FilledBelow declarations required below filled type) :
    (below.elim value value.merge).Filled declarations required (filled.elim value value.merge)
      type := by
  induction value using Value.induct generalizing below filled type with
  | absent =>
      have shown (below : Option Value) :
          below.elim .absent (Value.merge .absent) = below.getD .absent := by
        cases below <;> simp [Value.merge]
      rw [shown, shown]
      cases typed with
      | absent content =>
          cases under with
          | nothing => exact .same _ _
          | added other _ arrives =>
              exact .absent other content (offered_of_arrives other _ arrives
                (not_silent_and_whole .absent other _ (.absent content)))
          | filled lower other _ inside => exact inside
  | present value ih =>
      rw [Value.present_over, Value.present_over]
      cases typed with
      | present _ content valueTyped =>
          exact .present _ _ content
            (ih _ _ content valueTyped (throughout_inside _ _ _ regular (.option content))
              (filled_below_present below filled content under))
  | held value ih =>
      rw [Value.held_over, Value.held_over]
      cases typed with
      | held _ _ content holds valueTyped =>
          exact .held _ _ type content holds
            (ih _ _ content valueTyped (throughout_inside _ _ _ regular (.held type content holds))
              (filled_below_held below filled type content holds under))
  | product parts ih => exact filled_product parts type below filled regular ih typed under
  | map entries ih =>
      cases typed with
      | map _ keys content sorted _ entriesTyped =>
          apply filled_map entries keys content below filled _ sorted under
          intro entry member below filled
          exact ih entry member below filled content (entriesTyped entry member)
            (throughout_inside _ _ _ regular (.map keys content))
  | dynamic document =>
      cases typed
      rw [Value.dynamic_over, Value.dynamic_over]
      cases under with
      | nothing => exact .same _ _
      | added value _ arrives =>
          cases arrives.1 with
          | held _ _ _ holds => cases holds
          | dynamic other =>
              exact .dynamic _ _ (document.kept_in_merge other) (Json.eq_null_of_merge document other)
      | filled lower other _ inside =>
          cases inside with
          | same => exact .same _ _
          | held _ _ _ _ holds => cases holds
          | product _ _ _ types laid => cases laid
          | dynamic lower other kept speaks =>
              refine .dynamic _ _ (document.kept_in_over lower other kept) fun null => ?_
              obtain rfl := Json.eq_null_of_merge document other null
              simpa [Value.document?] using speaks (by simpa [Value.document?] using null)
  | _ =>
      have whole (below : Option Value) (value : Value) (kept : ∀ weak, value.merge weak = value) :
          below.elim value value.merge = value := by
        cases below <;> simp [kept]
      rw [whole, whole]
      · exact .same _ _
      all_goals
        intro weak
        simp only [Value.merge]

end Snapshot

end LayeredConfig
