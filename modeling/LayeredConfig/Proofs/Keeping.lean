import LayeredConfig.Proofs.Assignment
import LayeredConfig.Proofs.RoundTrip

/-!
# What lies beside an assignment

A value is written, something is assigned in its written form and retained, and the result is read and
written again. Whatever lies beside the assignment is then as it was: the member that was assigned into
by induction, every other member because it returns from being read and written.
-/
set_option autoImplicit false

namespace LayeredConfig

namespace Snapshot

variable {declarations : Declarations}

/-- Whatever is assigned in the written form of a value and is retained, what lies beside it is read and
written again as it was. -/
def Value.Keeps (declarations : Declarations) (value : Value) (type : Ty) : Prop :=
  ∀ (path other : String) (wanted : Json) (steps : List Step) (keys : List String)
    (before after result shown held : Json) (found : Value),
    write declarations value type = some before →
    Json.assign path wanted steps before = (after, none) →
    read declarations after type = some found →
    write declarations found type = some result →
    result.follow path (keysOf steps) = .ok shown → shown.same wanted →
    Parted keys (keysOf steps) → before.follow other keys = .ok held →
      result.follow other keys = .ok held

/-- What a part of a value is before an assignment, after it, and in the result. A part that was not
assigned in is there again; one that was may be left out of the result. -/
structure Kept (declarations : Declarations) (form changed : Json) (result? : Option Json)
    (part value : Value) (type : Ty) : Prop where
  keeps : part.Keeps declarations type
  wrote : write declarations part type = some form
  reads : read declarations changed type = some value
  again : ∀ result, result? = some result → write declarations value type = some result
  stays : changed = form → result? = some form

theorem kept_of_returns (form changed result : Json) (part value : Value) (type : Ty)
    (keeps : part.Keeps declarations type) (returns : part.Returns declarations type)
    (wrote : write declarations part type = some form)
    (reads : read declarations changed type = some value)
    (again : write declarations value type = some result) :
    Kept declarations form changed (some result) part value type := by
  refine ⟨keeps, wrote, reads, fun other same => Option.some.inj same ▸ again, ?_⟩
  rintro rfl
  rw [← again]
  exact returns changed value wrote reads

theorem objects_of_assigned (path other : String) (wanted before after held : Json)
    (steps : List Step) (keys : List String)
    (assigned : Json.assign path wanted steps before = (after, none))
    (parted : Parted keys (keysOf steps)) (followed : before.follow other keys = .ok held) :
    ∃ members changed, before = .object members ∧ after = .object changed := by
  cases steps with
  | nil => exact absurd List.nil_prefix parted.2
  | cons step rest =>
      obtain ⟨key, others, rfl⟩ := cons_of_parted keys _ parted
      obtain ⟨members, child, opened, rfl, -⟩ :=
        Json.assign_cons path wanted before after step rest assigned
      obtain ⟨rfl, -⟩ := Json.followed_member other before held members key others opened followed
      exact ⟨members, _, rfl, rfl⟩

variable (declarations) in
/-- An object whose members keep what they hold keeps what lies beside an assignment: a member under
another key returns as it was, and the one under the assigned key keeps what lies beside in it. -/
theorem members_keep (path other : String) (wanted shown held : Json) (steps : List Step)
    (keys : List String) (members changed results : List (String × Json))
    (slots : ∀ key form below, Members.find? key members = some form →
      Members.find? key changed = some below → ∃ part value type,
        Kept declarations form below (Members.find? key results) part value type)
    (assigned : Json.assign path wanted steps (.object members) = (.object changed, none))
    (retained : (Json.object results).follow path (keysOf steps) = .ok shown)
    (same : shown.same wanted) (parted : Parted keys (keysOf steps))
    (followed : (Json.object members).follow other keys = .ok held) :
    (Json.object results).follow other keys = .ok held := by
  cases steps with
  | nil => exact absurd List.nil_prefix parted.2
  | cons step rest =>
      obtain ⟨key, others, rfl⟩ := cons_of_parted keys _ parted
      obtain ⟨form, here, below⟩ := (Json.follow_member other key others members held).1 followed
      obtain ⟨opened, child, into, result, inside⟩ :=
        Json.assign_cons path wanted _ _ step rest assigned
      obtain rfl : members = opened := Option.some.inj into
      obtain rfl : changed = Members.insert step.key child members := by simpa using result
      refine (Json.follow_member other key others results held).2 ?_
      by_cases sameKey : key = step.key
      · subst sameKey
        have restParted : Parted others (keysOf rest) := (parted_cons_iff _ _ _ _).1 parted rfl
        have atChild : Members.find? step.key (Members.insert step.key child members) = some child := by
          simp [Members.find?_insert]
        obtain ⟨part, value, type, kept⟩ := slots _ form child here atChild
        obtain ⟨result, atResult, shownBelow⟩ :=
          (Json.follow_member path step.key (keysOf rest) results shown).1 retained
        rcases inside with ⟨rfl, -⟩ | ⟨-, assignedBelow⟩
        · exact absurd List.nil_prefix restParted.2
        · rw [here] at assignedBelow
          exact ⟨result, atResult, kept.keeps path other wanted rest others form child result shown
            held value kept.wrote assignedBelow kept.reads (kept.again result atResult) shownBelow
            same restParted below⟩
      · have unchanged : Members.find? key (Members.insert step.key child members) = some form := by
          simp [Members.find?_insert, sameKey, here]
        obtain ⟨part, value, type, kept⟩ := slots key form form here unchanged
        exact ⟨form, kept.stays rfl, below⟩

theorem find_of_assigned (path key : String) (wanted form : Json) (steps : List Step)
    (members changed : List (String × Json))
    (assigned : Json.assign path wanted steps (.object members) = (.object changed, none))
    (here : Members.find? key members = some form) :
    ∃ below, Members.find? key changed = some below := by
  cases steps with
  | nil => simp [Json.assign] at assigned
  | cons step rest =>
      obtain ⟨opened, child, into, result, -⟩ :=
        Json.assign_cons path wanted _ _ step rest assigned
      obtain rfl : members = opened := Option.some.inj into
      obtain rfl : changed = Members.insert step.key child members := by simpa using result
      rw [Members.find?_insert]
      split
      · exact ⟨child, rfl⟩
      · exact ⟨form, here⟩

theorem record_keeps (name : String) (declared : Record) (parts : List Value)
    (known : declarations name = some (.record declared)) (steady : declared.Steady declarations)
    (typed : ∀ part ∈ declared.fields.zip parts, part.2.HasType declarations part.1.type)
    (keeps : ∀ part ∈ declared.fields.zip parts, part.2.Keeps declarations part.1.type)
    (returns : ∀ part ∈ declared.fields.zip parts, part.2.Returns declarations part.1.type) :
    (Value.product parts).Keeps declarations (.named name) := by
  intro path other wanted steps keys before after result shown held found wrote assigned reads again
    retained same parted followed
  obtain ⟨members, changed, rfl, rfl⟩ :=
    objects_of_assigned path other wanted before after held steps keys assigned parted followed
  have written (values : List Value) (form : Json) :=
    write_record_iff name declared values form known steady.container
  obtain ⟨sizes, writes, body⟩ := (written parts _).1 wrote
  cases layout : declared.layout with
  | items => simp [Record.body, layout] at body
  | members =>
      obtain ⟨values, rfl, valueSizes, readers⟩ :=
        read_record_members name declared changed found known steady layout reads
      obtain ⟨-, valueWrites, bodyAgain⟩ := (written values _).1 again
      obtain ⟨results, rfl⟩ : ∃ results, result = .object results := by
        exact ⟨_, by simpa [Record.body, layout] using bodyAgain.symm⟩
      refine members_keep declarations path other wanted shown held steps keys members changed results
        ?_ assigned retained same parted followed
      intro key form below here there
      obtain ⟨index, field, part, fieldAt, partAt, rfl, formed⟩ :=
        field_of_find name declared parts known steady writes layout members body key form here
      have inFields := List.mem_of_getElem? fieldAt
      have fieldSteady := steady.fields field inFields
      have both : (field, part) ∈ declared.fields.zip parts :=
        List.mem_of_getElem? (List.getElem?_zip_eq_some.2 ⟨fieldAt, partAt⟩)
      obtain ⟨value, valueAt⟩ : ∃ value, values[index]? = some value := by
        have bound := (List.getElem?_eq_some_iff.1 fieldAt).1
        exact ⟨_, List.getElem?_eq_getElem (by omega)⟩
      have atResult := find_of_field name declared values known steady valueWrites layout results
        bodyAgain index field value fieldAt valueAt
      have valueRead := readers index field value fieldAt valueAt
      rw [read_member_eq declared field changed fieldSteady, there, Option.elim_some] at valueRead
      refine ⟨part, value, field.type, keeps _ both, (written_of_form field part form formed).2,
        valueRead, ?_, ?_⟩
      · intro result resultAt
        exact (written_of_form field value result (atResult.symm.trans resultAt)).2
      · rintro rfl
        rw [atResult, ← formed]
        refine (form_again declared field part value fieldSteady (typed _ both) (writes _ both)
          (returns _ both) ?_).2
        rw [formed]
        exact valueRead

theorem map_keeps (entries : List (String × Value)) (kind : KeyKind) (type : Ty)
    (keeps : ∀ entry ∈ entries, entry.2.Keeps declarations type)
    (returns : ∀ entry ∈ entries, entry.2.Returns declarations type) :
    (Value.map entries).Keeps declarations (.map kind type) := by
  intro path other wanted steps keys before after result shown held found wrote assigned reads again
    retained same parted followed
  obtain ⟨members, changed, rfl, rfl⟩ :=
    objects_of_assigned path other wanted before after held steps keys assigned parted followed
  simp only [write] at wrote
  obtain ⟨written, entriesWrote, laid⟩ := Option.map_eq_some_iff.1 wrote
  obtain rfl : written = members := by simpa using laid
  simp only [read, Level.read, Level.readIn, Node.members?, Option.bind_some,
    Option.map_eq_some_iff] at reads
  obtain ⟨values, membersRead, rfl⟩ := reads
  have related := ((read_entries_eq kind type changed values).1 membersRead).2
  simp only [write] at again
  obtain ⟨rewritten, valuesWrote, rfl⟩ := Option.map_eq_some_iff.1 again
  refine members_keep declarations path other wanted shown held steps keys _
    changed _ ?_ assigned retained same parted followed
  intro key form below here there
  rw [find_entries entries type written entriesWrote] at here
  obtain ⟨part, inEntries, partWrote⟩ := Option.bind_eq_some_iff.1 here
  have entry := Members.mem_of_find key part entries inEntries
  rcases Members.find_related _ key changed values related with
    ⟨missing, -⟩ | ⟨document, value, inChanged, inValues, valueRead⟩
  · simp [missing] at there
  · cases there.symm.trans inChanged
    have valueEntry := Members.mem_of_find key value values inValues
    obtain ⟨rewrote, valueWrote⟩ := entry_form values type rewritten valuesWrote _ valueEntry
    have atResult : Members.find? key rewritten = some rewrote := by
      rw [find_entries values type rewritten valuesWrote, inValues]
      exact valueWrote
    rw [atResult]
    exact ⟨part, value, type, kept_of_returns form below rewrote part value type (keeps _ entry)
      (returns _ entry) partWrote valueRead valueWrote⟩

theorem single_of_alternative (name : String) (alternatives : List Alternative) (blank : Value)
    (known : declarations name = some (.enumeration alternatives blank .external))
    (members : List (String × Json)) (found : Value)
    (reads : read declarations (.object members) (.named name) = some found) :
    ∃ member, members = [member] := by
  simp only [read, Level.read, Level.readIn, Level.readNamed, known] at reads
  rcases members with _ | ⟨⟨key, form⟩, _ | ⟨second, rest⟩⟩
  · simp [memberReaders, readAlternative] at reads
  · exact ⟨(key, form), rfl⟩
  · simp [memberReaders, readAlternative] at reads

theorem variant_keeps (content : Value) (name : String) (alternatives : List Alternative)
    (blank : Value) (chosen : Alternative)
    (known : declarations name = some (.enumeration alternatives blank .external))
    (alone : (alternatives.find? fun other => other.name = chosen.name) = some chosen)
    (keeps : content.Keeps declarations chosen.contents.type)
    (returns : content.Returns declarations chosen.contents.type) :
    (Value.variant chosen.name content).Keeps declarations (.named name) := by
  intro path other wanted steps keys before after result shown held found wrote assigned reads again
    retained same parted followed
  obtain ⟨members, changed, rfl, rfl⟩ :=
    objects_of_assigned path other wanted before after held steps keys assigned parted followed
  have holds : chosen.contents ≠ .nothing := by
    intro nothing
    obtain ⟨label, contents⟩ := chosen
    obtain rfl : contents = .nothing := nothing
    simp [write, known, alone, Tagging.writeAlone] at wrote
  rw [write_held_variant content name alternatives blank chosen known alone holds] at wrote
  obtain ⟨form, contentWrote, laid⟩ := Option.map_eq_some_iff.1 wrote
  obtain rfl : [(chosen.name, form)] = members := by simpa using laid
  obtain ⟨member, rfl⟩ := single_of_alternative name alternatives blank known changed found reads
  have atChosen : Members.find? chosen.name [(chosen.name, form)] = some form := by
    simp [Members.find?]
  obtain ⟨below, there⟩ :=
    find_of_assigned path chosen.name wanted form steps _ [member] assigned atChosen
  obtain rfl : member = (chosen.name, below) :=
    (List.mem_singleton.1 (Members.mem_of_find _ _ _ there)).symm
  obtain ⟨value, contentRead, rfl⟩ :=
    read_held_variant name alternatives blank chosen known alone holds below found reads
  rw [write_held_variant value name alternatives blank chosen known alone holds] at again
  obtain ⟨rewrote, valueWrote, rfl⟩ := Option.map_eq_some_iff.1 again
  refine members_keep declarations path other wanted shown held steps keys _
    [(chosen.name, below)] _ ?_ assigned retained same parted followed
  intro key inside changed here inChanged
  obtain ⟨rfl, rfl⟩ : key = chosen.name ∧ inside = form := by
    simpa using Members.mem_of_find key inside _ here
  obtain rfl : below = changed := Option.some.inj (there.symm.trans inChanged)
  have atResult : Members.find? chosen.name [(chosen.name, rewrote)] = some rewrote := by
    simp [Members.find?]
  rw [atResult]
  exact ⟨content, value, chosen.contents.type, kept_of_returns inside below rewrote content value
    chosen.contents.type keeps returns contentWrote contentRead valueWrote⟩

theorem follow_integer (path : String) (integer : Int) (keys : List String) (found : Json)
    (followed : (Json.ofInt integer).follow path keys = .ok found) :
    keys = [] ∧ found = .ofInt integer := by
  cases keys with
  | nil =>
      cases followed
      exact ⟨rfl, rfl⟩
  | cons key rest => cases followed

theorem follow_duration (path key : String) (rest : List String) (seconds nanoseconds : Int)
    (found : Json)
    (followed : (Json.object [("nanos", .ofInt nanoseconds), ("secs", .ofInt seconds)]).follow path
      (key :: rest) = .ok found) :
    rest = [] ∧ ((key = "nanos" ∧ found = .ofInt nanoseconds) ∨
      (key = "secs" ∧ found = .ofInt seconds)) := by
  obtain ⟨form, here, below⟩ := (Json.follow_member path key rest _ found).1 followed
  have member := Members.mem_of_find key form _ here
  simp only [List.mem_cons, Prod.mk.injEq, List.not_mem_nil, or_false] at member
  rcases member with ⟨rfl, rfl⟩ | ⟨rfl, rfl⟩
  · obtain ⟨whole, same⟩ := follow_integer path nanoseconds rest found below
    exact ⟨whole, Or.inl ⟨rfl, same⟩⟩
  · obtain ⟨whole, same⟩ := follow_integer path seconds rest found below
    exact ⟨whole, Or.inr ⟨rfl, same⟩⟩

/-- The two parts of a duration stand beside each other, and nanoseconds that are retained do not carry. -/
theorem duration_keeps (seconds nanoseconds : Nat) (small : nanoseconds < nanosPerSecond) :
    (Value.atom (.duration seconds nanoseconds)).Keeps declarations (.scalar .duration) := by
  intro path other wanted steps keys before after result shown held found wrote assigned reads again
    retained same parted followed
  obtain ⟨members, changed, rfl, rfl⟩ :=
    objects_of_assigned path other wanted before after held steps keys assigned parted followed
  cases wrote
  obtain ⟨whole, part, rfl, wholeSign, partSign, rfl⟩ := read_duration_object changed found reads
  cases again
  -- What was assigned is found after the assignment and, as the same integer, in the result.
  have settled := Json.follow_assigned path path wanted _ _ steps assigned
  have beside := Json.follow_beside path other wanted _ _ held steps keys parted assigned followed
  obtain ⟨key, others, rfl⟩ := cons_of_parted keys _ parted
  obtain ⟨step, rest, laid⟩ := cons_of_parted (keysOf steps) _ (parted_symm _ _ parted)
  rw [laid] at settled retained parted
  obtain ⟨rfl, place⟩ := follow_duration path step rest whole part wanted settled
  obtain ⟨-, shownPlace⟩ := follow_duration path step [] _ _ shown retained
  obtain ⟨rfl, heldPlace⟩ := follow_duration other key others whole part held beside
  obtain ⟨-, oldPlace⟩ := follow_duration other key [] _ _ held followed
  have fits : part.toNat < nanosPerSecond := by
    rcases heldPlace with ⟨rfl, rfl⟩ | ⟨rfl, rfl⟩
    · rcases oldPlace with ⟨-, kept⟩ | ⟨other, -⟩
      · obtain rfl : part = nanoseconds := by simpa [Json.ofInt] using kept
        exact small
      · exact absurd other (by decide)
    · rcases place with ⟨rfl, rfl⟩ | ⟨rfl, -⟩
      · rcases shownPlace with ⟨-, rfl⟩ | ⟨other, -⟩
        · have unchanged : ((part.toNat % nanosPerSecond : Nat) : Int) = part := by
            simpa [Json.ofInt, Json.same, Number.same] using same
          have below := Nat.mod_lt part.toNat (show 0 < nanosPerSecond by decide)
          omega
        · exact absurd other (by decide)
      · exact absurd (List.prefix_refl _) parted.1
  have noCarry : part.toNat / nanosPerSecond = 0 := Nat.div_eq_of_lt fits
  have noWrap : part.toNat % nanosPerSecond = part.toNat := Nat.mod_eq_of_lt fits
  have result : writeDuration (whole.toNat + part.toNat / nanosPerSecond)
      (part.toNat % nanosPerSecond) = .object [("nanos", .ofInt part), ("secs", .ofInt whole)] := by
    rw [noCarry, noWrap, writeDuration, Nat.add_zero, Int.toNat_of_nonneg partSign,
      Int.toNat_of_nonneg wholeSign]
  rw [result]
  exact beside

/-- Nothing lies beside an assignment in what is not written as an object. -/
theorem whole_keeps (value : Value) (type : Ty)
    (whole : ∀ members, write declarations value type ≠ some (.object members)) :
    value.Keeps declarations type := by
  intro path other wanted steps keys before after result shown held found wrote assigned reads again
    retained same parted followed
  obtain ⟨members, changed, rfl, -⟩ :=
    objects_of_assigned path other wanted before after held steps keys assigned parted followed
  exact absurd wrote (whole members)

theorem scalar_keeps (kind : Scalar) (value : Atom) (holds : kind.Holds value) :
    (Value.atom value).Keeps declarations (.scalar kind) := by
  cases kind with
  | duration =>
      cases value with
      | duration seconds nanoseconds => exact duration_keeps seconds nanoseconds holds.2
      | _ => cases holds
  | _ =>
      apply whole_keeps
      intro members
      cases value <;> simp only [write, Scalar.write] <;> try split
      all_goals simp [Json.ofInt]

theorem wrapped_keeps (wrap : Value → Value) (outer inner : Ty) (value : Value)
    (writes : ∀ content, write declarations (wrap content) outer = write declarations content inner)
    (readsInside : ∀ members, read declarations (.object members) outer =
      (read declarations (.object members) inner).map wrap)
    (keeps : value.Keeps declarations inner) : (wrap value).Keeps declarations outer := by
  intro path other wanted steps keys before after result shown held found wrote assigned reads again
    retained same parted followed
  obtain ⟨members, changed, rfl, rfl⟩ :=
    objects_of_assigned path other wanted before after held steps keys assigned parted followed
  rw [readsInside] at reads
  obtain ⟨content, contentRead, rfl⟩ := Option.map_eq_some_iff.1 reads
  rw [writes] at wrote again
  exact keeps path other wanted steps keys _ _ result shown held content wrote assigned contentRead
    again retained same parted followed

/-- Setting keeps what lies beside, in every value of a type whose records are steady. -/
theorem value_keeps (value : Value) (type : Ty) (steady : type.Steady declarations)
    (typed : value.HasType declarations type) : value.Keeps declarations type := by
  induction typed with
  | atom kind value holds => exact scalar_keeps kind value holds
  | absent content =>
      apply whole_keeps
      simp [write]
  | present value content inside ih =>
      have keeps := ih (steady_inside _ _ steady (.merges _ _ (.option content)))
      refine wrapped_keeps .present _ content value ?_ ?_ keeps
      · intro content
        simp only [write]
      · intro members
        rw [read_option]
        rfl
  | held value type content holds inside ih =>
      have keeps := ih (steady_inside _ _ steady (.merges _ _ (.held type content holds)))
      refine wrapped_keeps .held type content value ?_ (fun members => ?_) keeps
      · intro content
        simp only [write, holds, Option.bind_some]
      · exact read_held _ type content holds
  | replaced value content inside ih =>
      have keeps := ih (steady_inside _ _ steady (.replaced content))
      refine wrapped_keeps .frozen _ content value ?_ (fun members => read_replaced _ _) keeps
      intro content
      simp only [write]
  | sequence items item inside ih =>
      apply whole_keeps
      intro members
      simp [write]
  | array parts size item sized inside ih =>
      apply whole_keeps
      intro members
      simp [write]
  | tuple parts items sized inside ih =>
      apply whole_keeps
      intro members
      simp [write]
  | record parts name declared known sized inside ih =>
      have steadyPart (part : Field × Value) (member : part ∈ declared.fields.zip parts) :
          part.1.type.Steady declarations :=
        steady_inside _ _ steady
          (.merges _ _ (.field name declared part.1 known (List.of_mem_zip member).1))
      refine record_keeps name declared parts known (steady_here name _ steady known) inside ?_ ?_
      · intro part member
        exact ih part member (steadyPart part member)
      · intro part member
        exact value_returns part.2 part.1.type (steadyPart part member) (inside part member)
  | map entries keys type sorted accepted inside ih =>
      have steadyEntry := steady_inside _ _ steady (.merges _ _ (.map keys type))
      refine map_keeps entries keys type ?_ ?_
      · intro entry member
        exact ih entry member steadyEntry
      · intro entry member
        exact value_returns entry.2 type steadyEntry (inside entry member)
  | variant content name alternatives blank tagging chosen known found inside ih =>
      obtain rfl : tagging = .external := steady_here name _ steady known
      have steadyContent := steady_inside _ _ steady
        (.alternative name alternatives blank _ chosen known (List.mem_of_find?_eq_some found))
      exact variant_keeps content name alternatives blank chosen known found (ih steadyContent)
        (value_returns content _ steadyContent inside)
  | dynamic document sorted =>
      intro path other wanted steps keys before after result shown held found wrote assigned reads
        again retained same parted followed
      rw [read_json] at reads
      cases wrote
      cases reads
      cases again
      exact Json.follow_beside path other wanted _ _ held steps keys parted assigned followed

end Snapshot

end LayeredConfig
