import LayeredConfig.Proofs.Snapshots

/-!
# Sorted snapshots

The maps and dynamic documents of a snapshot keep their keys in order. Merging keeps the order, and
sorted snapshots have sorted written forms.
-/
set_option autoImplicit false

namespace LayeredConfig.Snapshot

/-- Every map and every dynamic document of a value keeps its keys in order. -/
def Value.Sorted : Value → Prop :=
  Value.Everywhere (fun _ => True) (fun entries => Members.Sorted entries) Json.Sorted

variable {declarations : Declarations}

theorem sorted_merge (strong weak : Value) (strongSorted : strong.Sorted)
    (weakSorted : weak.Sorted) : (strong.merge weak).Sorted :=
  everywhere_merge (fun _ _ _ weakKeys => Members.sorted_union _ _ _ weakKeys) Json.sorted_merge
    strong weak strongSorted weakSorted

theorem sorted_scalar (kind : Scalar) (value : Atom) (form : Json)
    (wrote : kind.write value = some form) : form.Sorted := by
  have duration (seconds nanoseconds : Nat) : (writeDuration seconds nanoseconds).Sorted := by
    have keys : Members.Sorted [("nanos", ()), ("secs", ())] := by decide
    exact ⟨keys, trivial, trivial, trivial⟩
  unfold Scalar.write at wrote
  split at wrote
  case h_8 =>
    cases wrote
    exact duration _ _
  case h_4 | h_5 =>
    cases wrote
    split <;> trivial
  case h_3 =>
    split at wrote <;> cases wrote
    trivial
  all_goals
    cases wrote
    try trivial

theorem keys_of_forms {α β : Type} (entries : Members α) (members : Members β)
    (same : List.Forall₂ (fun entry member => entry.1 = member.1) entries members) :
    Members.keys entries = Members.keys members := by
  induction same with
  | nil => rfl
  | cons head tail ih =>
      simp only [Members.keys, List.map_cons] at ih ⊢
      rw [head, ih]

def Value.WritesSorted (declarations : Declarations) (value : Value) : Prop :=
  ∀ type form, write declarations value type = some form → form.Sorted

theorem sorted_fields (naming : Option NamingRule) (parts : List Value) (fields : List Field)
    (members : List (String × Json)) (inside : ∀ part ∈ parts, part.WritesSorted declarations)
    (wrote : writeFields declarations naming parts fields = some members) :
    ∀ member ∈ members, member.2.Sorted := by
  induction fields generalizing parts members with
  | nil =>
      cases parts <;> simp only [writeFields, reduceCtorEq, Option.some.injEq] at wrote
      subst wrote
      exact List.forall_mem_nil _
  | cons field fields ih =>
      cases parts with
      | nil => simp [writeFields] at wrote
      | cons part parts =>
          obtain ⟨head, tail⟩ := List.forall_mem_cons.1 inside
          simp only [writeFields] at wrote
          split at wrote
          · exact ih parts members tail wrote
          · split at wrote
            · rename_i own others contributed restWrote
              cases wrote
              obtain ⟨form, formWrote, added⟩ := Option.bind_eq_some_iff.1 contributed
              have formSorted := head _ form formWrote
              intro member found
              rcases List.mem_append.1 found with here | later
              · unfold Field.contribute at added
                split at added
                · cases added
                  exact (Json.sorted_members_iff _).1 formSorted.2 member here
                · split at added
                  · cases added
                  · cases added
                    cases here
                · split at added
                  · cases added
                    obtain rfl := List.mem_singleton.1 here
                    simp only [Json.Sorted]
                  · cases added
                · cases added
                · cases added
                  obtain rfl := List.mem_singleton.1 here
                  exact formSorted
              · exact ih parts others tail restWrote member later
            · cases wrote

theorem sorted_product (parts : List Value) (inside : ∀ part ∈ parts, part.WritesSorted declarations) :
    (Value.product parts).WritesSorted declarations := by
  intro type form wrote
  cases type with
  | array size item =>
      simp only [write, Option.map_eq_some_iff, write_items_iff] at wrote
      obtain ⟨forms, written, rfl⟩ := wrote
      refine (Json.sorted_items_iff forms).2 ?_
      intro item member
      obtain ⟨part, inParts, partWrote⟩ := value_of_form_mem _ _ _ written item member
      exact inside part inParts _ item partWrote
  | tuple items =>
      simp only [write, Option.map_eq_some_iff, write_tuple_iff] at wrote
      obtain ⟨forms, ⟨-, written⟩, rfl⟩ := wrote
      refine (Json.sorted_items_iff forms).2 ?_
      intro item member
      obtain ⟨part, inParts, partWrote⟩ := value_of_form_mem _ _ _ written item member
      exact inside part.1 (List.of_mem_zip inParts).1 _ item partWrote
  | named name =>
      simp only [write] at wrote
      split at wrote
      · rename_i declared known
        split at wrote
        · obtain ⟨values, -, rfl⟩ := Option.map_eq_some_iff.1 wrote
          trivial
        · obtain ⟨members, fields, rfl⟩ := Option.map_eq_some_iff.1 wrote
          refine ⟨Members.sorted_ofList members, (Json.sorted_members_iff _).2 ?_⟩
          intro member found
          exact sorted_fields _ _ _ _ inside fields member (Members.mem_ofList _ _ found)
        · obtain ⟨members, fields, rfl⟩ := Option.map_eq_some_iff.1 wrote
          refine (Json.sorted_items_iff _).2 ?_
          intro item member
          obtain ⟨pair, inMembers, rfl⟩ := List.mem_map.1 member
          exact sorted_fields _ _ _ _ inside fields pair inMembers
      · cases wrote
  | _ => simp [write] at wrote

theorem sorted_alone (tagging : Tagging) (chosen : String) : (tagging.writeAlone chosen).Sorted := by
  cases tagging <;> simp [Tagging.writeAlone, Json.Sorted, Json.SortedMembers, Members.Sorted,
    Members.keys]

theorem sorted_tagged (tagging : Tagging) (chosen : String) (written form : Json)
    (sorted : written.Sorted) (tagged : tagging.write chosen written = some form) : form.Sorted := by
  have ofMembers (members : List (String × Json)) (inside : ∀ member ∈ members, member.2.Sorted) :
      (Json.object (Members.ofList members)).Sorted :=
    ⟨Members.sorted_ofList members, (Json.sorted_members_iff _).2 fun member found =>
      inside member (Members.mem_ofList members member found)⟩
  cases tagging with
  | external =>
      cases tagged
      exact ⟨List.pairwise_singleton _ _, sorted, trivial⟩
  | untagged =>
      cases tagged
      exact sorted
  | adjacent tag content =>
      cases tagged
      exact ofMembers _ (by simpa [Json.Sorted] using sorted)
  | internal tag =>
      cases written with
      | object members =>
          cases tagged
          refine ofMembers _ (List.forall_mem_cons.2 ⟨trivial, ?_⟩)
          exact (Json.sorted_members_iff members).1 sorted.2
      | _ => cases tagged

theorem sorted_write (value : Value) (sorted : value.Sorted) : value.WritesSorted declarations := by
  induction sorted with
  | atom value _ =>
      intro type form wrote
      cases type <;> simp only [write, reduceCtorEq] at wrote
      exact sorted_scalar _ value form wrote
  | absent =>
      intro type form wrote
      cases type <;> simp only [write, reduceCtorEq, Option.some.injEq] at wrote
      subst wrote
      trivial
  | present value inside ih =>
      intro type form wrote
      cases type <;> simp only [write, reduceCtorEq] at wrote
      exact ih _ form wrote
  | held value inside ih =>
      intro type form wrote
      simp only [write, Option.bind_eq_some_iff] at wrote
      obtain ⟨content, -, contentWrote⟩ := wrote
      exact ih content form contentWrote
  | frozen value inside ih =>
      intro type form wrote
      cases type <;> simp only [write, reduceCtorEq] at wrote
      exact ih _ form wrote
  | product parts inside ih => exact sorted_product parts ih
  | sequence items inside ih =>
      intro type form wrote
      cases type <;> simp only [write, reduceCtorEq, Option.map_eq_some_iff, write_items_iff] at wrote
      obtain ⟨forms, written, rfl⟩ := wrote
      refine (Json.sorted_items_iff forms).2 ?_
      intro item member
      obtain ⟨value, inItems, valueWrote⟩ := value_of_form_mem _ _ _ written item member
      exact ih value inItems _ item valueWrote
  | map entries keys inside ih =>
      intro type form wrote
      cases type <;>
        simp only [write, reduceCtorEq, Option.map_eq_some_iff, write_entries_iff] at wrote
      obtain ⟨members, written, rfl⟩ := wrote
      refine ⟨?_, (Json.sorted_members_iff members).2 ?_⟩
      · unfold Members.Sorted at keys ⊢
        rwa [← keys_of_forms entries members (written.imp fun _ _ both => both.1)]
      · intro member found
        obtain ⟨entry, inEntries, -, entryWrote⟩ := value_of_form_mem _ _ _ written member found
        exact ih entry inEntries _ member.2 entryWrote
  | variant name content inside ih =>
      intro type form wrote
      cases type <;> simp only [write, reduceCtorEq] at wrote
      split at wrote
      · rename_i alternatives blank tagging known
        split at wrote
        · cases wrote
          exact sorted_alone tagging name
        · obtain ⟨written, contentWrote, tagged⟩ := Option.bind_eq_some_iff.1 wrote
          exact sorted_tagged tagging name written form (ih _ written contentWrote) tagged
        · obtain ⟨written, contentWrote, tagged⟩ := Option.bind_eq_some_iff.1 wrote
          exact sorted_tagged tagging name written form (ih _ written contentWrote) tagged
        · cases wrote
      · cases wrote
  | dynamic document inside =>
      intro type form wrote
      cases type <;> simp only [write, reduceCtorEq, Option.some.injEq] at wrote
      subst wrote
      exact inside

end LayeredConfig.Snapshot
