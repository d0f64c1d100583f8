import LayeredConfig.Proofs.RecordTexts
import LayeredConfig.Trace.Text

/-!
# Traces from their texts

Five members of the text of a trace are left out when they are empty or `null`: labels, metadata, revisions
and values. Reading restores each of them, entry by entry, as long as the text is not nested too deep to be
read. Integers are exact in text. A double is only as exact as its text, so that each one of the trace has
to read back.
-/
set_option autoImplicit false

namespace LayeredConfig

/-- A document as it is held in memory: keys are sorted and integers have 64 bits. -/
structure Json.Proper (document : Json) : Prop where
  sorted : document.Sorted
  integers : ∀ value, .int value ∈ document.numbers → Number.fits value

theorem Json.numbers_read_back (document : Json) (proper : document.Proper)
    (doubles : ∀ value, .double value ∈ document.numbers → (Number.double value).ReadsBack) :
    ∀ value ∈ document.numbers, value.ReadsBack := by
  intro value member
  cases value with
  | int value => exact Number.integer_reads_back value (proper.integers value member)
  | double value => exact doubles value member

namespace Scope

open JsonText

theorem fits_of_priority (priority : Int) (valid : isPriority priority) : Number.fits priority := by
  have range : minPriority ≤ priority ∧ priority ≤ maxPriority := by simpa [isPriority] using valid
  simp only [minPriority, maxPriority, Number.minInt, Number.maxSigned] at range
  have wide : Number.minInt ≤ priority ∧ priority ≤ Number.maxInt := by
    simp only [Number.minInt, Number.maxInt]
    omega
  simpa [Number.fits] using wide

theorem read_priority (priority : Int) (valid : isPriority priority) :
    readSigned (.ofInt priority) = some priority := by
  have range : minPriority ≤ priority ∧ priority ≤ maxPriority := by simpa [isPriority] using valid
  exact if_pos range.2

theorem read_non_empty_members (metadata : Members Json) (sorted : (Json.object metadata).Sorted)
    (budget : Nat)
    (within : ∀ text, writeNonEmptyMembers metadata = some text → text.depth ≤ budget) :
    readOr [] (readMetadata budget) (writeNonEmptyMembers metadata) = some metadata := by
  cases metadata with
  | nil => rfl
  | cons member rest =>
      obtain ⟨ordered, values⟩ := sorted
      rw [Json.sorted_members_iff] at values
      obtain ⟨inner, rfl, inside⟩ := object_within _ budget (within _ rfl)
      rw [Json.to_text_members_eq, List.forall_mem_map] at inside
      rw [writeNonEmptyMembers, List.isEmpty_cons, if_neg Bool.false_ne_true, readOr, readMetadata,
        Json.toText, Json.to_text_members_eq]
      exact read_written_members _ _ _ ordered fun found listed =>
        Json.of_text_to_text found.2 (values found listed) inner (inside found listed)

theorem legible_text (scope : Scope) (valid : isPriority scope.priority)
    (metadata : (Json.object scope.metadata).toText.Legible) : scope.toText.Legible := by
  apply legible_of_members
  simp only [List.mem_cons, Prod.mk.injEq, List.not_mem_nil, or_false]
  rintro name value (⟨rfl, same⟩ | ⟨rfl, same⟩ | ⟨rfl, same⟩ | ⟨rfl, same⟩)
  · cases same
    exact .string scope.name
  · exact legible_non_empty scope.label value same.symm
  · cases same
    exact .number _ (Number.integer_reads_back _ (fits_of_priority _ valid))
  · rw [writeNonEmptyMembers] at same
    split_ifs at same
    cases same
    exact metadata

theorem of_text_to_text (scope : Scope) (valid : isPriority scope.priority)
    (sorted : (Json.object scope.metadata).Sorted) (budget : Nat)
    (within : scope.toText.depth ≤ budget) : ofText? budget scope.toText = some scope := by
  obtain ⟨inner, rfl, inside⟩ := members_within _ budget within
  have distinct : ["name", "label", "priority", "metadata"].Nodup := by decide
  have fields : scope.toText.fields? ["name", "label", "priority", "metadata"] =
      some [some (.ofString scope.name), writeNonEmpty scope.label, some (.ofInt scope.priority),
        writeNonEmptyMembers scope.metadata] := fields_of_members _ distinct
  have metadata := read_non_empty_members scope.metadata sorted inner fun text written =>
    inside "metadata" text (by simp [written])
  simp only [ofText?, fields, Option.bind_eq_bind, Option.bind_some, readRequired, readString,
    ofString, read_non_empty, read_priority scope.priority valid, metadata, Option.pure_def]

end Scope

namespace TraceEntry

open JsonText

/-- The documents of an entry: the metadata of its scope and its value. -/
def documents (entry : TraceEntry) : List Json :=
  [.object entry.scope.metadata, entry.value]

/-- An entry as it is held in memory. -/
structure Proper (entry : TraceEntry) : Prop where
  priority : Scope.isPriority entry.scope.priority
  documents : ∀ document ∈ entry.documents, document.Proper

theorem read_value (value : Json) (sorted : value.Sorted) (budget : Nat)
    (within : ∀ text, (if value.isNull then none else some value.toText) = some text →
      text.depth ≤ budget) :
    readOr .null (Json.ofText? budget) (if value.isNull then none else some value.toText) =
      some value := by
  split_ifs at within ⊢ with null
  · cases value with
    | null => rfl
    | _ => cases null
  · exact Json.of_text_to_text value sorted budget (within _ rfl)

theorem legible_text (entry : TraceEntry) (proper : entry.Proper)
    (legible : ∀ document ∈ entry.documents, document.toText.Legible) : entry.toText.Legible := by
  obtain ⟨metadata, value, -⟩ : _ ∧ _ ∧ _ := by
    simpa only [documents, List.forall_mem_cons] using legible
  apply legible_of_members
  simp only [List.mem_cons, Prod.mk.injEq, List.not_mem_nil, or_false]
  rintro name text (⟨rfl, same⟩ | ⟨rfl, same⟩ | ⟨rfl, same⟩ | ⟨rfl, same⟩ | ⟨rfl, same⟩)
  · cases same
    exact entry.scope.legible_text proper.priority metadata
  · exact legible_non_empty entry.revision text same.symm
  · cases same
    exact .string entry.path
  · split_ifs at same
    cases same
    exact value
  · cases same
    exact .bool entry.found

theorem of_text_to_text (entry : TraceEntry) (proper : entry.Proper) (budget : Nat)
    (within : entry.toText.depth ≤ budget) : ofText? budget entry.toText = some entry := by
  obtain ⟨metadata, value, -⟩ : _ ∧ _ ∧ _ := by
    simpa only [documents, List.forall_mem_cons] using proper.documents
  obtain ⟨inner, rfl, inside⟩ := members_within _ budget within
  have distinct : ["scope", "snapshot_id", "path", "value", "found"].Nodup := by decide
  have fields : entry.toText.fields? ["scope", "snapshot_id", "path", "value", "found"] =
      some [some entry.scope.toText, writeNonEmpty entry.revision, some (.ofString entry.path),
        if entry.value.isNull then none else some entry.value.toText, some (.bool entry.found)] :=
    fields_of_members _ distinct
  have scope := entry.scope.of_text_to_text proper.priority metadata.sorted inner
    (inside "scope" _ (by simp))
  have held := read_value entry.value value.sorted inner fun text written =>
    inside "value" text (by simp [written])
  simp only [ofText?, fields, Option.bind_eq_bind, Option.bind_some, readRequired, readString,
    readBool, ofString, read_non_empty, scope, held, Option.pure_def]

end TraceEntry

namespace Trace

open JsonText

def numbers (trace : Trace) : List Number :=
  trace.layers.flatMap fun entry => entry.documents.flatMap Json.numbers

theorem legible_text (trace : Trace) (proper : ∀ entry ∈ trace.layers, entry.Proper)
    (doubles : ∀ value, .double value ∈ trace.numbers → (Number.double value).ReadsBack) :
    trace.toText.Legible := by
  have layers : (array (trace.layers.map TraceEntry.toText)).Legible := by
    refine .array _ (List.forall_mem_map.2 fun entry listed => ?_)
    refine entry.legible_text (proper entry listed) fun document held => ?_
    apply document.legible_text
    apply document.numbers_read_back ((proper entry listed).documents document held)
    intro value inside
    exact doubles value
      (List.mem_flatMap.2 ⟨entry, listed, List.mem_flatMap.2 ⟨document, held, inside⟩⟩)
  apply legible_of_members
  simp only [List.mem_cons, Prod.mk.injEq, List.not_mem_nil, or_false]
  rintro name text (⟨rfl, same⟩ | ⟨rfl, same⟩)
  · cases same
    exact .string trace.path
  · cases same
    exact layers

theorem of_text_to_text (trace : Trace) (proper : ∀ entry ∈ trace.layers, entry.Proper)
    (budget : Nat) (within : trace.toText.depth ≤ budget) :
    ofText? budget trace.toText = some trace := by
  obtain ⟨inner, rfl, inside⟩ := members_within _ budget within
  have distinct : ["path", "layers"].Nodup := by decide
  have fields : trace.toText.fields? ["path", "layers"] =
      some [some (.ofString trace.path), some (.array (trace.layers.map TraceEntry.toText))] :=
    fields_of_members _ distinct
  obtain ⟨innermost, rfl, each⟩ := array_within (trace.layers.map TraceEntry.toText) inner
    (inside "layers" _ (List.mem_cons_of_mem _ (List.mem_singleton_self _)))
  rw [List.forall_mem_map] at each
  have layers : readLayers (innermost + 1) (.array (trace.layers.map TraceEntry.toText)) =
      some trace.layers :=
    read_written_list _ _ trace.layers fun entry member =>
      entry.of_text_to_text (proper entry member) innermost (each entry member)
  simp only [ofText?, fields, Option.bind_eq_bind, Option.bind_some, readRequired, readString,
    ofString, layers, Option.pure_def]

/-- A trace whose text is not nested too deep to be read is read back from it, whatever its entries
leave out. -/
theorem traces_survive_text (trace : Trace) (proper : ∀ entry ∈ trace.layers, entry.Proper)
    (shallow : trace.toText.depth ≤ Json.maxDepth)
    (doubles : ∀ value, .double value ∈ trace.numbers → (Number.double value).ReadsBack) :
    parse? trace.render = some trace := by
  have legible := trace.legible_text proper doubles
  rw [parse?, render, JsonText.parse_render trace.toText legible]
  exact trace.of_text_to_text proper Json.maxDepth shallow

/-- One entry leaves out all that it can, and one leaves out nothing: its metadata holds a `null`, an
empty object and a double, its value the greatest integer. -/
theorem bare_entry_above_full_entry_survives :
    let bare : TraceEntry := ⟨⟨"user", "", 500, []⟩, "", "limits.daily", .null, false⟩
    let full : TraceEntry :=
      ⟨⟨"tenant", "Tenant \"A\"", -9223372036854775808,
          [("eu", .array [.number (.double ⟨0x3FF8000000000000⟩), .null, .object []])]⟩,
        "rev-7", "limits.daily", .object [("amount", .ofInt 18446744073709551615)], true⟩
    let trace : Trace := ⟨"limits.daily", [bare, full]⟩
    (∀ entry ∈ trace.layers, entry.Proper) ∧ trace.toText.depth ≤ Json.maxDepth ∧
      (∀ value, .double value ∈ trace.numbers → (Number.double value).ReadsBack) ∧
      parse? trace.render = some trace := by
  intro bare full trace
  have bareProper : bare.Proper := by
    refine ⟨by decide, List.forall_mem_cons.2 ⟨?_, List.forall_mem_singleton.2 ?_⟩⟩
    · exact ⟨⟨List.Pairwise.nil, trivial⟩, fun value inside => nomatch inside⟩
    · exact ⟨trivial, fun value inside => nomatch inside⟩
  have fullProper : full.Proper := by
    refine ⟨by decide, List.forall_mem_cons.2 ⟨?_, List.forall_mem_singleton.2 ?_⟩⟩
    · have items : Json.SortedItems [.number (.double ⟨0x3FF8000000000000⟩), .null, .object []] :=
        ⟨trivial, trivial, ⟨List.Pairwise.nil, trivial⟩, trivial⟩
      refine ⟨⟨by decide, items, trivial⟩, fun value inside => ?_⟩
      simp [full, Json.numbers, Json.itemNumbers, Json.memberNumbers] at inside
    · refine ⟨⟨by decide, trivial, trivial⟩, ?_⟩
      intro value inside
      have greatest : value = 18446744073709551615 := by
        simpa [full, Json.numbers, Json.memberNumbers, Json.ofInt] using inside
      rw [greatest]
      rfl
  have proper : ∀ entry ∈ trace.layers, entry.Proper :=
    List.forall_mem_cons.2 ⟨bareProper, List.forall_mem_singleton.2 fullProper⟩
  have shallow : trace.toText.depth ≤ Json.maxDepth := by decide
  have doubles : ∀ value, .double value ∈ trace.numbers → (Number.double value).ReadsBack := by
    intro value inside
    have written : value = ⟨0x3FF8000000000000⟩ := by
      simpa [trace, bare, full, numbers, TraceEntry.documents, Json.numbers, Json.itemNumbers,
        Json.memberNumbers, Json.ofInt] using inside
    rw [written]
    decide +kernel
  exact ⟨proper, shallow, doubles, trace.traces_survive_text proper shallow doubles⟩

end Trace

end LayeredConfig
