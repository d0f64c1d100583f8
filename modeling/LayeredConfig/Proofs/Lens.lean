import LayeredConfig.Proofs.KeyedMaps
import LayeredConfig.Proofs.Keeping
import LayeredConfig.Proofs.Outcomes
import LayeredConfig.Proofs.Traces

/-!
# Setting a value and nothing else

Setting assigns in the written form, reads a snapshot from it and refuses the write unless that snapshot
retains the value. What was set is then read and traced, and what lies beside it is as it was.
-/
set_option autoImplicit false

namespace LayeredConfig

theorem assign_along_eq_ok (path : String) (value : Json) (steps : List Step)
    (before after : Json) :
    assignAlong path value steps before = .ok after ↔
      Json.assign path value steps before = (after, none) := by
  unfold assignAlong
  obtain ⟨document, fault⟩ := Json.assign path value steps before
  cases fault <;> simp

theorem follow_keys_eq_ok (path : String) (document found : Json) (keys : List String) :
    followKeys path document keys = .ok found ↔ document.follow path keys = .ok found := by
  unfold followKeys
  cases document.follow path keys <;> simp

namespace Configuration

variable {α : Type} [Mergeable α]

theorem keys_at_of_parsed (path : String) (steps : List Step)
    (parsed : parsedSteps α path = .ok steps) : keysAt? α path = some (keysOf steps) := by
  simp only [keysAt?, parsed]

variable [Writable α]

theorem set_eq_ok (current updated : Configuration α) (path : String) (value : Json)
    (written : current.set path value = .ok updated) :
    ∃ steps before after found result shown, parsedSteps α path = .ok steps ∧
      encode current.value = some before ∧
      Json.assign path value steps before = (after, none) ∧ decode after = some found ∧
      encode found = some result ∧ result.follow path (keysOf steps) = .ok shown ∧
      shown.same value ∧ updated = current.withSnapshot found := by
  unfold Configuration.set at written
  obtain ⟨steps, parsed, written⟩ := (bind_eq_ok _ _ _).1 written
  obtain ⟨before, wrote, written⟩ := (bind_eq_ok _ _ _).1 written
  obtain ⟨after, assigned, written⟩ := (bind_eq_ok _ _ _).1 written
  obtain ⟨found, reads, written⟩ := (bind_eq_ok _ _ _).1 written
  obtain ⟨result, again, written⟩ := (bind_eq_ok _ _ _).1 written
  rw [written_form_eq_ok] at wrote again
  rw [assign_along_eq_ok] at assigned
  rw [snapshot_of_eq_ok] at reads
  have settled := Json.follow_assigned path path value before after steps assigned
  unfold retains at written
  rw [settled] at written
  cases followed : result.follow path (keysOf steps) with
  | error fault => simp [followed] at written
  | ok shown =>
      simp only [followed] at written
      split at written
      · rename_i same
        exact ⟨steps, before, after, found, result, shown, parsed, wrote, assigned, reads, again,
          followed, same, (Except.ok.inj written).symm⟩
      · cases written

theorem trace_of_followed (current : Configuration α) (path : String) (steps : List Step)
    (document found : Json) (parsed : parsedSteps α path = .ok steps)
    (wrote : encode current.value = some document) (alone : current.layers = [])
    (followed : document.follow path (keysOf steps) = .ok found) :
    current.trace path = .ok (found,
      ⟨path, [⟨current.wiring.scope.getD .anonymous, "", path, found, true⟩]⟩) := by
  have forms : WrittenForms.ofConfiguration current =
      .ok ⟨document, [], current.wiring.scope.getD .anonymous⟩ := by
    unfold WrittenForms.ofConfiguration
    refine (bind_eq_ok _ _ _).2 ⟨document, (written_form_eq_ok _ _).2 wrote, ?_⟩
    rw [alone]
    rfl
  unfold Configuration.trace
  refine (bind_eq_ok _ _ _).2 ⟨steps, parsed, (bind_eq_ok _ _ _).2 ⟨_, forms, ?_⟩⟩
  exact (bind_eq_ok _ _ _).2 ⟨found, (follow_keys_eq_ok _ _ _ _).2 followed, rfl⟩

theorem read_after_set (current updated : Configuration α) (path : String) (value : Json)
    (written : current.set path value = .ok updated) :
    updated.layers = [] ∧ updated.wiring = current.wiring ∧
      ∃ held, held.same value ∧ updated.get path = .ok held ∧
        updated.trace path = .ok (held,
          ⟨path, [⟨current.wiring.scope.getD .anonymous, "", path, held, true⟩]⟩) := by
  obtain ⟨steps, before, after, found, result, shown, parsed, -, -, -, again, followed, same, rfl⟩ :=
    set_eq_ok current updated path value written
  refine ⟨rfl, rfl, shown, same, ?_, ?_⟩
  · exact (get_eq_ok_iff _ path _ result shown (keys_at_of_parsed path steps parsed) again).2 followed
  · exact trace_of_followed _ path steps result shown parsed again rfl followed

open Snapshot in
theorem others_after_set (model : Model) (steady : model.type.Steady model.declarations)
    (current updated : Configuration (Snapshot model)) (path other : String) (value held : Json)
    (keys otherKeys : List String)
    (typed : current.value.value.HasType model.declarations model.type)
    (written : current.set path value = .ok updated)
    (read : keysAt? (Snapshot model) path = some keys)
    (otherRead : keysAt? (Snapshot model) other = some otherKeys) (parted : Parted otherKeys keys)
    (got : current.get other = .ok held) : updated.get other = .ok held := by
  obtain ⟨steps, before, after, found, result, shown, parsed, wrote, assigned, reads, again, followed,
    same, rfl⟩ := set_eq_ok current updated path value written
  obtain rfl : keysOf steps = keys :=
    Option.some.inj ((keys_at_of_parsed path steps parsed).symm.trans read)
  rw [get_eq_ok_iff current other otherKeys before held otherRead wrote] at got
  rw [get_eq_ok_iff _ other otherKeys result held otherRead again]
  obtain ⟨inner, innerReads, rfl⟩ := Option.map_eq_some_iff.1 reads
  exact value_keeps current.value.value model.type steady typed path other value steps otherKeys before
    after result shown held inner wrote assigned innerReads again followed same parted got

end Configuration

namespace Snapshot

/-- Setting a value and nothing else: the written value is read and traced, the layers are dropped and
the wiring stays; and in a type in which everything declared is steady, every path that parts from the
written one reads what it read before. -/
theorem set_value_alone :
    (∀ (α : Type) [Mergeable α] [Writable α] (current updated : Configuration α) (path : String)
      (value : Json), current.set path value = .ok updated →
        updated.layers = [] ∧ updated.wiring = current.wiring ∧
          ∃ held, held.same value ∧ updated.get path = .ok held ∧
            updated.trace path = .ok (held,
              ⟨path, [⟨current.wiring.scope.getD .anonymous, "", path, held, true⟩]⟩)) ∧
    ∀ (model : Model), model.type.Steady model.declarations →
      ∀ (current updated : Configuration (Snapshot model)) (path other : String)
        (value held : Json) (keys otherKeys : List String),
        current.value.value.HasType model.declarations model.type →
        current.set path value = .ok updated →
        Configuration.keysAt? (Snapshot model) path = some keys →
        Configuration.keysAt? (Snapshot model) other = some otherKeys →
        Parted otherKeys keys → current.get other = .ok held → updated.get other = .ok held := by
  constructor
  · intro α _ _ current updated path value written
    exact Configuration.read_after_set current updated path value written
  · intro model steady current updated path other value held keys otherKeys typed written read
      otherRead parted got
    exact Configuration.others_after_set model steady current updated path other value held keys
      otherKeys typed written read otherRead parted got

def namedRetries : Model :=
  Catalogue.model (Catalogue.mapOf (.named "retry"))

theorem retry_steady : (Ty.named "retry").Steady Catalogue.declarations := by
  refine steady_record "retry" Catalogue.retry rfl ?_ ?_
  · exact steady_of_always Catalogue.retry rfl (by decide) (by decide)
  · simp only [Catalogue.retry, List.forall_mem_cons]
    exact ⟨steady_option _ (steady_scalar _), steady_option _ (steady_scalar _),
      List.forall_mem_nil _⟩

/-- Three attempts with a backoff under one name and one attempt under another. -/
def namedRetriesSet : Configuration (Snapshot namedRetries) where
  value := ⟨.map
    [("a", .product [.present (.atom (.int 3)), .present (.atom (.int 250))]),
      ("b", .product [.present (.atom (.int 1)), .absent])]⟩
  layers := [.ofScope (Scope.ofName "user" 20) ⟨.map []⟩]
  wiring := {}

/-- A number of attempts with a note that is left out while it is unset. -/
def notedRecord : Record where
  fields :=
    [ Catalogue.withPresence (.sometimes Value.isUnset) (Catalogue.optional "note" Catalogue.text)
    , Catalogue.optional "attempts" (Catalogue.unsigned 32) ]

def notedAttempts : Model where
  declarations
    | "noted" => some (.record notedRecord)
    | _ => none
  type := .named "noted"

theorem noted_attempts_steady : notedAttempts.type.Steady notedAttempts.declarations := by
  refine steady_record "noted" notedRecord rfl ⟨rfl, ?_, by decide, by decide⟩ ?_
  · simp only [notedRecord, List.forall_mem_cons]
    refine ⟨steady_of_unset _ _ Catalogue.text rfl rfl nofun ?_, trivial, List.forall_mem_nil _⟩
    intro value wrote
    cases value with
    | atom atom => cases atom <;> simp [write, Catalogue.text, Scalar.write] at wrote
    | _ => simp [write, Catalogue.text, Ty.held?] at wrote
  · simp only [notedRecord, List.forall_mem_cons]
    exact ⟨steady_option _ (steady_scalar _), steady_option _ (steady_scalar _),
      List.forall_mem_nil _⟩

def threeAttempts : Configuration (Snapshot notedAttempts) :=
  .ofValue ⟨.product [.present (.atom (.text "nightly")), .present (.atom (.int 3))]⟩

theorem named_attempts_set_alone :
    (∃ updated, namedRetriesSet.set "a.attempts" (.ofInt 5) = .ok updated ∧
      updated.layers = [] ∧
      (∃ held, held.same (.ofInt 5) ∧ updated.get "a.attempts" = .ok held) ∧
      updated.get "a.backoff_ms" = .ok (.ofInt 250) ∧ updated.get "b.attempts" = .ok (.ofInt 1)) ∧
    ∃ updated, threeAttempts.set "attempts" (.ofInt 5) = .ok updated ∧
      updated.get "note" = .ok (.string "nightly") := by
  have typed : namedRetriesSet.value.value.HasType namedRetries.declarations namedRetries.type := by
    apply Value.HasType.map
    · decide
    · exact fun _ _ => rfl
    · simp only [List.forall_mem_cons]
      refine ⟨?_, ?_, List.forall_mem_nil _⟩
      · exact retry_typed _ _ (number_typed 32 3 (by decide)) (number_typed 64 250 (by decide))
      · exact retry_typed _ _ (number_typed 32 1 (by decide)) (.absent _)
  have notedTyped : threeAttempts.value.value.HasType notedAttempts.declarations
      notedAttempts.type := by
    apply Value.HasType.record _ _ notedRecord rfl rfl
    simp only [notedRecord, List.zip_cons_cons, List.forall_mem_cons]
    exact ⟨.present _ _ (.atom _ _ trivial), number_typed 32 3 (by decide), List.forall_mem_nil _⟩
  obtain ⟨updated, written⟩ :
      ∃ updated, namedRetriesSet.set "a.attempts" (.ofInt 5) = .ok updated := ⟨_, rfl⟩
  obtain ⟨noted, notedWritten⟩ :
      ∃ noted, threeAttempts.set "attempts" (.ofInt 5) = .ok noted := ⟨_, rfl⟩
  obtain ⟨readBack, others⟩ := set_value_alone
  obtain ⟨alone, -, held, same, got, -⟩ :=
    readBack (Snapshot namedRetries) namedRetriesSet updated "a.attempts" (.ofInt 5) written
  have beside := others namedRetries (steady_map _ _ retry_steady) namedRetriesSet updated "a.attempts"
  refine ⟨⟨updated, written, alone, ⟨held, same, got⟩, ?_, ?_⟩, noted, notedWritten, ?_⟩
  · exact beside "a.backoff_ms" (.ofInt 5) (.ofInt 250) ["a", "attempts"] ["a", "backoff_ms"] typed
      written rfl rfl (by decide) rfl
  · exact beside "b.attempts" (.ofInt 5) (.ofInt 1) ["a", "attempts"] ["b", "attempts"] typed written
      rfl rfl (by decide) rfl
  · exact others notedAttempts noted_attempts_steady threeAttempts noted "attempts" "note" (.ofInt 5)
      (.string "nightly") ["attempts"] ["note"] notedTyped notedWritten rfl rfl (by decide) rfl

/-- Limits that never apply or are fixed, with the chosen kind among the members of the fixed ones. -/
def taggedLimits : Model where
  declarations
    | "limits" => some (.enumeration
        [⟨"Never", .nothing⟩, ⟨"Fixed", .fields (.named "fixed")⟩] (.variant "Never" (.product []))
        (.internal "kind"))
    | "fixed" => some (.record
        { fields := [Catalogue.field "attempts" (Catalogue.unsigned 32),
            Catalogue.field "limit" (Catalogue.unsigned 32)] })
    | _ => none
  type := .named "limits"

def fixedLimits : Configuration (Snapshot taggedLimits) :=
  .ofValue ⟨.variant "Fixed" (.product [.atom (.int 5), .atom (.int 2)])⟩

def slashedNumber : Configuration FileNumbers :=
  .ofValue (FileNumbers.single "a/" 1)

/-- Where the kind stands beside what it holds, setting the kind drops what lies beside it; and where a key
has several spellings, setting another spelling of a key takes the entry of the first one away. -/
theorem set_value_displaces :
    (∃ updated, fixedLimits.set "kind" (.string "Never") = .ok updated ∧
      fixedLimits.get "limit" = .ok (.ofInt 2) ∧
      updated.get "limit" = .error (.path (.noKey "limit" "limit"))) ∧
    ∃ updated, slashedNumber.set "a" (.ofInt 1) = .ok updated ∧
      slashedNumber.get "a/" = .ok (.ofInt 1) ∧
      updated.get "a/" = .error (.path (.noKey "a/" "a/")) :=
  ⟨⟨_, rfl, rfl, rfl⟩, _, rfl, rfl, rfl⟩

end Snapshot

end LayeredConfig
