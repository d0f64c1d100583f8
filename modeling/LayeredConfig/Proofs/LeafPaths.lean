import LayeredConfig.Catalogue.Basic
import LayeredConfig.Proofs.Assignment
import LayeredConfig.Proofs.Describing
import LayeredConfig.Proofs.LeafListing

/-!
# Asking for listed leaves again

The leaves of a configuration are listed under the keys of its written form, while a path that is asked
for may spell a field by its name. A listed path leads back to its leaf unless one of its keys is, in the
record where it is looked up, the name of a field that has another key.
-/
set_option autoImplicit false

namespace LayeredConfig

namespace Snapshot

/-- The field of that name, if there is one, has the name as its key in paths. Items have no names. -/
def Record.Spells (declared : Record) (segment : String) : Prop :=
  declared.layout = .members → ∀ field,
    declared.pathFields.find? (fun field => field.name = segment) = some field →
      field.key = segment

/-- Following keys from a type, a segment is looked up among the fields of a record. -/
inductive Ty.LooksUp (declarations : Declarations) : Ty → List String → Record → String → Prop
  | content (outer content : Ty) (keys : List String) (declared : Record) (segment : String)
      (wraps : outer.content? declarations = some content)
      (inside : LooksUp declarations content keys declared segment) :
      LooksUp declarations outer keys declared segment
  | item (outer item : Ty) (key : String) (keys : List String) (declared : Record)
      (segment : String) (holds : outer.item? = some item)
      (inside : LooksUp declarations item keys declared segment) :
      LooksUp declarations outer (key :: keys) declared segment
  | here (name : String) (declared : Record) (segment : String) (keys : List String)
      (known : declarations name = some (.record declared)) :
      LooksUp declarations (.named name) (segment :: keys) declared segment
  | field (name : String) (outer : Record) (key : String) (field : PathField)
      (keys : List String) (declared : Record) (segment : String)
      (known : declarations name = some (.record outer)) (meant : outer.pathField? key = some field)
      (inside : LooksUp declarations field.type keys declared segment) :
      LooksUp declarations (.named name) (key :: keys) declared segment

/-- Wherever some keys are looked up among fields, they are not names that stand for other keys. -/
def Ty.Spells (declarations : Declarations) (type : Ty) (keys : List String) : Prop :=
  ∀ declared segment, type.LooksUp declarations keys declared segment → declared.Spells segment

theorem spells_iff (declared : Record) (segment : String) :
    declared.Spells segment ↔
      ∀ field, declared.pathField? segment = some field → field.key = segment := by
  constructor
  · intro spelled field meant
    have byKey (found : declared.pathFields.find? (fun field => field.key = segment) = some field) :
        field.key = segment := by
      simpa using List.find?_some found
    unfold Record.pathField? at meant
    cases layout : declared.layout with
    | items =>
        rw [layout] at meant
        exact byKey meant
    | members =>
        rw [layout] at meant
        rcases Option.or_eq_some_iff.1 meant with named | ⟨-, found⟩
        · exact spelled layout field named
        · exact byKey found
  · intro kept layout field named
    apply kept
    simp [Record.pathField?, layout, named]

variable {declarations : Declarations}

theorem content_spells_iff (outer content : Ty) (keys : List String)
    (wraps : outer.content? declarations = some content) :
    outer.Spells declarations keys ↔ content.Spells declarations keys := by
  constructor
  · intro spelled declared segment inside
    exact spelled declared segment (.content outer content keys declared segment wraps inside)
  · intro spelled declared segment looked
    cases looked with
    | content _ _ _ _ _ again inside =>
        cases wraps.symm.trans again
        exact spelled declared segment inside
    | item _ _ _ _ _ _ holds => cases outer <;> simp_all [Ty.content?, Ty.held?, Ty.item?]
    | here _ _ _ _ known | field _ _ _ _ _ _ _ known =>
        simp [Ty.content?, Ty.held?, known] at wraps

theorem item_spells_iff (outer item : Ty) (key : String) (keys : List String)
    (holds : outer.item? = some item) :
    outer.Spells declarations (key :: keys) ↔ item.Spells declarations keys := by
  constructor
  · intro spelled declared segment inside
    exact spelled declared segment (.item outer item key keys declared segment holds inside)
  · intro spelled declared segment looked
    cases looked with
    | content _ _ _ _ _ wraps => cases outer <;> simp_all [Ty.content?, Ty.held?, Ty.item?]
    | item _ _ _ _ _ _ again inside =>
        cases holds.symm.trans again
        exact spelled declared segment inside
    | here | field => cases holds

theorem record_spells_iff (name : String) (outer : Record) (key : String) (keys : List String)
    (known : declarations name = some (.record outer)) :
    (Ty.named name).Spells declarations (key :: keys) ↔
      outer.Spells key ∧ ∀ field, outer.pathField? key = some field →
        field.type.Spells declarations keys := by
  constructor
  · intro spelled
    refine ⟨spelled outer key (.here name outer key keys known), ?_⟩
    intro field meant declared segment inside
    exact spelled declared segment
      (.field name outer key field keys declared segment known meant inside)
  · intro spelled declared segment looked
    obtain ⟨here, below⟩ := spelled
    cases looked with
    | content _ _ _ _ _ wraps => simp [Ty.content?, Ty.held?, known] at wraps
    | item _ _ _ _ _ _ holds => cases holds
    | here _ _ _ _ again =>
        cases known.symm.trans again
        exact here
    | field _ other _ field _ _ _ again meant inside =>
        cases known.symm.trans again
        exact below field meant declared segment inside

theorem opaque_spells (type : Ty) (keys : List String) (wraps : type.content? declarations = none)
    (holds : type.item? = none)
    (unknown : ∀ name declared, type = .named name → declarations name ≠ some (.record declared)) :
    type.Spells declarations keys := by
  intro declared segment looked
  cases looked with
  | content _ _ _ _ _ again => simp [again] at wraps
  | item _ _ _ _ _ _ again => simp [again] at holds
  | here _ _ _ _ known => exact absurd known (unknown _ _ rfl)
  | field _ _ _ _ _ _ _ known => exact absurd known (unknown _ _ rfl)

theorem keys_of_described_cons (segment : String) (rest : List String) (type : Ty)
    (below : ∀ inner : Ty, keysOf (describe declarations rest inner) = rest ↔
      inner.Spells declarations rest) :
    keysOf (describe declarations (segment :: rest) type) = segment :: rest ↔
      type.Spells declarations (segment :: rest) := by
  induction type using content_induction declarations with
  | step type ih =>
      rcases entered_cases declarations type with ⟨content, wraps⟩ |
        ⟨-, item, holds⟩ | ⟨name, declared, rfl, known⟩ | ⟨wraps, holds, unknown⟩
      · rw [describe_content _ type content wraps, content_spells_iff type content _ wraps]
        exact ih content wraps
      · rw [describe_item segment rest type item holds, item_spells_iff type item _ _ holds, ← below]
        simp [keysOf]
      · rw [record_spells_iff name declared segment rest known, spells_iff]
        cases meant : declared.pathField? segment with
        | some field =>
            rw [describe_field name segment rest declared known field meant]
            simp [keysOf, ← below]
        | none =>
            rw [describe_no_field name segment rest declared known meant]
            have kept : keysOf (verbatimSteps rest) = rest := keys_of_verbatim rest
            simpa [keysOf] using kept
      · rw [describe_verbatim _ type wraps holds unknown]
        simp only [keys_of_verbatim, true_iff]
        exact opaque_spells type _ wraps holds unknown

theorem keys_of_described (keys : List String) (type : Ty) :
    keysOf (describe declarations keys type) = keys ↔ type.Spells declarations keys := by
  induction keys generalizing type with
  | nil =>
      have nothing (outer : Ty) (none : List String) (declared : Record) (segment : String)
          (looked : outer.LooksUp declarations none declared segment) : none ≠ [] := by
        induction looked with
        | content _ _ _ _ _ _ _ ih => exact ih
        | item | here | field => simp
      refine iff_of_true rfl ?_
      intro declared segment looked
      exact absurd rfl (nothing type [] declared segment looked)
  | cons segment rest ih => exact keys_of_described_cons segment rest type ih

variable {model : Model}

/-- A listed path leads back to its leaf, unless one of its keys is the name of a field that has another
key in paths: reading it gives the value that the effective snapshot holds there, and tracing it the value
and the trace that the leaf was listed with. -/
theorem listed_path_leads_back (current : Configuration (Snapshot model)) (merged : Json)
    (wrote : encode current.value = some merged) (sorted : merged.Sorted) (indexed : merged.Indexed)
    (leaves : List TracedLeaf) (traced : current.tracedLeaves = .ok leaves) (leaf : TracedLeaf)
    (member : leaf ∈ leaves) :
    ∃ keys, Path.parse leaf.path = .ok keys ∧
      (model.type.Spells model.declarations keys →
        (∃ value, current.get leaf.path = .ok value ∧
          merged.follow leaf.path keys = .ok value) ∧
        current.trace leaf.path = .ok (leaf.value, leaf.trace)) := by
  obtain ⟨forms, wroteForms, each⟩ := Configuration.traced_leaves_eq_ok current leaves traced
  have wroteMerged := (WrittenForms.of_configuration_eq_ok current forms wroteForms).1
  cases wrote.symm.trans wroteMerged
  obtain ⟨keys, listed, found⟩ := each leaf member
  obtain ⟨named, tracedLeaf, -⟩ := WrittenForms.leaf_eq_ok forms keys leaf found
  have parsed : Path.parse leaf.path = .ok keys := by
    rw [named]
    exact parse_of_listed forms.merged keys listed
  refine ⟨keys, parsed, ?_⟩
  intro spelled
  have kept : keysOf (describe model.declarations keys model.type) = keys :=
    (keys_of_described keys model.type).2 spelled
  have steps : parsedSteps (Snapshot model) leaf.path =
      .ok (describe model.declarations keys model.type) := by
    simp only [parsedSteps, parsed]
    rfl
  have read : Configuration.keysAt? (Snapshot model) leaf.path = some keys := by
    simp [Configuration.keysAt?, steps, kept]
  constructor
  · obtain ⟨value, followed⟩ :=
      Json.followed_of_listed forms.merged sorted indexed leaf.path keys listed
    have got := (Configuration.get_eq_ok_iff current leaf.path keys forms.merged value read wrote).2
      followed
    exact ⟨value, got, followed⟩
  · unfold Configuration.trace
    rw [steps, wroteForms]
    show forms.trace leaf.path (keysOf (describe model.declarations keys model.type)) = _
    rw [kept]
    exact tracedLeaf

/-- One attempt in the field `left`, which is written under the name of another field, and seven in a
field whose key is no name. -/
def swappedRetry : Configuration (Snapshot (Catalogue.declared "swapped")) :=
  .ofValue ⟨.product
    [.present (.product [.present (.atom (.int 1)), .absent]), .absent,
      .present (.atom (.int 7))]⟩

/-- The path that a leaf is listed under may stand for another field when it is asked for. -/
theorem listed_path_leads_elsewhere :
    ∃ leaves, swappedRetry.tracedLeaves = .ok leaves ∧ ∃ leaf ∈ leaves,
      leaf.path = "right.attempts" ∧ leaf.value = .ofInt 1 ∧
      swappedRetry.get leaf.path = .error (.path (.throughNull "right.attempts" "attempts")) ∧
      swappedRetry.trace leaf.path = .error (.path (.throughNull "right.attempts" "attempts")) := by
  have got : swappedRetry.get "right.attempts" =
      .error (.path (.throughNull "right.attempts" "attempts")) := rfl
  have traced : swappedRetry.trace "right.attempts" =
      .error (.path (.throughNull "right.attempts" "attempts")) := rfl
  exact ⟨_, rfl, _, List.mem_cons_of_mem _ (List.mem_cons_of_mem _ (List.mem_cons_self ..)),
    rfl, rfl, got, traced⟩

theorem unnamed_key_leads_back :
    ∃ leaves, swappedRetry.tracedLeaves = .ok leaves ∧ ∃ leaf ∈ leaves,
      leaf.path = "out" ∧ swappedRetry.get leaf.path = .ok (.ofInt 7) ∧
      swappedRetry.trace leaf.path = .ok (leaf.value, leaf.trace) := by
  have sorted : Json.Sorted (.object
      [("left", .null), ("out", .ofInt 7),
        ("right", .object [("attempts", .ofInt 1), ("backoff_ms", .null)])]) := by
    simp only [Json.Sorted, Json.SortedMembers, Json.ofInt, and_true, true_and]
    exact ⟨by decide, by decide⟩
  have indexed : Json.Indexed (.object
      [("left", .null), ("out", .ofInt 7),
        ("right", .object [("attempts", .ofInt 1), ("backoff_ms", .null)])]) := by
    have null : Json.null.Indexed := Json.indexed_scalar _ (by simp) (by simp)
    have number (value : Int) : (Json.ofInt value).Indexed :=
      Json.indexed_scalar _ (by simp [Json.ofInt]) (by simp [Json.ofInt])
    apply Json.indexed_object
    simp only [List.forall_mem_cons]
    refine ⟨null, number 7, Json.indexed_object _ ?_, List.forall_mem_nil _⟩
    simp only [List.forall_mem_cons]
    exact ⟨number 1, null, List.forall_mem_nil _⟩
  refine ⟨_, rfl, ⟨"out", .ofInt 7, _, _⟩,
    List.mem_cons_of_mem _ (List.mem_cons_self ..), rfl, ?_⟩
  obtain ⟨keys, parsed, back⟩ := listed_path_leads_back swappedRetry _ rfl sorted indexed _ rfl
    ⟨"out", .ofInt 7, _, _⟩ (List.mem_cons_of_mem _ (List.mem_cons_self ..))
  obtain rfl : ["out"] = keys := Except.ok.inj parsed
  obtain ⟨⟨value, got, followed⟩, again⟩ := back ((keys_of_described ["out"] _).1 rfl)
  obtain rfl : .ofInt 7 = value := Except.ok.inj followed
  exact ⟨got, again⟩

end Snapshot

end LayeredConfig
