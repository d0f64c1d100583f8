import LayeredConfig.Proofs.Navigation
import LayeredConfig.Trace.Leaves

/-!
# Paths that only differ in what is reported

Reading, writing and tracing go along the steps of a path. The text of the path is kept for reports: two
paths with the same steps are read, written and traced alike, and their faults and traces differ in the
path that they carry and in nothing else.
-/
set_option autoImplicit false

namespace LayeredConfig

def Failure.along (path : String) : Failure → Failure
  | .path fault => .path (fault.along path)
  | .notRetained _ => .notRetained path
  | other => other

def TraceEntry.along (path : String) (entry : TraceEntry) : TraceEntry :=
  { entry with path }

def Trace.along (path : String) (trace : Trace) : Trace :=
  ⟨path, trace.layers.map (TraceEntry.along path)⟩

theorem winner_along (path : String) (trace : Trace) :
    (trace.along path).winner? = trace.winner?.map (TraceEntry.along path) := by
  simp only [Trace.winner?, Trace.along, List.find?_map]
  rfl

theorem follow_keys_along (path other : String) (document : Json) (keys : List String) :
    followKeys other document keys =
      (followKeys path document keys).mapError (Failure.along other) := by
  unfold followKeys
  rw [Json.follow_along path other keys document]
  cases document.follow path keys <;> rfl

/-- A computation whose failure, if it fails, carries no path. -/
def FailsAlike {β : Type} (result : Except Failure β) : Prop :=
  ∀ failure, result = .error failure → ∀ path, failure.along path = failure

theorem fails_alike_ok {β : Type} (value : β) : FailsAlike (.ok value) := by
  intro failure failed
  cases failed

theorem fails_alike_conversion {β : Type} : FailsAlike (.error .conversion : Except Failure β) := by
  intro failure failed path
  cases failed
  rfl

theorem fails_alike_bind {β γ : Type} (first : Except Failure β) (next : β → Except Failure γ)
    (alike : FailsAlike first) (others : ∀ value, FailsAlike (next value)) :
    FailsAlike (first >>= next) := by
  cases first with
  | error failure =>
      intro other failed
      cases failed
      exact alike failure rfl
  | ok value => exact others value

/-- A first step that fails alike may be taken before the path is known. -/
theorem bind_along {β γ : Type} (path : String) (first : Except Failure β)
    (next : β → Except Failure γ) (alike : FailsAlike first) :
    (first >>= next).mapError (Failure.along path) =
      first >>= fun value => (next value).mapError (Failure.along path) := by
  cases first with
  | error failure => exact congrArg Except.error (alike failure rfl path)
  | ok value => rfl

section

variable {α : Type} [Writable α]

theorem written_form_fails_alike (value : α) : FailsAlike (writtenForm value) := by
  unfold writtenForm
  cases encode value with
  | none => exact fails_alike_conversion
  | some document => exact fails_alike_ok document

theorem snapshot_of_fails_alike (document : Json) :
    FailsAlike (snapshotOf document : Except Failure α) := by
  unfold snapshotOf
  cases (decode document : Option α) with
  | none => exact fails_alike_conversion
  | some value => exact fails_alike_ok value

namespace WrittenForms

theorem of_layer_fails_alike (layer : Layer α) : FailsAlike (ofLayer layer) :=
  fails_alike_bind _ _ (written_form_fails_alike layer.snapshot) fun _ => fails_alike_ok _

theorem of_layers_fail_alike (layers : List (Layer α)) : FailsAlike (ofLayers layers) := by
  induction layers with
  | nil => exact fails_alike_ok []
  | cons layer layers ih =>
      refine fails_alike_bind _ _ (of_layer_fails_alike layer) fun first => ?_
      exact fails_alike_bind _ _ ih fun others => fails_alike_ok (first :: others)

theorem of_configuration_fails_alike (current : Configuration α) :
    FailsAlike (ofConfiguration current) := by
  refine fails_alike_bind _ _ (written_form_fails_alike current.value) fun merged => ?_
  exact fails_alike_bind _ _ (of_layers_fail_alike current.layers) fun layers => fails_alike_ok _

end WrittenForms

end

namespace Json

theorem open_members_along (path other : String) (node : Json) (step : Step) :
    openMembers other node step =
      (openMembers path node step).mapError (PathFault.along other) := by
  obtain ⟨key, container⟩ := step
  cases container with
  | struct =>
      cases node with
      | object members => cases held : Members.contains key members <;> simp [openMembers, held] <;> rfl
      | _ => rfl
  | _ => cases node <;> rfl

theorem assign_along (path other : String) (value : Json) (steps : List Step) (node : Json) :
    assign other value steps node =
      ((assign path value steps node).1,
        (assign path value steps node).2.map (PathFault.along other)) := by
  induction steps generalizing node with
  | nil => rfl
  | cons step rest ih =>
      unfold assign
      rw [open_members_along path other node step]
      cases openMembers path node step with
      | error fault => rfl
      | ok members =>
          cases rest with
          | nil => rfl
          | cons next more => simp only [Except.mapError, ih]

end Json

theorem assign_steps_along (path other : String) (value : Json) (steps : List Step) (document : Json) :
    assignAlong other value steps document =
      (assignAlong path value steps document).mapError (Failure.along other) := by
  unfold assignAlong
  rw [Json.assign_along path other value steps document]
  obtain ⟨after, fault⟩ := Json.assign path value steps document
  cases fault <;> rfl

theorem retains_along (path other : String) (keys : List String) (wanted found : Json) :
    retains other keys wanted found = retains path keys wanted found := by
  unfold retains
  rw [Json.follow_along path other keys wanted, Json.follow_along path other keys found]
  cases wanted.follow path keys with
  | error fault => rfl
  | ok expected => cases found.follow path keys <;> rfl

namespace WrittenForms

theorem hit_along (path other : String) (keys : List String) (layer : WrittenLayer) :
    hit? other keys layer = hit? path keys layer := by
  unfold hit?
  rw [Json.follow_along path other keys layer.document]
  cases layer.document.follow path keys <;> rfl

theorem entry_along (path other : String) (keys : List String) (layer : WrittenLayer) :
    entry other keys layer = (entry path keys layer).along other := by
  simp only [entry, hit_along path other keys layer, TraceEntry.along]

theorem trace_along (forms : WrittenForms) (path other : String) (keys : List String) :
    forms.trace other keys =
      ((forms.trace path keys).map fun traced => (traced.1, traced.2.along other)).mapError
        (Failure.along other) := by
  have entries : forms.layers.map (entry other keys) =
      (forms.layers.map (entry path keys)).map (TraceEntry.along other) := by
    rw [List.map_map]
    exact List.map_congr_left fun layer _ => entry_along path other keys layer
  unfold WrittenForms.trace
  rw [follow_keys_along path other forms.merged keys]
  split
  · cases followKeys path forms.merged keys <;> rfl
  · have won := winner_along other ⟨path, forms.layers.map (entry path keys)⟩
    simp only [Trace.along] at won
    simp only [entries, won]
    cases Trace.winner? ⟨path, forms.layers.map (entry path keys)⟩ with
    | some winner => rfl
    | none => cases followKeys path forms.merged keys <;> rfl

end WrittenForms

namespace Configuration

variable {α : Type} [Mergeable α] [Writable α]

theorem get_along (current : Configuration α) (path other : String) (steps : List Step)
    (parsed : parsedSteps α path = .ok steps) (otherParsed : parsedSteps α other = .ok steps) :
    current.get other = (current.get path).mapError (Failure.along other) := by
  unfold Configuration.get
  rw [parsed, otherParsed]
  show (writtenForm current.value >>= _) = (writtenForm current.value >>= _).mapError _
  rw [bind_along other _ _ (written_form_fails_alike current.value)]
  congr 1
  funext document
  exact follow_keys_along path other document (keysOf steps)

theorem set_along (current : Configuration α) (path other : String) (steps : List Step)
    (parsed : parsedSteps α path = .ok steps) (otherParsed : parsedSteps α other = .ok steps)
    (value : Json) :
    current.set other value = (current.set path value).mapError (Failure.along other) := by
  unfold Configuration.set
  simp only [parsed, otherParsed, retains_along path other]
  show (writtenForm current.value >>= _) = (writtenForm current.value >>= _).mapError _
  rw [bind_along other _ _ (written_form_fails_alike current.value)]
  congr 1
  funext document
  rw [assign_steps_along path other value steps document]
  cases assignAlong path value steps document with
  | error failure => rfl
  | ok after =>
      show (snapshotOf after >>= _) = (snapshotOf after >>= _).mapError _
      rw [bind_along other _ _ (snapshot_of_fails_alike after)]
      congr 1
      funext updated
      rw [bind_along other _ _ (written_form_fails_alike updated)]
      congr 1
      funext readback
      split <;> rfl

theorem trace_along (current : Configuration α) (path other : String) (steps : List Step)
    (parsed : parsedSteps α path = .ok steps) (otherParsed : parsedSteps α other = .ok steps) :
    current.trace other =
      ((current.trace path).map fun traced => (traced.1, traced.2.along other)).mapError
        (Failure.along other) := by
  unfold Configuration.trace
  rw [parsed, otherParsed]
  cases wrote : WrittenForms.ofConfiguration current with
  | error failure =>
      have alike := WrittenForms.of_configuration_fails_alike current failure wrote other
      exact congrArg Except.error alike.symm
  | ok forms => exact forms.trace_along path other (keysOf steps)

end Configuration

end LayeredConfig
