import LayeredConfig.Configuration.Basic
import LayeredConfig.Proofs.Documents
import LayeredConfig.Proofs.Places

/-!
# Assigning in documents

Assigning goes through objects and unset nodes only. What was assigned is found again, and every path
that parts from the assigned one finds what it found before.
-/
set_option autoImplicit false

namespace LayeredConfig

/-- Two paths part where neither is the beginning of the other. -/
def Parted (first second : List String) : Prop :=
  ¬ first <+: second ∧ ¬ second <+: first

instance (first second : List String) : Decidable (Parted first second) :=
  inferInstanceAs (Decidable (_ ∧ _))

theorem parted_cons_iff (first second : String) (rest others : List String) :
    Parted (first :: rest) (second :: others) ↔ first = second → Parted rest others := by
  simp only [Parted, List.cons_prefix_cons]
  by_cases same : first = second
  · simp [same]
  · simp [same, Ne.symm same]

theorem cons_of_parted (first second : List String) (parted : Parted first second) :
    ∃ key rest, first = key :: rest := by
  cases first with
  | nil => exact absurd List.nil_prefix parted.1
  | cons key rest => exact ⟨key, rest, rfl⟩

theorem parted_symm (first second : List String) (parted : Parted first second) :
    Parted second first :=
  ⟨parted.2, parted.1⟩

@[simp] theorem keys_of_verbatim (segments : List String) :
    keysOf (verbatimSteps segments) = segments := by
  induction segments with
  | nil => rfl
  | cons segment rest ih => exact congrArg (segment :: ·) ih

namespace Json

theorem follow_member (path key : String) (rest : List String) (members : List (String × Json))
    (found : Json) :
    (object members).follow path (key :: rest) = .ok found ↔
      ∃ child, Members.find? key members = some child ∧ child.follow path rest = .ok found := by
  simp only [follow, child]
  cases Members.find? key members <;> simp

/-- The members of a node that can be written into; an unset node has none. -/
def opened? : Json → Option (List (String × Json))
  | .null => some []
  | .object members => some members
  | _ => none

theorem object_of_opened (node : Json) (members : List (String × Json)) (key : String) (child : Json)
    (opened : node.opened? = some members) (held : Members.find? key members = some child) :
    node = .object members := by
  cases node with
  | object inside =>
      cases opened
      rfl
  | null =>
      cases opened
      cases held
  | _ => cases opened

theorem opened_of_open_members (path : String) (node : Json) (step : Step)
    (members : List (String × Json)) (opened : openMembers path node step = .ok members) :
    node.opened? = some members := by
  unfold openMembers at opened
  simp only at opened
  split at opened
  · cases opened
  · cases opened
    rfl
  · split at opened
    · cases opened
      rfl
    · cases opened
  · cases opened
    rfl
  · cases opened

theorem sorted_opened (node : Json) (sorted : node.Sorted) (members : List (String × Json))
    (opened : node.opened? = some members) :
    Members.Sorted members ∧ ∀ key, ((Members.find? key members).getD .null).Sorted := by
  cases node with
  | null =>
      cases opened
      exact ⟨List.Pairwise.nil, fun _ => trivial⟩
  | object inside =>
      cases opened
      refine ⟨sorted.1, ?_⟩
      intro key
      cases held : Members.find? key members with
      | none => trivial
      | some child =>
          exact (sorted_members_iff members).1 sorted.2 _ (Members.mem_of_find key child members held)
  | _ => cases opened

/-- A segment that the document decides is written into whatever can be written into. -/
theorem open_members_dynamic (path key : String) (node : Json) :
    openMembers path node ⟨key, .dynamic⟩ =
      node.opened?.elim (.error (.closed path key (.node node.kind))) Except.ok := by
  cases node <;> rfl

theorem assign_solid (path key : String) (rest : List String) (value node : Json)
    (solid : node.opened? = none) :
    assign path value (verbatimSteps (key :: rest)) node =
      (node, some (.closed path key (.node node.kind))) := by
  rw [verbatimSteps, List.map_cons, assign, open_members_dynamic, solid]
  rfl

theorem assign_last (path key : String) (value node : Json) (members : List (String × Json))
    (opened : node.opened? = some members) :
    assign path value (verbatimSteps [key]) node =
      (.object (Members.insert key value members), none) := by
  rw [verbatimSteps, List.map_cons, assign, open_members_dynamic, opened]
  rfl

theorem assign_further (path key next : String) (rest : List String) (value node after : Json)
    (fault : Option PathFault) (members : List (String × Json))
    (opened : node.opened? = some members)
    (below : assign path value (verbatimSteps (next :: rest))
      ((Members.find? key members).getD .null) = (after, fault)) :
    assign path value (verbatimSteps (key :: next :: rest)) node =
      (.object (Members.insert key after members), fault) := by
  rw [verbatimSteps, List.map_cons] at below ⊢
  rw [assign, open_members_dynamic, opened]
  simp only [Option.elim_some, List.map_cons, below]

theorem assign_cons (path : String) (value node result : Json) (step : Step) (rest : List Step)
    (assigned : assign path value (step :: rest) node = (result, none)) :
    ∃ members child, node.opened? = some members ∧
      result = .object (Members.insert step.key child members) ∧
      ((rest = [] ∧ child = value) ∨
        (rest ≠ [] ∧
          assign path value rest ((Members.find? step.key members).getD .null) = (child, none))) := by
  rw [assign] at assigned
  split at assigned
  · simp at assigned
  · rename_i members opened
    have into := opened_of_open_members path node step members opened
    split at assigned
    · cases assigned
      exact ⟨members, value, into, rfl, Or.inl ⟨rfl, rfl⟩⟩
    · rename_i next more
      simp only [Prod.mk.injEq] at assigned
      obtain ⟨rfl, noError⟩ := assigned
      refine ⟨members, _, into, rfl, Or.inr ⟨by simp, ?_⟩⟩
      exact Prod.ext rfl noError

theorem follow_assigned (path other : String) (value node result : Json) (steps : List Step)
    (assigned : assign path value steps node = (result, none)) :
    result.follow other (keysOf steps) = .ok value := by
  induction steps generalizing node result with
  | nil => simp [assign] at assigned
  | cons step rest ih =>
      obtain ⟨members, child, -, rfl, inside⟩ := assign_cons path value node result step rest assigned
      have held : Members.find? step.key (Members.insert step.key child members) = some child := by
        simp [Members.find?_insert]
      refine (follow_member other step.key (keysOf rest) _ value).2 ⟨child, held, ?_⟩
      rcases inside with ⟨rfl, rfl⟩ | ⟨-, below⟩
      · rfl
      · exact ih _ child below

/-- A path that is followed into a node that can be written into goes to one of its members first. -/
theorem followed_member (other : String) (node found : Json) (members : List (String × Json))
    (key : String) (rest : List String) (opened : node.opened? = some members)
    (followed : node.follow other (key :: rest) = .ok found) :
    node = .object members ∧
      ∃ child, Members.find? key members = some child ∧ child.follow other rest = .ok found := by
  cases node with
  | object inside =>
      cases opened
      exact ⟨rfl, (follow_member other key rest members found).1 followed⟩
  | null => simp [follow, child] at followed
  | _ => cases opened

theorem follow_beside (path other : String) (value node result found : Json) (steps : List Step)
    (keys : List String) (parted : Parted keys (keysOf steps))
    (assigned : assign path value steps node = (result, none))
    (followed : node.follow other keys = .ok found) : result.follow other keys = .ok found := by
  induction steps generalizing node result keys with
  | nil => simp [assign] at assigned
  | cons step rest ih =>
      obtain ⟨key, others, rfl⟩ := cons_of_parted keys _ parted
      obtain ⟨members, child, opened, rfl, inside⟩ :=
        assign_cons path value node result step rest assigned
      obtain ⟨-, below, held, restFollowed⟩ :=
        followed_member other node found members key others opened followed
      refine (follow_member other key others _ found).2 ?_
      rw [Members.find?_insert]
      by_cases same : key = step.key
      · subst same
        have restParted : Parted others (keysOf rest) := (parted_cons_iff _ _ _ _).1 parted rfl
        refine ⟨child, by simp, ?_⟩
        rcases inside with ⟨rfl, -⟩ | ⟨-, assignedBelow⟩
        · exact absurd List.nil_prefix restParted.2
        · rw [held] at assignedBelow
          exact ih below child others restParted assignedBelow restFollowed
      · exact ⟨below, by simpa [same] using held, restFollowed⟩

end Json

end LayeredConfig
