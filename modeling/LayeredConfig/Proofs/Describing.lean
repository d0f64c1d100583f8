import LayeredConfig.Proofs.Snapshots
import LayeredConfig.Snapshot.Describe

/-!
# How types describe a segment

A segment passes through options, boxes and newtypes, enters the items of a container or the fields of a
record, or is kept as it is. A newtype holds no mere name again, so that what a segment passes through
comes to an end, which carries the inductions over described paths.
-/
set_option autoImplicit false

namespace LayeredConfig.Snapshot

def Ty.content? (declarations : Declarations) : Ty → Option Ty
  | .option content => some content
  | type => type.held? declarations

def Ty.item? : Ty → Option Ty
  | .sequence item | .array _ item | .map _ item => some item
  | _ => none

def Ty.container : Ty → Container
  | .map _ _ => .map
  | _ => .sequence

variable {declarations : Declarations}

theorem content_cases (type content : Ty) (wraps : type.content? declarations = some content) :
    type = .option content ∨ type.held? declarations = some content := by
  cases type with
  | option inner => exact Or.inl (congrArg Ty.option (Option.some.inj wraps))
  | _ => exact Or.inr wraps

section

variable (declarations) (holds : Ty → Prop)
  (step : ∀ type : Ty,
    (∀ content, type.content? declarations = some content → holds content) → holds type)

include step

theorem content_induction_bare : (type : Ty) → type.isBare → holds type
  | .named _, bare => by cases bare
  | .option content, bare | .box content, bare | .newtype content, bare =>
      step _ fun _ wraps => Option.some.inj wraps ▸ content_induction_bare content bare
  | .scalar _, _ | .replaced _, _ | .sequence _, _ | .array _ _, _ | .tuple _, _ | .map _ _, _
  | .json, _ => step _ fun _ wraps => by cases wraps

/-- What holds of a type whenever it holds of its content, if it has one, holds of all types. -/
theorem content_induction : (type : Ty) → holds type
  | .option content | .box content | .newtype content =>
      step _ fun _ wraps => Option.some.inj wraps ▸ content_induction content
  | .named name => by
      -- A newtype only holds a type that is no name, which is settled by its structure.
      refine step _ fun content wraps => ?_
      rcases held_cases (.named name) content wraps with same | same | ⟨_, declared, -, -, rfl⟩
      · cases same
      · cases same
      · exact content_induction_bare declarations holds step _ declared.bare
  | .scalar _ | .replaced _ | .sequence _ | .array _ _ | .tuple _ | .map _ _ | .json =>
      step _ fun _ wraps => by cases wraps

end

variable (declarations) in
/-- A type has a content, items or fields, or a segment goes no further in it. -/
theorem entered_cases (type : Ty) :
    (∃ content, type.content? declarations = some content) ∨
      (type.content? declarations = none ∧ ∃ item, type.item? = some item) ∨
      (∃ name declared, type = .named name ∧ declarations name = some (.record declared)) ∨
      (type.content? declarations = none ∧ type.item? = none ∧
        ∀ name declared, type = .named name → declarations name ≠ some (.record declared)) := by
  cases type with
  | named name =>
      by_cases record : ∃ declared, declarations name = some (.record declared)
      · obtain ⟨declared, known⟩ := record
        exact Or.inr (Or.inr (Or.inl ⟨name, declared, rfl, known⟩))
      · cases content : (Ty.named name).content? declarations with
        | some inner => exact Or.inl ⟨inner, rfl⟩
        | none =>
            refine Or.inr (Or.inr (Or.inr ⟨rfl, rfl, ?_⟩))
            rintro _ declared same known
            cases same
            exact record ⟨declared, known⟩
  | _ => simp [Ty.content?, Ty.held?, Ty.item?]

theorem describe_in_of_bare (segment : String) (rest : List String)
    (first second : String → List Step) (below : Ty → List Step) : (type : Ty) → type.isBare →
      describeIn segment rest first below type = describeIn segment rest second below type
  | .named _, bare => by cases bare
  | .option content, bare | .box content, bare | .newtype content, bare => by
      simp only [describeIn, describe_in_of_bare segment rest first second below content bare]
  | .scalar _, _ | .replaced _, _ | .sequence _, _ | .array _ _, _ | .tuple _, _ | .map _ _, _
  | .json, _ => by simp only [describeIn]

theorem describe_content (segments : List String) (outer content : Ty)
    (wraps : outer.content? declarations = some content) :
    describe declarations segments outer = describe declarations segments content := by
  cases segments with
  | nil => simp only [describe]
  | cons segment rest =>
      rcases content_cases outer content wraps with rfl | held
      · simp only [describe, describeFrom, describeIn]
      · rcases held_cases outer content held with rfl | rfl | ⟨name, declared, rfl, known, rfl⟩
        · simp only [describe, describeFrom, describeIn]
        · simp only [describe, describeFrom, describeIn]
        · simp only [describe, describeFrom, describeIn, describeNamed, known]
          exact describe_in_of_bare segment rest _ _ _ _ declared.bare

theorem describe_item (segment : String) (rest : List String) (outer item : Ty)
    (holds : outer.item? = some item) :
    describe declarations (segment :: rest) outer =
      ⟨segment, outer.container⟩ :: describe declarations rest item := by
  cases outer <;> cases holds <;> simp only [describe, describeFrom, describeIn, Ty.container]

section

variable (name segment : String) (rest : List String) (declared : Record)
  (known : declarations name = some (.record declared))

include known

theorem describe_field (field : PathField) (meant : declared.pathField? segment = some field) :
    describe declarations (segment :: rest) (.named name) =
      ⟨field.key, declared.layout.container⟩ :: describe declarations rest field.type := by
  simp only [describe, describeFrom, describeIn, describeNamed, known, meant]

theorem describe_no_field (unmeant : declared.pathField? segment = none) :
    describe declarations (segment :: rest) (.named name) =
      ⟨segment, declared.layout.container⟩ :: verbatimSteps rest := by
  simp only [describe, describeFrom, describeIn, describeNamed, known, unmeant]

end

theorem describe_verbatim (segments : List String) (type : Ty)
    (wraps : type.content? declarations = none) (holds : type.item? = none)
    (unknown : ∀ name declared, type = .named name →
      declarations name ≠ some (.record declared)) :
    describe declarations segments type = verbatimSteps segments := by
  cases segments with
  | nil => simp only [describe, verbatimSteps, List.map_nil]
  | cons segment rest =>
      cases type with
      | named name =>
          simp only [describe, describeFrom, describeIn, describeNamed]
          split
          · rename_i declared known
            exact absurd known (unknown name declared rfl)
          · rename_i declared known
            simp [Ty.content?, Ty.held?, known] at wraps
          · rfl
      | scalar | replaced | tuple | json => simp only [describe, describeFrom, describeIn]
      | option | box | newtype => cases wraps
      | sequence | array | map => cases holds

end LayeredConfig.Snapshot
