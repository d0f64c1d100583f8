import LayeredConfig.Proofs.LeafPaths
import LayeredConfig.Proofs.ReportedPaths
import Mathlib.Data.List.Forall2
import Mathlib.Data.List.Nodup

/-!
# Names and keys of fields in paths

A path is described segment by segment, and only in a record with members may a step have another key than
its segment. There a field answers to its name and to the key that paths give it: paths that part in such
spellings only have the same steps, and are read, written and traced alike. The key that documents give the
field is a third spelling, and is described as the field exactly where it is the key of paths.
-/
set_option autoImplicit false

namespace LayeredConfig.Snapshot

/-- The key under which a field is written, which a field without a member of its own does not have. -/
def Field.writtenKey? (naming : Option NamingRule) (field : Field) : Option String :=
  (field.pathKey? naming).map fun _ => field.memberKey naming

/-- A field that paths can name is the only one of its name, and a key is nobody else's: no other such field
has it as its name or as its key. -/
structure Record.Owns (declared : Record) (field : Field) (key : String) : Prop where
  layout : declared.layout = .members
  member : field ∈ declared.fields
  addressed : (field.pathKey? declared.keyRule).isSome
  only : ∀ other ∈ declared.fields, other.name = field.name → other = field
  own : ∀ other ∈ declared.fields, other.name ≠ field.name →
    (other.pathKey? declared.keyRule).isSome →
      other.name ≠ key ∧ other.pathKey? declared.keyRule ≠ some key

/-- Two lists of segments spell one path: they part only in records with members, where one has the name of
a field and the other its key. The fields in whose spelling they part are kept with their records. What lies
inside a replaced value or an enumeration is spelled alike. -/
inductive Ty.Respelled (declarations : Declarations)
    (keyOf : Option NamingRule → Field → Option String) :
    Ty → List String → List String → List (Record × Field) → Prop
  | same (type : Ty) (segments : List String) :
      Respelled declarations keyOf type segments segments []
  | content (outer content : Ty) (first second : List String) (parted : List (Record × Field))
      (wraps : outer.content? declarations = some content)
      (inside : Respelled declarations keyOf content first second parted) :
      Respelled declarations keyOf outer first second parted
  | item (outer item : Ty) (segment : String) (first second : List String)
      (parted : List (Record × Field)) (holds : outer.item? = some item)
      (inside : Respelled declarations keyOf item first second parted) :
      Respelled declarations keyOf outer (segment :: first) (segment :: second) parted
  | field (name : String) (declared : Record) (segment : String) (field : PathField)
      (first second : List String) (parted : List (Record × Field))
      (known : declarations name = some (.record declared))
      (meant : declared.pathField? segment = some field)
      (inside : Respelled declarations keyOf field.type first second parted) :
      Respelled declarations keyOf (.named name) (segment :: first) (segment :: second) parted
  | byKey (name : String) (declared : Record) (field : Field) (key : String)
      (first second : List String) (parted : List (Record × Field))
      (known : declarations name = some (.record declared)) (owns : declared.Owns field key)
      (keyed : keyOf declared.keyRule field = some key) (renamed : field.name ≠ key)
      (inside : Respelled declarations keyOf field.type first second parted) :
      Respelled declarations keyOf (.named name) (field.name :: first) (key :: second)
        ((declared, field) :: parted)
  | byName (name : String) (declared : Record) (field : Field) (key : String)
      (first second : List String) (parted : List (Record × Field))
      (known : declarations name = some (.record declared)) (owns : declared.Owns field key)
      (keyed : keyOf declared.keyRule field = some key) (renamed : field.name ≠ key)
      (inside : Respelled declarations keyOf field.type first second parted) :
      Respelled declarations keyOf (.named name) (key :: first) (field.name :: second)
        ((declared, field) :: parted)

def Step.Spells (segment : String) (step : Step) : Prop :=
  step.key = segment ∨ step.container = .struct

theorem spelled_verbatim (segments : List String) :
    List.Forall₂ Step.Spells segments (verbatimSteps segments) :=
  List.forall₂_map_right_iff.2 (List.forall₂_same.2 fun _ _ => Or.inl rfl)

/-- In a record that gives every field a name of its own, each field is the only one of its name. -/
theorem owns_of_names (declared : Record) (field : Field) (key : String)
    (layout : declared.layout = .members) (member : field ∈ declared.fields)
    (addressed : (field.pathKey? declared.keyRule).isSome)
    (names : (declared.fields.map Field.name).Nodup)
    (own : ∀ other ∈ declared.fields, other.name ≠ field.name →
      (other.pathKey? declared.keyRule).isSome →
        other.name ≠ key ∧ other.pathKey? declared.keyRule ≠ some key) :
    declared.Owns field key := by
  refine ⟨layout, member, addressed, ?_, own⟩
  intro other inFields same
  exact List.inj_on_of_nodup_map names inFields member same

variable {declarations : Declarations}

theorem path_field_spelled (declared : Record) (segment : String) (field : PathField)
    (meant : declared.pathField? segment = some field) :
    Step.Spells segment ⟨field.key, declared.layout.container⟩ := by
  cases layout : declared.layout with
  | members => exact Or.inr rfl
  | items =>
      simp only [Record.pathField?, layout] at meant
      have keyed := List.find?_some meant
      exact Or.inl (of_decide_eq_true keyed)

theorem spelled_cons (segment : String) (rest : List String) (type : Ty)
    (spelled : ∀ inner, List.Forall₂ Step.Spells rest (describe declarations rest inner)) :
    List.Forall₂ Step.Spells (segment :: rest) (describe declarations (segment :: rest) type) := by
  induction type using content_induction declarations with
  | step type ih =>
      rcases entered_cases declarations type with ⟨content, wraps⟩ |
        ⟨-, item, holds⟩ | ⟨name, declared, rfl, known⟩ | ⟨wraps, holds, unknown⟩
      · rw [describe_content _ type content wraps]
        exact ih content wraps
      · rw [describe_item segment rest type item holds]
        exact .cons (Or.inl rfl) (spelled item)
      · cases meant : declared.pathField? segment with
        | some field =>
            rw [describe_field name segment rest declared known field meant]
            exact .cons (path_field_spelled declared segment field meant) (spelled field.type)
        | none =>
            rw [describe_no_field name segment rest declared known meant]
            exact .cons (Or.inl rfl) (spelled_verbatim rest)
      · rw [describe_verbatim _ type wraps holds unknown]
        exact spelled_verbatim (segment :: rest)

theorem spelled_steps (segments : List String) (type : Ty) :
    List.Forall₂ Step.Spells segments (describe declarations segments type) := by
  induction segments generalizing type with
  | nil => exact .nil
  | cons segment rest ih => exact spelled_cons segment rest type ih

theorem items_alike_iff (segment : String) (first second : List String) (outer item : Ty)
    (holds : outer.item? = some item) :
    describe declarations (segment :: first) outer =
        describe declarations (segment :: second) outer ↔
      describe declarations first item = describe declarations second item := by
  rw [describe_item segment first outer item holds, describe_item segment second outer item holds]
  simp

theorem find_path_field (declared : Record) (test : PathField → Bool) (field : Field) (key : String)
    (member : field ∈ declared.fields) (keyed : field.pathKey? declared.keyRule = some key)
    (passes : test ⟨field.name, key, field.type⟩)
    (only : ∀ other ∈ declared.fields, ∀ otherKey,
      other.pathKey? declared.keyRule = some otherKey →
        test ⟨other.name, otherKey, other.type⟩ → other = field) :
    declared.pathFields.find? test = some ⟨field.name, key, field.type⟩ := by
  have listed : (⟨field.name, key, field.type⟩ : PathField) ∈ declared.pathFields :=
    List.mem_filterMap.2 ⟨field, member, by rw [keyed]; rfl⟩
  cases found : declared.pathFields.find? test with
  | none => exact absurd passes (List.find?_eq_none.1 found _ listed)
  | some first =>
      obtain ⟨other, inFields, made⟩ := List.mem_filterMap.1 (List.mem_of_find?_eq_some found)
      obtain ⟨otherKey, otherKeyed, rfl⟩ := Option.map_eq_some_iff.1 made
      obtain rfl := only other inFields otherKey otherKeyed (List.find?_some found)
      obtain rfl := Option.some.inj (keyed.symm.trans otherKeyed)
      rfl

theorem path_field_of_name (declared : Record) (field : Field) (key owned : String)
    (owns : declared.Owns field owned) (keyed : field.pathKey? declared.keyRule = some key) :
    declared.pathField? field.name = some ⟨field.name, key, field.type⟩ := by
  have named := find_path_field declared (fun other => other.name = field.name) field key owns.member
    keyed (decide_eq_true rfl)
    fun other inFields _ _ same => owns.only other inFields (of_decide_eq_true same)
  simp only [Record.pathField?, owns.layout, named, Option.some_or]

theorem unnamed_of_owns (declared : Record) (field : Field) (key : String)
    (owns : declared.Owns field key) (renamed : field.name ≠ key) :
    declared.pathFields.find? (fun other => other.name = key) = none := by
  refine List.find?_eq_none.2 ?_
  intro entry listed passes
  obtain ⟨other, inFields, made⟩ := List.mem_filterMap.1 listed
  obtain ⟨otherKey, otherKeyed, rfl⟩ := Option.map_eq_some_iff.1 made
  have called : other.name = key := of_decide_eq_true passes
  have apart : other.name ≠ field.name := fun same => renamed (same.symm.trans called)
  exact (owns.own other inFields apart (by simp [otherKeyed])).1 called

theorem path_field_of_key (declared : Record) (field : Field) (key : String)
    (owns : declared.Owns field key) (keyed : field.pathKey? declared.keyRule = some key)
    (renamed : field.name ≠ key) :
    declared.pathField? key = some ⟨field.name, key, field.type⟩ := by
  have unnamed := unnamed_of_owns declared field key owns renamed
  have found := find_path_field declared (fun other => other.key = key) field key owns.member keyed
    (decide_eq_true rfl) ?_
  · simp only [Record.pathField?, owns.layout, unnamed, found, Option.none_or]
  · intro other inFields otherKey otherKeyed passes
    have shared : other.pathKey? declared.keyRule = some key :=
      otherKeyed.trans (congrArg some (of_decide_eq_true passes))
    by_contra apart
    have otherName := fun called => apart (owns.only other inFields called)
    exact (owns.own other inFields otherName (by simp [shared])).2 shared

theorem described_spelled (name segment : String) (rest : List String) (declared : Record)
    (known : declarations name = some (.record declared)) (spelled : declared.Spells segment) :
    ∃ steps, describe declarations (segment :: rest) (.named name) =
      ⟨segment, declared.layout.container⟩ :: steps := by
  cases meant : declared.pathField? segment with
  | none =>
      exact ⟨_, describe_no_field name segment rest declared known meant⟩
  | some field =>
      have kept := (spells_iff declared segment).1 spelled field meant
      rw [describe_field name segment rest declared known field meant, kept]
      exact ⟨_, rfl⟩

/-- A field's name and a spelling that nobody else has are described alike exactly where that spelling is the
key that paths give the field. -/
theorem spellings_alike_iff (name : String) (declared : Record) (field : Field) (spelling : String)
    (first second : List String) (known : declarations name = some (.record declared))
    (owns : declared.Owns field spelling) (renamed : field.name ≠ spelling) :
    describe declarations (field.name :: first) (.named name) =
        describe declarations (spelling :: second) (.named name) ↔
      field.pathKey? declared.keyRule = some spelling ∧
        describe declarations first field.type = describe declarations second field.type := by
  obtain ⟨key, keyed⟩ := Option.isSome_iff_exists.1 owns.addressed
  have named := path_field_of_name declared field key spelling owns keyed
  rw [describe_field name field.name first declared known _ named]
  by_cases same : key = spelling
  · subst same
    have byKey := path_field_of_key declared field key owns keyed renamed
    rw [describe_field name key second declared known _ byKey]
    simp [keyed]
  · -- A spelling that is no field's name is a step's key as it stands, and the field has another.
    have spelled : declared.Spells spelling := by
      intro _ other found
      rw [unnamed_of_owns declared field spelling owns renamed] at found
      cases found
    obtain ⟨steps, kept⟩ := described_spelled name spelling second declared known spelled
    rw [kept]
    simp [keyed, same]

/-- Two spellings of one path are described alike exactly where the keys in which they part from the names are
those that paths give the fields. -/
theorem described_alike_iff (keyOf : Option NamingRule → Field → Option String) (type : Ty)
    (first second : List String) (parted : List (Record × Field))
    (respelled : type.Respelled declarations keyOf first second parted) :
    describe declarations first type = describe declarations second type ↔
      ∀ pair ∈ parted, pair.2.pathKey? pair.1.keyRule = keyOf pair.1.keyRule pair.2 := by
  induction respelled with
  | same => simp
  | content outer content first second _ wraps _ ih =>
      rw [describe_content first outer content wraps, describe_content second outer content wraps]
      exact ih
  | item outer item segment first second _ holds _ ih =>
      rw [items_alike_iff segment first second outer item holds]
      exact ih
  | field name declared segment field first second _ known meant _ ih =>
      rw [describe_field name segment first declared known field meant,
        describe_field name segment second declared known field meant, ← ih]
      simp
  | byKey name declared field key first second _ known owns keyed renamed _ ih =>
      rw [spellings_alike_iff name declared field key first second known owns renamed,
        List.forall_mem_cons, keyed, ih]
  | byName name declared field key first second _ known owns keyed renamed _ ih =>
      rw [eq_comm, spellings_alike_iff name declared field key second first known owns renamed,
        List.forall_mem_cons, keyed, ← ih]
      exact and_congr_right fun _ => eq_comm

theorem parted_addressed (keyOf : Option NamingRule → Field → Option String) (type : Ty)
    (first second : List String) (parted : List (Record × Field))
    (respelled : type.Respelled declarations keyOf first second parted) :
    ∀ pair ∈ parted, (pair.2.pathKey? pair.1.keyRule).isSome := by
  induction respelled with
  | same => exact fun pair listed => absurd listed List.not_mem_nil
  | content _ _ _ _ _ _ _ ih => exact ih
  | item _ _ _ _ _ _ _ _ ih => exact ih
  | field _ _ _ _ _ _ _ _ _ _ ih => exact ih
  | byKey _ _ _ _ _ _ _ _ owns _ _ _ ih => exact List.forall_mem_cons.2 ⟨owns.addressed, ih⟩
  | byName _ _ _ _ _ _ _ _ owns _ _ _ ih => exact List.forall_mem_cons.2 ⟨owns.addressed, ih⟩

theorem written_key_of_addressed (naming : Option NamingRule) (field : Field)
    (addressed : (field.pathKey? naming).isSome) :
    field.writtenKey? naming = some (field.memberKey naming) := by
  obtain ⟨key, keyed⟩ := Option.isSome_iff_exists.1 addressed
  rw [Field.writtenKey?, keyed]
  rfl

theorem steps_of_parsed (model : Model) (path : String) (segments : List String)
    (parsed : Path.parse path = .ok segments) :
    parsedSteps (Snapshot model) path = .ok (describe model.declarations segments model.type) := by
  unfold parsedSteps
  rw [parsed]
  rfl

/-- A path is described by one step for each segment, in order, and only in a record with members may the
key of a step not be its segment. Two spellings of one path by the names of fields and by their keys in paths
have the same steps; by the keys under which the fields are written they have the same steps exactly where
these are the keys in paths. Paths with the same steps are read, written and traced alike, except for the
path that is reported. -/
theorem names_and_keys_alike (model : Model) :
    (∀ (type : Ty) segments,
      List.Forall₂ (fun segment step => step.key = segment ∨ step.container = .struct) segments
        (describe model.declarations segments type)) ∧
    (∀ (type : Ty) first second parted,
      type.Respelled model.declarations Field.pathKey? first second parted →
        describe model.declarations first type = describe model.declarations second type) ∧
    (∀ (type : Ty) first second parted,
      type.Respelled model.declarations Field.writtenKey? first second parted →
        (describe model.declarations first type = describe model.declarations second type ↔
          ∀ pair ∈ parted,
            pair.2.pathKey? pair.1.keyRule = some (pair.2.memberKey pair.1.keyRule))) ∧
    ∀ (current : Configuration (Snapshot model)) path other first second,
      Path.parse path = .ok first → Path.parse other = .ok second →
        describe model.declarations first model.type =
          describe model.declarations second model.type →
          current.get other = (current.get path).mapError (Failure.along other) ∧
          (∀ value, current.set other value =
            (current.set path value).mapError (Failure.along other)) ∧
          current.trace other =
            ((current.trace path).map fun traced => (traced.1, traced.2.along other)).mapError
              (Failure.along other) := by
  refine ⟨fun type segments => spelled_steps segments type, ?_, ?_, ?_⟩
  · intro type first second parted respelled
    exact (described_alike_iff _ type first second parted respelled).2 fun _ _ => rfl
  · intro type first second parted respelled
    have addressed := parted_addressed _ type first second parted respelled
    rw [described_alike_iff _ type first second parted respelled]
    refine forall₂_congr fun pair listed => ?_
    rw [written_key_of_addressed _ _ (addressed pair listed)]
  · intro current path other first second parsed otherParsed alike
    have steps := steps_of_parsed model path first parsed
    have otherSteps := steps_of_parsed model other second otherParsed
    rw [← alike] at otherSteps
    exact ⟨current.get_along path other _ steps otherSteps,
      current.set_along path other _ steps otherSteps,
      current.trace_along path other _ steps otherSteps⟩

def jobRecord : Record where
  fields :=
    [ Catalogue.optional "retry_limit" (Catalogue.signed 64)
    , Catalogue.optional "type_" Catalogue.text
    , Catalogue.optional "next_job" (.box (.named "job")) ]
  naming := some .screamingSnake

def jobModel : Model where
  declarations := fun name => if name = "job" then some (.record jobRecord) else none
  type := .named "job"

/-- A job of the kind `batch`, before one that is tried five times. -/
def batchJob : Configuration (Snapshot jobModel) :=
  .ofValue ⟨.product
    [.absent, .present (.atom (.text "batch")),
      .present (.held (.product [.present (.atom (.int 5)), .absent, .absent]))]⟩

theorem job_names_distinct : (jobRecord.fields.map Field.name).Nodup := by decide

theorem retry_limit_owned :
    jobRecord.Owns (Catalogue.optional "retry_limit" (Catalogue.signed 64)) "RETRY_LIMIT" :=
  owns_of_names jobRecord _ _ rfl (by simp [jobRecord]) rfl job_names_distinct (by decide)

theorem next_job_owned :
    jobRecord.Owns (Catalogue.optional "next_job" (.box (.named "job"))) "NEXT_JOB" :=
  owns_of_names jobRecord _ _ rfl (by simp [jobRecord]) rfl job_names_distinct (by decide)

theorem next_retry_limit_respelled (keyOf : Option NamingRule → Field → Option String)
    (outer : keyOf jobRecord.keyRule (Catalogue.optional "next_job" (.box (.named "job"))) =
      some "NEXT_JOB")
    (inner : keyOf jobRecord.keyRule (Catalogue.optional "retry_limit" (Catalogue.signed 64)) =
      some "RETRY_LIMIT") :
    jobModel.type.Respelled jobModel.declarations keyOf
      ["next_job", "retry_limit"] ["NEXT_JOB", "RETRY_LIMIT"]
      [(jobRecord, Catalogue.optional "next_job" (.box (.named "job"))),
        (jobRecord, Catalogue.optional "retry_limit" (Catalogue.signed 64))] :=
  .byKey "job" jobRecord _ "NEXT_JOB" _ _ _ rfl next_job_owned outer (by decide)
    (.content _ _ _ _ _ rfl (.content _ _ _ _ _ rfl
      (.byKey "job" jobRecord _ "RETRY_LIMIT" [] [] [] rfl retry_limit_owned inner (by decide)
        (.same _ []))))

/-- Names and keys of two jobs are described, read, written and traced alike. -/
theorem next_retry_limit_alike :
    describe jobModel.declarations ["next_job", "retry_limit"] jobModel.type =
        describe jobModel.declarations ["NEXT_JOB", "RETRY_LIMIT"] jobModel.type ∧
      (∀ pair ∈ [(jobRecord, Catalogue.optional "next_job" (.box (.named "job"))),
          (jobRecord, Catalogue.optional "retry_limit" (Catalogue.signed 64))],
        pair.2.pathKey? pair.1.keyRule = some (pair.2.memberKey pair.1.keyRule)) ∧
      batchJob.get "NEXT_JOB.RETRY_LIMIT" = .ok (.ofInt 5) ∧
      (∃ updated, batchJob.set "NEXT_JOB.RETRY_LIMIT" (.ofInt 6) = .ok updated ∧
        batchJob.set "next_job.retry_limit" (.ofInt 6) = .ok updated) ∧
      ∃ trace, batchJob.trace "next_job.retry_limit" = .ok (.ofInt 5, trace) ∧
        batchJob.trace "NEXT_JOB.RETRY_LIMIT" =
          .ok (.ofInt 5, trace.along "NEXT_JOB.RETRY_LIMIT") := by
  obtain ⟨-, steps, written, outcomes⟩ := names_and_keys_alike jobModel
  have alike := steps _ _ _ _ (next_retry_limit_respelled Field.pathKey? rfl rfl)
  have keyed := (written _ _ _ _ (next_retry_limit_respelled Field.writtenKey? rfl rfl)).1 alike
  obtain ⟨get, set, trace⟩ :=
    outcomes batchJob "next_job.retry_limit" "NEXT_JOB.RETRY_LIMIT" _ _ rfl rfl alike
  exact ⟨alike, keyed, get, ⟨_, set (.ofInt 6), rfl⟩, _, rfl, trace⟩

/-- A kind ends in an underscore, which documents keep in its key and paths do not: the name leads nowhere,
and the key under which the kind is written leads to it. -/
theorem type_name_leads_nowhere :
    (Catalogue.optional "type_" Catalogue.text).memberKey jobRecord.keyRule = "TYPE_" ∧
      jobRecord.Owns (Catalogue.optional "type_" Catalogue.text) "TYPE_" ∧
      describe jobModel.declarations ["type_"] jobModel.type = [⟨"TYPE", .struct⟩] ∧
      describe jobModel.declarations ["TYPE_"] jobModel.type = [⟨"TYPE_", .struct⟩] ∧
      batchJob.get "TYPE_" = .ok (.string "batch") ∧
      batchJob.get "type_" = .error (.path (.noKey "type_" "TYPE")) ∧
      (∃ updated, batchJob.set "TYPE_" (.string "daily") = .ok updated) ∧
      batchJob.set "type_" (.string "daily") = .error (.path (.closed "type_" "TYPE" .struct)) := by
  have owned : jobRecord.Owns (Catalogue.optional "type_" Catalogue.text) "TYPE_" :=
    owns_of_names jobRecord _ _ rfl (by simp [jobRecord]) rfl job_names_distinct (by decide)
  exact ⟨by decide, owned, rfl, rfl, rfl, rfl, ⟨_, rfl⟩, rfl⟩

end LayeredConfig.Snapshot
