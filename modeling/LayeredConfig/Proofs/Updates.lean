import LayeredConfig.Catalogue.Basic
import LayeredConfig.Proofs.Outcomes
import LayeredConfig.Proofs.Stacks
import LayeredConfig.Proofs.StoredRecords
import LayeredConfig.Store.Update

/-!
# Updates change all or nothing

An update of a store in memory either fails and leaves the store as it was, or puts the changed snapshot
under the key of its address and nothing else anywhere. Whatever can fail comes before the save, so
every run of updates keeps the rule of the snapshots.
-/
set_option autoImplicit false

namespace LayeredConfig

structure UpdateCall (α : Type) where
  address : Address
  info : RecordInfo
  change : Change α

def UpdateCall.attempt {α : Type} [Mergeable α] [Blank α] [Ruled α] (call : UpdateCall α)
    (store : RecordStore α) : Attempt (RecordStore α) α :=
  Storage.attempt store call.address call.info call.change

namespace Storage

variable {α : Type}

def currentRecord [Blank α] (store : RecordStore α) (key : String) : StoredRecord α :=
  (store.find? key).getD ⟨Blank.blank, {}⟩

def committed (store : RecordStore α) (pending : PendingUpdate α) (info : RecordInfo)
    (snapshot : α) : Attempt (RecordStore α) α :=
  let saved := pending.current.info.updatedBy info
  ⟨store.put pending.key ⟨snapshot, saved⟩,
    .ok (⟨snapshot, [⟨pending.address.scope, snapshot, saved.revision⟩], resolvedWiring⟩, saved)⟩

theorem etags_agree_iff (expected actual : String) :
    etagsDisagree expected actual = false ↔ expected = "" ∨ actual = "" ∨ expected = actual := by
  simp only [etagsDisagree, Bool.and_eq_false_iff, decide_eq_false_iff_not, ne_eq, not_not, or_assoc]

theorem begin_update_eq_ok [Blank α] (store : RecordStore α) (address : Address) (info : RecordInfo)
    (pending : PendingUpdate α) :
    beginUpdate store address info = .ok pending ↔ address.domain ≠ "" ∧ ∃ key,
      address.key = .ok key ∧ etagsDisagree info.etag (currentRecord store key).info.etag = false ∧
      pending = ⟨address, key, currentRecord store key⟩ := by
  unfold beginUpdate
  by_cases domainless : address.domain = ""
  · simp [domainless]
  rw [if_neg domainless]
  by_cases nameless : address.scope.name = ""
  · rw [if_pos nameless]
    simp only [reduceCtorEq, false_iff]
    rintro ⟨-, key, keyed, -⟩
    exact address.named_of_keyed key keyed nameless
  rw [if_neg nameless, bind_eq_ok]
  simp only [ne_eq, domainless, not_false_eq_true, true_and]
  apply exists_congr
  intro key
  apply and_congr_right
  intro keyed
  rw [RecordStore.load_at_keyed store address key keyed]
  change (if etagsDisagree info.etag (currentRecord store key).info.etag then _ else _) = _ ↔ _
  cases etagsDisagree info.etag (currentRecord store key).info.etag with
  | true => simp
  | false => simp [eq_comm, currentRecord]

theorem changed_eq_ok [Ruled α] (change : Change α) (before after : α) :
    changed change before = .ok after ↔
      change before = (after, none) ∧ Ruled.check after = .ok () := by
  unfold changed
  rcases change before with ⟨left, refused | failure⟩
  · simp only [Prod.mk.injEq, and_true]
    constructor
    · intro accepted
      cases checked : Ruled.check left with
      | error failure =>
          rw [checked] at accepted
          cases accepted
      | ok =>
          rw [checked] at accepted
          cases accepted
          exact ⟨rfl, checked⟩
    · rintro ⟨rfl, accepted⟩
      rw [accepted]
      rfl
  · simp

/-- What follows a save does not fail. -/
theorem saved_configuration_eq [Mergeable α] (scope : Scope) (named : scope.name ≠ "") (snapshot : α)
    (saved : RecordInfo) : savedConfiguration scope snapshot saved =
      .ok (⟨snapshot, [⟨scope, snapshot, saved.revision⟩], resolvedWiring⟩, saved) := by
  have made : Stack.ofLayers [(⟨scope, snapshot, saved.revision⟩ : Layer α)] =
      .ok ⟨[⟨scope, snapshot, saved.revision⟩]⟩ := by
    apply (Stack.of_layers_eq_ok_iff _ _).2
    exact ⟨by simp [Stack.Named, Stack.names, named], List.Perm.refl _, List.pairwise_singleton _ _⟩
  rw [savedConfiguration, resolveLayers, made]
  rfl

section

variable [Mergeable α] [Ruled α]

theorem finish_refused (store : RecordStore α) (pending : PendingUpdate α) (info : RecordInfo)
    (change : Change α) (failure : Failure)
    (refused : changed change pending.current.snapshot = .error failure) :
    finishUpdate store pending info change = ⟨store, .error failure⟩ := by
  rw [finishUpdate, refused]

theorem finish_committed (store : RecordStore α) (pending : PendingUpdate α)
    (keyed : pending.address.key = .ok pending.key) (info : RecordInfo) (change : Change α)
    (snapshot : α) (accepted : changed change pending.current.snapshot = .ok snapshot) :
    finishUpdate store pending info change = committed store pending info snapshot := by
  have named := pending.address.named_of_keyed pending.key keyed
  simp only [finishUpdate, accepted, RecordStore.save_keyed store pending.address pending.key keyed,
    saved_configuration_eq pending.address.scope named]
  rfl

theorem finish_cases (pending : PendingUpdate α) (keyed : pending.address.key = .ok pending.key)
    (info : RecordInfo) (change : Change α) :
    (∃ failure, changed change pending.current.snapshot = .error failure ∧
      ∀ store : RecordStore α, finishUpdate store pending info change = ⟨store, .error failure⟩) ∨
    ∃ snapshot, changed change pending.current.snapshot = .ok snapshot ∧
      ∀ store : RecordStore α,
        finishUpdate store pending info change = committed store pending info snapshot := by
  cases made : changed change pending.current.snapshot with
  | error failure =>
      left
      exact ⟨failure, rfl, fun store => finish_refused store pending info change failure made⟩
  | ok snapshot =>
      right
      exact ⟨snapshot, rfl, fun store => finish_committed store pending keyed info change snapshot made⟩

variable [Blank α]

/-- What a call asks of a store before anything is saved: a key, concurrency tokens that agree, and a
change that leaves a snapshot which keeps its rule. -/
structure Accepted (store : RecordStore α) (call : UpdateCall α) (key : String) (snapshot : α) :
    Prop where
  domain : call.address.domain ≠ ""
  keyed : call.address.key = .ok key
  agreed : call.info.etag = "" ∨ (currentRecord store key).info.etag = "" ∨
    call.info.etag = (currentRecord store key).info.etag
  changed : call.change (currentRecord store key).snapshot = (snapshot, none)
  ruled : Ruled.check snapshot = .ok ()

/-- What a call has done: the changed snapshot and its metadata stand under the key of the address, no
other record is touched, and the configuration is that of the one layer. -/
structure Commits (store after : RecordStore α) (call : UpdateCall α) (key : String)
    (configuration : Configuration α) (saved : RecordInfo) : Prop where
  accepted : Accepted store call key configuration.value
  metadata : saved = (currentRecord store key).info.updatedBy call.info
  stored : after.find? key = some ⟨configuration.value, saved⟩
  others : ∀ other, other ≠ key → after.find? other = store.find? other
  layers : configuration.layers = [⟨call.address.scope, configuration.value, saved.revision⟩]

theorem attempt_accepted (store : RecordStore α) (call : UpdateCall α) (key : String) (snapshot : α)
    (accepted : Accepted store call key snapshot) : call.attempt store =
      committed store ⟨call.address, key, currentRecord store key⟩ call.info snapshot := by
  have agreed := (etags_agree_iff _ _).2 accepted.agreed
  have begun := (begin_update_eq_ok store call.address call.info _).2
    ⟨accepted.domain, key, accepted.keyed, agreed, rfl⟩
  rw [UpdateCall.attempt, Storage.attempt, begun]
  apply finish_committed
  · exact accepted.keyed
  · exact (changed_eq_ok _ _ _).2 ⟨accepted.changed, accepted.ruled⟩

theorem attempt_cases (store : RecordStore α) (call : UpdateCall α) :
    (∃ key snapshot, Accepted store call key snapshot) ∨
      ∃ failure, call.attempt store = ⟨store, .error failure⟩ := by
  cases begun : beginUpdate store call.address call.info with
  | error failure =>
      right
      exact ⟨failure, by rw [UpdateCall.attempt, Storage.attempt, begun]⟩
  | ok pending =>
      obtain ⟨domain, key, keyed, agreed, rfl⟩ := (begin_update_eq_ok _ _ _ _).1 begun
      cases made : changed call.change (currentRecord store key).snapshot with
      | error failure =>
          right
          refine ⟨failure, ?_⟩
          rw [UpdateCall.attempt, Storage.attempt, begun]
          exact finish_refused store _ call.info call.change failure made
      | ok snapshot =>
          left
          obtain ⟨changed, ruled⟩ := (changed_eq_ok _ _ _).1 made
          exact ⟨key, snapshot, domain, keyed, (etags_agree_iff _ _).1 agreed, changed, ruled⟩

theorem refused_of_error (store : RecordStore α) (call : UpdateCall α) (failure : Failure)
    (failed : (call.attempt store).outcome = .error failure) :
    (call.attempt store).store = store ∧ ∀ key snapshot, ¬ Accepted store call key snapshot := by
  constructor
  · rcases attempt_cases store call with ⟨key, snapshot, accepted⟩ | ⟨other, refused⟩
    · rw [attempt_accepted store call key snapshot accepted] at failed
      cases failed
    · rw [refused]
  · intro key snapshot accepted
    rw [attempt_accepted store call key snapshot accepted] at failed
    cases failed

theorem commits_of_ok (store : RecordStore α) (call : UpdateCall α)
    (configuration : Configuration α) (saved : RecordInfo)
    (succeeded : (call.attempt store).outcome = .ok (configuration, saved)) :
    ∃ key, Commits store (call.attempt store).store call key configuration saved := by
  rcases attempt_cases store call with ⟨key, snapshot, accepted⟩ | ⟨failure, refused⟩
  · have made := attempt_accepted store call key snapshot accepted
    rw [made] at succeeded ⊢
    cases succeeded
    refine ⟨key, accepted, rfl, RecordStore.find_put_self _ _ _, ?_, rfl⟩
    intro other different
    exact RecordStore.find_put_other _ _ _ _ different
  · rw [refused] at succeeded
    cases succeeded

theorem find_attempt_other (store : RecordStore α) (call : UpdateCall α) (key other : String)
    (keyed : call.address.key = .ok key) (different : other ≠ key) :
    (call.attempt store).store.find? other = store.find? other := by
  cases outcome : (call.attempt store).outcome with
  | error failure => rw [(refused_of_error store call failure outcome).1]
  | ok result =>
      obtain ⟨made, commits⟩ := commits_of_ok store call result.1 result.2 outcome
      have sameKey := commits.accepted.keyed
      rw [keyed] at sameKey
      cases sameKey
      exact commits.others other different

def KeepsRule (store : RecordStore α) : Prop :=
  ∀ key stored, store.find? key = some stored → Ruled.check stored.snapshot = .ok ()

def afterCalls (store : RecordStore α) (calls : List (UpdateCall α)) : RecordStore α :=
  calls.foldl (fun store call => (call.attempt store).store) store

theorem keeps_rule_attempt (store : RecordStore α) (call : UpdateCall α) (kept : KeepsRule store) :
    KeepsRule (call.attempt store).store := by
  cases outcome : (call.attempt store).outcome with
  | error failure =>
      rw [(refused_of_error store call failure outcome).1]
      exact kept
  | ok result =>
      obtain ⟨key, commits⟩ := commits_of_ok store call result.1 result.2 outcome
      intro other stored found
      by_cases same : other = key
      · rw [same, commits.stored, Option.some_inj] at found
        rw [← found]
        exact commits.accepted.ruled
      · rw [commits.others other same] at found
        exact kept other stored found

theorem keeps_rule_after (calls : List (UpdateCall α)) (store : RecordStore α)
    (kept : KeepsRule store) : KeepsRule (afterCalls store calls) := by
  induction calls generalizing store with
  | nil => exact kept
  | cons call rest ih => exact ih _ (keeps_rule_attempt store call kept)

/-- An update fails before its save and leaves the store as it was, or it changes the one record of its
key; it fails only where a check before the save refuses it, and runs of updates from the empty store
keep the rule of the snapshots. -/
theorem updates_all_or_nothing :
    (∀ (store : RecordStore α) (call : UpdateCall α) (failure : Failure),
      (call.attempt store).outcome = .error failure →
        (call.attempt store).store = store ∧ ∀ key snapshot, ¬ Accepted store call key snapshot) ∧
    (∀ (store : RecordStore α) (call : UpdateCall α) (configuration : Configuration α)
      (saved : RecordInfo), (call.attempt store).outcome = .ok (configuration, saved) →
        ∃ key, Commits store (call.attempt store).store call key configuration saved) ∧
    (∀ (store : RecordStore α) (call : UpdateCall α) (key : String) (snapshot : α),
      Accepted store call key snapshot →
        ∃ configuration saved, (call.attempt store).outcome = .ok (configuration, saved)) ∧
    ∀ calls : List (UpdateCall α), KeepsRule (afterCalls RecordStore.empty calls) := by
  refine ⟨refused_of_error, commits_of_ok, ?succeeds, ?runs⟩
  case succeeds =>
    intro store call key snapshot accepted
    rw [attempt_accepted store call key snapshot accepted]
    exact ⟨_, _, rfl⟩
  case runs =>
    intro calls
    apply keeps_rule_after calls
    intro key stored found
    cases found

end

/-- A limit of a tenant that may be fifty and must not be zero. -/
theorem limit_changed_or_kept :
    let stored : StoredRecord (Snapshot Catalogue.billingModel) :=
      ⟨⟨.product [.absent, .present (.atom (.int 500)), .absent]⟩, { revision := "7", etag := "e" }⟩
    let store : RecordStore (Snapshot Catalogue.billingModel) :=
      ⟨[("tenant/acme/billing", stored)]⟩
    let call (limit : Int) : UpdateCall (Snapshot Catalogue.billingModel) :=
      ⟨⟨"billing", Scope.tenant "acme"⟩, { revision := "8", etag := "e" },
        fun _ => (⟨.product [.absent, .present (.atom (.int limit)), .absent]⟩, none)⟩
    (((call 0).attempt store).outcome = .error (.brokenRule "limit" "must be positive") ∧
      ((call 0).attempt store).store = store) ∧
    (∃ configuration saved, ((call 50).attempt store).outcome = .ok (configuration, saved) ∧
      ∃ key, Commits store ((call 50).attempt store).store (call 50) key configuration saved) ∧
    KeepsRule (afterCalls RecordStore.empty [call 0, call 50]) := by
  intro stored store call
  obtain ⟨fails, commits, succeeds, runs⟩ :=
    updates_all_or_nothing (α := Snapshot Catalogue.billingModel)
  have refused : ((call 0).attempt store).outcome =
      .error (.brokenRule "limit" "must be positive") := rfl
  have accepted : Accepted store (call 50) "tenant/acme/billing"
      ⟨.product [.absent, .present (.atom (.int 50)), .absent]⟩ :=
    ⟨by decide, rfl, Or.inr (Or.inr rfl), rfl, rfl⟩
  obtain ⟨configuration, saved, succeeded⟩ := succeeds _ _ _ _ accepted
  exact ⟨⟨refused, (fails _ _ _ refused).1⟩,
    ⟨configuration, saved, succeeded, commits _ _ _ _ succeeded⟩, runs _⟩

end Storage

end LayeredConfig
