import LayeredConfig.Proofs.Updates
import Mathlib.Data.Bool.Count
import Mathlib.Logic.Function.Basic

/-!
# Updates that overlap

Other calls may run between the load and the save of an update. Tokens are compared at the load only,
and an update writes back the token that it was called with: calls that carry the token of the stored
record are never refused for it. Of two calls that load the same record the one that saves last undoes
the other.
-/
set_option autoImplicit false

namespace LayeredConfig

/-- How far a call has come: not started, stopped before its change, or done. -/
inductive Progress (α : Type) where
  | waiting
  | loaded (pending : PendingUpdate α)
  | done (outcome : Except Failure (Configuration α × RecordInfo))

/-- A store in memory, and how far the calls on it have come. -/
structure Race (ι α : Type) where
  store : RecordStore α
  progress : ι → Progress α

namespace Race

variable {ι α : Type}

def start (store : RecordStore α) : Race ι α :=
  ⟨store, fun _ => .waiting⟩

section

variable [DecidableEq ι]

def reach (race : Race ι α) (party : ι) (store : RecordStore α) (progress : Progress α) : Race ι α :=
  ⟨store, Function.update race.progress party progress⟩

@[simp] theorem reach_store (race : Race ι α) (party : ι) (store : RecordStore α)
    (progress : Progress α) : (race.reach party store progress).store = store := rfl

@[simp] theorem reach_self (race : Race ι α) (party : ι) (store : RecordStore α)
    (progress : Progress α) : (race.reach party store progress).progress party = progress := by
  simp only [reach, Function.update_self]

theorem reach_other (race : Race ι α) (party other : ι) (store : RecordStore α)
    (progress : Progress α) (different : other ≠ party) :
    (race.reach party store progress).progress other = race.progress other := by
  simp only [reach, Function.update_of_ne different]

@[simp] theorem reach_reach (race : Race ι α) (party : ι) (first second : RecordStore α)
    (earlier later : Progress α) : (race.reach party first earlier).reach party second later =
      race.reach party second later := by
  simp only [reach, Function.update_idem]

variable [Mergeable α] [Blank α] [Ruled α]

/-- The next step of a party: its load, or all that follows it. -/
def step (calls : ι → UpdateCall α) (race : Race ι α) (party : ι) : Race ι α :=
  let call := calls party
  match race.progress party with
  | .waiting =>
      match Storage.beginUpdate race.store call.address call.info with
      | .error failure => race.reach party race.store (.done (.error failure))
      | .ok pending => race.reach party race.store (.loaded pending)
  | .loaded pending =>
      let finished := Storage.finishUpdate race.store pending call.info call.change
      race.reach party finished.store (.done finished.outcome)
  | .done _ => race

/-- The race after some steps, each named by its party. -/
def run (calls : ι → UpdateCall α) (race : Race ι α) (schedule : List ι) : Race ι α :=
  schedule.foldl (step calls) race

theorem step_step (calls : ι → UpdateCall α) (race : Race ι α) (party : ι)
    (waiting : race.progress party = .waiting) : step calls (step calls race party) party =
      race.reach party ((calls party).attempt race.store).store
        (.done ((calls party).attempt race.store).outcome) := by
  cases begun : Storage.beginUpdate race.store (calls party).address (calls party).info with
  | error failure => simp [step, waiting, begun, UpdateCall.attempt, Storage.attempt]
  | ok pending => simp [step, waiting, begun, UpdateCall.attempt, Storage.attempt]

end

/-- Calls on the record of one key that carry one token. -/
structure Contend (calls : ι → UpdateCall α) (key token : String) : Prop where
  domain : ∀ party, (calls party).address.domain ≠ ""
  keyed : ∀ party, (calls party).address.key = .ok key
  carried : ∀ party, (calls party).info.etag = token

/-- An update has loaded a record with a token from a key. -/
structure LoadedAt (key token : String) (pending : PendingUpdate α) : Prop where
  keyed : pending.address.key = .ok pending.key
  key : pending.key = key
  token : pending.current.info.etag = token

section

variable [Blank α]

def pendingOf (call : UpdateCall α) (store : RecordStore α) (key : String) : PendingUpdate α :=
  ⟨call.address, key, Storage.currentRecord store key⟩

structure Tokened (key token : String) (race : Race ι α) : Prop where
  stored : (Storage.currentRecord race.store key).info.etag = token
  loaded : ∀ party pending, race.progress party = .loaded pending → LoadedAt key token pending

variable {calls : ι → UpdateCall α} {key token : String}

theorem tokened_start (store : RecordStore α)
    (stored : (Storage.currentRecord store key).info.etag = token) :
    Tokened key token (start store : Race ι α) := by
  refine ⟨stored, ?_⟩
  intro party pending reached
  cases reached

theorem tokened_reach [DecidableEq ι] (race : Race ι α) (tokened : Tokened key token race) (party : ι)
    (store : RecordStore α) (progress : Progress α)
    (stored : (Storage.currentRecord store key).info.etag = token)
    (loaded : ∀ pending, progress = .loaded pending → LoadedAt key token pending) :
    Tokened key token (race.reach party store progress) := by
  refine ⟨stored, ?_⟩
  intro other pending reached
  by_cases same : other = party
  · rw [same, reach_self] at reached
    exact loaded pending reached
  · rw [reach_other _ _ _ _ _ same] at reached
    exact tokened.loaded other pending reached

/-- No call is refused for its token. -/
theorem begin_tokened (contend : Contend calls key token) (store : RecordStore α)
    (stored : (Storage.currentRecord store key).info.etag = token) (party : ι) :
    Storage.beginUpdate store (calls party).address (calls party).info =
      .ok (pendingOf (calls party) store key) := by
  have carried := (contend.carried party).trans stored.symm
  apply (Storage.begin_update_eq_ok _ _ _ _).2
  refine ⟨contend.domain party, key, contend.keyed party, ?_, rfl⟩
  exact (Storage.etags_agree_iff _ _).2 (Or.inr (Or.inr carried))

end

section

variable [Mergeable α] [Ruled α]

/-- Of an update that has saved nothing is left once another record stands under its key. -/
theorem put_finish (store : RecordStore α) (call : UpdateCall α) (pending : PendingUpdate α)
    (keyed : pending.address.key = .ok pending.key) (stored : StoredRecord α) :
    (Storage.finishUpdate store pending call.info call.change).store.put pending.key stored =
      store.put pending.key stored := by
  obtain ⟨failure, -, refused⟩ | ⟨snapshot, -, saved⟩ :=
    Storage.finish_cases pending keyed call.info call.change
  · rw [refused]
  · rw [saved]
    simp only [Storage.committed, RecordStore.put_put]

/-- A save takes no notice of what has been saved under its key since its load: the update comes to
what it comes to alone. -/
theorem finish_after_finish (store : RecordStore α) (earlier later : UpdateCall α)
    (former latter : PendingUpdate α) (formerly : former.address.key = .ok former.key)
    (latterly : latter.address.key = .ok latter.key) (same : former.key = latter.key) :
    let between := (Storage.finishUpdate store former earlier.info earlier.change).store
    let alone := Storage.finishUpdate store latter later.info later.change
    let after := Storage.finishUpdate between latter later.info later.change
    after.outcome = alone.outcome ∧
      ((∃ result, alone.outcome = .ok result) → after.store = alone.store) ∧
      ((∃ failure, alone.outcome = .error failure) → after.store = between) := by
  intro between alone after
  obtain ⟨failure, -, refused⟩ | ⟨snapshot, -, saved⟩ :=
    Storage.finish_cases latter latterly later.info later.change
  · have refusedAlone : alone = ⟨store, .error failure⟩ := refused store
    have refusedAfter : after = ⟨between, .error failure⟩ := refused between
    simp [refusedAlone, refusedAfter]
  · have savedAlone : alone = Storage.committed store latter later.info snapshot := saved store
    have savedAfter : after = Storage.committed between latter later.info snapshot := saved between
    have overwritten := put_finish store earlier former formerly
      ⟨snapshot, latter.current.info.updatedBy later.info⟩
    rw [same] at overwritten
    simp [savedAlone, savedAfter, Storage.committed, between, overwritten]

variable [Blank α]

theorem finish_keeps_token (store : RecordStore α) (call : UpdateCall α) (key token : String)
    (pending : PendingUpdate α) (loaded : LoadedAt key token pending)
    (carried : call.info.etag = token)
    (stored : (Storage.currentRecord store key).info.etag = token) :
    (Storage.currentRecord (Storage.finishUpdate store pending call.info call.change).store
      key).info.etag = token := by
  obtain ⟨failure, -, refused⟩ | ⟨snapshot, -, saved⟩ :=
    Storage.finish_cases pending loaded.keyed call.info call.change
  · rw [refused]
    exact stored
  · rw [saved]
    simp only [Storage.committed, Storage.currentRecord, loaded.key, RecordStore.find_put_self,
      Option.getD_some]
    simp only [RecordInfo.updatedBy, RecordInfo.orStored, carried, loaded.token, ite_self]

variable {calls : ι → UpdateCall α} {key token : String}

section

variable [DecidableEq ι]

theorem step_waiting (contend : Contend calls key token) (race : Race ι α)
    (tokened : Tokened key token race) (party : ι) (waiting : race.progress party = .waiting) :
    step calls race party =
      race.reach party race.store (.loaded (pendingOf (calls party) race.store key)) := by
  simp only [step, waiting, begin_tokened contend race.store tokened.stored party]

theorem tokened_step (contend : Contend calls key token) (race : Race ι α)
    (tokened : Tokened key token race) (party : ι) : Tokened key token (step calls race party) := by
  cases progress : race.progress party with
  | waiting =>
      rw [step_waiting contend race tokened party progress]
      apply tokened_reach race tokened party race.store _ tokened.stored
      intro pending reached
      cases reached
      exact ⟨contend.keyed party, rfl, tokened.stored⟩
  | loaded pending =>
      have loaded := tokened.loaded party pending progress
      have stored := finish_keeps_token race.store (calls party) key token pending loaded
        (contend.carried party) tokened.stored
      simp only [step, progress]
      apply tokened_reach race tokened party _ _ stored
      intro later reached
      cases reached
  | done outcome => simpa only [step, progress] using tokened

/-- The token of the stored record stays, whatever the schedule. -/
theorem tokened_run (contend : Contend calls key token) (schedule : List ι) (race : Race ι α)
    (tokened : Tokened key token race) : Tokened key token (run calls race schedule) := by
  induction schedule generalizing race with
  | nil => exact tokened
  | cons party rest ih => exact ih _ (tokened_step contend race tokened party)

end

/-- A call is refused on a store by its change or by the rule of the result, and by nothing else. -/
def RefusedByChange (call : UpdateCall α) (store : RecordStore α) (key : String) : Prop :=
  ∀ failure, (call.attempt store).outcome = .error failure ↔
    Storage.changed call.change (Storage.currentRecord store key).snapshot = .error failure

theorem succeeds_of_changed {call : UpdateCall α} {store : RecordStore α}
    (byChange : RefusedByChange call store key) (snapshot : α)
    (made : Storage.changed call.change (Storage.currentRecord store key).snapshot = .ok snapshot) :
    ∃ result, (call.attempt store).outcome = .ok result := by
  cases outcome : (call.attempt store).outcome with
  | error failure =>
      rw [byChange failure, made] at outcome
      cases outcome
  | ok result => exact ⟨result, rfl⟩

theorem attempt_eq_finish (contend : Contend calls key token) (store : RecordStore α)
    (stored : (Storage.currentRecord store key).info.etag = token) (party : ι) :
    (calls party).attempt store = Storage.finishUpdate store (pendingOf (calls party) store key)
      (calls party).info (calls party).change := by
  rw [UpdateCall.attempt, Storage.attempt, begin_tokened contend store stored party]

theorem refused_by_change (contend : Contend calls key token) (store : RecordStore α)
    (stored : (Storage.currentRecord store key).info.etag = token) (party : ι) :
    RefusedByChange (calls party) store key := by
  intro failure
  rw [attempt_eq_finish contend store stored party]
  change _ ↔ Storage.changed _ (pendingOf (calls party) store key).current.snapshot = _
  obtain ⟨other, made, refused⟩ | ⟨snapshot, made, saved⟩ :=
    Storage.finish_cases (pendingOf (calls party) store key) (contend.keyed party)
      (calls party).info (calls party).change
  · rw [refused, made]
    simp only [Except.error.injEq]
  · rw [saved, made]
    simp only [Storage.committed, reduceCtorEq]

/-- Two calls are done, the first to save and the other: the other loaded its record from `seen`. Each
comes to what it comes to alone on the store that it loaded from. Where the other is saved, the store is
the one that it leaves alone. -/
structure Settles (calls : Bool → UpdateCall α) (store seen : RecordStore α) (key : String)
    (first : Bool) (race : Race Bool α) : Prop where
  firstDone : race.progress first = .done ((calls first).attempt store).outcome
  otherDone : race.progress (!first) = .done ((calls !first).attempt seen).outcome
  byChange : RefusedByChange (calls first) store key ∧ RefusedByChange (calls !first) seen key
  saved : (∃ result, ((calls !first).attempt seen).outcome = .ok result) →
    race.store = ((calls !first).attempt seen).store
  refused : (∃ failure, ((calls !first).attempt seen).outcome = .error failure) →
    race.store = ((calls first).attempt store).store

theorem schedule_cases (schedule : List Bool) (twice : ∀ party, schedule.count party = 2) :
    ∃ first, schedule = [first, first, !first, !first] ∨
      schedule = [first, !first, first, !first] ∨ schedule = [!first, first, first, !first] := by
  have long : schedule.length = 4 := by
    rw [← List.count_true_add_count_false, twice, twice]
  obtain ⟨one, two, three, four, rfl⟩ := List.length_eq_four.1 long
  have trues := twice true
  revert trues
  clear twice long
  revert one two three four
  decide

section

variable {calls : Bool → UpdateCall α}

theorem settles_in_turn (contend : Contend calls key token) (store : RecordStore α)
    (stored : (Storage.currentRecord store key).info.etag = token) (first : Bool) :
    Settles calls store ((calls first).attempt store).store key first
      (run calls (start store) [first, first, !first, !first]) := by
  have different : first ≠ !first := by simp
  have half : run calls (start store) [first, first] =
      (start store).reach first ((calls first).attempt store).store
        (.done ((calls first).attempt store).outcome) :=
    step_step calls (start store) first rfl
  -- The first call has put back the token that it carried, so the other is not refused either.
  have tokened := tokened_run contend [first, first] (start store) (tokened_start store stored)
  rw [half] at tokened
  have whole : run calls (start store) [first, first, !first, !first] =
      step calls (step calls (run calls (start store) [first, first]) (!first)) (!first) := rfl
  rw [whole, half, step_step calls _ _ (reach_other _ _ _ _ _ different.symm)]
  constructor
  case firstDone => rw [reach_other _ _ _ _ _ different, reach_self]
  case otherDone => rw [reach_self, reach_store]
  case byChange =>
    exact ⟨refused_by_change contend store stored first,
      refused_by_change contend _ tokened.stored (!first)⟩
  case saved =>
    intro succeeded
    rfl
  case refused =>
    rintro ⟨failure, failed⟩
    exact (Storage.refused_of_error _ _ failure failed).1

def allLoaded (calls : Bool → UpdateCall α) (store : RecordStore α) (key : String) : Race Bool α :=
  ⟨store, fun party => .loaded (pendingOf (calls party) store key)⟩

theorem run_loads (contend : Contend calls key token) (store : RecordStore α)
    (stored : (Storage.currentRecord store key).info.etag = token) (party : Bool) :
    run calls (start store) [party, !party] = allLoaded calls store key := by
  have different : (!party) ≠ party := by simp
  have tokened := tokened_start (ι := Bool) store stored
  have once := step_waiting contend (start store) tokened party rfl
  have still := tokened_step contend (start store) tokened party
  rw [once] at still
  have twice := step_waiting contend _ still (!party) (reach_other _ _ _ _ _ different)
  have loads : run calls (start store) [party, !party] =
      step calls (step calls (start store) party) (!party) := rfl
  rw [loads, once, twice]
  simp only [reach, start, allLoaded, Race.mk.injEq, true_and]
  funext other
  cases party <;> cases other <;> rfl

theorem settles_overlapping (contend : Contend calls key token) (store : RecordStore α)
    (stored : (Storage.currentRecord store key).info.etag = token) (first : Bool) :
    Settles calls store store key first
      (run calls (allLoaded calls store key) [first, !first]) := by
  have different : first ≠ !first := by simp
  have firstAlone := attempt_eq_finish contend store stored first
  have otherAlone := attempt_eq_finish contend store stored (!first)
  -- Both calls hold the record that stood before, and nothing looks at the store again until it is
  -- written.
  obtain ⟨outcome, saved, refused⟩ := finish_after_finish store (calls first) (calls !first)
    (pendingOf (calls first) store key) (pendingOf (calls !first) store key)
    (contend.keyed first) (contend.keyed !first) rfl
  rw [← firstAlone, ← otherAlone] at outcome saved refused
  have half : step calls (allLoaded calls store key) first =
      (allLoaded calls store key).reach first ((calls first).attempt store).store
        (.done ((calls first).attempt store).outcome) := by
    rw [firstAlone]
    rfl
  have pending : (step calls (allLoaded calls store key) first).progress (!first) =
      .loaded (pendingOf (calls !first) store key) := by
    rw [half, reach_other _ _ _ _ _ different.symm]
    rfl
  have whole : run calls (allLoaded calls store key) [first, !first] =
      step calls (step calls (allLoaded calls store key) first) (!first) := rfl
  rw [whole, step, pending, half]
  constructor
  case firstDone => rw [reach_other _ _ _ _ _ different, reach_self]
  case otherDone => rw [reach_self, reach_store, outcome]
  case byChange =>
    exact ⟨refused_by_change contend store stored first,
      refused_by_change contend store stored (!first)⟩
  case saved => exact saved
  case refused => exact refused

/-- Of two calls on one record that carry its token, neither is refused for it, in whatever order they
take their steps. Where both load the record before either saves, the save that comes last leaves the
store that it leaves alone. -/
theorem last_save_overwrites (store : RecordStore α) (key : String) (stored : StoredRecord α)
    (found : store.find? key = some stored) (contend : Contend calls key stored.info.etag)
    (schedule : List Bool) (twice : ∀ party, schedule.count party = 2) :
    ∃ first,
      (schedule = [first, first, !first, !first] ∧
        Settles calls store ((calls first).attempt store).store key first
          (run calls (start store) schedule)) ∨
      ((schedule = [first, !first, first, !first] ∨ schedule = [!first, first, first, !first]) ∧
        Settles calls store store key first (run calls (start store) schedule)) := by
  have token : (Storage.currentRecord store key).info.etag = stored.info.etag := by
    rw [Storage.currentRecord, found, Option.getD_some]
  have overlapping := settles_overlapping contend store token
  obtain ⟨first, inTurn | between | before⟩ := schedule_cases schedule twice
  · refine ⟨first, Or.inl ⟨inTurn, ?_⟩⟩
    rw [inTurn]
    exact settles_in_turn contend store token first
  · refine ⟨first, Or.inr ⟨Or.inl between, ?_⟩⟩
    rw [between]
    have settled := overlapping first
    rw [← run_loads contend store token first] at settled
    exact settled
  · refine ⟨first, Or.inr ⟨Or.inr before, ?_⟩⟩
    rw [before]
    have settled := overlapping first
    rw [← run_loads contend store token (!first), Bool.not_not] at settled
    exact settled

end

end

def storedBilling : StoredRecord (Snapshot Catalogue.billingModel) :=
  ⟨⟨.product [.absent, .present (.atom (.int 500)), .absent]⟩, { revision := "7", etag := "e" }⟩

def billingStore : RecordStore (Snapshot Catalogue.billingModel) :=
  ⟨[("tenant/acme/billing", storedBilling)]⟩

def billingCalls (setsLimit : Bool) : UpdateCall (Snapshot Catalogue.billingModel) where
  address := ⟨"billing", Scope.tenant "acme"⟩
  info := { etag := "e" }
  change snapshot :=
    match snapshot.value, setsLimit with
    | .product [currency, _, email], true =>
        (⟨.product [currency, .present (.atom (.int 50)), email]⟩, none)
    | .product [_, limit, email], false =>
        (⟨.product [.present (.atom (.text "GBP")), limit, email]⟩, none)
    | _, _ => (snapshot, none)

theorem billing_contend :
    Contend billingCalls "tenant/acme/billing" storedBilling.info.etag := by
  constructor
  · intro party
    simp [billingCalls]
  · intro party
    rfl
  · intro party
    rfl

/-- The limit and the currency of one tenant are set at the same time. -/
theorem billing_save_overwrites :
    billingStore.find? "tenant/acme/billing" = some storedBilling ∧
    Contend billingCalls "tenant/acme/billing" storedBilling.info.etag ∧
    (∀ party, [false, true, false, true].count party = 2) ∧
    Settles billingCalls billingStore billingStore "tenant/acme/billing" false
      (run billingCalls (start billingStore) [false, true, false, true]) := by
  have found : billingStore.find? "tenant/acme/billing" = some storedBilling := rfl
  have twice : ∀ party, [false, true, false, true].count party = 2 := by decide
  refine ⟨found, billing_contend, twice, ?_⟩
  obtain ⟨first, ⟨inTurn, -⟩ | ⟨overlapping, settles⟩⟩ := last_save_overwrites billingStore
    "tenant/acme/billing" storedBilling found billing_contend [false, true, false, true] twice
  · cases first <;> simp at inTurn
  · cases first with
    | false => exact settles
    | true => simp at overlapping

/-- Both calls succeed with the token that was stored when they started, and the currency is lost: the
stored settings are neither change on top of the other. -/
theorem concurrent_change_lost :
    let race := run billingCalls (start billingStore) [false, true, false, true]
    storedBilling.info.etag ≠ "" ∧ (∀ party, (billingCalls party).info.etag = storedBilling.info.etag) ∧
    (∀ party, ∃ result, race.progress party = .done (.ok result)) ∧
    (race.store.find? "tenant/acme/billing").map StoredRecord.snapshot =
      some ⟨.product [.absent, .present (.atom (.int 50)), .absent]⟩ ∧
    ∀ first, (race.store.find? "tenant/acme/billing").map StoredRecord.snapshot ≠
      some ((billingCalls !first).change
        ((billingCalls first).change storedBilling.snapshot).1).1 := by
  intro race
  have settles : Settles billingCalls billingStore billingStore "tenant/acme/billing" false race := by
    have settled := settles_overlapping billing_contend billingStore rfl false
    rw [← run_loads billing_contend billingStore rfl false] at settled
    exact settled
  have lost : (race.store.find? "tenant/acme/billing").map StoredRecord.snapshot =
      some ⟨.product [.absent, .present (.atom (.int 50)), .absent]⟩ := rfl
  refine ⟨by decide, billing_contend.carried, ?succeed, lost, ?apart⟩
  case succeed =>
    intro party
    cases party with
    | false =>
        obtain ⟨result, succeeded⟩ := succeeds_of_changed settles.byChange.1 _ rfl
        exact ⟨result, by rw [settles.firstDone, succeeded]⟩
    | true =>
        obtain ⟨result, succeeded⟩ := succeeds_of_changed settles.byChange.2 _ rfl
        exact ⟨result, by rw [← succeeded]; exact settles.otherDone⟩
  case apart =>
    intro first
    rw [lost]
    cases first with
    | false => simp [billingCalls, storedBilling]
    | true => simp [billingCalls, storedBilling]

end Race

end LayeredConfig
