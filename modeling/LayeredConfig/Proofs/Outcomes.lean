import LayeredConfig.Configuration.Basic

/-!
# Computations that may fail

A computation of several steps succeeds where every step does. Writing and reading a snapshot are steps
that fail where there is no written form or no snapshot of it.
-/
set_option autoImplicit false

namespace LayeredConfig

theorem bind_eq_ok {α β : Type} (first : Except Failure α) (second : α → Except Failure β)
    (result : β) :
    (first >>= second) = .ok result ↔ ∃ value, first = .ok value ∧ second value = .ok result := by
  cases first with
  | error fault =>
      constructor
      · intro failed
        cases failed
      · rintro ⟨value, failed, -⟩
        cases failed
  | ok value =>
      constructor
      · intro succeeded
        exact ⟨value, rfl, succeeded⟩
      · rintro ⟨other, same, succeeded⟩
        cases same
        exact succeeded

theorem written_form_eq_ok {α : Type} [Writable α] (value : α) (document : Json) :
    writtenForm value = .ok document ↔ encode value = some document := by
  unfold writtenForm
  cases encode value <;> simp

theorem snapshot_of_eq_ok {α : Type} [Writable α] (document : Json) (value : α) :
    snapshotOf document = .ok value ↔ decode document = some value := by
  unfold snapshotOf
  cases (decode document : Option α) <;> simp

end LayeredConfig
