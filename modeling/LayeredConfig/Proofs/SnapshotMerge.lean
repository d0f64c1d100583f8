import LayeredConfig.Proofs.RecordMerge
import LayeredConfig.Snapshot.Basic

/-!
# Merging snapshots place by place

Every snapshot is laid out over every weaker snapshot of its model, whatever the model is made of.
-/
set_option autoImplicit false

namespace LayeredConfig.Snapshot

variable {declarations : Declarations} {owners : Owners}

theorem lays_product (parts : List Value) (lays : ∀ part ∈ parts, part.Lays declarations owners) :
    (Value.product parts).Lays declarations owners := by
  intro weak type strongForm weakForm regular weakRegular strongWrote weakWrote
  cases type with
  | array size item =>
      exact lays_array parts lays size item weak strongForm weakForm regular weakRegular strongWrote
        weakWrote
  | tuple items =>
      exact lays_tuple parts lays items weak strongForm weakForm regular weakRegular strongWrote
        weakWrote
  | named name =>
      cases known : declarations name with
      | none => simp [write, known] at strongWrote
      | some declaration =>
          cases declaration with
          | enumeration | newtype => simp [write, known] at strongWrote
          | record declared =>
              cases form : declared.form with
              | dotted =>
                  exact lays_dotted parts name declared known form weak strongForm weakForm regular
                    strongWrote
              | container =>
                  exact lays_record parts lays name declared known form weak strongForm weakForm
                    regular weakRegular strongWrote weakWrote
  | _ => simp [write] at strongWrote

theorem value_lays (value : Value) : value.Lays declarations owners := by
  induction value using Value.induct with
  | atom value =>
      apply lays_whole _ (by simp [Value.merge])
      intro place type opened
      cases opened
  | absent => exact lays_absent
  | present value ih => exact lays_present value ih
  | held value ih => exact lays_held value ih
  | frozen value ih =>
      apply lays_whole _ (by simp [Value.merge])
      intro place type opened
      cases opened
  | product parts ih => exact lays_product parts ih
  | sequence items ih =>
      apply lays_whole _ (by simp [Value.merge])
      intro place type opened
      cases opened
  | map entries ih => exact lays_map entries ih
  | variant name content ih =>
      apply lays_whole _ (by simp [Value.merge])
      intro place type opened
      cases opened
  | dynamic document => exact lays_dynamic document

def Writes (model : Model) (owners : Owners) (snapshot : Snapshot model) (form : Json) : Prop :=
  snapshot.value.Regular model.declarations owners model.type ∧ encode snapshot = some form

theorem snapshots_lay_over (model : Model) (owners : Owners) :
    LaysOver (fun value => value.isScalar) (Writes model owners) fun snapshot place =>
      snapshot.value.Open model.declarations owners place model.type where
  unique := by
    intro layer form other held otherHeld
    obtain ⟨-, wrote⟩ := held
    obtain ⟨-, otherWrote⟩ := otherHeld
    exact Option.some.inj (wrote.symm.trans otherWrote)
  merges := by
    intro strong weak strongForm weakForm held otherHeld
    obtain ⟨regular, wrote⟩ := held
    obtain ⟨weakRegular, weakWrote⟩ := otherHeld
    obtain ⟨placed, form, mergedWrote, laid⟩ := value_lays strong.value weak.value model.type
      strongForm weakForm regular weakRegular wrote weakWrote
    exact ⟨form, ⟨⟨sorted_merge _ _ regular.sorted weakRegular.sorted, placed⟩, mergedWrote⟩, laid⟩

end LayeredConfig.Snapshot
