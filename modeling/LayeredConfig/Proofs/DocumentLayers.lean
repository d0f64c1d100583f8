import LayeredConfig.Proofs.Documents
import LayeredConfig.Proofs.Laying

/-!
# Layers of documents

In a document `null` and a missing key leave a place open; a scalar or an array settles every place
below it. This decides what folded documents hold.
-/
set_option autoImplicit false

namespace LayeredConfig.Json

/-- Whether a document says nothing at a place: on the way there through its objects comes a `null`
or a key that is missing. -/
def opens : List Hop → Json → Bool
  | _, .null => true
  | .member key :: rest, .object members =>
      match Members.find? key members with
      | some below => opens rest below
      | none => true
  | _, _ => false

/-- Whether a node replaces what a weaker document holds in its place. -/
def isWhole : Json → Bool
  | .null | .object _ => false
  | _ => true

theorem opens_null (place : List Hop) : opens place .null = true := by
  cases place <;> simp only [opens]

theorem opens_whole (place : List Hop) (document : Json) (whole : document.isWhole) :
    opens place document = false := by
  cases document with
  | null => simp [isWhole] at whole
  | object members => simp [isWhole] at whole
  | _ => cases place <;> simp only [opens]

theorem opens_member (key : String) (rest : List Hop) (members : List (String × Json)) :
    opens (.member key :: rest) (.object members) =
      ((Members.find? key members).elim true (opens rest)) := by
  simp only [opens]
  cases Members.find? key members <;> rfl

/-- A document that leaves a place open holds no value there, and none where another reading of the
same path leads. -/
theorem null_of_opens (place other : List Hop) (document value : Json)
    (agrees : List.Forall₂ Hop.Agrees place other) (opened : opens place document)
    (held : at? other document = some value) : value = .null := by
  induction place generalizing other document with
  | nil =>
      cases agrees
      cases document <;> simp [opens] at opened
      cases held
      rfl
  | cons hop rest ih =>
      cases document with
      | null => exact null_below other value held
      | object members =>
          cases hop with
          | item index => simp [opens] at opened
          | member key =>
              obtain ⟨others, below, found, tail, heldBelow⟩ :=
                at_object key rest other members value agrees held
              rw [opens_member, found] at opened
              exact ih others below tail opened heldBelow
      | _ => cases hop <;> simp [opens] at opened

theorem opened_silent (place : List Hop) (document value : Json) (opened : opens place document)
    (held : reach? place (some document) = some value) : value = .null :=
  null_of_opens place place document value (place_agrees_refl place) opened held

/-- A merge of documents holds the weaker value where the stronger document says nothing, and the
stronger one elsewhere. -/
theorem merge_laid (strong weak : Json) :
    Laid (fun value => value.isWhole) (fun place => opens place strong) (some strong) (some weak)
      (some (strong.merge weak)) := by
  have replaced (document weak : Json) (whole : document.isWhole)
      (kept : document.merge weak = document) :
      Laid (fun value => value.isWhole) (fun place => opens place document) (some document)
        (some weak) (some (document.merge weak)) := by
    rw [kept]
    apply Laid.whole
    intro place opened
    rw [opens_whole place document whole] at opened
    cases opened
  induction strong using induct generalizing weak with
  | null =>
      rw [merge_null_left]
      exact Laid.inherited _ _ opens_null (by simp) (by simp)
  | bool value => exact replaced _ weak rfl (by simp only [merge])
  | number value => exact replaced _ weak rfl (by simp only [merge])
  | string value => exact replaced _ weak rfl (by simp only [merge])
  | array items ih => exact replaced _ weak rfl (by simp only [merge])
  | object strong ih =>
      cases weak with
      | object weak =>
          rw [merge_objects]
          apply Laid.object
          · simp [isWhole]
          · simp [opens]
          · intro key
            rw [Members.find_union]
            simp only [opens_member]
            cases found : Members.find? key strong with
            | none => exact Laid.inherited _ _ (fun _ => rfl) (by simp) (by simp)
            | some below =>
                cases other : Members.find? key weak with
                | none =>
                    exact Laid.alone _ _ (fun place => opened_silent place below) (by simp)
                | some weaker => exact ih _ (Members.mem_of_find _ _ _ found) weaker
      | _ =>
          -- What is no object holds nothing at the places that an object leaves open.
          simp only [merge]
          apply Laid.alone _ _ fun place => opened_silent place (.object strong)
          intro place value opened held
          cases place with
          | nil => simp [opens] at opened
          | cons hop rest => cases hop <;> simp_all [below?, opens]

theorem documents_lay_over :
    LaysOver (fun value : Json => value.isWhole) Eq (fun document place => opens place document) where
  unique _ _ _ same other := same.symm.trans other
  merges := by
    intro strong weak _ _ same otherSame
    subst same
    subst otherSame
    exact ⟨strong.merge weak, rfl, merge_laid strong weak⟩

/-- Folded documents hold a scalar or an array at a key path exactly where one of them does and every
stronger one, followed through its objects, comes to a `null` or to a missing key. -/
theorem folded_documents_hold_iff (layers : List Json) (nonempty : layers ≠ []) :
    ∃ merged, overlay? layers = some merged ∧
      ∀ (keys : List String) (value : Json), value.isWhole →
        (at? (keys.map Hop.member) merged = some value ↔
          ∃ stronger layer weaker, layers = stronger ++ layer :: weaker ∧
            at? (keys.map Hop.member) layer = some value ∧
            ∀ other ∈ stronger, opens (keys.map Hop.member) other) := by
  obtain ⟨merged, folded⟩ := overlay_nonempty layers nonempty
  refine ⟨merged, folded, ?_⟩
  intro keys value whole
  have present : value ≠ .null := by
    intro same
    subst same
    cases whole
  rw [overlay_holds_iff documents_lay_over layers merged merged value folded
    (fun layer _ => ⟨layer, rfl⟩) rfl (keys.map Hop.member) whole present]
  constructor
  · intro otherHeld
    obtain ⟨stronger, layer, weaker, form, split, allOpen, rfl, held⟩ := otherHeld
    exact ⟨stronger, layer, weaker, split, held, allOpen⟩
  · intro otherHeld
    obtain ⟨stronger, layer, weaker, split, held, allOpen⟩ := otherHeld
    exact ⟨stronger, layer, weaker, layer, split, allOpen, rfl, held⟩

/-- An empty object and a `null` hide nothing, and the scalar below the supplying layer is hidden. -/
theorem folded_documents_hold_third :
    ∃ merged, overlay? [.object [("a", .object [])], .object [("a", .object [("b", .null)])],
        .object [("a", .object [("b", .ofInt 1)])], .object [("a", .ofInt 7)]] = some merged ∧
      at? [.member "a", .member "b"] merged = some (.ofInt 1) := by
  obtain ⟨merged, folded, holds⟩ := folded_documents_hold_iff
    [.object [("a", .object [])], .object [("a", .object [("b", .null)])],
      .object [("a", .object [("b", .ofInt 1)])], .object [("a", .ofInt 7)]] (by simp)
  refine ⟨merged, folded, (holds ["a", "b"] (.ofInt 1) rfl).2 ?_⟩
  exact ⟨[.object [("a", .object [])], .object [("a", .object [("b", .null)])]],
    .object [("a", .object [("b", .ofInt 1)])], [.object [("a", .ofInt 7)]], rfl, by decide,
    by decide⟩

end LayeredConfig.Json
