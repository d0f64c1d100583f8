import LayeredConfig.Proofs.Places
import LayeredConfig.Snapshot.Classes

/-!
# Laying one layer over another

A layer leaves a place open where it says nothing, and settles it otherwise. `Laid` states what a
merge then holds: the weaker side's value at an open place, the stronger side's at a settled one. Folded
layers hold a settled value exactly where the first layer that does not leave the place open has it.
-/
set_option autoImplicit false

namespace LayeredConfig

namespace Json

/-- Whether a node is a truth value, a number or a text. -/
def isScalar : Json → Bool
  | .bool _ | .number _ | .string _ => true
  | _ => false

/-- Whether nothing lies below a node. -/
def isLeaf : Json → Bool
  | .array (_ :: _) | .object (_ :: _) => false
  | _ => true

theorem object_eq_of_leaf (members others : List (String × Json))
    (leaf : (object others).isLeaf)
    (fewer : ∀ hop, below? hop (object others) = none → below? hop (object members) = none) :
    object members = object others := by
  cases others with
  | cons other others => cases leaf
  | nil =>
      cases members with
      | nil => rfl
      | cons member members =>
          have nothing := fewer (.member member.1) rfl
          simp [below?, Members.find?] at nothing

theorem array_eq_of_leaf (items others : List Json) (leaf : (array others).isLeaf)
    (fewer : ∀ hop, below? hop (array others) = none → below? hop (array items) = none) :
    array items = array others := by
  cases others with
  | cons other others => cases leaf
  | nil =>
      cases items with
      | nil => rfl
      | cons item items =>
          have nothing := fewer (.item 0) rfl
          simp [below?] at nothing

def reach? (place : List Hop) (document : Option Json) : Option Json :=
  document.bind (at? place)

@[simp] theorem reach_none (place : List Hop) : reach? place none = none := rfl

@[simp] theorem reach_some (place : List Hop) (document : Json) :
    reach? place (some document) = at? place document := rfl

theorem null_below (place : List Hop) (value : Json) (held : at? place .null = some value) :
    value = .null := by
  cases place with
  | nil =>
      cases held
      rfl
  | cons hop rest => cases hop <;> cases held

@[simp] theorem reach_root (document : Option Json) : reach? [] document = document := by
  cases document <;> rfl

/-- What a merge holds at every place, given the places that the stronger side leaves open. Values
that are `settled` are never mixed from both sides. -/
structure Laid (settled : Json → Prop) (opens : List Hop → Prop)
    (strong weak result : Option Json) : Prop where
  silent : ∀ place value, opens place → reach? place strong = some value → value = .null
  yields : ∀ place value, opens place → value ≠ .null →
    (reach? place result = some value ↔ reach? place weak = some value)
  keeps : ∀ place value, ¬ opens place → settled value →
    reach? place strong = some value → reach? place result = some value
  owes : ∀ place value, ¬ opens place → reach? place result = some value →
    ∃ own, reach? place strong = some own ∧ (own = .null → value = .null) ∧
      (settled value ∨ value.isLeaf → own = value)
  stays : ∀ place, reach? place result = none → reach? place strong = none
  adds : ∀ place, reach? place strong = none → reach? place weak = none →
    reach? place result = none

namespace Laid

variable {settled : Json → Prop} {opens : List Hop → Prop}

theorem whole (strong weak : Option Json) (closed : ∀ place, ¬ opens place) :
    Laid settled opens strong weak strong where
  silent place _ opened := absurd opened (closed place)
  yields place _ opened := absurd opened (closed place)
  keeps _ _ _ _ held := held
  owes _ value _ held := ⟨value, held, id, fun _ => rfl⟩
  stays _ nothing := nothing
  adds _ nothing _ := nothing

theorem inherited (strong weak : Option Json) (opened : ∀ place, opens place)
    (silent : ∀ value, strong = some value → value = .null)
    (kept : weak = none → strong = none) : Laid settled opens strong weak weak where
  silent place value _ held := by
    cases strong with
    | none => cases held
    | some form =>
        obtain rfl := silent form rfl
        exact null_below place value held
  yields _ _ _ _ := Iff.rfl
  keeps place _ closed := absurd (opened place) closed
  owes place _ closed := absurd (opened place) closed
  stays place nothing := by
    cases strong with
    | none => rfl
    | some form =>
        obtain rfl := silent form rfl
        cases place with
        | nil =>
            cases weak with
            | none => exact absurd (kept rfl) (by simp)
            | some form => cases nothing
        | cons hop rest => cases hop <;> rfl
  adds _ _ nothing := nothing

theorem alone (strong weak : Option Json)
    (silent : ∀ place value, opens place → reach? place strong = some value → value = .null)
    (nothing : ∀ place value, opens place → reach? place weak = some value → value = .null) :
    Laid settled opens strong weak strong where
  silent := silent
  yields place value opened present :=
    ⟨fun held => absurd (silent place value opened held) present,
      fun held => absurd (nothing place value opened held) present⟩
  keeps _ _ _ _ held := held
  owes _ value _ held := ⟨value, held, id, fun _ => rfl⟩
  stays _ nothing := nothing
  adds _ nothing _ := nothing

theorem nothing : Laid settled opens none none none :=
  alone none none (by simp) (by simp)

theorem container (strong weak result : Json) (root : ¬ opens []) (present : strong ≠ .null)
    (mixed : ¬ settled strong) (same : settled result ∨ result.isLeaf → strong = result)
    (inside : ∀ hop, Laid settled (fun rest => opens (hop :: rest)) (below? hop strong)
      (below? hop weak) (below? hop result)) :
    Laid settled opens (some strong) (some weak) (some result) where
  silent place value opened held := by
    cases place with
    | nil => exact absurd opened root
    | cons hop rest => exact (inside hop).silent rest value opened held
  yields place value opened present := by
    cases place with
    | nil => exact absurd opened root
    | cons hop rest => exact (inside hop).yields rest value opened present
  keeps place value closed whole held := by
    cases place with
    | nil =>
        cases held
        exact absurd whole mixed
    | cons hop rest => exact (inside hop).keeps rest value closed whole held
  owes place value closed held := by
    cases place with
    | nil =>
        cases held
        exact ⟨strong, rfl, fun null => absurd null present, same⟩
    | cons hop rest => exact (inside hop).owes rest value closed held
  stays place nothing := by
    cases place with
    | nil => cases nothing
    | cons hop rest => exact (inside hop).stays rest nothing
  adds place nothing weakNothing := by
    cases place with
    | nil => cases nothing
    | cons hop rest => exact (inside hop).adds rest nothing weakNothing

theorem object (strong weak result : List (String × Json))
    (mixed : ∀ members, ¬ settled (.object members)) (root : ¬ opens [])
    (inside : ∀ key, Laid settled (fun rest => opens (.member key :: rest))
      (Members.find? key strong) (Members.find? key weak) (Members.find? key result)) :
    Laid settled opens (some (.object strong)) (some (.object weak)) (some (.object result)) := by
  have everywhere (hop : Hop) : Laid settled (fun rest => opens (hop :: rest))
      (below? hop (.object strong)) (below? hop (.object weak)) (below? hop (.object result)) := by
    cases hop with
    | member key => exact inside key
    | item index => exact nothing
  apply container _ _ _ root (by simp) (mixed strong) _ everywhere
  intro either
  rcases either with whole | leaf
  · exact absurd whole (mixed result)
  · exact object_eq_of_leaf strong result leaf fun hop => by
      simpa using (everywhere hop).stays []

theorem array (strong weak result : List Json)
    (mixed : ∀ items, ¬ settled (.array items)) (root : ¬ opens [])
    (inside : ∀ index : Nat, Laid settled (fun rest => opens (.item index :: rest))
      strong[index]? weak[index]? result[index]?) :
    Laid settled opens (some (.array strong)) (some (.array weak)) (some (.array result)) := by
  have everywhere (hop : Hop) : Laid settled (fun rest => opens (hop :: rest))
      (below? hop (.array strong)) (below? hop (.array weak)) (below? hop (.array result)) := by
    cases hop with
    | member key => exact nothing
    | item index => exact inside index
  apply container _ _ _ root (by simp) (mixed strong) _ everywhere
  intro either
  rcases either with whole | leaf
  · exact absurd whole (mixed result)
  · exact array_eq_of_leaf strong result leaf fun hop => by
      simpa using (everywhere hop).stays []

theorem below (strong weak result : Json) (hop : Hop)
    (laid : Laid settled opens (some strong) (some weak) (some result)) :
    Laid settled (fun rest => opens (hop :: rest)) (below? hop strong) (below? hop weak)
      (below? hop result) where
  silent rest := laid.silent (hop :: rest)
  yields rest := laid.yields (hop :: rest)
  keeps rest := laid.keeps (hop :: rest)
  owes rest := laid.owes (hop :: rest)
  stays rest := laid.stays (hop :: rest)
  adds rest := laid.adds (hop :: rest)

/-- Objects and what says nothing are laid out as an object, or as nothing again. -/
theorem null_or_object (strong weak result : Json)
    (strongForm : strong = .null ∨ ∃ members, strong = .object members)
    (weakForm : weak = .null ∨ ∃ members, weak = .object members)
    (laid : Laid settled opens (some strong) (some weak) (some result)) :
    result = .null ∨ ∃ members, result = .object members := by
  by_cases root : opens []
  · by_cases null : result = .null
    · exact Or.inl null
    · have same := (laid.yields [] result root null).1 rfl
      cases same
      exact weakForm
  · obtain ⟨own, held, null, same⟩ := laid.owes [] result root rfl
    cases held
    rcases strongForm with rfl | ⟨members, rfl⟩
    · exact Or.inl (null rfl)
    · have nothing := laid.adds [.item 0] rfl (by rcases weakForm with rfl | ⟨others, rfl⟩ <;> rfl)
      cases result with
      | object members => exact Or.inr ⟨members, rfl⟩
      | array items =>
          cases items with
          | nil => cases same (Or.inr rfl)
          | cons item items => cases nothing
      | _ => cases same (Or.inr rfl)

theorem settle_fewer {fewer : Json → Prop} (strong weak result : Option Json)
    (included : ∀ value, fewer value → settled value)
    (laid : Laid settled opens strong weak result) : Laid fewer opens strong weak result where
  silent := laid.silent
  yields := laid.yields
  keeps place value closed whole := laid.keeps place value closed (included value whole)
  owes place value closed held := by
    obtain ⟨own, ownHeld, null, same⟩ := laid.owes place value closed held
    exact ⟨own, ownHeld, null, fun either => same (either.imp_left (included value))⟩
  stays := laid.stays
  adds := laid.adds

end Laid

end Json

section

variable {α : Type}

/-- A layer that is written as a document holds the value at a place that every stronger layer
leaves open. -/
def Supplied (written : α → Json → Prop) (opens : α → List Hop → Prop) (layers : List α)
    (place : List Hop) (value : Json) : Prop :=
  ∃ stronger layer weaker form, layers = stronger ++ layer :: weaker ∧
    (∀ other ∈ stronger, opens other place) ∧ written layer form ∧
      Json.at? place form = some value

variable {settled : Json → Prop} {written : α → Json → Prop} {opens : α → List Hop → Prop}

theorem supplied_by_first (layer : α) (weaker : List α) (form : Json) (place : List Hop)
    (value : Json) (wrote : written layer form) (held : Json.at? place form = some value) :
    Supplied written opens (layer :: weaker) place value :=
  ⟨[], layer, weaker, form, rfl, List.forall_mem_nil _, wrote, held⟩

theorem supplied_by_later (layer : α) (weaker : List α) (place : List Hop) (value : Json)
    (opened : opens layer place) (later : Supplied written opens weaker place value) :
    Supplied written opens (layer :: weaker) place value := by
  obtain ⟨stronger, supplier, rest, form, split, allOpen, wrote, held⟩ := later
  refine ⟨layer :: stronger, supplier, rest, form, by simp [split], ?_, wrote, held⟩
  exact List.forall_mem_cons.2 ⟨opened, allOpen⟩

theorem supplied_cons (layer : α) (weaker : List α) (place : List Hop) (value : Json)
    (supplied : Supplied written opens (layer :: weaker) place value) :
    (∃ form, written layer form ∧ Json.at? place form = some value) ∨
      (opens layer place ∧ Supplied written opens weaker place value) := by
  obtain ⟨stronger, supplier, rest, form, split, allOpen, wrote, held⟩ := supplied
  cases stronger with
  | nil =>
      cases split
      exact Or.inl ⟨form, wrote, held⟩
  | cons first others =>
      cases split
      obtain ⟨opened, othersOpen⟩ := List.forall_mem_cons.1 allOpen
      exact Or.inr ⟨opened, others, supplier, rest, form, rfl, othersOpen, wrote, held⟩

variable [Mergeable α]

/-- Merges of written values are written, and laid out as `opens` says. -/
structure LaysOver (settled : Json → Prop) (written : α → Json → Prop)
    (opens : α → List Hop → Prop) : Prop where
  unique : ∀ layer form other, written layer form → written layer other → form = other
  merges : ∀ strong weak strongForm weakForm, written strong strongForm →
    written weak weakForm → ∃ form, written (merge strong weak) form ∧
      Json.Laid settled (opens strong) (some strongForm) (some weakForm) (some form)

theorem overlay_nonempty (layers : List α) (nonempty : layers ≠ []) :
    ∃ merged, overlay? layers = some merged := by
  cases layers with
  | nil => exact absurd rfl nonempty
  | cons layer weaker =>
      cases below : overlay? weaker with
      | none => exact ⟨layer, by simp [overlay?, below]⟩
      | some value => exact ⟨merge layer value, by simp [overlay?, below]⟩

/-- One step of the fold: a single layer is the result, and any other first layer is merged over
what the rest folds to. -/
theorem overlay_cons (layer merged : α) (weaker : List α)
    (folded : overlay? (layer :: weaker) = some merged) :
    (weaker = [] ∧ merged = layer) ∨
      ∃ below, overlay? weaker = some below ∧ merged = merge layer below := by
  cases rest : overlay? weaker with
  | none =>
      cases weaker with
      | nil =>
          have same : layer = merged := by simpa [overlay?] using folded
          exact Or.inl ⟨rfl, same.symm⟩
      | cons next others =>
          obtain ⟨value, found⟩ := overlay_nonempty (next :: others) (by simp)
          rw [found] at rest
          cases rest
  | some below =>
      have same : merge layer below = merged := by simpa [overlay?, rest] using folded
      exact Or.inr ⟨below, rfl, same.symm⟩

theorem overlay_written (lays : LaysOver settled written opens) (layers : List α) (merged : α)
    (folded : overlay? layers = some merged)
    (wrote : ∀ layer ∈ layers, ∃ form, written layer form) : ∃ form, written merged form := by
  induction layers generalizing merged with
  | nil => cases folded
  | cons layer weaker ih =>
      obtain ⟨⟨form, layerForm⟩, weakerWrote⟩ := List.forall_mem_cons.1 wrote
      rcases overlay_cons layer merged weaker folded with ⟨-, rfl⟩ | ⟨below, rest, rfl⟩
      · exact ⟨form, layerForm⟩
      · obtain ⟨belowForm, belowWrote⟩ := ih below rest weakerWrote
        obtain ⟨result, resultForm, -⟩ := lays.merges layer below form belowForm layerForm belowWrote
        exact ⟨result, resultForm⟩

/-- The forms of a fold step: the first layer, what is below it, and the result that is laid out. -/
theorem overlay_laid (lays : LaysOver settled written opens) (layer below : α)
    (weaker : List α) (form : Json) (rest : overlay? weaker = some below)
    (wrote : ∀ other ∈ layer :: weaker, ∃ form, written other form)
    (mergedForm : written (merge layer below) form) :
    ∃ layerForm belowForm, written layer layerForm ∧ written below belowForm ∧
      Json.Laid settled (opens layer) (some layerForm) (some belowForm) (some form) := by
  obtain ⟨⟨layerForm, layerWrote⟩, weakerWrote⟩ := List.forall_mem_cons.1 wrote
  obtain ⟨belowForm, belowWrote⟩ := overlay_written lays weaker below rest weakerWrote
  obtain ⟨result, resultForm, laid⟩ :=
    lays.merges layer below layerForm belowForm layerWrote belowWrote
  obtain rfl := lays.unique _ _ _ mergedForm resultForm
  exact ⟨layerForm, belowForm, layerWrote, belowWrote, laid⟩

/-- Whatever the folded layers hold at a place comes from the first layer that does not leave the
place open, and a leaf or settled value comes from it unchanged. -/
theorem overlay_supplied (lays : LaysOver settled written opens) (layers : List α) (merged : α)
    (form value : Json) (folded : overlay? layers = some merged)
    (wrote : ∀ layer ∈ layers, ∃ form, written layer form)
    (mergedForm : written merged form) (place : List Hop) (present : value ≠ .null)
    (held : Json.at? place form = some value) :
    ∃ own, own ≠ .null ∧ Supplied written opens layers place own ∧
      (settled value ∨ value.isLeaf → own = value) := by
  induction layers generalizing merged form with
  | nil => cases folded
  | cons layer weaker ih =>
      rcases overlay_cons layer merged weaker folded with ⟨-, rfl⟩ | ⟨below, rest, rfl⟩
      · exact ⟨value, present, supplied_by_first merged weaker form place value mergedForm held,
          fun _ => rfl⟩
      · obtain ⟨layerForm, belowForm, layerWrote, belowWrote, laid⟩ :=
          overlay_laid lays layer below weaker form rest wrote mergedForm
        have weakerWrote := (List.forall_mem_cons.1 wrote).2
        by_cases opened : opens layer place
        · have belowHeld := (laid.yields place value opened present).1 held
          obtain ⟨own, ownPresent, supplied, same⟩ :=
            ih below belowForm rest weakerWrote belowWrote belowHeld
          exact ⟨own, ownPresent, supplied_by_later layer weaker place own opened supplied, same⟩
        · obtain ⟨own, ownHeld, null, same⟩ := laid.owes place value opened held
          exact ⟨own, fun ownNull => present (null ownNull),
            supplied_by_first layer weaker layerForm place own layerWrote ownHeld, same⟩

/-- Folded layers hold a settled value exactly where a layer holds it that every stronger layer
leaves the place open to. -/
theorem overlay_holds_iff (lays : LaysOver settled written opens) (layers : List α) (merged : α)
    (form value : Json) (folded : overlay? layers = some merged)
    (wrote : ∀ layer ∈ layers, ∃ form, written layer form)
    (mergedForm : written merged form) (place : List Hop) (whole : settled value)
    (present : value ≠ .null) :
    Json.at? place form = some value ↔ Supplied written opens layers place value := by
  constructor
  · intro held
    obtain ⟨own, -, supplied, same⟩ :=
      overlay_supplied lays layers merged form value folded wrote mergedForm place present held
    rwa [← same (Or.inl whole)]
  · intro supplied
    induction layers generalizing merged form with
    | nil => cases folded
    | cons layer weaker ih =>
        rcases overlay_cons layer merged weaker folded with ⟨none, rfl⟩ | ⟨below, rest, rfl⟩
        · subst none
          rcases supplied_cons _ _ _ _ supplied with ⟨own, ownForm, held⟩ | ⟨-, later⟩
          · rwa [lays.unique _ _ _ mergedForm ownForm]
          · obtain ⟨stronger, supplier, others, -, split, -⟩ := later
            simp at split
        · obtain ⟨layerForm, belowForm, layerWrote, belowWrote, laid⟩ :=
            overlay_laid lays layer below weaker form rest wrote mergedForm
          rcases supplied_cons _ _ _ _ supplied with ⟨own, ownForm, held⟩ | ⟨opened, later⟩
          · obtain rfl := lays.unique _ _ _ layerWrote ownForm
            have closed : ¬ opens layer place :=
              fun opened => present (laid.silent place value opened held)
            exact laid.keeps place value closed whole held
          · have belowHeld := ih below belowForm rest (List.forall_mem_cons.1 wrote).2 belowWrote
              later
            exact (laid.yields place value opened present).2 belowHeld

end

end LayeredConfig
