import LayeredConfig.Trace.Leaves
import Mathlib.Data.List.Forall2

/-!
# What a trace finds

A trace looks at the written form of every layer and takes the first that holds something other than
`null` along the keys. Where none does, the effective snapshot answers.
-/
set_option autoImplicit false

namespace LayeredConfig

section

variable {α : Type} [Writable α]

def Defines (path : String) (keys : List String) (layer : Layer α) (value : Json) : Prop :=
  ∃ document, encode layer.snapshot = some document ∧
    document.follow path keys = .ok value ∧ value ≠ .null

/-- A layer is the first to hold a value other than `null` along some keys. -/
def FirstDefining (path : String) (keys : List String) (layers stronger weaker : List (Layer α))
    (layer : Layer α) (value : Json) : Prop :=
  layers = stronger ++ layer :: weaker ∧ Defines path keys layer value ∧
    ∀ other ∈ stronger, ∀ found, ¬ Defines path keys other found

theorem first_defining_unique (path : String) (keys : List String)
    (layers stronger weaker others rest : List (Layer α)) (layer supplier : Layer α)
    (value found : Json) (first : FirstDefining path keys layers stronger weaker layer value)
    (second : FirstDefining path keys layers others rest supplier found) :
    stronger = others ∧ layer = supplier ∧ weaker = rest ∧ value = found := by
  obtain ⟨split, defines, silent⟩ := first
  obtain ⟨otherSplit, otherDefines, otherSilent⟩ := second
  rw [split] at otherSplit
  clear split
  induction stronger generalizing others with
  | nil =>
      cases others with
      | nil =>
          cases otherSplit
          obtain ⟨document, wrote, followed, -⟩ := defines
          obtain ⟨otherDocument, otherWrote, otherFollowed, -⟩ := otherDefines
          rw [wrote] at otherWrote
          cases otherWrote
          rw [followed] at otherFollowed
          cases otherFollowed
          exact ⟨rfl, rfl, rfl, rfl⟩
      | cons other others =>
          cases otherSplit
          exact absurd defines (otherSilent layer (by simp) value)
  | cons head stronger ih =>
      cases others with
      | nil =>
          cases otherSplit
          exact absurd otherDefines (silent supplier (by simp) found)
      | cons other others =>
          obtain ⟨rfl, tails⟩ := List.cons_eq_cons.1 otherSplit
          obtain ⟨rfl, same⟩ := ih others (List.forall_mem_cons.1 silent).2 tails
            (List.forall_mem_cons.1 otherSilent).2
          exact ⟨rfl, same⟩

def WrittenForms.Belongs (layer : Layer α) (form : WrittenLayer) : Prop :=
  encode layer.snapshot = some form.document ∧ form.scope = layer.scope ∧
    form.revision = layer.revision

namespace WrittenForms

theorem of_layer_eq_ok (layer : Layer α) (form : WrittenLayer) (wrote : ofLayer layer = .ok form) :
    Belongs layer form := by
  unfold ofLayer writtenForm at wrote
  cases written : encode layer.snapshot with
  | none =>
      rw [written] at wrote
      cases wrote
  | some document =>
      rw [written] at wrote
      cases wrote
      exact ⟨written, rfl, rfl⟩

theorem of_layers_eq_ok (layers : List (Layer α)) (forms : List WrittenLayer)
    (wrote : ofLayers layers = .ok forms) : List.Forall₂ Belongs layers forms := by
  induction layers generalizing forms with
  | nil =>
      cases wrote
      exact List.Forall₂.nil
  | cons layer layers ih =>
      simp only [ofLayers] at wrote
      cases first : ofLayer layer with
      | error fault =>
          rw [first] at wrote
          cases wrote
      | ok form =>
          cases others : ofLayers layers with
          | error fault =>
              rw [first, others] at wrote
              cases wrote
          | ok rest =>
              rw [first, others] at wrote
              cases wrote
              exact List.Forall₂.cons (of_layer_eq_ok layer form first) (ih rest others)

theorem of_configuration_eq_ok (current : Configuration α) (forms : WrittenForms)
    (wrote : ofConfiguration current = .ok forms) :
    encode current.value = some forms.merged ∧
      List.Forall₂ Belongs current.layers forms.layers := by
  unfold ofConfiguration writtenForm at wrote
  cases merged : encode current.value with
  | none =>
      rw [merged] at wrote
      cases wrote
  | some merged =>
      cases layers : ofLayers current.layers with
      | error fault =>
          rw [merged, layers] at wrote
          cases wrote
      | ok layers =>
          rw [merged, layers] at wrote
          cases wrote
          exact ⟨rfl, of_layers_eq_ok _ _ ‹_›⟩

theorem hit_eq_some (path : String) (keys : List String) (layer : Layer α) (form : WrittenLayer)
    (belongs : Belongs layer form) (value : Json) :
    hit? path keys form = some value ↔ Defines path keys layer value := by
  have defines : Defines path keys layer value ↔
      form.document.follow path keys = .ok value ∧ value ≠ .null := by
    simp [Defines, belongs.1]
  rw [defines, hit?]
  cases form.document.follow path keys with
  | error fault => simp
  | ok found =>
      simp only [Except.ok.injEq]
      constructor
      · intro held
        split at held
        · cases held
        · rename_i present
          cases held
          refine ⟨rfl, ?_⟩
          intro null
          subst null
          exact present rfl
      · intro held
        obtain ⟨rfl, present⟩ := held
        have shown : found.isNull = false := by
          cases found <;> simp_all [Json.isNull]
        simp [shown]

theorem hit_eq_none (path : String) (keys : List String) (layer : Layer α) (form : WrittenLayer)
    (belongs : Belongs layer form) :
    hit? path keys form = none ↔ ∀ found, ¬ Defines path keys layer found := by
  rw [Option.eq_none_iff_forall_ne_some]
  simp only [ne_eq, hit_eq_some path keys layer form belongs]

theorem winner_eq_some_iff (path : String) (keys : List String) (layers : List (Layer α))
    (forms : List WrittenLayer) (belongs : List.Forall₂ Belongs layers forms)
    (winner : TraceEntry) :
    Trace.winner? ⟨path, forms.map (entry path keys)⟩ = some winner ↔
      ∃ stronger layer weaker value, FirstDefining path keys layers stronger weaker layer value ∧
        winner = ⟨layer.scope, layer.revision, path, value, true⟩ := by
  unfold Trace.winner?
  induction belongs with
  | nil => simp [FirstDefining]
  | @cons layer form layers forms head tail ih =>
      simp only [List.map_cons, List.find?_cons]
      cases held : hit? path keys form with
      | none =>
          have silent := (hit_eq_none path keys layer form head).1 held
          have missed : (entry path keys form).found = false := by simp [entry, held]
          rw [missed]
          simp only [ih]
          constructor
          · intro held
            obtain ⟨stronger, supplier, weaker, value, ⟨split, defines, others⟩, same⟩ := held
            exact ⟨layer :: stronger, supplier, weaker, value,
              ⟨by rw [split]; rfl, defines, List.forall_mem_cons.2 ⟨silent, others⟩⟩, same⟩
          · intro held
            obtain ⟨stronger, supplier, weaker, value, ⟨split, defines, others⟩, same⟩ := held
            cases stronger with
            | nil =>
                cases split
                exact absurd defines (silent value)
            | cons first stronger =>
                cases split
                exact ⟨stronger, supplier, weaker, value,
                  ⟨rfl, defines, (List.forall_mem_cons.1 others).2⟩, same⟩
      | some value =>
          have defines := (hit_eq_some path keys layer form head value).1 held
          have hit : entry path keys form = ⟨layer.scope, layer.revision, path, value, true⟩ := by
            simp [entry, held, head.2.1, head.2.2]
          have first : FirstDefining path keys (layer :: layers) [] layers layer value :=
            ⟨rfl, defines, by simp⟩
          rw [hit]
          simp only [Option.some.injEq]
          constructor
          · intro same
            subst same
            exact ⟨[], layer, layers, value, first, rfl⟩
          · intro held
            obtain ⟨stronger, supplier, weaker, found, second, same⟩ := held
            obtain ⟨-, rfl, -, rfl⟩ := first_defining_unique path keys _ _ _ _ _ _ _ _ _ first second
            exact same.symm

theorem trace_eq_ok (forms : WrittenForms) (path : String) (keys : List String) (value : Json)
    (trace : Trace) (nonempty : forms.layers ≠ []) (traced : forms.trace path keys = .ok (value, trace)) :
    trace = ⟨path, forms.layers.map (entry path keys)⟩ ∧
      ((∃ winner, trace.winner? = some winner ∧ value = winner.value) ∨
        (trace.winner? = none ∧ forms.merged.follow path keys = .ok value)) := by
  unfold WrittenForms.trace at traced
  split at traced
  · rename_i empty
    exact absurd empty nonempty
  · simp only at traced
    split at traced
    · rename_i winner won
      cases traced
      exact ⟨rfl, Or.inl ⟨winner, won, rfl⟩⟩
    · rename_i lost
      unfold followKeys at traced
      cases followed : forms.merged.follow path keys with
      | error fault =>
          rw [followed] at traced
          cases traced
      | ok found =>
          rw [followed] at traced
          cases traced
          exact ⟨rfl, Or.inr ⟨lost, rfl⟩⟩

theorem leaf_eq_ok (forms : WrittenForms) (keys : List String) (leaf : TracedLeaf)
    (found : forms.leaf keys = .ok leaf) :
    leaf.path = Path.join keys ∧ forms.trace leaf.path keys = .ok (leaf.value, leaf.trace) ∧
      leaf.attribution = attributionOf leaf.value leaf.trace := by
  simp only [WrittenForms.leaf] at found
  cases traced : forms.trace (Path.join keys) keys with
  | error fault =>
      rw [traced] at found
      cases found
  | ok both =>
      rw [traced] at found
      cases found
      exact ⟨rfl, traced, rfl⟩

theorem mem_leaves_at (forms : WrittenForms) (paths : List (List String)) (leaves : List TracedLeaf)
    (found : forms.leavesAt paths = .ok leaves) (leaf : TracedLeaf) (member : leaf ∈ leaves) :
    ∃ keys ∈ paths, forms.leaf keys = .ok leaf := by
  induction paths generalizing leaves with
  | nil =>
      cases found
      cases member
  | cons keys paths ih =>
      simp only [leavesAt] at found
      cases here : forms.leaf keys with
      | error fault =>
          rw [here] at found
          cases found
      | ok first =>
          cases later : forms.leavesAt paths with
          | error fault =>
              rw [here, later] at found
              cases found
          | ok others =>
              rw [here, later] at found
              cases found
              rcases List.mem_cons.1 member with rfl | inOthers
              · exact ⟨keys, by simp, here⟩
              · obtain ⟨others, inPaths, otherLeaf⟩ := ih _ later inOthers
                exact ⟨others, List.mem_cons_of_mem _ inPaths, otherLeaf⟩

end WrittenForms

namespace Configuration

theorem traced_leaves_eq_ok (current : Configuration α) (leaves : List TracedLeaf)
    (traced : current.tracedLeaves = .ok leaves) :
    ∃ forms, WrittenForms.ofConfiguration current = .ok forms ∧
      ∀ leaf ∈ leaves, ∃ keys ∈ segmentLeaves forms.merged, forms.leaf keys = .ok leaf := by
  unfold tracedLeaves at traced
  cases wrote : WrittenForms.ofConfiguration current with
  | error fault =>
      rw [wrote] at traced
      cases traced
  | ok forms =>
      rw [wrote] at traced
      exact ⟨forms, rfl, WrittenForms.mem_leaves_at forms _ leaves traced⟩

variable [Mergeable α]

/-- The keys that a path stands for in the written form of a snapshot type. -/
def keysAt? (α : Type) [Mergeable α] (path : String) : Option (List String) :=
  match parsedSteps α path with
  | .ok steps => some (keysOf steps)
  | .error _ => none

theorem trace_eq_ok (current : Configuration α) (path : String) (value : Json) (trace : Trace)
    (traced : current.trace path = .ok (value, trace)) :
    ∃ keys forms, keysAt? α path = some keys ∧ WrittenForms.ofConfiguration current = .ok forms ∧
      forms.trace path keys = .ok (value, trace) := by
  unfold Configuration.trace at traced
  cases parsed : parsedSteps α path with
  | error fault =>
      rw [parsed] at traced
      cases traced
  | ok steps =>
      cases wrote : WrittenForms.ofConfiguration current with
      | error fault =>
          rw [parsed, wrote] at traced
          cases traced
      | ok forms =>
          rw [parsed, wrote] at traced
          exact ⟨keysOf steps, forms, by simp [keysAt?, parsed], rfl, traced⟩

theorem get_eq_ok_iff (current : Configuration α) (path : String) (keys : List String)
    (merged value : Json) (read : keysAt? α path = some keys)
    (wrote : encode current.value = some merged) :
    current.get path = .ok value ↔ merged.follow path keys = .ok value := by
  unfold Configuration.get writtenForm
  rw [wrote]
  unfold keysAt? at read
  cases parsed : parsedSteps α path with
  | error fault => simp [parsed] at read
  | ok steps =>
      obtain rfl : keysOf steps = keys := by simpa [parsed] using read
      show followKeys path merged (keysOf steps) = .ok value ↔ _
      unfold followKeys
      cases merged.follow path (keysOf steps) <;> simp

end Configuration

end

end LayeredConfig
