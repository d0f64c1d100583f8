import LayeredConfig.Stack
import LayeredConfig.Trace.Leaves
import Mathlib.Data.List.Duplicate
import Mathlib.Order.Lattice

/-!
# Making a stack

Layers make a stack exactly when their scope names and their priorities tell them apart, and then the
stack is the one order in which priorities strictly decrease. Otherwise the first layer in the order
given that has no name of its own is blamed, and only where all have one the greatest priority that is
shared.
-/
set_option autoImplicit false

namespace LayeredConfig.Stack

variable {α : Type}

def names (layers : List (Layer α)) : List String :=
  layers.map fun layer => layer.scope.name

def priorities (layers : List (Layer α)) : List Int :=
  layers.map fun layer => layer.scope.priority

def NamedApart (taken : List String) (layers : List (Layer α)) : Prop :=
  (∀ name ∈ names layers, name ≠ "" ∧ name ∉ taken) ∧ (names layers).Nodup

def Named (layers : List (Layer α)) : Prop :=
  (∀ name ∈ names layers, name ≠ "") ∧ (names layers).Nodup

def Blamed (taken : List String) (layer : Layer α) (failure : Failure) : Prop :=
  (layer.scope.name = "" ∧ failure = .namelessScope) ∨
    (layer.scope.name ≠ "" ∧ layer.scope.name ∈ taken ∧ failure = .repeatedScope layer.scope.name)

/-- The first layer without a name of its own is blamed. -/
def FirstBlamed (layers : List (Layer α)) (failure : Failure) : Prop :=
  ∃ before layer after, layers = before ++ layer :: after ∧ Named before ∧
    Blamed (names before) layer failure

def Descending (layers : List (Layer α)) : Prop :=
  layers.Pairwise fun stronger weaker => weaker.scope.priority < stronger.scope.priority

def Falling (layers : List (Layer α)) : Prop :=
  layers.Pairwise fun stronger weaker => weaker.scope.priority ≤ stronger.scope.priority

instance (layers : List (Layer α)) : Decidable (Named layers) :=
  inferInstanceAs (Decidable (_ ∧ _))

instance (layers : List (Layer α)) : Decidable (Descending layers) :=
  inferInstanceAs (Decidable (List.Pairwise _ _))

/-- The greatest priority that two layers share. -/
def GreatestTie (layers : List (Layer α)) (priority : Int) : Prop :=
  List.Duplicate priority (priorities layers) ∧
    ∀ other, List.Duplicate other (priorities layers) → other ≤ priority

theorem named_apart_cons (taken : List String) (layer : Layer α) (rest : List (Layer α)) :
    NamedApart taken (layer :: rest) ↔ layer.scope.name ≠ "" ∧ layer.scope.name ∉ taken ∧
      NamedApart (layer.scope.name :: taken) rest := by
  simp only [NamedApart, names, List.map_cons, List.nodup_cons]
  rw [List.forall_mem_cons]
  constructor
  · rintro ⟨⟨⟨named, fresh⟩, others⟩, unrepeated, distinct⟩
    refine ⟨named, fresh, ?_, distinct⟩
    intro name member
    have different : name ≠ layer.scope.name := by
      rintro rfl
      exact unrepeated member
    exact ⟨(others name member).1, List.not_mem_cons_of_ne_of_not_mem different (others name member).2⟩
  · rintro ⟨named, fresh, others, distinct⟩
    refine ⟨⟨⟨named, fresh⟩, ?_⟩, ?_, distinct⟩
    · intro name member
      exact ⟨(others name member).1, List.not_mem_of_not_mem_cons (others name member).2⟩
    · intro member
      exact (others _ member).2 List.mem_cons_self

theorem named_apart_nil (layers : List (Layer α)) : NamedApart [] layers ↔ Named layers := by
  simp [NamedApart, Named]

theorem name_fault_eq_none (taken : List String) (layers : List (Layer α)) :
    nameFault? taken layers = none ↔ NamedApart taken layers := by
  induction layers generalizing taken with
  | nil => simp [nameFault?, NamedApart, names]
  | cons layer rest ih =>
      rw [named_apart_cons, ← ih]
      simp only [nameFault?]
      by_cases empty : layer.scope.name = ""
      · simp [empty]
      · by_cases repeated : layer.scope.name ∈ taken
        · simp [empty, repeated]
        · simp [empty, repeated]

theorem name_fault_eq_some (taken : List String) (layers : List (Layer α)) (failure : Failure) :
    nameFault? taken layers = some failure ↔ ∃ before layer after,
      layers = before ++ layer :: after ∧ NamedApart taken before ∧
        Blamed (names before ++ taken) layer failure := by
  induction layers generalizing taken with
  | nil => simp [nameFault?]
  | cons layer rest ih =>
      have start : NamedApart taken ([] : List (Layer α)) := by simp [NamedApart, names]
      simp only [nameFault?]
      constructor
      · intro found
        split_ifs at found with empty repeated
        · cases found
          exact ⟨[], layer, rest, rfl, start, Or.inl ⟨empty, rfl⟩⟩
        · cases found
          exact ⟨[], layer, rest, rfl, start, Or.inr ⟨empty, repeated, rfl⟩⟩
        · obtain ⟨before, blamed, after, rfl, apart, blame⟩ := (ih _).1 found
          refine ⟨layer :: before, blamed, after, rfl, ?_, ?_⟩
          · exact (named_apart_cons taken layer before).2 ⟨empty, repeated, apart⟩
          · simpa [Blamed, names, or_left_comm] using blame
      · rintro ⟨before, blamed, after, split, apart, blame⟩
        cases before with
        | nil =>
            cases split
            rcases blame with ⟨empty, rfl⟩ | ⟨named, repeated, rfl⟩
            · rw [if_pos empty]
            · have taken : layer.scope.name ∈ taken := repeated
              rw [if_neg named, if_pos taken]
        | cons first before =>
            cases split
            obtain ⟨named, fresh, apart⟩ := (named_apart_cons taken layer before).1 apart
            rw [if_neg named, if_neg fresh, ih]
            refine ⟨before, blamed, after, rfl, apart, ?_⟩
            simpa [Blamed, names, or_left_comm] using blame

theorem unblamed_iff (layers : List (Layer α)) : nameFault? [] layers = none ↔ Named layers := by
  rw [name_fault_eq_none, named_apart_nil]

theorem first_blamed_iff (layers : List (Layer α)) (failure : Failure) :
    nameFault? [] layers = some failure ↔ FirstBlamed layers failure := by
  simp only [name_fault_eq_some, named_apart_nil, List.append_nil, FirstBlamed]

theorem precedes_iff (first second : Layer α) :
    precedes first second ↔ second.scope.priority < first.scope.priority ∨
      (first.scope.priority = second.scope.priority ∧
        (compare first.scope.name second.scope.name).isLE) := by
  unfold precedes
  split_ifs with tied
  · have order : ∀ result : Ordering, (result != .gt) = result.isLE := by decide
    simp [tied, order]
  · simp [tied]

theorem precedes_trans (first second third : Layer α) (before : precedes first second)
    (after : precedes second third) : precedes first third := by
  rw [precedes_iff] at *
  rcases before with stronger | ⟨tied, ordered⟩
  · rcases after with next | ⟨tied, -⟩
    · exact Or.inl (next.trans stronger)
    · exact Or.inl (tied ▸ stronger)
  · rcases after with next | ⟨nextTied, nextOrdered⟩
    · exact Or.inl (tied ▸ next)
    · exact Or.inr ⟨tied.trans nextTied, Std.TransCmp.isLE_trans ordered nextOrdered⟩

theorem precedes_total (first second : Layer α) :
    (precedes first second || precedes second first) = true := by
  rw [Bool.or_eq_true, precedes_iff, precedes_iff]
  rcases lt_trichotomy first.scope.priority second.scope.priority with weaker | tied | stronger
  · exact Or.inr (Or.inl weaker)
  · cases order : compare first.scope.name second.scope.name with
    | lt => exact Or.inl (Or.inr ⟨tied, rfl⟩)
    | eq => exact Or.inl (Or.inr ⟨tied, rfl⟩)
    | gt => exact Or.inr (Or.inr ⟨tied.symm, by rw [Std.OrientedCmp.lt_of_gt order]; rfl⟩)
  · exact Or.inl (Or.inl stronger)

theorem falling_sorted (layers : List (Layer α)) : Falling (layers.mergeSort precedes) := by
  have sorted := List.pairwise_mergeSort precedes_trans precedes_total layers
  apply sorted.imp
  intro stronger weaker before
  rcases (precedes_iff stronger weaker).1 before with less | ⟨tied, -⟩
  · exact less.le
  · exact tied.symm.le

theorem descending_of_falling (layers : List (Layer α)) (falling : Falling layers)
    (distinct : (priorities layers).Nodup) : Descending layers := by
  apply (falling.and (List.pairwise_map.1 distinct)).imp
  rintro stronger weaker ⟨most, different⟩
  exact lt_of_le_of_ne most (Ne.symm different)

theorem distinct_of_descending (layers : List (Layer α)) (descending : Descending layers) :
    (priorities layers).Nodup := by
  apply List.pairwise_map.2
  apply descending.imp
  intro stronger weaker less same
  exact absurd same less.ne'

theorem descending_unique (first second : List (Layer α)) (same : first.Perm second)
    (firstDescending : Descending first) (secondDescending : Descending second) :
    first = second := by
  apply List.Perm.eq_of_pairwise _ firstDescending secondDescending same
  intro stronger weaker _ _ less more
  exact absurd less more.asymm

theorem priority_fault_eq_none (layers : List (Layer α)) (falling : Falling layers) :
    priorityFault? layers = none ↔ Descending layers := by
  induction layers with
  | nil => simp [priorityFault?, Descending]
  | cons stronger rest ih =>
      cases rest with
      | nil => simp [priorityFault?, Descending]
      | cons weaker others =>
          have below := (List.pairwise_cons.1 falling).2
          simp only [priorityFault?]
          split_ifs with tied
          · simp only [false_iff]
            intro descending
            have less := (List.pairwise_cons.1 descending).1 weaker List.mem_cons_self
            omega
          · rw [ih below]
            refine ⟨fun descending => List.pairwise_cons.2 ⟨?_, descending⟩,
              fun descending => (List.pairwise_cons.1 descending).2⟩
            intro other member
            rcases List.mem_cons.1 member with rfl | later
            · omega
            · have most := (List.pairwise_cons.1 below).1 other later
              omega

theorem greatest_tie_of_fault (layers : List (Layer α)) (priority : Int)
    (falling : Falling layers) (found : priorityFault? layers = some priority) :
    GreatestTie layers priority := by
  induction layers with
  | nil => cases found
  | cons stronger rest ih =>
      cases rest with
      | nil => cases found
      | cons weaker others =>
          obtain ⟨most, below⟩ := List.pairwise_cons.1 falling
          simp only [priorityFault?] at found
          split_ifs at found with tied
          · cases found
            have same := le_antisymm tied (most weaker List.mem_cons_self)
            constructor
            · rw [priorities, List.map_cons, same]
              exact List.Mem.duplicate_cons_self List.mem_cons_self
            · intro other shared
              obtain ⟨layer, member, rfl⟩ := List.mem_map.1 shared.mem
              rcases List.mem_cons.1 member with rfl | later
              · exact tied
              · exact (most layer later).trans tied
          · obtain ⟨shared, greatest⟩ := ih below found
            refine ⟨shared.duplicate_cons _, ?_⟩
            intro other otherShared
            -- The strongest layer shares its priority with none, since the next is weaker.
            rcases List.duplicate_cons_iff.1 otherShared with ⟨same, member⟩ | inRest
            · obtain ⟨layer, inside, rfl⟩ := List.mem_map.1 member
              exfalso
              apply tied
              change stronger.scope.priority = layer.scope.priority at same
              rw [same]
              rcases List.mem_cons.1 inside with rfl | later
              · exact le_rfl
              · exact (List.pairwise_cons.1 below).1 layer later
            · exact greatest other inRest

theorem greatest_tie_unique (layers : List (Layer α)) (first second : Int)
    (firstTie : GreatestTie layers first) (secondTie : GreatestTie layers second) :
    first = second :=
  le_antisymm (secondTie.2 first firstTie.1) (firstTie.2 second secondTie.1)

theorem greatest_tie_perm (layers permuted : List (Layer α)) (same : permuted.Perm layers)
    (priority : Int) : GreatestTie permuted priority ↔ GreatestTie layers priority := by
  have samePriorities : (priorities permuted).Perm (priorities layers) := same.map _
  have shared (other : Int) : List.Duplicate other (priorities permuted) ↔
      List.Duplicate other (priorities layers) := by
    rw [List.duplicate_iff_two_le_count, List.duplicate_iff_two_le_count,
      samePriorities.count_eq other]
  simp only [GreatestTie, shared]

theorem named_perm (layers permuted : List (Layer α)) (same : permuted.Perm layers) :
    Named permuted ↔ Named layers := by
  have sameNames : (names permuted).Perm (names layers) := same.map _
  simp only [Named, sameNames.mem_iff, sameNames.nodup_iff]

/-- Layers make a stack exactly when each has its own name and the stack is their strictly decreasing
order. -/
theorem of_layers_eq_ok_iff (layers : List (Layer α)) (stack : Stack α) :
    ofLayers layers = .ok stack ↔
      Named layers ∧ stack.layers.Perm layers ∧ Descending stack.layers := by
  have falling := falling_sorted layers
  have sortedPerm := List.mergeSort_perm layers precedes
  unfold ofLayers
  cases fault : nameFault? [] layers with
  | some failure =>
      have unnamed : ¬ Named layers := by
        rw [← unblamed_iff, fault]
        simp
      simp [unnamed]
  | none =>
      have named := (unblamed_iff layers).1 fault
      simp only [named, true_and]
      cases tie : priorityFault? (layers.mergeSort precedes) with
      | some priority =>
          simp only [reduceCtorEq, false_iff, not_and]
          intro same descending
          have distinct := distinct_of_descending _ descending
          have sortedDistinct : (priorities (layers.mergeSort precedes)).Nodup :=
            ((sortedPerm.trans same.symm).map _).nodup_iff.2 distinct
          have nothing := (priority_fault_eq_none _ falling).2
            (descending_of_falling _ falling sortedDistinct)
          rw [nothing] at tie
          cases tie
      | none =>
          have descending := (priority_fault_eq_none _ falling).1 tie
          constructor
          · intro made
            cases made
            exact ⟨sortedPerm, descending⟩
          · rintro ⟨same, stackDescending⟩
            rw [descending_unique _ _ (sortedPerm.trans same.symm) descending stackDescending]

/-- Layers are refused for the first that has no name of its own, and otherwise for the greatest tie. -/
theorem of_layers_eq_error_iff (layers : List (Layer α)) (failure : Failure) :
    ofLayers layers = .error failure ↔ FirstBlamed layers failure ∨
      (Named layers ∧ ∃ priority, GreatestTie layers priority ∧ failure = .tiedPriority priority) := by
  have falling := falling_sorted layers
  have sortedPerm := List.mergeSort_perm layers precedes
  rw [← first_blamed_iff]
  unfold ofLayers
  cases fault : nameFault? [] layers with
  | some blame =>
      have unnamed : ¬ Named layers := by
        rw [← unblamed_iff, fault]
        simp
      simp [unnamed]
  | none =>
      have named := (unblamed_iff layers).1 fault
      simp only [reduceCtorEq, named, true_and, false_or]
      cases tie : priorityFault? (layers.mergeSort precedes) with
      | some priority =>
          have greatest := (greatest_tie_perm _ _ sortedPerm priority).1
            (greatest_tie_of_fault _ priority falling tie)
          constructor
          · intro refused
            cases refused
            exact ⟨priority, greatest, rfl⟩
          · rintro ⟨other, otherGreatest, rfl⟩
            rw [greatest_tie_unique layers other priority otherGreatest greatest]
      | none =>
          simp only [reduceCtorEq, false_iff]
          rintro ⟨priority, ⟨shared, -⟩, -⟩
          have distinct := distinct_of_descending _ ((priority_fault_eq_none _ falling).1 tie)
          have layersDistinct : (priorities layers).Nodup := (sortedPerm.map _).nodup_iff.1 distinct
          exact List.nodup_iff_forall_not_duplicate.1 layersDistinct priority shared

def resolved [Mergeable α] (layers : List (Layer α)) (wiring : Wiring) :
    Except Failure (Configuration α) := do
  let stack ← ofLayers layers
  stack.resolve wiring

theorem of_layers_succeeds_iff (layers : List (Layer α)) :
    (∃ stack, ofLayers layers = .ok stack) ↔ Named layers ∧ (priorities layers).Nodup := by
  have sortedPerm := List.mergeSort_perm layers precedes
  have samePriorities : (priorities (layers.mergeSort precedes)).Perm (priorities layers) :=
    sortedPerm.map _
  simp only [of_layers_eq_ok_iff]
  constructor
  · rintro ⟨stack, named, same, descending⟩
    have stackPriorities : (priorities stack.layers).Perm (priorities layers) := same.map _
    exact ⟨named, stackPriorities.nodup_iff.1 (distinct_of_descending _ descending)⟩
  · rintro ⟨named, distinct⟩
    have descending := descending_of_falling _ (falling_sorted layers)
      (samePriorities.nodup_iff.2 distinct)
    exact ⟨⟨layers.mergeSort precedes⟩, named, sortedPerm, descending⟩

theorem of_layers_perm (layers permuted : List (Layer α)) (same : permuted.Perm layers)
    (stack : Stack α) (made : ofLayers layers = .ok stack) : ofLayers permuted = .ok stack := by
  rw [of_layers_eq_ok_iff] at made ⊢
  obtain ⟨named, stackPerm, descending⟩ := made
  exact ⟨(named_perm _ _ same).2 named, stackPerm.trans same.symm, descending⟩

theorem tie_perm (layers permuted : List (Layer α)) (same : permuted.Perm layers) (priority : Int)
    (refused : ofLayers layers = .error (.tiedPriority priority)) :
    ofLayers permuted = .error (.tiedPriority priority) := by
  rw [of_layers_eq_error_iff] at refused ⊢
  rcases refused with ⟨_, layer, _, _, _, blame⟩ | ⟨named, other, greatest, held⟩
  · rcases blame with ⟨_, impossible⟩ | ⟨_, _, impossible⟩
    · cases impossible
    · cases impossible
  · exact Or.inr ⟨(named_perm _ _ same).2 named, other, (greatest_tie_perm _ _ same other).2 greatest,
      held⟩

/-- Where some layers all lie above the others, a stack of them all is a stack of the former on top of a
stack of the latter. -/
theorem stack_splits (strong weak layers : List (Layer α)) (stack : Stack α)
    (same : layers.Perm (strong ++ weak)) (made : ofLayers layers = .ok stack)
    (above : ∀ stronger ∈ strong, ∀ weaker ∈ weak,
      weaker.scope.priority < stronger.scope.priority) :
    ∃ upper lower, ofLayers strong = .ok upper ∧ ofLayers weak = .ok lower ∧
      stack.layers = upper.layers ++ lower.layers := by
  obtain ⟨named, distinct⟩ := (of_layers_succeeds_iff layers).1 ⟨stack, made⟩
  obtain ⟨-, stackPerm, descending⟩ := (of_layers_eq_ok_iff layers stack).1 made
  have allNamed := (named_perm _ _ same.symm).2 named
  have samePriorities : (priorities layers).Perm (priorities strong ++ priorities weak) := by
    have mapped := same.map fun layer : Layer α => layer.scope.priority
    rwa [List.map_append] at mapped
  obtain ⟨strongDistinct, weakDistinct, -⟩ := List.nodup_append.1 (samePriorities.nodup_iff.1 distinct)
  simp only [Named, names, List.map_append, List.forall_mem_append, List.nodup_append] at allNamed
  obtain ⟨⟨strongNames, weakNames⟩, strongApart, weakApart, -⟩ := allNamed
  obtain ⟨upper, upperMade⟩ := (of_layers_succeeds_iff strong).2 ⟨⟨strongNames, strongApart⟩,
    strongDistinct⟩
  obtain ⟨lower, lowerMade⟩ := (of_layers_succeeds_iff weak).2 ⟨⟨weakNames, weakApart⟩, weakDistinct⟩
  obtain ⟨-, upperPerm, upperDescending⟩ := (of_layers_eq_ok_iff strong upper).1 upperMade
  obtain ⟨-, lowerPerm, lowerDescending⟩ := (of_layers_eq_ok_iff weak lower).1 lowerMade
  refine ⟨upper, lower, upperMade, lowerMade, ?_⟩
  apply descending_unique _ _ _ descending
  · apply List.pairwise_append.2
    refine ⟨upperDescending, lowerDescending, ?_⟩
    intro stronger inUpper weaker inLower
    exact above stronger (upperPerm.mem_iff.1 inUpper) weaker (lowerPerm.mem_iff.1 inLower)
  · exact (stackPerm.trans same).trans (upperPerm.append lowerPerm).symm

/-- Making a stack validates the layers and puts them in their only strictly decreasing order, so that
neither the stack and what it resolves to nor the tie that is reported depends on the order given. -/
theorem layers_ordered_or_blamed [Mergeable α] [Writable α] (layers : List (Layer α)) :
    ((∃ stack, ofLayers layers = .ok stack) ↔ Named layers ∧ (priorities layers).Nodup) ∧
    (∀ stack, ofLayers layers = .ok stack → stack.layers.Perm layers ∧ Descending stack.layers ∧
      ∀ other, other.Perm layers → Descending other → other = stack.layers) ∧
    (∀ failure, ofLayers layers = .error failure ↔ FirstBlamed layers failure ∨
      (Named layers ∧ ∃ priority, GreatestTie layers priority ∧ failure = .tiedPriority priority)) ∧
    ∀ permuted, permuted.Perm layers →
      (∀ stack, ofLayers layers = .ok stack → ofLayers permuted = .ok stack ∧
        ∀ wiring, resolved permuted wiring = resolved layers wiring ∧
          (∀ path, (resolved permuted wiring >>= (·.trace path)) =
            (resolved layers wiring >>= (·.trace path))) ∧
          (resolved permuted wiring >>= Configuration.tracedLeaves) =
            (resolved layers wiring >>= Configuration.tracedLeaves)) ∧
      ∀ priority, ofLayers layers = .error (.tiedPriority priority) →
        ofLayers permuted = .error (.tiedPriority priority) := by
  refine ⟨of_layers_succeeds_iff layers, ?ordered, of_layers_eq_error_iff layers, ?permuted⟩
  case ordered =>
    intro stack made
    obtain ⟨-, same, descending⟩ := (of_layers_eq_ok_iff layers stack).1 made
    refine ⟨same, descending, ?_⟩
    intro other otherPerm otherDescending
    exact descending_unique _ _ (otherPerm.trans same.symm) otherDescending descending
  case permuted =>
    intro permuted same
    refine ⟨?_, tie_perm layers permuted same⟩
    intro stack made
    have permutedMade := of_layers_perm layers permuted same stack made
    refine ⟨permutedMade, ?_⟩
    intro wiring
    have sameResolved : resolved permuted wiring = resolved layers wiring := by
      rw [resolved, resolved, permutedMade, made]
    rw [sameResolved]
    exact ⟨rfl, fun _ => rfl, rfl⟩

/-- Three layers out of order, and the same with a fourth that ties with the weakest. -/
theorem shuffled_layers_ordered :
    let system : Layer Json := .ofScope (.ofName "system" 0) (.ofInt 1)
    let user : Layer Json := .ofScope (.ofName "user" 20) .null
    let team : Layer Json := .ofScope (.ofName "team" 10) (.ofInt 2)
    let guest : Layer Json := .ofScope (.ofName "guest" 0) (.ofInt 3)
    ofLayers [system, user, team] = .ok ⟨[user, team, system]⟩ ∧
      ofLayers [team, system, user] = .ok ⟨[user, team, system]⟩ ∧
      ofLayers [guest, user, system] = .error (.tiedPriority 0) ∧
      ofLayers [system, user, user] = .error (.repeatedScope "user") := by
  intro system user team guest
  obtain ⟨made, ordered, -, permuted⟩ := layers_ordered_or_blamed [system, user, team]
  obtain ⟨stack, shuffled⟩ := made.2 ⟨by decide, by decide⟩
  obtain ⟨-, -, unique⟩ := ordered stack shuffled
  have strict : Descending [user, team, system] := by decide
  have stackLayers : stack = ⟨[user, team, system]⟩ := by
    have same := unique _ (by decide) strict
    cases stack
    rw [same]
  rw [stackLayers] at shuffled
  have again := ((permuted [team, system, user] (by decide)).1 _ shuffled).1
  obtain ⟨-, -, blamed, tied⟩ := layers_ordered_or_blamed [system, user, guest]
  have tie : ofLayers [system, user, guest] = .error (.tiedPriority 0) := by
    apply (blamed _).2
    right
    refine ⟨by decide, 0, ⟨by decide, ?_⟩, rfl⟩
    intro other shared
    have known : other ∈ [(0 : Int), 20, 0] := shared.mem
    simp only [List.mem_cons, List.not_mem_nil, or_false] at known
    rcases known with rfl | rfl | rfl
    · exact le_rfl
    · exact absurd shared (by decide)
    · exact le_rfl
  have otherTie := (tied [guest, user, system] (by decide)).2 0 tie
  obtain ⟨-, -, named, -⟩ := layers_ordered_or_blamed [system, user, user]
  have repeated := (named (.repeatedScope "user")).2
    (Or.inl ⟨[system, user], user, [], rfl, by decide, Or.inr (by decide)⟩)
  exact ⟨shuffled, again, otherTie, repeated⟩

end LayeredConfig.Stack
