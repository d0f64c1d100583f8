import LayeredConfig.Proofs.StoredRecords

/-!
# Which addresses share a storage key

A storage key joins the name of a scope, its identifier and a domain by slashes. Names hold no slash,
but identifiers and domains may, so two addresses of one name share a key exactly when the one
identifier goes on, after a slash, where the other ends and the domains make up for it.
-/
set_option autoImplicit false

namespace LayeredConfig

def slashed (first rest : String) : String :=
  first ++ "/" ++ rest

theorem slashed_to_list (first rest : String) :
    (slashed first rest).toList = first.toList ++ '/' :: rest.toList := by
  simp [slashed]

theorem slashed_assoc (first second third : String) :
    slashed (slashed first second) third = slashed first (slashed second third) := by
  apply String.toList_injective
  simp [slashed_to_list]

private theorem marked_append (mark : Char) (first second rest other : List Char)
    (same : first ++ mark :: rest = second ++ mark :: other) (between : List Char)
    (longer : second = first ++ between) :
    (first = second ∧ rest = other) ∨
      ∃ shared, second = first ++ mark :: shared ∧ rest = shared ++ mark :: other := by
  rw [longer, List.append_assoc] at same
  have tails := List.append_cancel_left same
  cases between with
  | nil =>
      left
      rw [List.append_nil] at longer
      exact ⟨longer.symm, (List.cons.inj tails).2⟩
  | cons head shared =>
      right
      obtain ⟨rfl, rests⟩ := List.cons.inj tails
      exact ⟨shared, longer, rests⟩

/-- Texts joined by a slash agree where their parts do, or where one first part goes on in the other. -/
theorem slashed_eq_iff (first second rest other : String) :
    slashed first rest = slashed second other ↔ (first = second ∧ rest = other) ∨
      (∃ between, second = slashed first between ∧ rest = slashed between other) ∨
      ∃ between, first = slashed second between ∧ other = slashed between rest := by
  have shared (short long rest other : String)
      (same : short.toList ++ '/' :: rest.toList = long.toList ++ '/' :: other.toList)
      (between : List Char) (longer : long.toList = short.toList ++ between) :
      (short = long ∧ rest = other) ∨
        ∃ between, long = slashed short between ∧ rest = slashed between other := by
    rcases marked_append '/' _ _ _ _ same between longer with ⟨firsts, rests⟩ | ⟨part, goesOn, rests⟩
    · exact Or.inl ⟨String.toList_injective firsts, String.toList_injective rests⟩
    · right
      refine ⟨String.ofList part, ?_, ?_⟩
      · apply String.toList_injective
        rw [goesOn, slashed_to_list, String.toList_ofList]
      · apply String.toList_injective
        rw [rests, slashed_to_list, String.toList_ofList]
  constructor
  · intro same
    have lists : first.toList ++ '/' :: rest.toList = second.toList ++ '/' :: other.toList := by
      rw [← slashed_to_list, ← slashed_to_list, same]
    rcases List.append_eq_append_iff.1 lists with ⟨between, longer, -⟩ | ⟨between, longer, -⟩
    · rcases shared first second rest other lists between longer with equal | goesOn
      · exact Or.inl equal
      · exact Or.inr (Or.inl goesOn)
    · rcases shared second first other rest lists.symm between longer with ⟨firsts, rests⟩ | goesOn
      · exact Or.inl ⟨firsts.symm, rests.symm⟩
      · exact Or.inr (Or.inr goesOn)
  · rintro (⟨rfl, rfl⟩ | ⟨between, rfl, rfl⟩ | ⟨between, rfl, rfl⟩)
    · rfl
    · exact (slashed_assoc _ _ _).symm
    · exact slashed_assoc _ _ _

/-- A text without a slash is a whole first part. -/
theorem slashed_eq_of_clean (first second rest other : String) (clean : '/' ∉ first.toList)
    (otherClean : '/' ∉ second.toList) :
    slashed first rest = slashed second other ↔ first = second ∧ rest = other := by
  have unclean (short between : String) : '/' ∈ (slashed short between).toList := by
    simp [slashed_to_list]
  rw [slashed_eq_iff]
  constructor
  · rintro (equal | ⟨between, rfl, -⟩ | ⟨between, rfl, -⟩)
    · exact equal
    · exact absurd (unclean _ _) otherClean
    · exact absurd (unclean _ _) clean
  · exact Or.inl

namespace Address

def identifierOf (scope : Scope) : Option String :=
  if scope.name = "system" then none else identifier? scope

/-- What an address is meant to address: the name of a scope, its identifier where it needs one, and a
domain. -/
def identity (address : Address) : String × Option String × String :=
  (address.scope.name, identifierOf address.scope, address.domain)

/-- What a storage key holds after the name of the scope. -/
def remainder (address : Address) : String :=
  match identifierOf address.scope with
  | none => address.domain
  | some value => slashed value address.domain

/-- The identifier of the second address goes on, after a slash, where that of the first ends, and the
domain of the first makes up for it. -/
def SpillsInto (first second : Address) : Prop :=
  first.scope.name = second.scope.name ∧ ∃ value between,
    identifierOf first.scope = some value ∧
    identifierOf second.scope = some (slashed value between) ∧
    first.domain = slashed between second.domain

theorem key_eq_ok (address : Address) (key : String) (keyed : address.key = .ok key) :
    address.scope.name ∈ "system" :: keyedScopes ∧
      (identifierOf address.scope = none ↔ address.scope.name = "system") ∧
      key = slashed address.scope.name address.remainder := by
  simp only [Address.key] at keyed
  by_cases system : address.scope.name = "system"
  · rw [if_pos system] at keyed
    cases keyed
    have unidentified : identifierOf address.scope = none := if_pos system
    refine ⟨by simp [system], by simp [system, unidentified], ?_⟩
    rw [remainder, unidentified, system]
    rfl
  rw [if_neg system] at keyed
  by_cases listed : address.scope.name ∈ keyedScopes
  · rw [if_pos listed] at keyed
    cases found : identifier? address.scope with
    | none =>
        rw [found] at keyed
        cases keyed
    | some value =>
        rw [found] at keyed
        cases keyed
        have identified : identifierOf address.scope = some value := by
          rw [identifierOf, if_neg system, found]
        refine ⟨List.mem_cons_of_mem _ listed, by simp [system, identified], ?_⟩
        rw [remainder, identified]
        exact slashed_assoc _ _ _
  · rw [if_neg listed] at keyed
    cases keyed

theorem clean_name (name : String) (listed : name ∈ "system" :: keyedScopes) :
    '/' ∉ name.toList := by
  have all : ∀ name ∈ "system" :: keyedScopes, '/' ∉ name.toList := by decide
  exact all name listed

/-- Two addresses share a storage key where they are meant to address the same, or where the identifier
of one spills into the domain of the other. -/
theorem same_key_iff (first second : Address) (key other : String) (keyed : first.key = .ok key)
    (otherKeyed : second.key = .ok other) :
    key = other ↔ first.identity = second.identity ∨ first.SpillsInto second ∨
      second.SpillsInto first := by
  obtain ⟨listed, system, rfl⟩ := key_eq_ok first key keyed
  obtain ⟨otherListed, otherSystem, rfl⟩ := key_eq_ok second other otherKeyed
  rw [slashed_eq_of_clean _ _ _ _ (clean_name _ listed) (clean_name _ otherListed)]
  simp only [identity, SpillsInto, Prod.mk.injEq, remainder]
  by_cases names : first.scope.name = second.scope.name
  · have sameKind : identifierOf first.scope = none ↔ identifierOf second.scope = none := by
      rw [system, otherSystem, names]
    cases identified : identifierOf first.scope with
    | none =>
        have otherIdentified := sameKind.1 identified
        simp [names, otherIdentified]
    | some value =>
        cases otherIdentified : identifierOf second.scope with
        | none =>
            rw [sameKind.2 otherIdentified] at identified
            cases identified
        | some other =>
            simp [names, slashed_eq_iff]
  · simp [names, Ne.symm names]

theorem not_spills_of_clean (first second : Address)
    (clean : ∀ value ∈ identifierOf second.scope, '/' ∉ value.toList) :
    ¬ first.SpillsInto second := by
  rintro ⟨-, value, between, -, goesOn, -⟩
  apply clean _ goesOn
  simp [slashed_to_list]

end Address

end LayeredConfig
