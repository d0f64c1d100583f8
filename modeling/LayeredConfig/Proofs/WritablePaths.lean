import LayeredConfig.Proofs.Assignment
import LayeredConfig.Proofs.PathText

/-!
# Paths that can be set

Setting a path walks through objects until it comes to an unset node, to a missing member or to the last
segment. Only then does it create anything, so that an array or a scalar in the way is met before the
document has changed.
-/
set_option autoImplicit false

namespace LayeredConfig.Json

/-- The node that keys lead to through objects only. -/
def reached? (root : Json) (keys : List String) : Option Json :=
  at? (keys.map Hop.member) root

/-- The walk along the proper beginnings of some keys meets objects only, until it ends at an unset node
or at a missing member. -/
def Writable (root : Json) (keys : List String) : Prop :=
  ∀ before key after, keys = before ++ key :: after → ∀ node, root.reached? before = some node →
    node = .null ∨ ∃ members, node = .object members

/-- The walk along the proper beginnings of some keys meets an array or a scalar, which the next key would
be looked up in. -/
def Blocked (root : Json) (keys : List String) (key : String) (node : Json) : Prop :=
  ∃ before after, keys = before ++ key :: after ∧ root.reached? before = some node ∧
    node ≠ .null ∧ ∀ members, node ≠ .object members

theorem reached_cons (root node : Json) (key : String) (rest : List String) :
    root.reached? (key :: rest) = some node ↔ ∃ members child, root = .object members ∧
      Members.find? key members = some child ∧ child.reached? rest = some node := by
  cases root with
  | object members => simp [reached?, below?, Option.bind_eq_some_iff]
  | _ => simp [reached?, below?]

theorem not_writable_of_blocked (root : Json) (keys : List String) (key : String) (node : Json)
    (blocked : root.Blocked keys key node) : ¬ root.Writable keys := by
  intro writable
  obtain ⟨before, after, split, reached, set, solid⟩ := blocked
  rcases writable before key after split node reached with unset | ⟨members, object⟩
  · exact set unset
  · exact solid members object

/-- The first array or scalar that is met is the only one: the walk does not go on from it. -/
theorem blocked_unique (root : Json) (keys : List String) (key other : String) (node met : Json)
    (blocked : root.Blocked keys key node) (otherBlocked : root.Blocked keys other met) :
    key = other ∧ node = met := by
  induction keys generalizing root with
  | nil =>
      obtain ⟨before, after, split, -⟩ := blocked
      simp at split
  | cons first rest ih =>
      obtain ⟨before, after, split, reached, set, solid⟩ := blocked
      obtain ⟨otherBefore, otherAfter, otherSplit, otherReached, otherSet, otherSolid⟩ := otherBlocked
      cases before with
      | nil =>
          cases reached
          cases otherBefore with
          | nil =>
              cases otherReached
              cases split
              cases otherSplit
              exact ⟨rfl, rfl⟩
          | cons _ more =>
              obtain ⟨members, -, object, -⟩ := (reached_cons _ met _ more).1 otherReached
              exact absurd object (solid members)
      | cons _ more =>
          obtain ⟨members, child, rfl, held, below⟩ := (reached_cons root node _ more).1 reached
          cases otherBefore with
          | nil =>
              cases otherReached
              exact absurd rfl (otherSolid members)
          | cons _ others =>
              obtain ⟨_, otherChild, same, otherHeld, otherBelow⟩ :=
                (reached_cons _ met _ others).1 otherReached
              cases same
              obtain ⟨rfl, restSplit⟩ := List.cons.inj split
              obtain ⟨rfl, otherRestSplit⟩ := List.cons.inj otherSplit
              rw [held] at otherHeld
              cases otherHeld
              exact ih child ⟨more, after, restSplit, below, set, solid⟩
                ⟨others, otherAfter, otherRestSplit, otherBelow, otherSet, otherSolid⟩

theorem writable_null (keys : List String) : null.Writable keys := by
  intro before key after split node reached
  cases before with
  | nil =>
      cases reached
      exact Or.inl rfl
  | cons first more => cases reached

theorem writable_nil (root : Json) : root.Writable [] := by
  intro before key after split
  simp at split

theorem writable_opened (root : Json) (members : List (String × Json)) (key : String)
    (rest : List String) (opened : root.opened? = some members)
    (below : ((Members.find? key members).getD .null).Writable rest) :
    root.Writable (key :: rest) := by
  cases root with
  | null => exact writable_null _
  | object inside =>
      cases opened
      intro before next after split node reached
      cases before with
      | nil =>
          cases reached
          exact Or.inr ⟨members, rfl⟩
      | cons first more =>
          obtain ⟨rfl, restSplit⟩ := List.cons.inj split
          obtain ⟨_, child, same, held, childReached⟩ := (reached_cons _ node _ more).1 reached
          cases same
          rw [held] at below
          exact below more next after restSplit node childReached
  | _ => cases opened

theorem blocked_here (node : Json) (key : String) (rest : List String)
    (solid : node.opened? = none) : node.Blocked (key :: rest) key node := by
  refine ⟨[], rest, rfl, rfl, ?_, ?_⟩
  · rintro rfl
    cases solid
  · rintro members rfl
    cases solid

theorem blocked_below (members : List (String × Json)) (key next : String) (rest : List String)
    (child node : Json) (held : Members.find? key members = some child)
    (below : child.Blocked rest next node) : (object members).Blocked (key :: rest) next node := by
  obtain ⟨before, after, split, reached, solid⟩ := below
  refine ⟨key :: before, after, congrArg (key :: ·) split, ?_, solid⟩
  exact (reached_cons _ node key before).2 ⟨members, child, rfl, held, reached⟩

/-- An assignment along segments that the document decides either succeeds, or meets what it cannot write
into and leaves the document as it was. -/
theorem assign_succeeds_or_blocked (path : String) (value : Json) (keys : List String)
    (nonempty : keys ≠ []) (root : Json) (sorted : root.Sorted) :
    (root.Writable keys ∧ ∃ after, assign path value (verbatimSteps keys) root = (after, none)) ∨
    ∃ key node, root.Blocked keys key node ∧ assign path value (verbatimSteps keys) root =
      (root, some (.closed path key (.node node.kind))) := by
  induction keys generalizing root with
  | nil => exact absurd rfl nonempty
  | cons key rest ih =>
      cases opened : root.opened? with
      | none =>
          refine Or.inr ⟨key, root, blocked_here root key rest opened, ?_⟩
          exact assign_solid path key rest value root opened
      | some members =>
          obtain ⟨inOrder, inside⟩ := sorted_opened root sorted members opened
          cases rest with
          | nil =>
              refine Or.inl ⟨?_, _, assign_last path key value root members opened⟩
              exact writable_opened root members key [] opened (writable_nil _)
          | cons next more =>
              rcases ih (by simp) _ (inside key) with ⟨writable, after, assigned⟩ | refused
              · have whole := assign_further path key next more value root after none members opened assigned
                exact Or.inl ⟨writable_opened root members key _ opened writable, _, whole⟩
              · obtain ⟨last, node, blocked, refused⟩ := refused
                cases held : Members.find? key members with
                | none =>
                    rw [held] at blocked
                    exact absurd (writable_null _) (not_writable_of_blocked _ _ _ _ blocked)
                | some child =>
                    have whole := assign_further path key next more value root _ _ members opened refused
                    rw [held] at blocked whole
                    obtain rfl := object_of_opened root members key child opened held
                    refine Or.inr ⟨last, node, ?_, ?_⟩
                    · exact blocked_below members key last _ child node held blocked
                    · -- The child comes back as it was, and is put where it was found.
                      rw [whole, Option.getD_some, Members.insert_found key child members inOrder held]

theorem set_parsed (root value : Json) (path : String) (keys : List String)
    (parsed : Path.parse path = .ok keys) :
    root.set path value = assign path value (verbatimSteps keys) root := by
  simp only [set, parsed]

/-- A document is written where the path is well formed and the walk along it meets objects only. In every
other case it stays as it was, and a well-formed path is refused for the first array or scalar met. -/
theorem set_writes_or_leaves (root value : Json) (path : String) (sorted : root.Sorted) :
    ((∃ after, root.set path value = (after, none)) ↔
      ∃ keys, Path.parse path = .ok keys ∧ root.Writable keys) ∧
    (∀ after fault, root.set path value = (after, some fault) → after = root ∧
      ∀ keys, Path.parse path = .ok keys → ∃ key node, root.Blocked keys key node ∧
        fault = .closed path key (.node node.kind)) ∧
    ∀ keys key node, Path.parse path = .ok keys → root.Blocked keys key node →
      root.set path value = (root, some (.closed path key (.node node.kind))) := by
  cases parsed : Path.parse path with
  | error fault =>
      have refused : root.set path value = (root, some fault) := by simp only [set, parsed]
      simp [refused]
  | ok keys =>
      have nonempty := Path.parsed_ne_nil path keys parsed
      rw [set_parsed root value path keys parsed]
      simp only [Except.ok.injEq, exists_eq_left', forall_eq']
      rcases assign_succeeds_or_blocked path value keys nonempty root sorted with
        ⟨writable, after, written⟩ | ⟨key, node, blocked, refused⟩
      · rw [written]
        refine ⟨iff_of_true ⟨after, rfl⟩ writable, ?_, ?_⟩
        · intro result fault same
          cases same
        · intro _ key node same blocked
          cases same
          exact absurd writable (not_writable_of_blocked root keys key node blocked)
      · rw [refused]
        refine ⟨iff_of_false ?_ (not_writable_of_blocked root keys key node blocked), ?_, ?_⟩
        · rintro ⟨after, same⟩
          cases same
        · intro after fault same
          cases same
          exact ⟨rfl, key, node, blocked, rfl⟩
        · intro _ other met same otherBlocked
          cases same
          obtain ⟨rfl, rfl⟩ := blocked_unique root keys key other node met blocked otherBlocked
          rfl

/-- An unset node is passed two members deep, and a list is met. -/
theorem passes_unset_meets_list :
    let root : Json := .object [("channels", .object [("mail", .array [.null]), ("text", .null)])]
    root.Sorted ∧ root.Writable ["channels", "text", "from"] ∧
      root.Blocked ["channels", "mail", "0", "to"] "0" (.array [.null]) ∧
      (∃ after, root.set "channels.text.from" .null = (after, none)) ∧
      root.set "channels.mail.0.to" .null =
        (root, some (.closed "channels.mail.0.to" "0" (.node .sequence))) := by
  intro root
  have sorted : root.Sorted :=
    ⟨by decide, ⟨by decide, ⟨trivial, trivial⟩, trivial, trivial⟩, trivial⟩
  have blocked : root.Blocked ["channels", "mail", "0", "to"] "0" (.array [.null]) :=
    ⟨["channels", "mail"], ["to"], rfl, rfl, by simp, by simp⟩
  have writable : root.Writable ["channels", "text", "from"] :=
    writable_opened _ _ _ _ rfl (writable_opened _ _ _ _ rfl (writable_null _))
  obtain ⟨written, -, -⟩ := set_writes_or_leaves root .null "channels.text.from" sorted
  obtain ⟨-, -, refused⟩ := set_writes_or_leaves root .null "channels.mail.0.to" sorted
  exact ⟨sorted, writable, blocked, written.2 ⟨_, rfl, writable⟩, refused _ _ _ rfl blocked⟩

end LayeredConfig.Json
