import LayeredConfig.Proofs.Assignment
import LayeredConfig.Proofs.PathText

/-!
# Paths as lenses on documents

Setting a path that is decided by the document alone puts a value at the end of keys, through objects and
unset nodes. What was put is found, puts at one place replace each other, and puts at places that part
neither see nor disturb each other.
-/
set_option autoImplicit false

namespace LayeredConfig

/-- Well-formed paths of which neither goes on where the other ends. -/
def Path.Beside (path other : String) : Prop :=
  ∃ keys others, parse path = .ok keys ∧ parse other = .ok others ∧ Parted keys others

namespace Json

/-- A document with a value at the end of keys, where every node on the way can be written into. -/
def put? (value : Json) : List String → Json → Option Json
  | [], _ => some value
  | key :: rest, node =>
      node.opened?.bind fun members =>
        (put? value rest ((Members.find? key members).getD .null)).map fun child =>
          .object (Members.insert key child members)

theorem put_opened (value : Json) (key : String) (rest : List String) (node : Json)
    (members : List (String × Json)) (opened : node.opened? = some members) :
    put? value (key :: rest) node =
      (put? value rest ((Members.find? key members).getD .null)).map fun child =>
        .object (Members.insert key child members) := by
  rw [put?, opened, Option.bind_some]

theorem put_cons (value node after : Json) (key : String) (rest : List String) :
    put? value (key :: rest) node = some after ↔ ∃ members child, node.opened? = some members ∧
      put? value rest ((Members.find? key members).getD .null) = some child ∧
      after = .object (Members.insert key child members) := by
  cases opened : node.opened? with
  | none => simp [put?, opened]
  | some members => simp [put_opened value key rest node members opened, eq_comm (a := after)]

theorem assign_eq_ok_iff (path : String) (value : Json) (keys : List String) (nonempty : keys ≠ [])
    (node after : Json) :
    assign path value (verbatimSteps keys) node = (after, none) ↔ put? value keys node = some after := by
  induction keys generalizing node after with
  | nil => exact absurd rfl nonempty
  | cons key rest ih =>
      cases opened : node.opened? with
      | none => simp [assign_solid path key rest value node opened, put?, opened]
      | some members =>
          cases rest with
          | nil => simp [assign_last path key value node members opened, put?, opened]
          | cons next more =>
              have below := ih (by simp) ((Members.find? key members).getD .null)
              obtain ⟨child, fault, assigned⟩ : ∃ child fault, assign path value
                  (verbatimSteps (next :: more)) ((Members.find? key members).getD .null) =
                    (child, fault) := ⟨_, _, rfl⟩
              rw [assign_further path key next more value node child fault members opened assigned]
              simp only [assigned, Prod.mk.injEq] at below
              simp only [put_opened value key (next :: more) node members opened,
                Option.map_eq_some_iff, Prod.mk.injEq, ← below]
              constructor
              · rintro ⟨rfl, rfl⟩
                exact ⟨child, ⟨rfl, rfl⟩, rfl⟩
              · rintro ⟨_, ⟨rfl, rfl⟩, rfl⟩
                exact ⟨rfl, rfl⟩

theorem set_eq_ok_iff (root after value : Json) (path : String) :
    root.set path value = (after, none) ↔
      ∃ keys, Path.parse path = .ok keys ∧ put? value keys root = some after := by
  unfold set
  cases parsed : Path.parse path with
  | error fault => simp
  | ok keys =>
      have nonempty := Path.parsed_ne_nil path keys parsed
      simp [assign_eq_ok_iff path value keys nonempty]

theorem get_eq_ok_iff (root found : Json) (path : String) :
    root.get path = .ok found ↔
      ∃ keys, Path.parse path = .ok keys ∧ root.follow path keys = .ok found := by
  unfold get
  cases parsed : Path.parse path with
  | error fault => simp
  | ok keys => simp

theorem followed_below (path : String) (members : List (String × Json)) (key : String)
    (keys : List String) (nonempty : keys ≠ []) (found : Json) :
    ((Members.find? key members).getD .null).follow path keys = .ok found ↔
      ∃ child, Members.find? key members = some child ∧ child.follow path keys = .ok found := by
  cases Members.find? key members with
  | some child => simp
  | none =>
      cases keys with
      | nil => exact absurd rfl nonempty
      | cons next more => simp [follow, child]

theorem follow_opened (path : String) (node : Json) (members : List (String × Json))
    (opened : node.opened? = some members) (key : String) (rest : List String) (found : Json) :
    node.follow path (key :: rest) = .ok found ↔
      ∃ child, Members.find? key members = some child ∧ child.follow path rest = .ok found := by
  constructor
  · intro followed
    exact (followed_member path node found members key rest opened followed).2
  · intro held
    cases node with
    | object inside =>
        cases opened
        exact (follow_member path key rest members found).2 held
    | null =>
        cases opened
        obtain ⟨child, missing, -⟩ := held
        cases missing
    | _ => cases opened

theorem follow_beside_put (path : String) (value node after found : Json)
    (keys others : List String) (parted : Parted keys others)
    (done : put? value keys node = some after) :
    node.follow path others = .ok found ↔ after.follow path others = .ok found := by
  induction keys generalizing node after others with
  | nil => exact absurd List.nil_prefix parted.1
  | cons key rest ih =>
      obtain ⟨other, below, rfl⟩ := cons_of_parted others _ (parted_symm _ _ parted)
      obtain ⟨members, child, opened, inside, rfl⟩ := (put_cons value node after key rest).1 done
      rw [follow_opened path node members opened, follow_member, Members.find?_insert]
      by_cases same : other = key
      · subst same
        have restParted : Parted rest below := (parted_cons_iff _ _ _ _).1 parted rfl
        have nonempty : below ≠ [] := by
          rintro rfl
          exact restParted.2 List.nil_prefix
        rw [← followed_below path members other below nonempty, ih _ child below restParted inside]
        simp
      · simp [same]

theorem put_found (path : String) (value node after : Json) (keys : List String)
    (sorted : node.Sorted) (done : put? value keys node = some after)
    (found : node.follow path keys = .ok value) : after = node := by
  induction keys generalizing node after with
  | nil =>
      cases done
      cases found
      rfl
  | cons key rest ih =>
      obtain ⟨members, child, opened, below, rfl⟩ := (put_cons value node after key rest).1 done
      obtain ⟨rfl, old, held, followed⟩ :=
        followed_member path node value members key rest opened found
      obtain ⟨inOrder, inside⟩ := sorted_opened _ sorted members opened
      have oldSorted := inside key
      rw [held] at below oldSorted
      have same : child = old := ih old child oldSorted below followed
      rw [same, Members.insert_found key old members inOrder held]

theorem put_put (first second node after : Json) (keys : List String)
    (done : put? first keys node = some after) :
    ∃ result, put? second keys after = some result ∧ put? second keys node = some result := by
  induction keys generalizing node after with
  | nil => exact ⟨second, rfl, rfl⟩
  | cons key rest ih =>
      obtain ⟨members, child, opened, below, rfl⟩ := (put_cons first node after key rest).1 done
      obtain ⟨result, again, direct⟩ := ih _ child below
      refine ⟨.object (Members.insert key result members), ?_, ?_⟩
      · rw [put_opened _ _ _ _ _ rfl, Members.find?_insert, if_pos rfl]
        simp [again]
      · exact (put_cons second node _ key rest).2 ⟨members, result, opened, direct, rfl⟩

theorem put_comm (value other node after beside : Json) (keys others : List String)
    (sorted : node.Sorted) (parted : Parted keys others)
    (done : put? value keys node = some after) (otherDone : put? other others node = some beside) :
    ∃ both, put? other others after = some both ∧ put? value keys beside = some both := by
  induction keys generalizing node after beside others with
  | nil => exact absurd List.nil_prefix parted.1
  | cons key rest ih =>
      obtain ⟨next, more, rfl⟩ := cons_of_parted others _ (parted_symm _ _ parted)
      obtain ⟨members, child, opened, below, rfl⟩ := (put_cons value node after key rest).1 done
      obtain ⟨_, otherChild, openedAgain, otherBelow, rfl⟩ :=
        (put_cons other node beside next more).1 otherDone
      rw [opened] at openedAgain
      cases openedAgain
      obtain ⟨inOrder, inside⟩ := sorted_opened node sorted members opened
      simp only [put_opened _ _ _ (.object _) _ rfl, Members.find?_insert]
      by_cases same : next = key
      · subst same
        have restParted : Parted rest more := (parted_cons_iff _ _ _ _).1 parted rfl
        obtain ⟨both, first, second⟩ :=
          ih _ child otherChild more (inside next) restParted below otherBelow
        refine ⟨.object (Members.insert next both members), ?_, ?_⟩
        · simp [first]
        · simp [second]
      · refine ⟨.object (Members.insert next otherChild (Members.insert key child members)), ?_, ?_⟩
        · simp [same, otherBelow]
        · simp [Ne.symm same, below, Members.insert_comm key next _ _ members inOrder (Ne.symm same)]

/-- What was set at a path is got there, and all that parts from the path is got as before. Setting what
was there changes nothing, setting again forgets what was set, and paths that part can be set in either
order. -/
theorem paths_are_lenses (root after value : Json) (path : String) (sorted : root.Sorted)
    (written : root.set path value = (after, none)) :
    after.get path = .ok value ∧
    (∀ other found, Path.Beside path other →
      (root.get other = .ok found ↔ after.get other = .ok found)) ∧
    (root.get path = .ok value → after = root) ∧
    (∀ next, ∃ result, after.set path next = (result, none) ∧
      root.set path next = (result, none)) ∧
    ∀ other next beside, Path.Beside path other → root.set other next = (beside, none) →
      ∃ both, after.set other next = (both, none) ∧ beside.set path value = (both, none) := by
  obtain ⟨keys, parsed, done⟩ := (set_eq_ok_iff root after value path).1 written
  have sameKeys (other : String) (beside : Path.Beside path other) :
      ∃ others, Path.parse other = .ok others ∧ Parted keys others := by
    obtain ⟨again, others, parsedAgain, otherParsed, parted⟩ := beside
    rw [parsed] at parsedAgain
    cases parsedAgain
    exact ⟨others, otherParsed, parted⟩
  refine ⟨?got, ?frame, ?found, ?again, ?commutes⟩
  case got =>
    have nonempty := Path.parsed_ne_nil path keys parsed
    have assigned := (assign_eq_ok_iff path value keys nonempty root after).2 done
    have followed := follow_assigned path path value root after (verbatimSteps keys) assigned
    rw [keys_of_verbatim] at followed
    exact (get_eq_ok_iff after value path).2 ⟨keys, parsed, followed⟩
  case frame =>
    intro other found beside
    obtain ⟨others, otherParsed, parted⟩ := sameKeys other beside
    have followed := follow_beside_put other value root after found keys others parted done
    simp only [get, otherParsed, followed]
  case found =>
    intro already
    have followed : root.follow path keys = .ok value := by simpa only [get, parsed] using already
    exact put_found path value root after keys sorted done followed
  case again =>
    intro next
    obtain ⟨result, replaced, direct⟩ := put_put value next root after keys done
    refine ⟨result, ?_, ?_⟩
    · exact (set_eq_ok_iff after result next path).2 ⟨keys, parsed, replaced⟩
    · exact (set_eq_ok_iff root result next path).2 ⟨keys, parsed, direct⟩
  case commutes =>
    intro other next beside part otherWritten
    obtain ⟨others, otherParsed, parted⟩ := sameKeys other part
    obtain ⟨_, parsedAgain, otherDone⟩ := (set_eq_ok_iff root beside next other).1 otherWritten
    rw [otherParsed] at parsedAgain
    cases parsedAgain
    obtain ⟨both, first, second⟩ :=
      put_comm value next root after beside keys others sorted parted done otherDone
    refine ⟨both, ?_, ?_⟩
    · exact (set_eq_ok_iff after both next other).2 ⟨others, otherParsed, first⟩
    · exact (set_eq_ok_iff beside both value path).2 ⟨keys, parsed, second⟩

/-- Below an unset node and beside a member that is there. -/
theorem daily_limit_beside_owner :
    let root : Json := .object [("limits", .null), ("owner", .object [("name", .string "a")])]
    let after : Json := .object
      [("limits", .object [("daily", .ofInt 10)]), ("owner", .object [("name", .string "a")])]
    root.Sorted ∧ root.set "limits.daily" (.ofInt 10) = (after, none) ∧
      Path.Beside "limits.daily" "owner.name" ∧
      after.get "limits.daily" = .ok (.ofInt 10) ∧ after.get "owner.name" = .ok (.string "a") ∧
      after.set "limits.daily" .null = root.set "limits.daily" .null := by
  intro root after
  have sorted : root.Sorted := ⟨by decide, trivial, ⟨by decide, trivial, trivial⟩, trivial⟩
  have written : root.set "limits.daily" (.ofInt 10) = (after, none) := rfl
  have beside : Path.Beside "limits.daily" "owner.name" :=
    ⟨["limits", "daily"], ["owner", "name"], rfl, rfl, by decide⟩
  obtain ⟨got, frame, -, again, -⟩ := paths_are_lenses root after _ _ sorted written
  obtain ⟨result, replaced, direct⟩ := again .null
  exact ⟨sorted, written, beside, got, (frame _ _ beside).1 rfl, replaced.trans direct.symm⟩

end Json

end LayeredConfig
