import LayeredConfig.Catalogue.Basic
import LayeredConfig.Proofs.DocumentLayers
import LayeredConfig.Proofs.Typing

/-!
# Regrouping merges

Three values of one type merge to the same value however they are grouped: a layer may be merged into its
neighbour beforehand. Dynamic documents regroup only where no scalar or list of the middle one stands
between two objects: merged to the right it hides the weaker object, merged to the left it is hidden
itself.
-/
set_option autoImplicit false

namespace LayeredConfig

namespace Json

/-- At some key path, reached through objects on all sides, a scalar or a list of the middle document
stands between two objects. -/
def Severed (strong middle weak : Json) : Prop :=
  ∃ (keys : List String) (members others : List (String × Json)) (value : Json),
    at? (keys.map Hop.member) strong = some (.object members) ∧
    at? (keys.map Hop.member) middle = some value ∧ value.isWhole ∧
    at? (keys.map Hop.member) weak = some (.object others)

theorem severed_below (key : String) (members others lasts : List (String × Json))
    (strong middle weak : Json) (inStrong : Members.find? key members = some strong)
    (inMiddle : Members.find? key others = some middle)
    (inWeak : Members.find? key lasts = some weak) (severed : Severed strong middle weak) :
    Severed (.object members) (.object others) (.object lasts) := by
  obtain ⟨keys, strongMembers, weakMembers, value, atStrong, atMiddle, whole, atWeak⟩ := severed
  refine ⟨key :: keys, strongMembers, weakMembers, value, ?_, ?_, whole, ?_⟩
  · simpa [below?, inStrong] using atStrong
  · simpa [below?, inMiddle] using atMiddle
  · simpa [below?, inWeak] using atWeak

/-- Documents regroup where the middle one does not stand between two objects. -/
theorem merge_assoc (strong middle weak : Json) (sorted : weak.Sorted)
    (joined : ¬ Severed strong middle weak) :
    strong.merge (middle.merge weak) = (strong.merge middle).merge weak := by
  induction strong using induct generalizing middle weak with
  | null => rw [merge_null_left, merge_null_left]
  | object members ih =>
      cases middle with
      | null => rw [merge_null_left, merge_null_right]
      | object others =>
          cases weak with
          | object lasts =>
              simp only [merge_objects]
              congr 1
              apply Members.union_assoc _ _ _ _ sorted.1
              intro key value other last inStrong inMiddle inWeak
              have member := Members.mem_of_find _ _ _ inStrong
              have lastMember := Members.mem_of_find _ _ _ inWeak
              have lastSorted := (sorted_members_iff lasts).1 sorted.2 _ lastMember
              apply ih _ member other last lastSorted
              intro severed
              exact joined (severed_below key _ _ _ _ _ _ inStrong inMiddle inWeak severed)
          | _ => simp [merge]
      | _ =>
          -- A weaker object would be hidden by the middle side only.
          cases weak with
          | object lasts => exact absurd ⟨[], members, lasts, _, rfl, rfl, rfl, rfl⟩ joined
          | _ => simp [merge]
  | _ => simp only [merge]

/-- Merged to the right the scalar hides the weaker object, merged to the left it is hidden. -/
example : merge (.object []) (merge (.bool true) (.object [("a", .null)])) = .object [] ∧
    merge (merge (.object []) (.bool true)) (.object [("a", .null)]) =
      .object [("a", .null)] := by
  decide

end Json

namespace Snapshot

variable {declarations : Declarations}

theorem merge_parts_assoc (parts others lasts : List Value) (sized : others.length = parts.length)
    (assoc : ∀ (index : Nat) part other last, parts[index]? = some part →
      others[index]? = some other → lasts[index]? = some last →
        part.merge (other.merge last) = (part.merge other).merge last) :
    Value.mergeParts parts (Value.mergeParts others lasts) =
      Value.mergeParts (Value.mergeParts parts others) lasts := by
  apply List.ext_getElem?
  intro index
  simp only [Value.merge_parts_at]
  cases inParts : parts[index]? with
  | none => rfl
  | some part =>
      have bound : index < others.length := by
        have inside := (List.getElem?_eq_some_iff.1 inParts).1
        omega
      have inOthers := List.getElem?_eq_getElem bound
      cases inLasts : lasts[index]? with
      | none => simp [inOthers]
      | some last =>
          have same := assoc index part _ last inParts inOthers inLasts
          simp [inOthers, same]

/-- Values of a type in which nothing dynamic merges can be regrouped. -/
theorem merge_assoc (strong middle weak : Value) (type : Ty)
    (static : type.Throughout declarations (· ≠ .json))
    (strongTyped : strong.HasType declarations type)
    (middleTyped : middle.HasType declarations type)
    (weakTyped : weak.HasType declarations type) :
    strong.merge (middle.merge weak) = (strong.merge middle).merge weak := by
  induction strong using Value.induct generalizing middle weak type with
  | absent => simp only [Value.merge]
  | present value ih =>
      cases strongTyped with
      | present _ content valueTyped =>
          have staticInside := throughout_inside _ _ _ static (.option content)
          rcases typed_option middle content middleTyped with rfl | ⟨other, rfl, otherTyped⟩
          · simp only [Value.merge]
          · rcases typed_option weak content weakTyped with rfl | ⟨last, rfl, lastTyped⟩
            · simp only [Value.merge]
            · have same := ih other last content staticInside valueTyped otherTyped lastTyped
              simp only [Value.merge, same]
  | held value ih =>
      cases strongTyped with
      | held _ _ content holds valueTyped =>
          have staticInside := throughout_inside _ _ _ static (.held type content holds)
          obtain ⟨other, rfl, otherTyped⟩ := typed_held middle type content holds middleTyped
          obtain ⟨last, rfl, lastTyped⟩ := typed_held weak type content holds weakTyped
          have same := ih other last content staticInside valueTyped otherTyped lastTyped
          simp only [Value.merge, same]
  | product parts ih =>
      obtain ⟨types, laid⟩ := parts_of_typed_product parts type strongTyped
      obtain ⟨_, same, partsSized, partsTyped⟩ := typed_product _ type types laid strongTyped
      cases same
      obtain ⟨others, rfl, othersSized, othersTyped⟩ := typed_product _ type types laid middleTyped
      obtain ⟨lasts, rfl, lastsSized, lastsTyped⟩ := typed_product _ type types laid weakTyped
      simp only [Value.merge]
      congr 1
      apply merge_parts_assoc _ _ _ (by rw [othersSized, partsSized])
      intro index part other last partAt otherAt lastAt
      have bound : index < types.length := by
        have inside := (List.getElem?_eq_some_iff.1 partAt).1
        omega
      have innerAt := List.getElem?_eq_getElem bound
      have staticInside := throughout_inside _ _ _ static
        (merges_part type _ types laid (List.getElem_mem bound))
      apply ih part (List.mem_of_getElem? partAt) other last types[index] staticInside
      · exact partsTyped index part _ partAt innerAt
      · exact othersTyped index other _ otherAt innerAt
      · exact lastsTyped index last _ lastAt innerAt
  | map entries ih =>
      cases strongTyped with
      | map _ keys content _ _ entriesTyped =>
          have staticInside := throughout_inside _ _ _ static (.map keys content)
          obtain ⟨others, rfl, -, othersTyped⟩ := typed_map middle keys content middleTyped
          obtain ⟨lasts, rfl, sorted, lastsTyped⟩ := typed_map weak keys content weakTyped
          simp only [Value.merge, Value.merge_entries_union]
          congr 1
          apply Members.union_assoc _ _ _ _ sorted
          intro key value other last inStrong inMiddle inWeak
          have member := Members.mem_of_find _ _ _ inStrong
          have otherMember := Members.mem_of_find _ _ _ inMiddle
          have lastMember := Members.mem_of_find _ _ _ inWeak
          exact ih _ member other last content staticInside (entriesTyped _ member)
            (othersTyped _ otherMember) (lastsTyped _ lastMember)
  | dynamic document =>
      cases strongTyped
      exact absurd rfl (throughout_here _ _ static)
  | _ => simp only [Value.merge]

/-- Layers may be merged beforehand: snapshots of a type in which nothing dynamic merges regroup freely,
and documents do where no scalar or list of the middle one stands between two objects. -/
theorem layers_regroup :
    (∀ model : Model, model.type.Throughout model.declarations (· ≠ .json) →
      ∀ strong middle weak : Snapshot model,
        strong.value.HasType model.declarations model.type →
        middle.value.HasType model.declarations model.type →
        weak.value.HasType model.declarations model.type →
          merge strong (merge middle weak) = merge (merge strong middle) weak) ∧
    ∀ strong middle weak : Json, weak.Sorted → ¬ Json.Severed strong middle weak →
      merge strong (merge middle weak) = merge (merge strong middle) weak := by
  constructor
  · intro model static strong middle weak strongTyped middleTyped weakTyped
    have same := merge_assoc strong.value middle.value weak.value model.type static strongTyped
      middleTyped weakTyped
    exact congrArg Snapshot.mk same
  · intro strong middle weak sorted joined
    exact Json.merge_assoc strong middle weak sorted joined

def numberedRetries : Model :=
  Catalogue.model (.map (.int (.unsigned 32)) (.named "retry"))

theorem numbered_retries_static :
    numberedRetries.type.Throughout numberedRetries.declarations (· ≠ .json) := by
  refine throughout_of_inside _ numberedRetries.type nofun ?_
  intro inner merges
  cases merges with
  | map => exact throughout_retry _ (by simp) (by simp) (by simp)
  | held _ _ content => cases content

/-- Retries of which each side sets another number, and documents of which the middle one holds a scalar
under an object that the strong one leaves empty. -/
theorem numbered_retries_regroup :
    let attempts : Snapshot numberedRetries :=
      ⟨.map [("7", .product [.present (.atom (.int 3)), .absent])]⟩
    let backoff : Snapshot numberedRetries :=
      ⟨.map [("7", .product [.absent, .present (.atom (.int 250))])]⟩
    let both : Snapshot numberedRetries :=
      ⟨.map [("7", .product [.present (.atom (.int 1)), .present (.atom (.int 9))])]⟩
    let strong := Json.object [("a", .object [])]
    let middle := Json.object [("a", .object [("b", .ofInt 1)])]
    let weak := Json.object [("a", .object [("b", .object [])])]
    merge attempts (merge backoff both) = merge (merge attempts backoff) both ∧
      merge strong (merge middle weak) = merge (merge strong middle) weak := by
  have retries (first second : Value)
      (firstTyped : first.HasType Catalogue.declarations (.option (Catalogue.unsigned 32)))
      (secondTyped : second.HasType Catalogue.declarations (.option (Catalogue.unsigned 64))) :
      (Value.map [("7", .product [first, second])]).HasType Catalogue.declarations
        numberedRetries.type := by
    have accepted : (KeyKind.int (.unsigned 32)).accepts "7" := by decide
    apply Value.HasType.map
    · exact List.pairwise_singleton _ _
    · exact List.forall_mem_singleton.2 accepted
    · exact List.forall_mem_singleton.2 (retry_typed first second firstTyped secondTyped)
  obtain ⟨snapshots, documents⟩ := layers_regroup
  constructor
  · apply snapshots numberedRetries numbered_retries_static
    · exact retries _ _ (number_typed 32 3 (by decide)) (.absent _)
    · exact retries _ _ (.absent _) (number_typed 64 250 (by decide))
    · exact retries _ _ (number_typed 32 1 (by decide)) (number_typed 64 9 (by decide))
  · apply documents
    · simp [Json.Sorted, Json.SortedMembers, Members.Sorted, Members.keys]
    · intro severed
      obtain ⟨keys, members, others, value, atStrong, atMiddle, whole, atWeak⟩ := severed
      cases keys with
      | nil =>
          cases atMiddle
          cases whole
      | cons key rest =>
          by_cases same : key = "a"
          · subst same
            cases rest with
            | nil =>
                cases atMiddle
                cases whole
            | cons next others => simp [Json.below?, Members.find?] at atStrong
          · simp [Json.below?, Members.find?, Ne.symm same] at atStrong

end Snapshot

end LayeredConfig
