import LayeredConfig.Proofs.Leaves

/-!
# Leaves in document order

Every leaf that is reached through keys that can stand in a path is listed once, in the order of the
document: members by key, items by index, what lies below a node before what follows the node. The
listed key path reads as the place of the leaf and as no other place.
-/
set_option autoImplicit false

namespace LayeredConfig

def Hop.segment : Hop → String
  | .member key => key
  | .item index => Path.ofIndex index

def Hop.Addressable : Hop → Prop
  | .member key => Path.isSegment key
  | .item _ => True

instance (hop : Hop) : Decidable hop.Addressable :=
  match hop with
  | .member key => inferInstanceAs (Decidable (Path.isSegment key))
  | .item _ => isTrue trivial

/-- Keys and indices of one container in their order. -/
def Hop.Precedes : Hop → Hop → Prop
  | .member key, .member other => compare key other = .lt
  | .item index, .item other => index < other
  | _, _ => False

theorem segment_ne_of_precedes (first second : Hop) (precedes : first.Precedes second) :
    first.segment ≠ second.segment := by
  intro same
  cases first with
  | member key =>
      cases second with
      | item index => cases precedes
      | member other =>
          have keys : key = other := same
          have less : compare key other = .lt := precedes
          rw [keys] at less
          simp at less
  | item index =>
      cases second with
      | member key => cases precedes
      | item other =>
          have indices := Path.of_index_injective index other same
          have less : index < other := precedes
          omega

/-- Places of which one precedes the other are written as different key paths. -/
theorem segments_ne_of_lex (first second : List Hop) (precedes : List.Lex Hop.Precedes first second) :
    first.map Hop.segment ≠ second.map Hop.segment := by
  induction precedes with
  | nil => simp
  | cons _ ih => simpa using ih
  | rel here =>
      have different := segment_ne_of_precedes _ _ here
      simp [different]

namespace Json

mutual

/-- The places of the leaves of a node, in the order of their key paths. -/
def leafPlaces : Json → List (List Hop)
  | .object ((key, value) :: rest) => memberLeafPlaces ((key, value) :: rest)
  | .array (item :: rest) => itemLeafPlaces 0 (item :: rest)
  | _ => [[]]

def memberLeafPlaces : List (String × Json) → List (List Hop)
  | [] => []
  | (key, value) :: rest =>
      let below := if Path.isSegment key then (leafPlaces value).map (.member key :: ·) else []
      below ++ memberLeafPlaces rest

def itemLeafPlaces (index : Nat) : List Json → List (List Hop)
  | [] => []
  | item :: rest =>
      (leafPlaces item).map (.item index :: ·) ++ itemLeafPlaces (index + 1) rest

end

def belowMember (member : String × Json) : List (List Hop) :=
  if Path.isSegment member.1 then (leafPlaces member.2).map (.member member.1 :: ·) else []

theorem member_leaf_places_eq (members : List (String × Json)) :
    memberLeafPlaces members = members.flatMap belowMember := by
  induction members with
  | nil => rfl
  | cons member rest ih =>
      simp only [memberLeafPlaces, List.flatMap_cons, ih]
      rfl

theorem item_leaf_places_eq (start : Nat) (items : List Json) :
    itemLeafPlaces start items =
      (items.zipIdx start).flatMap fun item => (leafPlaces item.1).map (.item item.2 :: ·) := by
  induction items generalizing start with
  | nil => rfl
  | cons item rest ih => simp only [itemLeafPlaces, List.zipIdx_cons, List.flatMap_cons, ih]

theorem object_leaf_places (members : List (String × Json)) :
    leafPlaces (.object members) =
      if members = [] then [[]] else members.flatMap belowMember := by
  cases members with
  | nil => simp [leafPlaces]
  | cons member rest => simp only [leafPlaces, member_leaf_places_eq, reduceCtorEq, if_false]

theorem array_leaf_places (items : List Json) :
    leafPlaces (.array items) =
      if items = [] then [[]]
      else items.zipIdx.flatMap fun item => (leafPlaces item.1).map (.item item.2 :: ·) := by
  cases items with
  | nil => simp [leafPlaces]
  | cons item rest => simp only [leafPlaces, item_leaf_places_eq, reduceCtorEq, if_false]

theorem member_leaf_paths_eq (members : List (String × Json))
    (inside : ∀ member ∈ members,
      leafPaths member.2 = (leafPlaces member.2).map (List.map Hop.segment)) :
    memberLeafPaths members = (memberLeafPlaces members).map (List.map Hop.segment) := by
  induction members with
  | nil => rfl
  | cons member rest ih =>
      obtain ⟨here, later⟩ := List.forall_mem_cons.1 inside
      simp only [memberLeafPaths, memberLeafPlaces, List.map_append, ih later, here]
      congr 1
      split <;> simp [Hop.segment]

theorem item_leaf_paths_eq (start : Nat) (items : List Json)
    (inside : ∀ item ∈ items, leafPaths item = (leafPlaces item).map (List.map Hop.segment)) :
    itemLeafPaths start items = (itemLeafPlaces start items).map (List.map Hop.segment) := by
  induction items generalizing start with
  | nil => rfl
  | cons item rest ih =>
      obtain ⟨here, later⟩ := List.forall_mem_cons.1 inside
      simp [itemLeafPaths, itemLeafPlaces, ih (start + 1) later, here, Hop.segment]

theorem leaf_paths_eq (document : Json) :
    leafPaths document = (leafPlaces document).map (List.map Hop.segment) := by
  induction document using induct with
  | object members ih =>
      cases members with
      | nil => rfl
      | cons member rest =>
          simp only [leafPaths, leafPlaces]
          exact member_leaf_paths_eq _ ih
  | array items ih =>
      cases items with
      | nil => rfl
      | cons item rest =>
          simp only [leafPaths, leafPlaces]
          exact item_leaf_paths_eq 0 _ ih
  | _ => simp [leafPaths, leafPlaces]

theorem mem_below_member (member : String × Json) (place : List Hop) :
    place ∈ belowMember member ↔
      ∃ rest ∈ leafPlaces member.2, Path.isSegment member.1 ∧ place = .member member.1 :: rest := by
  unfold belowMember
  split
  · rename_i proper
    simp [proper, eq_comm]
  · rename_i odd
    simp [odd]

theorem sorted_of_below (document below : Json) (hop : Hop) (sorted : document.Sorted)
    (down : below? hop document = some below) : below.Sorted := by
  cases hop with
  | member key =>
      cases document with
      | object members =>
          exact (sorted_members_iff members).1 sorted.2 _ (Members.mem_of_find key below members down)
      | _ => cases down
  | item index =>
      cases document with
      | array items => exact (sorted_items_iff items).1 sorted below (List.mem_of_getElem? down)
      | _ => cases down

theorem nil_mem_leaf_places (document : Json) : [] ∈ leafPlaces document ↔ document.isLeaf := by
  cases document with
  | object members => cases members <;> simp [object_leaf_places, mem_below_member, isLeaf]
  | array items => cases items <;> simp [array_leaf_places, isLeaf]
  | _ => simp [leafPlaces, isLeaf]

/-- The leaves that are listed on the way through a hop are those of what the hop leads to. -/
theorem cons_mem_leaf_places (document : Json) (sorted : document.Sorted) (hop : Hop)
    (rest : List Hop) :
    hop :: rest ∈ leafPlaces document ↔
      hop.Addressable ∧ ∃ below, below? hop document = some below ∧ rest ∈ leafPlaces below := by
  cases document with
  | object members =>
      rw [object_leaf_places]
      cases hop with
      | item index => cases members <;> simp [mem_below_member, below?]
      | member key =>
          constructor
          · intro listed
            split at listed
            · simp at listed
            · obtain ⟨member, inMembers, below⟩ := List.mem_flatMap.1 listed
              obtain ⟨tail, inTail, proper, same⟩ := (mem_below_member _ _).1 below
              obtain ⟨⟨rfl⟩, rfl⟩ := List.cons_eq_cons.1 same
              have found := Members.find_of_mem _ _ members sorted.1.nodup inMembers
              exact ⟨proper, member.2, found, inTail⟩
          · intro reached
            obtain ⟨proper, value, found, inTail⟩ := reached
            have member := Members.mem_of_find key value members found
            rw [if_neg (List.ne_nil_of_mem member)]
            exact List.mem_flatMap.2
              ⟨(key, value), member, (mem_below_member _ _).2 ⟨rest, inTail, proper, rfl⟩⟩
  | array items =>
      rw [array_leaf_places]
      cases hop with
      | member key => cases items <;> simp [below?]
      | item index =>
          constructor
          · intro listed
            split at listed
            · simp at listed
            · obtain ⟨numbered, inItems, below⟩ := List.mem_flatMap.1 listed
              obtain ⟨tail, inTail, same⟩ := List.mem_map.1 below
              obtain ⟨⟨rfl⟩, rfl⟩ := List.cons_eq_cons.1 same
              exact ⟨trivial, numbered.1, List.mem_zipIdx_iff_getElem?.1 inItems, inTail⟩
          · intro reached
            obtain ⟨-, item, found, inTail⟩ := reached
            rw [if_neg (List.ne_nil_of_mem (List.mem_of_getElem? found))]
            exact List.mem_flatMap.2 ⟨(item, index), List.mem_zipIdx_iff_getElem?.2 found,
              List.mem_map.2 ⟨rest, inTail, rfl⟩⟩
  | _ => simp [leafPlaces, below?]

theorem mem_leaf_places (document : Json) (sorted : document.Sorted) (place : List Hop) :
    place ∈ leafPlaces document ↔
      (∀ hop ∈ place, hop.Addressable) ∧ ∃ leaf, at? place document = some leaf ∧ leaf.isLeaf := by
  induction place generalizing document with
  | nil => simp [nil_mem_leaf_places]
  | cons hop rest ih =>
      rw [cons_mem_leaf_places document sorted, List.forall_mem_cons]
      constructor
      · intro listed
        obtain ⟨proper, below, down, inBelow⟩ := listed
        have inside := sorted_of_below document below hop sorted down
        obtain ⟨addressable, leaf, held, isLeaf⟩ := (ih below inside).1 inBelow
        exact ⟨⟨proper, addressable⟩, leaf, by simpa [down] using held, isLeaf⟩
      · intro reached
        obtain ⟨⟨proper, addressable⟩, leaf, held, isLeaf⟩ := reached
        obtain ⟨below, down, restHeld⟩ := Option.bind_eq_some_iff.1 held
        have inside := sorted_of_below document below hop sorted down
        exact ⟨proper, below, down, (ih below inside).2 ⟨addressable, leaf, restHeld, isLeaf⟩⟩

theorem pairwise_below (hop : Hop) (places : List (List Hop))
    (ordered : places.Pairwise (List.Lex Hop.Precedes)) :
    (places.map (hop :: ·)).Pairwise (List.Lex Hop.Precedes) :=
  List.pairwise_map.2 (ordered.imp fun before => List.Lex.cons before)

/-- Leaves are listed depth first, members by key and items by index. -/
theorem leaf_places_ordered (document : Json) (sorted : document.Sorted) :
    (leafPlaces document).Pairwise (List.Lex Hop.Precedes) := by
  induction document using induct with
  | object members ih =>
      rw [object_leaf_places]
      split
      · exact List.pairwise_singleton _ _
      · refine List.pairwise_flatMap.2 ⟨?_, ?_⟩
        · intro member inMembers
          have inside := ih member inMembers ((sorted_members_iff members).1 sorted.2 _ inMembers)
          unfold belowMember
          split
          · exact pairwise_below _ _ inside
          · exact List.Pairwise.nil
        · have keys := List.pairwise_map.1 sorted.1
          refine keys.imp ?_
          intro first second before place inFirst other inSecond
          obtain ⟨rest, -, -, rfl⟩ := (mem_below_member first place).1 inFirst
          obtain ⟨others, -, -, rfl⟩ := (mem_below_member second other).1 inSecond
          exact List.Lex.rel before
  | array items ih =>
      rw [array_leaf_places]
      split
      · exact List.pairwise_singleton _ _
      · refine List.pairwise_flatMap.2 ⟨?_, ?_⟩
        · intro numbered inItems
          have member := List.mem_of_getElem? (List.mem_zipIdx_iff_getElem?.1 inItems)
          exact pairwise_below _ _ (ih _ member ((sorted_items_iff items).1 sorted _ member))
        · have indices : items.zipIdx.Pairwise fun first second => first.2 < second.2 := by
            rw [← List.pairwise_map (f := Prod.snd), List.zipIdx_map_snd]
            exact List.pairwise_lt_range'
          refine indices.imp ?_
          intro first second before place inFirst other inSecond
          obtain ⟨rest, -, rfl⟩ := List.mem_map.1 inFirst
          obtain ⟨others, -, rfl⟩ := List.mem_map.1 inSecond
          exact List.Lex.rel before
  | _ => exact List.pairwise_singleton _ _

/-- No array of a document is longer than the range of indices that a path can name. -/
def Indexed (document : Json) : Prop :=
  ∀ place items, at? place document = some (.array items) → items.length ≤ Path.maxIndex + 1

theorem indexed_below (document below : Json) (hop : Hop) (indexed : document.Indexed)
    (down : below? hop document = some below) : below.Indexed := by
  intro place items held
  exact indexed (hop :: place) items (by simpa [down] using held)

theorem segments_read (document : Json) (indexed : document.Indexed) (place : List Hop)
    (found : (at? place document).isSome) :
    List.Forall₂ Hop.Reads place (place.map Hop.segment) := by
  induction place generalizing document with
  | nil => exact List.Forall₂.nil
  | cons hop rest ih =>
      cases down : below? hop document with
      | none => simp [down] at found
      | some below =>
          have restRead := ih below (indexed_below document below hop indexed down)
            (by simpa [down] using found)
          refine List.Forall₂.cons ?_ restRead
          cases hop with
          | member key => rfl
          | item index =>
              cases document with
              | array items =>
                  have bound := indexed [] items rfl
                  have inside : index < items.length := (List.getElem?_eq_some_iff.1 down).1
                  exact Path.index_of_segment index (by omega)
              | _ => cases down

theorem indexed_scalar (document : Json) (notArray : ∀ items, document ≠ .array items)
    (notObject : ∀ members, document ≠ .object members) : document.Indexed := by
  intro place items held
  cases place with
  | nil => exact absurd (Option.some.inj held) (notArray items)
  | cons hop rest =>
      have nothing : below? hop document = none := by
        cases hop <;> cases document <;> simp_all [below?]
      simp [nothing] at held

theorem indexed_object (members : List (String × Json))
    (inside : ∀ member ∈ members, member.2.Indexed) : (object members).Indexed := by
  intro place items held
  cases place with
  | nil => cases held
  | cons hop rest =>
      obtain ⟨below, down, restHeld⟩ := Option.bind_eq_some_iff.1 held
      cases hop with
      | item index => cases down
      | member key => exact inside _ (Members.mem_of_find key below members down) rest items restHeld

theorem indexed_array (items : List Json) (short : items.length ≤ Path.maxIndex + 1)
    (inside : ∀ item ∈ items, item.Indexed) : (array items).Indexed := by
  intro place others held
  cases place with
  | nil =>
      cases held
      exact short
  | cons hop rest =>
      obtain ⟨below, down, restHeld⟩ := Option.bind_eq_some_iff.1 held
      cases hop with
      | member key => cases down
      | item index => exact inside below (List.mem_of_getElem? down) rest others restHeld

end Json

end LayeredConfig
