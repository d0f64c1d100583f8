import LayeredConfig.Proofs.DocumentLens
import LayeredConfig.Proofs.WritablePaths
import LayeredConfig.Schema.Leaves

/-!
# Descriptors and the leaves they stand for

The keys that lead to a leaf are joined to the path of its descriptor. A path has no escape, and the
walk takes an empty path for the root, so that a descriptor leads back to its leaf only where every key
can stand in a path: a dotted key reads as several, and an empty one at the root is lost.
-/
set_option autoImplicit false

namespace LayeredConfig

namespace Json

/-- Everything but an object that has members is described as one. -/
def Undivided (node : Json) : Prop :=
  ∀ member rest, node ≠ .object (member :: rest)

/-- Keys lead from the root, through objects only, down to a leaf. -/
def HasLeaf (document : Json) (keys : List String) (leaf : Json) : Prop :=
  keys ≠ [] ∧ document.reached? keys = some leaf ∧ leaf.Undivided

mutual

/-- The leaves of a node with the keys that lead to them, in key order. -/
def keyedLeaves : Json → List (List String × Json)
  | .object ((key, value) :: rest) => memberKeyedLeaves ((key, value) :: rest)
  | leaf => [([], leaf)]

def memberKeyedLeaves : List (String × Json) → List (List String × Json)
  | [] => []
  | (key, value) :: rest =>
      (keyedLeaves value).map (fun leaf => (key :: leaf.1, leaf.2)) ++ memberKeyedLeaves rest

end

def belowKey (member : String × Json) : List (List String × Json) :=
  (keyedLeaves member.2).map fun leaf => (member.1 :: leaf.1, leaf.2)

theorem keyed_leaves_object (members : List (String × Json)) :
    keyedLeaves (.object members) =
      if members = [] then [([], .object [])] else members.flatMap belowKey := by
  have below (members : List (String × Json)) :
      memberKeyedLeaves members = members.flatMap belowKey := by
    induction members with
    | nil => rfl
    | cons member rest ih =>
        simp only [memberKeyedLeaves, List.flatMap_cons, ih]
        rfl
  cases members with
  | nil => simp [keyedLeaves]
  | cons member rest => simp only [keyedLeaves, below, reduceCtorEq, if_false]

theorem mem_below_key (member : String × Json) (keys : List String) (leaf : Json) :
    (keys, leaf) ∈ belowKey member ↔
      ∃ rest, (rest, leaf) ∈ keyedLeaves member.2 ∧ keys = member.1 :: rest := by
  simp [belowKey, eq_comm]

theorem mem_keyed_leaves_object (members : List (String × Json)) (key : String)
    (rest : List String) (leaf : Json) : (key :: rest, leaf) ∈ keyedLeaves (.object members) ↔
      ∃ value, (key, value) ∈ members ∧ (rest, leaf) ∈ keyedLeaves value := by
  rw [keyed_leaves_object]
  cases members with
  | nil => simp
  | cons member others =>
      simp only [reduceCtorEq, if_false, List.mem_flatMap, mem_below_key, List.cons.injEq]
      constructor
      · rintro ⟨⟨_, value⟩, inside, _, listed, rfl, rfl⟩
        exact ⟨value, inside, listed⟩
      · rintro ⟨value, inside, listed⟩
        exact ⟨(key, value), inside, rest, listed, rfl, rfl⟩

theorem mem_keyed_leaves_nil (document leaf : Json) :
    ([], leaf) ∈ keyedLeaves document ↔ document = leaf ∧ leaf.Undivided := by
  have undivided (leafKind : document.Undivided) : ([], leaf) ∈ [(([] : List String), document)] ↔
      document = leaf ∧ leaf.Undivided := by
    simp only [List.mem_singleton, Prod.mk.injEq, true_and]
    constructor
    · rintro rfl
      exact ⟨rfl, leafKind⟩
    · exact fun held => held.1.symm
  cases document with
  | object members =>
      rw [keyed_leaves_object]
      cases members with
      | nil => exact undivided (by simp [Undivided])
      | cons member rest =>
          have divided : ¬ (object (member :: rest)).Undivided := fun held => held member rest rfl
          constructor
          · intro listed
            simp [belowKey] at listed
          · rintro ⟨rfl, held⟩
            exact absurd held divided
  | _ => exact undivided (by simp [Undivided])

theorem follow_of_reached (path : String) (root found : Json) (keys : List String)
    (reached : root.reached? keys = some found) : root.follow path keys = .ok found := by
  induction keys generalizing root with
  | nil =>
      cases reached
      rfl
  | cons key rest ih =>
      obtain ⟨members, child, rfl, held, below⟩ := (reached_cons root found key rest).1 reached
      exact (follow_member path key rest members found).2 ⟨child, held, ih child below⟩

theorem mem_keyed_leaves (document : Json) (sorted : document.Sorted) (keys : List String)
    (leaf : Json) : (keys, leaf) ∈ keyedLeaves document ↔
      document.reached? keys = some leaf ∧ leaf.Undivided := by
  induction keys generalizing document with
  | nil =>
      rw [mem_keyed_leaves_nil]
      have here : document.reached? [] = some document := rfl
      simp [here]
  | cons key rest ih =>
      rw [reached_cons]
      cases document with
      | object members =>
          rw [mem_keyed_leaves_object]
          have inside (value : Json) (member : (key, value) ∈ members) :=
            ih value ((sorted_members_iff members).1 sorted.2 _ member)
          constructor
          · rintro ⟨value, member, listed⟩
            obtain ⟨reached, undivided⟩ := (inside value member).1 listed
            have found := Members.find_of_mem key value members sorted.1.nodup member
            exact ⟨⟨members, value, rfl, found, reached⟩, undivided⟩
          · rintro ⟨⟨_, value, same, found, reached⟩, undivided⟩
            cases same
            have member := Members.mem_of_find key value members found
            exact ⟨value, member, (inside value member).2 ⟨reached, undivided⟩⟩
      | _ => simp [keyedLeaves]

theorem keyed_leaves_distinct (document : Json) (sorted : document.Sorted) :
    (keyedLeaves document).Pairwise fun first second => first.1 ≠ second.1 := by
  induction document using induct with
  | object members ih =>
      rw [keyed_leaves_object]
      split
      · exact List.pairwise_singleton _ _
      · refine List.pairwise_flatMap.2 ⟨?_, ?_⟩
        · intro member inside
          have below := ih member inside ((sorted_members_iff members).1 sorted.2 _ inside)
          apply List.pairwise_map.2
          exact below.imp fun different same => different (List.cons.inj same).2
        · have distinct := List.pairwise_map.1 sorted.1.nodup
          refine distinct.imp ?_
          rintro first second different ⟨keys, leaf⟩ inFirst ⟨others, other⟩ inSecond
          obtain ⟨rest, -, rfl⟩ := (mem_below_key first keys leaf).1 inFirst
          obtain ⟨more, -, rfl⟩ := (mem_below_key second others other).1 inSecond
          exact fun same => different (List.cons.inj same).1
  | _ => exact List.pairwise_singleton _ _

end Json

namespace LeafDescriptor

theorem extend_ne_empty (path key : String) (started : path ≠ "") : extend path key ≠ "" := by
  rw [extend, if_neg started]
  intro empty
  have text := congrArg String.toList empty
  simp at text

/-- A path that has been started is extended by the rest of the keys, the empty ones too. -/
theorem fold_extend_started (path : String) (keys : List String) (started : path ≠ "") :
    keys.foldl extend path = Path.join (path :: keys) := by
  induction keys generalizing path with
  | nil => simp [Path.join, Path.joinDots]
  | cons key rest ih =>
      rw [List.foldl_cons, ih _ (extend_ne_empty path key started), extend, if_neg started]
      cases rest with
      | nil => simp [Path.join, Path.joinDots]
      | cons next more => simp [Path.join, Path.joinDots]

/-- The empty keys that a walk begins with are lost. -/
theorem fold_extend (keys : List String) :
    keys.foldl extend "" = Path.join (keys.dropWhile (· = "")) := by
  induction keys with
  | nil => rfl
  | cons key rest ih =>
      by_cases empty : key = ""
      · subst empty
        simpa [extend] using ih
      · rw [List.foldl_cons, extend, if_pos rfl, fold_extend_started key rest empty]
        simp [empty]

theorem fold_extend_eq_empty (keys : List String) :
    keys.foldl extend "" = "" ↔ ∀ key ∈ keys, key = "" := by
  induction keys with
  | nil => simp
  | cons key rest ih =>
      rw [List.foldl_cons, extend, if_pos rfl, List.forall_mem_cons]
      by_cases empty : key = ""
      · simpa [empty] using ih
      · rw [fold_extend_started key rest empty]
        simp only [empty, false_and, iff_false]
        intro blank
        have text := congrArg String.toList blank
        cases rest with
        | nil => simp [Path.join, Path.joinDots, empty] at text
        | cons next more => simp [Path.join, Path.joinDots] at text

/-- What a leaf is described by, given the keys that lead to it from a node whose path is `path`. -/
def ofKeyed (path : String) (leaf : List String × Json) : LeafDescriptor :=
  ⟨leaf.1.foldl extend path, kindLabel leaf.2⟩

theorem member_leaves_eq (path : String) (members : List (String × Json)) :
    memberLeaves path members =
      members.flatMap fun member => leaves (extend path member.1) member.2 := by
  induction members with
  | nil => rfl
  | cons member rest ih => simp only [memberLeaves, List.flatMap_cons, ih]

/-- The walk describes the listed leaves and drops those whose path is empty. -/
theorem leaves_eq (path : String) (document : Json) :
    leaves path document =
      (document.keyedLeaves.map (ofKeyed path)).filter fun field => field.path ≠ "" := by
  have undivided (start : String) (leaf : Json) :
      (if start = "" then [] else [⟨start, kindLabel leaf⟩]) =
        ([([], leaf)].map (ofKeyed start)).filter fun field => field.path ≠ "" := by
    by_cases empty : start = ""
    · simp [ofKeyed, empty]
    · simp [ofKeyed, empty]
  induction document using Json.induct generalizing path with
  | object members ih =>
      cases members with
      | nil => exact undivided path _
      | cons member rest =>
          rw [Json.keyed_leaves_object, if_neg (List.cons_ne_nil member rest), List.map_flatMap,
            List.filter_flatMap]
          have whole : leaves path (.object (member :: rest)) = memberLeaves path (member :: rest) := by
            simp only [leaves, memberLeaves]
          rw [whole, member_leaves_eq]
          apply List.flatMap_congr
          intro other inside
          rw [ih other inside, Json.belowKey, List.map_map]
          rfl
  | _ => exact undivided path _

/-- The descriptor of a leaf: its path is that of the keys after the empty ones at the start. -/
def ofLeaf (leaf : List String × Json) : LeafDescriptor :=
  ⟨Path.join (leaf.1.dropWhile (· = "")), kindLabel leaf.2⟩

/-- The descriptors are those of the leaves that some key other than the empty one leads to. -/
theorem of_document_perm (document : Json) :
    (ofDocument document).Perm
      ((document.keyedLeaves.filter fun leaf => leaf.1.any (· ≠ "")).map ofLeaf) := by
  have same : leaves "" document =
      (document.keyedLeaves.filter fun leaf => leaf.1.any (· ≠ "")).map ofLeaf := by
    rw [leaves_eq, List.filter_map]
    have names (leaf : List String × Json) : ofKeyed "" leaf = ofLeaf leaf := by
      rw [ofKeyed, ofLeaf, fold_extend]
    have kept (leaf : List String × Json) :
        ((fun field : LeafDescriptor => decide (field.path ≠ "")) ∘ ofKeyed "") leaf =
          leaf.1.any (· ≠ "") := by
      rw [Bool.eq_iff_iff]
      simp [ofKeyed, fold_extend_eq_empty]
    rw [List.filter_congr fun leaf _ => kept leaf, List.map_congr_left fun leaf _ => names leaf]
  rw [ofDocument, same]
  exact List.mergeSort_perm _ _

theorem of_document_rising (document : Json) :
    (ofDocument document).Pairwise fun first second => compare first.path second.path ≠ .gt := by
  have trans (first second third : LeafDescriptor)
      (before : (compare first.path second.path != .gt) = true)
      (after : (compare second.path third.path != .gt) = true) :
      (compare first.path third.path != .gt) = true := by
    simp only [bne_iff_ne, ne_eq, ← Ordering.isLE_iff_ne_gt] at before after ⊢
    exact Std.TransCmp.isLE_trans before after
  have total (first second : LeafDescriptor) :
      (compare first.path second.path != .gt || compare second.path first.path != .gt) = true := by
    simp only [Bool.or_eq_true, bne_iff_ne, ne_eq]
    by_cases after : compare first.path second.path = .gt
    · exact Or.inr (by simp [Std.OrientedCmp.lt_of_gt after])
    · exact Or.inl after
  have rising := List.pairwise_mergeSort trans total (leaves "" document)
  exact rising.imp fun before => by simpa using before

theorem path_of_segments (keys : List String) (leaf : Json)
    (proper : ∀ key ∈ keys, Path.isSegment key) : (ofLeaf (keys, leaf)).path = Path.join keys := by
  cases keys with
  | nil => rfl
  | cons key rest =>
      have first := Path.ne_empty_of_segment key (proper key (by simp))
      simp [ofLeaf, first]

/-- Descriptors in the order of their paths, no path twice, each of which leads to a value of the kind it
tells, and one for every leaf, whose path is read as the keys of the leaf. -/
structure Faithful (document : Json) (described : List LeafDescriptor) : Prop where
  ordered : described.Pairwise fun first second => compare first.path second.path = .lt
  resolved : ∀ field ∈ described, ∃ value,
    document.get field.path = .ok value ∧ kindLabel value = field.kind
  complete : ∀ keys leaf, document.HasLeaf keys leaf → ∃! field, field ∈ described ∧
    Path.parse field.path = .ok keys ∧ field.kind = kindLabel leaf

/-- The leaves that are described, those with a key other than the empty one. -/
theorem mem_described (document : Json) (sorted : document.Sorted) (keys : List String)
    (leaf : Json) : (keys, leaf) ∈ document.keyedLeaves.filter (fun leaf => leaf.1.any (· ≠ "")) ↔
      document.HasLeaf keys leaf ∧ ∃ key ∈ keys, key ≠ "" := by
  rw [List.mem_filter, Json.mem_keyed_leaves document sorted]
  have named : (keys.any (· ≠ "") = true) ↔ ∃ key ∈ keys, key ≠ "" := by simp
  rw [named]
  constructor
  · rintro ⟨⟨reached, undivided⟩, key, member, solid⟩
    exact ⟨⟨List.ne_nil_of_mem member, reached, undivided⟩, key, member, solid⟩
  · rintro ⟨⟨-, reached, undivided⟩, solid⟩
    exact ⟨⟨reached, undivided⟩, solid⟩

/-- The path of a leaf whose keys can all stand in a path leads back to it. -/
theorem segments_lead_back (document : Json) (keys : List String) (leaf : Json)
    (held : document.HasLeaf keys leaf) (proper : ∀ key ∈ keys, Path.isSegment key) :
    Path.parse (ofLeaf (keys, leaf)).path = .ok keys ∧
      document.get (ofLeaf (keys, leaf)).path = .ok leaf := by
  obtain ⟨nonempty, reached, -⟩ := held
  rw [path_of_segments keys leaf proper]
  have parsed := Path.parse_join keys nonempty proper
  exact ⟨parsed, (Json.get_eq_ok_iff document leaf _).2
    ⟨keys, parsed, Json.follow_of_reached _ document leaf keys reached⟩⟩

theorem key_of_segments (keys : List String) (nonempty : keys ≠ [])
    (proper : ∀ key ∈ keys, Path.isSegment key) : ∃ key ∈ keys, key ≠ "" := by
  obtain ⟨key, member⟩ := List.exists_mem_of_ne_nil keys nonempty
  exact ⟨key, member, Path.ne_empty_of_segment key (proper key member)⟩

theorem faithful_of_segments (document : Json) (sorted : document.Sorted)
    (proper : ∀ keys leaf, document.HasLeaf keys leaf → ∀ key ∈ keys, Path.isSegment key) :
    Faithful document (ofDocument document) := by
  have perm := of_document_perm document
  have leaf_of (field : LeafDescriptor) (member : field ∈ ofDocument document) :
      ∃ keys leaf, document.HasLeaf keys leaf ∧ ofLeaf (keys, leaf) = field := by
    obtain ⟨⟨keys, leaf⟩, listed, same⟩ := List.mem_map.1 (perm.mem_iff.1 member)
    exact ⟨keys, leaf, ((mem_described document sorted keys leaf).1 listed).1, same⟩
  have back (keys : List String) (leaf : Json) (held : document.HasLeaf keys leaf) :=
    segments_lead_back document keys leaf held (proper keys leaf held)
  refine ⟨?_, ?_, ?_⟩
  · have distinct : ((ofDocument document).map LeafDescriptor.path).Nodup := by
      rw [(perm.map LeafDescriptor.path).nodup_iff, List.map_map]
      have listed := (Json.keyed_leaves_distinct document sorted).filter
        (fun leaf => leaf.1.any (· ≠ ""))
      refine List.pairwise_map.2 (listed.imp_of_mem ?_)
      rintro ⟨keys, leaf⟩ ⟨others, other⟩ inFirst inSecond different same
      have first := (back keys leaf ((mem_described document sorted _ _).1 inFirst).1).1
      have second := (back others other ((mem_described document sorted _ _).1 inSecond).1).1
      have paths : (ofLeaf (keys, leaf)).path = (ofLeaf (others, other)).path := same
      -- One path is read as one list of keys, so equal paths would make one leaf of two.
      rw [paths, second] at first
      exact different (Except.ok.inj first).symm
    have rising := (of_document_rising document).and (List.pairwise_map.1 distinct)
    apply rising.imp
    rintro first second ⟨notAfter, different⟩
    cases order : compare first.path second.path with
    | lt => rfl
    | eq => exact absurd (Std.LawfulEqOrd.eq_of_compare order) different
    | gt => exact absurd order notAfter
  · intro field member
    obtain ⟨keys, leaf, held, rfl⟩ := leaf_of field member
    exact ⟨leaf, (back keys leaf held).2, rfl⟩
  · intro keys leaf held
    have solid := key_of_segments keys held.1 (proper keys leaf held)
    have listed := (mem_described document sorted keys leaf).2 ⟨held, solid⟩
    refine ⟨ofLeaf (keys, leaf), ⟨?_, (back keys leaf held).1, rfl⟩, ?_⟩
    · exact perm.mem_iff.2 (List.mem_map_of_mem listed)
    · rintro field ⟨member, parsed, -⟩
      obtain ⟨others, other, otherHeld, rfl⟩ := leaf_of field member
      rw [(back others other otherHeld).1] at parsed
      cases parsed
      have reached := held.2.1
      rw [otherHeld.2.1] at reached
      cases reached
      rfl

/-- Every leaf that has a key other than the empty one is described once, in the order of the paths. A leaf
whose keys can all stand in a path is described by the path that leads to it. The descriptors as a whole
are faithful exactly where this goes for every leaf. -/
theorem faithful_iff_segments (document : Json) (sorted : document.Sorted) :
    (∃ listed : List (List String × Json), listed.Nodup ∧
      (∀ keys leaf, (keys, leaf) ∈ listed ↔
        document.HasLeaf keys leaf ∧ ∃ key ∈ keys, key ≠ "") ∧
      (ofDocument document).Perm (listed.map fun leaf =>
        ⟨Path.join (leaf.1.dropWhile (· = "")), kindLabel leaf.2⟩)) ∧
    (ofDocument document).Pairwise (fun first second => compare first.path second.path ≠ .gt) ∧
    (∀ keys leaf, document.HasLeaf keys leaf → (∀ key ∈ keys, Path.isSegment key) →
      ⟨Path.join keys, kindLabel leaf⟩ ∈ ofDocument document ∧
        document.get (Path.join keys) = .ok leaf) ∧
    (Faithful document (ofDocument document) ↔
      ∀ keys leaf, document.HasLeaf keys leaf → ∀ key ∈ keys, Path.isSegment key) := by
  have perm := of_document_perm document
  have listed := mem_described document sorted
  refine ⟨⟨_, ?_, listed, perm⟩, of_document_rising document, ?_, ?_, ?_⟩
  · have distinct := (Json.keyed_leaves_distinct document sorted).filter
      (fun leaf => leaf.1.any (· ≠ ""))
    exact distinct.imp fun different same => different (congrArg Prod.fst same)
  · intro keys leaf held proper
    have solid := key_of_segments keys held.1 proper
    have member := perm.mem_iff.2 (List.mem_map_of_mem ((listed keys leaf).2 ⟨held, solid⟩))
    have back := (segments_lead_back document keys leaf held proper).2
    have path := path_of_segments keys leaf proper
    rw [path] at back
    rw [← path]
    exact ⟨member, path ▸ back⟩
  · intro faithful keys leaf held
    obtain ⟨field, ⟨-, parsed, -⟩, -⟩ := faithful.complete keys leaf held
    exact Path.segment_of_parsed field.path keys parsed
  · exact faithful_of_segments document sorted

def nestedLimits : Json :=
  .object [("hosts", .array [.string "a"]), ("limit", .object [("daily", .ofInt 3), ("hourly", .null)])]

theorem nested_limits_faithful :
    nestedLimits.Sorted ∧ Faithful nestedLimits (ofDocument nestedLimits) ∧
      ⟨"limit.daily", "int"⟩ ∈ ofDocument nestedLimits ∧
      nestedLimits.get "limit.daily" = .ok (.ofInt 3) := by
  have sorted : nestedLimits.Sorted :=
    ⟨by decide, ⟨trivial, trivial⟩, ⟨by decide, trivial, trivial, trivial⟩, trivial⟩
  have proper (keys : List String) (leaf : Json) (held : nestedLimits.HasLeaf keys leaf) :
      ∀ key ∈ keys, Path.isSegment key := by
    have listed := (Json.mem_keyed_leaves nestedLimits sorted keys leaf).2 held.2
    have all : nestedLimits.keyedLeaves = [(["hosts"], .array [.string "a"]),
        (["limit", "daily"], .ofInt 3), (["limit", "hourly"], .null)] := rfl
    simp only [all, List.mem_cons, List.not_mem_nil, or_false, Prod.mk.injEq] at listed
    rcases listed with ⟨rfl, -⟩ | ⟨rfl, -⟩ | ⟨rfl, -⟩ <;> decide
  have daily : nestedLimits.HasLeaf ["limit", "daily"] (.ofInt 3) :=
    ⟨by simp, rfl, by simp [Json.Undivided, Json.ofInt]⟩
  obtain ⟨-, -, described, faithful⟩ := faithful_iff_segments nestedLimits sorted
  obtain ⟨member, found⟩ := described _ _ daily (proper _ _ daily)
  exact ⟨sorted, faithful.2 proper, member, found⟩

/-- A member whose key is the path of another leaf. -/
def dottedSwitch : Json :=
  .object [("a", .object [("b", .ofInt 1)]), ("a.b", .bool true)]

/-- Two leaves are described by one path, which leads to the first of them. -/
theorem dotted_switch_described_twice :
    dottedSwitch.Sorted ∧ dottedSwitch.HasLeaf ["a.b"] (.bool true) ∧
      ofDocument dottedSwitch = [⟨"a.b", "int"⟩, ⟨"a.b", "bool"⟩] ∧
      dottedSwitch.get "a.b" = .ok (.ofInt 1) ∧
      ¬ Faithful dottedSwitch (ofDocument dottedSwitch) := by
  have sorted : dottedSwitch.Sorted := ⟨by decide, ⟨by decide, trivial, trivial⟩, trivial, trivial⟩
  have described : ofDocument dottedSwitch = [⟨"a.b", "int"⟩, ⟨"a.b", "bool"⟩] := by
    have walked : leaves "" dottedSwitch = [⟨"a.b", "int"⟩, ⟨"a.b", "bool"⟩] := by decide
    rw [ofDocument, walked]
    exact List.mergeSort_of_pairwise (by decide)
  refine ⟨sorted, ⟨by simp, rfl, by simp [Json.Undivided]⟩, described, rfl, ?_⟩
  intro faithful
  have ordered := faithful.ordered
  rw [described] at ordered
  exact absurd ordered (by decide)

end LeafDescriptor

end LayeredConfig
