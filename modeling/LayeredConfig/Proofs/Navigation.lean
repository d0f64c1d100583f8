import LayeredConfig.Path.Document
import LayeredConfig.Proofs.Members
import LayeredConfig.Proofs.PathText

/-!
# Following paths segment by segment

A path leads on from a node by one rule for each kind of node, and stops by one fault for each way in which
the rules do not apply. Following a path is leading on as far as that goes: the node at the end, or the
fault of the first segment that stops. The faults carry the path that was asked for and depend on nothing
else outside the node and the segment.
-/
set_option autoImplicit false

namespace LayeredConfig

def PathFault.along (path : String) : PathFault → PathFault
  | .emptyPath => .emptyPath
  | .blankSegment _ => .blankSegment path
  | .throughNull _ segment => .throughNull path segment
  | .noKey _ segment => .noKey path segment
  | .notAnIndex _ segment => .notAnIndex path segment
  | .pastEnd _ segment length => .pastEnd path segment length
  | .throughScalar _ segment kind => .throughScalar path segment kind
  | .closed _ segment obstacle => .closed path segment obstacle

/-- A segment of decimal digits with its value. Leading zeros do not matter. -/
def Path.Numeral (segment : String) (value : Nat) : Prop :=
  segment ≠ "" ∧ (∀ c ∈ segment.toList, c.isDigit) ∧ Nat.ofDigitChars 10 segment.toList 0 = value

theorem Path.index_eq_some_iff (segment : String) (index : Nat) :
    index? segment = some index ↔ Numeral segment index ∧ index ≤ maxIndex := by
  have value : digitsValue segment.toList = Nat.ofDigitChars 10 segment.toList 0 := by
    simp [digitsValue, Nat.ofDigitChars, digitValue, Nat.mul_comm]
  have refused : (segment.toList.isEmpty || !segment.toList.all Char.isDigit) = true ↔
      ¬ (segment ≠ "" ∧ ∀ c ∈ segment.toList, c.isDigit) := by
    simp [imp_iff_not_or]
  unfold index? Numeral
  simp only [refused, value]
  constructor
  · intro named
    split at named
    · cases named
    · rename_i proper
      obtain ⟨nonempty, digits⟩ := not_not.1 proper
      split at named
      · rename_i small
        cases named
        exact ⟨⟨nonempty, digits, rfl⟩, small⟩
      · cases named
  · rintro ⟨⟨nonempty, digits, rfl⟩, small⟩
    rw [if_neg (not_not.2 ⟨nonempty, digits⟩), if_pos small]

namespace Json

/-- A segment leads on: in an object to the member of that key, in an array to the item at the index that
the segment is a numeral of. -/
inductive Descends : Json → String → Json → Prop
  | member (members : List (String × Json)) (key : String) (below : Json)
      (held : Members.find? key members = some below) : Descends (.object members) key below
  | item (items : List Json) (segment : String) (index : Nat) (below : Json)
      (named : Path.Numeral segment index) (small : index ≤ Path.maxIndex)
      (held : items[index]? = some below) : Descends (.array items) segment below

/-- A segment stops at a node, and the fault says why. -/
inductive Stops (path : String) : Json → String → PathFault → Prop
  | unset (segment : String) : Stops path .null segment (.throughNull path segment)
  | missing (members : List (String × Json)) (segment : String)
      (missing : segment ∉ Members.keys members) :
      Stops path (.object members) segment (.noKey path segment)
  | noNumeral (items : List Json) (segment : String)
      (noNumeral : ∀ value, ¬ Path.Numeral segment value) :
      Stops path (.array items) segment (.notAnIndex path segment)
  | beyondRange (items : List Json) (segment : String) (value : Nat)
      (named : Path.Numeral segment value) (large : Path.maxIndex < value) :
      Stops path (.array items) segment (.notAnIndex path segment)
  | outside (items : List Json) (segment : String) (value : Nat)
      (named : Path.Numeral segment value) (small : value ≤ Path.maxIndex)
      (outside : items.length ≤ value) :
      Stops path (.array items) segment (.pastEnd path segment items.length)
  | scalar (node : Json) (segment : String) (set : node ≠ .null)
      (notObject : ∀ members, node ≠ .object members) (notArray : ∀ items, node ≠ .array items) :
      Stops path node segment (.throughScalar path segment node.kind)

/-- Segments lead on one after the other. -/
inductive Leads : Json → List String → Json → Prop
  | here (node : Json) : Leads node [] node
  | down (node below found : Json) (segment : String) (rest : List String)
      (first : node.Descends segment below) (others : Leads below rest found) :
      Leads node (segment :: rest) found

theorem child_eq_ok_iff (path segment : String) (node below : Json) :
    child path node segment = .ok below ↔ node.Descends segment below := by
  constructor
  · intro led
    cases node with
    | object members =>
        cases held : Members.find? segment members with
        | none => simp [child, held] at led
        | some value =>
            simp only [child, held, Except.ok.injEq] at led
            exact led ▸ .member members segment value held
    | array items =>
        cases named : Path.index? segment with
        | none => simp [child, named] at led
        | some index =>
            obtain ⟨numeral, small⟩ := (Path.index_eq_some_iff segment index).1 named
            cases held : items[index]? with
            | none => simp [child, named, held] at led
            | some item =>
                simp only [child, named, held, Except.ok.injEq] at led
                exact led ▸ .item items segment index item numeral small held
    | _ => simp [child] at led
  · intro descends
    cases descends with
    | member members key below held => simp [child, held]
    | item items segment index below named small held =>
        have read := (Path.index_eq_some_iff segment index).2 ⟨named, small⟩
        simp [child, read, held]

theorem child_stops (path segment : String) (node : Json) (fault : PathFault)
    (failed : child path node segment = .error fault) : node.Stops path segment fault := by
  cases node with
  | null =>
      cases failed
      exact .unset segment
  | object members =>
      cases held : Members.find? segment members with
      | some below => simp [child, held] at failed
      | none =>
          simp only [child, held, Except.error.injEq] at failed
          exact failed ▸ .missing members segment ((Members.find_eq_none segment members).1 held)
  | array items =>
      cases named : Path.index? segment with
      | none =>
          simp only [child, named, Except.error.injEq] at failed
          subst failed
          by_cases numeral : ∃ value, Path.Numeral segment value
          · obtain ⟨value, numeral⟩ := numeral
            refine .beyondRange items segment value numeral ?_
            by_contra small
            have read := (Path.index_eq_some_iff segment value).2 ⟨numeral, by omega⟩
            rw [named] at read
            cases read
          · exact .noNumeral items segment (not_exists.1 numeral)
      | some index =>
          obtain ⟨numeral, small⟩ := (Path.index_eq_some_iff segment index).1 named
          cases held : items[index]? with
          | some item => simp [child, named, held] at failed
          | none =>
              simp only [child, named, held, Except.error.injEq] at failed
              exact failed ▸ .outside items segment index numeral small
                (List.getElem?_eq_none_iff.1 held)
  | bool value =>
      cases failed
      exact .scalar (.bool value) segment (by simp) (by simp) (by simp)
  | number value =>
      cases failed
      exact .scalar (.number value) segment (by simp) (by simp) (by simp)
  | string value =>
      cases failed
      exact .scalar (.string value) segment (by simp) (by simp) (by simp)

theorem child_of_stops (path segment : String) (node : Json) (fault : PathFault)
    (stops : node.Stops path segment fault) : child path node segment = .error fault := by
  cases stops with
  | unset => rfl
  | missing members _ missing =>
      have nothing := (Members.find_eq_none segment members).2 missing
      simp [child, nothing]
  | noNumeral items _ noNumeral =>
      have unread : Path.index? segment = none := by
        rw [Option.eq_none_iff_forall_ne_some]
        intro index named
        exact noNumeral index ((Path.index_eq_some_iff segment index).1 named).1
      simp [child, unread]
  | beyondRange items _ value numeral large =>
      have unread : Path.index? segment = none := by
        rw [Option.eq_none_iff_forall_ne_some]
        intro index named
        obtain ⟨again, small⟩ := (Path.index_eq_some_iff segment index).1 named
        have same : index = value := again.2.2.symm.trans numeral.2.2
        omega
      simp [child, unread]
  | outside items _ value numeral small outside =>
      have read := (Path.index_eq_some_iff segment value).2 ⟨numeral, small⟩
      have nothing : items[value]? = none := List.getElem?_eq_none_iff.2 outside
      simp [child, read, nothing]
  | scalar _ _ set notObject notArray => cases node <;> simp_all [child]

theorem not_descends_of_stops (path segment : String) (node : Json) (fault : PathFault)
    (stops : node.Stops path segment fault) (below : Json) : ¬ node.Descends segment below := by
  intro descends
  have led := (child_eq_ok_iff path segment node below).2 descends
  rw [child_of_stops path segment node fault stops] at led
  cases led

theorem follow_eq_ok_iff (path : String) (segments : List String) (node found : Json) :
    node.follow path segments = .ok found ↔ node.Leads segments found := by
  induction segments generalizing node with
  | nil =>
      constructor
      · intro followed
        cases followed
        exact .here _
      · intro leads
        cases leads
        rfl
  | cons segment rest ih =>
      constructor
      · intro followed
        cases down : child path node segment with
        | error fault => simp [follow, down] at followed
        | ok below =>
            have descends := (child_eq_ok_iff path segment node below).1 down
            simp only [follow, down] at followed
            exact .down node below found segment rest descends ((ih below).1 followed)
      · intro leads
        cases leads with
        | down _ below _ _ _ first others =>
            have down := (child_eq_ok_iff path segment node below).2 first
            simp only [follow, down]
            exact (ih below).2 others

theorem follow_eq_error_iff (path : String) (segments : List String) (node : Json)
    (fault : PathFault) :
    node.follow path segments = .error fault ↔ ∃ before segment after last,
      segments = before ++ segment :: after ∧ node.Leads before last ∧
        last.Stops path segment fault := by
  induction segments generalizing node with
  | nil => simp [follow]
  | cons first rest ih =>
      cases down : child path node first with
      | error other =>
          have stops := child_stops path first node other down
          simp only [follow, down, Except.error.injEq]
          constructor
          · rintro rfl
            exact ⟨[], first, rest, node, rfl, .here node, stops⟩
          · rintro ⟨before, segment, after, last, split, leads, lastStops⟩
            cases leads with
            | here =>
                obtain ⟨rfl, -⟩ := List.cons.inj split
                have again := child_of_stops path first node fault lastStops
                rw [down] at again
                exact Except.error.inj again
            | down _ below _ _ _ descends _ =>
                obtain ⟨rfl, -⟩ := List.cons.inj split
                exact absurd descends (not_descends_of_stops path first node other stops below)
      | ok below =>
          have descends := (child_eq_ok_iff path first node below).1 down
          simp only [follow, down, ih below]
          constructor
          · rintro ⟨before, segment, after, last, rfl, leads, stops⟩
            refine ⟨first :: before, segment, after, last, rfl, ?_, stops⟩
            exact .down node below last first before descends leads
          · rintro ⟨before, segment, after, last, split, leads, stops⟩
            cases leads with
            | here =>
                obtain ⟨rfl, -⟩ := List.cons.inj split
                exact absurd descends (not_descends_of_stops path first node fault stops below)
            | down _ other _ _ more otherDescends others =>
                obtain ⟨rfl, restSplit⟩ := List.cons.inj split
                have led := (child_eq_ok_iff path first node other).2 otherDescends
                rw [down] at led
                cases led
                exact ⟨more, segment, after, last, restSplit, others, stops⟩

theorem follow_append (path : String) (first rest : List String) (node : Json) :
    node.follow path (first ++ rest) = (node.follow path first).bind (follow path · rest) := by
  induction first generalizing node with
  | nil => rfl
  | cons segment first ih =>
      simp only [List.cons_append, follow]
      cases child path node segment with
      | error fault => rfl
      | ok below => exact ih below

theorem child_along (path other segment : String) (node : Json) :
    child other node segment = (child path node segment).mapError (PathFault.along other) := by
  cases node with
  | object members => cases held : Members.find? segment members <;> simp [child, held] <;> rfl
  | array items =>
      cases named : Path.index? segment with
      | none =>
          simp only [child, named]
          rfl
      | some index => cases held : items[index]? <;> simp [child, named, held] <;> rfl
  | _ => rfl

theorem follow_along (path other : String) (segments : List String) (node : Json) :
    node.follow other segments = (node.follow path segments).mapError (PathFault.along other) := by
  induction segments generalizing node with
  | nil => rfl
  | cons segment rest ih =>
      simp only [follow, child_along path other segment node]
      cases child path node segment with
      | error fault => rfl
      | ok below => exact ih below

theorem leads_of_prefix (before segments : List String) (root found : Json)
    (start : before <+: segments) (leads : root.Leads segments found) :
    ∃ node, root.Leads before node := by
  obtain ⟨after, rfl⟩ := start
  have followed := (follow_eq_ok_iff "" (before ++ after) root found).2 leads
  rw [follow_append] at followed
  cases reached : root.follow "" before with
  | error fault => simp [reached, Except.bind] at followed
  | ok node => exact ⟨node, (follow_eq_ok_iff "" before root node).1 reached⟩

/-- A path is followed exactly as far as its segments lead on. It is followed to its end where all of its
beginnings lead somewhere; otherwise the fault is that of the first segment that does not lead on from where
the segments before it lead. Going on along a second path is going along both in one. -/
theorem navigated_or_blamed (root : Json) (path : String) (segments : List String)
    (parsed : Path.parse path = .ok segments) :
    (∀ found, root.get path = .ok found ↔ root.Leads segments found) ∧
    ((∃ found, root.get path = .ok found) ↔
      ∀ before, before <+: segments → ∃ node, root.Leads before node) ∧
    (∀ fault, root.get path = .error fault ↔ ∃ before segment after node,
      segments = before ++ segment :: after ∧ root.Leads before node ∧
        (∀ below, ¬ node.Descends segment below) ∧ node.Stops path segment fault) ∧
    ∀ found other others, root.get path = .ok found → Path.parse other = .ok others →
      root.get (path ++ "." ++ other) =
        (found.get other).mapError (PathFault.along (path ++ "." ++ other)) := by
  have got : root.get path = root.follow path segments := by simp only [get, parsed]
  rw [got]
  refine ⟨fun found => follow_eq_ok_iff path segments root found, ?_, ?_, ?_⟩
  · constructor
    · rintro ⟨found, followed⟩ before start
      have leads := (follow_eq_ok_iff path segments root found).1 followed
      exact leads_of_prefix before segments root found start leads
    · intro all
      obtain ⟨node, leads⟩ := all segments (List.prefix_refl segments)
      exact ⟨node, (follow_eq_ok_iff path segments root node).2 leads⟩
  · intro fault
    rw [follow_eq_error_iff]
    constructor
    · rintro ⟨before, segment, after, node, split, leads, stops⟩
      have alone := not_descends_of_stops path segment node fault stops
      exact ⟨before, segment, after, node, split, leads, alone, stops⟩
    · rintro ⟨before, segment, after, node, split, leads, -, stops⟩
      exact ⟨before, segment, after, node, split, leads, stops⟩
  · intro found other others followed otherParsed
    have joined := Path.parse_append path other segments others parsed otherParsed
    have whole : root.follow (path ++ "." ++ other) segments = .ok found := by
      rw [follow_along path, followed]
      rfl
    calc root.get (path ++ "." ++ other)
        = root.follow (path ++ "." ++ other) (segments ++ others) := by simp only [get, joined]
      _ = found.follow (path ++ "." ++ other) others := by
          rw [follow_append, whole]
          rfl
      _ = (found.get other).mapError (PathFault.along (path ++ "." ++ other)) := by
          simp only [get, otherParsed]
          exact follow_along other (path ++ "." ++ other) others found

/-- A leading zero leads on, and below the text that it leads to the next segment is blamed. -/
theorem text_below_item_blamed :
    let root : Json := .object [("hosts", .array [.string "a", .string "b"])]
    root.get "hosts.01" = .ok (.string "b") ∧ root.Leads ["hosts", "01"] (.string "b") ∧
      root.get "hosts.01.port" =
        .error (.throughScalar "hosts.01.port" "port" .string) ∧
      root.get "hosts.2" = .error (.pastEnd "hosts.2" "2" 2) := by
  intro root
  obtain ⟨leads, -, -, further⟩ :=
    navigated_or_blamed root "hosts.01" ["hosts", "01"] (by decide)
  obtain ⟨-, -, blamed, -⟩ := navigated_or_blamed root "hosts.2" ["hosts", "2"] (by decide)
  have found : root.get "hosts.01" = .ok (.string "b") := rfl
  have arrived : root.Leads ["hosts"] (.array [.string "a", .string "b"]) :=
    .down _ _ _ _ _ (.member _ _ _ rfl) (.here _)
  have numeral : Path.Numeral "2" 2 := ((Path.index_eq_some_iff "2" 2).1 rfl).1
  have stops : (Json.array [.string "a", .string "b"]).Stops "hosts.2" "2" (.pastEnd "hosts.2" "2" 2) :=
    .outside _ _ 2 numeral (by decide) (by decide)
  refine ⟨found, (leads _).1 found, ?_, ?_⟩
  · exact further (.string "b") "port" ["port"] found (by decide)
  · exact (blamed _).2 ⟨["hosts"], "2", [], _, rfl, arrived,
      not_descends_of_stops "hosts.2" "2" _ _ stops, stops⟩

end Json

end LayeredConfig
