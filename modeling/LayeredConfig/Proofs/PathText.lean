import LayeredConfig.Path.Segments

/-!
# Joining segments and reading them back

Segments that are not empty and hold no dot come back from the path they are joined to. The segment
of an index names no other index.
-/
set_option autoImplicit false

namespace LayeredConfig.Path

theorem split_dots_ne_nil (text : List Char) : splitDots text ≠ [] := by
  cases text with
  | nil => simp [splitDots]
  | cons c rest =>
      rw [splitDots]
      split
      · simp
      · split <;> simp

theorem split_dots_append (text rest : List Char) :
    splitDots (text ++ '.' :: rest) = splitDots text ++ splitDots rest := by
  induction text with
  | nil => simp [splitDots]
  | cons c text ih =>
      by_cases dot : c = '.'
      · simp [splitDots, dot, ih]
      · cases pieces : splitDots text with
        | nil => exact absurd pieces (split_dots_ne_nil text)
        | cons piece more => simp [splitDots, dot, ih, pieces]

theorem split_dots_piece (piece : List Char) (clean : '.' ∉ piece) : splitDots piece = [piece] := by
  induction piece with
  | nil => simp [splitDots]
  | cons c piece ih =>
      obtain ⟨head, tail⟩ : '.' ≠ c ∧ '.' ∉ piece := by simpa using clean
      simp [splitDots, Ne.symm head, ih tail]

theorem split_dots_join_dots (pieces : List (List Char)) (nonempty : pieces ≠ [])
    (clean : ∀ piece ∈ pieces, '.' ∉ piece) : splitDots (joinDots pieces) = pieces := by
  induction pieces with
  | nil => exact absurd rfl nonempty
  | cons piece rest ih =>
      obtain ⟨pieceClean, restClean⟩ := List.forall_mem_cons.1 clean
      cases rest with
      | nil => exact split_dots_piece piece pieceClean
      | cons next others =>
          rw [joinDots, split_dots_append, split_dots_piece _ pieceClean, ih (by simp) restClean]
          · simp
          · simp

theorem join_dots_split_dots (text : List Char) : joinDots (splitDots text) = text := by
  induction text with
  | nil => rfl
  | cons c rest ih =>
      cases pieces : splitDots rest with
      | nil => exact absurd pieces (split_dots_ne_nil rest)
      | cons piece more =>
          rw [pieces] at ih
          by_cases dot : c = '.'
          · simp [splitDots, dot, pieces, joinDots, ih]
          · cases more with
            | nil => simpa [splitDots, dot, pieces, joinDots] using ih
            | cons next others => simpa [splitDots, dot, pieces, joinDots] using ih

theorem join_split (path : String) : join (split path) = path := by
  have pieces : (split path).map String.toList = splitDots path.toList := by
    simp [split, Function.comp_def]
  rw [join, pieces, join_dots_split_dots, String.ofList_toList]

theorem join_dots_eq_intercalate (pieces : List (List Char)) :
    joinDots pieces = ['.'].intercalate pieces := by
  fun_induction joinDots pieces with
  | case1 => rfl
  | case2 piece => simp [List.intercalate]
  | case3 piece rest nonempty ih =>
      cases rest with
      | nil => exact absurd rfl nonempty
      | cons next others => simp [ih, List.intercalate]

theorem join_eq_intercalate (segments : List String) : join segments = ".".intercalate segments := by
  have characters := @String.toList_intercalate "." segments
  rw [join, join_dots_eq_intercalate]
  exact (congrArg String.ofList characters).symm.trans String.ofList_toList

theorem segment_iff (key : String) : isSegment key ↔ key ≠ "" ∧ '.' ∉ key.toList := by
  simp [isSegment]

theorem parse_eq_ok_iff (path : String) (segments : List String) :
    parse path = .ok segments ↔ split path = segments ∧ ∀ segment ∈ segments, segment ≠ "" := by
  unfold parse
  by_cases empty : path = ""
  · subst empty
    have pieces : split "" = [""] := rfl
    rw [if_pos rfl, pieces]
    constructor
    · intro parsed
      cases parsed
    · rintro ⟨rfl, nonempty⟩
      exact absurd rfl (nonempty "" (by simp))
  · rw [if_neg empty]
    by_cases blank : (split path).any (· = "")
    · simp only [if_pos blank]
      constructor
      · intro parsed
        cases parsed
      · rintro ⟨rfl, nonempty⟩
        obtain ⟨segment, member, same⟩ := List.any_eq_true.1 blank
        exact absurd (of_decide_eq_true same) (nonempty segment member)
    · simp only [if_neg blank, Except.ok.injEq]
      constructor
      · rintro rfl
        refine ⟨rfl, ?_⟩
        intro segment member same
        exact blank (List.any_eq_true.2 ⟨segment, member, decide_eq_true same⟩)
      · exact fun held => held.1

theorem split_dots_clean (text piece : List Char) (member : piece ∈ splitDots text) :
    '.' ∉ piece := by
  induction text generalizing piece with
  | nil =>
      obtain rfl : piece = [] := by simpa [splitDots] using member
      exact List.not_mem_nil
  | cons c rest ih =>
      rw [splitDots] at member
      split at member
      · rcases List.mem_cons.1 member with rfl | later
        · exact List.not_mem_nil
        · exact ih piece later
      · rename_i letter
        cases pieces : splitDots rest with
        | nil => exact absurd pieces (split_dots_ne_nil rest)
        | cons first more =>
            rw [pieces] at member ih
            obtain ⟨firstClean, moreClean⟩ := List.forall_mem_cons.1 ih
            rcases List.mem_cons.1 member with rfl | later
            · simpa [Ne.symm letter] using firstClean
            · exact moreClean piece later

theorem segment_of_parsed (path : String) (segments : List String)
    (parsed : parse path = .ok segments) : ∀ segment ∈ segments, isSegment segment := by
  obtain ⟨rfl, nonempty⟩ := (parse_eq_ok_iff path segments).1 parsed
  intro segment member
  obtain ⟨piece, inText, rfl⟩ := List.mem_map.1 member
  have clean := split_dots_clean path.toList piece inText
  have notEmpty : String.ofList piece ≠ "" := nonempty _ member
  simpa [isSegment] using And.intro notEmpty clean

theorem ne_empty_of_segment (key : String) (proper : isSegment key) : key ≠ "" := by
  rintro rfl
  exact absurd proper (by decide)

theorem parsed_ne_nil (path : String) (segments : List String)
    (parsed : parse path = .ok segments) : segments ≠ [] := by
  obtain ⟨rfl, -⟩ := (parse_eq_ok_iff path segments).1 parsed
  simp [split, split_dots_ne_nil]

theorem parse_append (path other : String) (segments others : List String)
    (parsed : parse path = .ok segments) (otherParsed : parse other = .ok others) :
    parse (path ++ "." ++ other) = .ok (segments ++ others) := by
  obtain ⟨rfl, nonempty⟩ := (parse_eq_ok_iff path segments).1 parsed
  obtain ⟨rfl, otherNonempty⟩ := (parse_eq_ok_iff other others).1 otherParsed
  refine (parse_eq_ok_iff _ _).2 ⟨?_, ?_⟩
  · have text : (path ++ "." ++ other).toList = path.toList ++ '.' :: other.toList := by
      simp [String.toList_append]
    rw [split, text, split_dots_append, List.map_append]
    rfl
  · intro segment member
    rcases List.mem_append.1 member with first | second
    · exact nonempty segment first
    · exact otherNonempty segment second

theorem parse_join (segments : List String) (nonempty : segments ≠ [])
    (proper : ∀ segment ∈ segments, isSegment segment) : parse (join segments) = .ok segments := by
  have facts : ∀ segment ∈ segments, segment ≠ "" ∧ '.' ∉ segment.toList := by
    intro segment member
    simpa [isSegment] using proper segment member
  have pieces : split (join segments) = segments := by
    have clean : ∀ piece ∈ segments.map String.toList, '.' ∉ piece := by
      intro piece member
      obtain ⟨segment, inSegments, rfl⟩ := List.mem_map.1 member
      exact (facts segment inSegments).2
    rw [split, join, String.toList_ofList, split_dots_join_dots _ (by simpa using nonempty) clean,
      List.map_map]
    simp
  have notEmpty : join segments ≠ "" := by
    intro empty
    rw [empty] at pieces
    obtain rfl : [""] = segments := pieces
    exact (facts "" (by simp)).1 rfl
  have noBlank : segments.any (· = "") = false := by
    rw [List.any_eq_false]
    intro segment member
    simpa using (facts segment member).1
  simp [parse, notEmpty, pieces, noBlank]

theorem digits_value_to_digits (index : Nat) : digitsValue (Nat.toDigits 10 index) = index := by
  have same := @Nat.ofDigitChars_ten_toDigits index
  simpa [digitsValue, Nat.ofDigitChars, digitValue, Nat.mul_comm] using same

/-- The segment of an index names that index or, beyond the range of indices, none. -/
theorem index_of_index (index found : Nat) (named : index? (ofIndex index) = some found) :
    found = index := by
  have digits : (ofIndex index).toList = Nat.toDigits 10 index := String.toList_ofList
  simp only [index?, digits, digits_value_to_digits] at named
  split at named
  · cases named
  · split at named
    · exact (Option.some.inj named).symm
    · cases named

theorem index_of_segment (index : Nat) (small : index ≤ maxIndex) :
    index? (ofIndex index) = some index := by
  have digits : (ofIndex index).toList = Nat.toDigits 10 index := String.toList_ofList
  have notEmpty : (Nat.toDigits 10 index).isEmpty = false := by
    simp [List.isEmpty_eq_false_iff, Nat.toDigits_ne_nil]
  have allDigits : (Nat.toDigits 10 index).all Char.isDigit := by
    rw [List.all_eq_true]
    intro c member
    exact Nat.isDigit_of_mem_toDigits (by decide) (by decide) member
  simp [index?, digits, notEmpty, allDigits, digits_value_to_digits, small]

theorem of_index_injective (first second : Nat) (same : ofIndex first = ofIndex second) :
    first = second := by
  have digits : Nat.toDigits 10 first = Nat.toDigits 10 second := by
    simpa [ofIndex] using congrArg String.toList same
  have values := congrArg digitsValue digits
  rwa [digits_value_to_digits, digits_value_to_digits] at values

theorem segment_of_index (index : Nat) : isSegment (ofIndex index) := by
  have digits : (ofIndex index).toList = Nat.toDigits 10 index := String.toList_ofList
  have noDot : '.' ∉ Nat.toDigits 10 index := by
    intro member
    have digit := Nat.isDigit_of_mem_toDigits (by decide) (by decide) member
    simp at digit
  have notEmpty : ofIndex index ≠ "" := by
    intro empty
    rw [empty] at digits
    exact Nat.toDigits_ne_nil digits.symm
  simp [isSegment, notEmpty, digits, noDot]

end LayeredConfig.Path
