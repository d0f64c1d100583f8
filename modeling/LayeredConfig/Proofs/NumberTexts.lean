import LayeredConfig.Json.Reader
import LayeredConfig.Proofs.PathText
import Mathlib.Data.List.TakeWhile
import Mathlib.Order.Lattice
import Mathlib.Tactic.SplitIfs

/-!
# The texts of numbers

What is read as a number literal consists of number characters, so that it ends where none follows. An
integer of the 64-bit ranges is written in digits that read back as the same integer. That a double reads
back is a property of the double: it is written for a reader that rounds once, and the reader of documents
may round twice.
-/
set_option autoImplicit false

namespace LayeredConfig

namespace Literal

open JsonText (isNumberChar)

theorem number_chars_of_digits (digits : List Char) (all : digits.all Char.isDigit) :
    ∀ c ∈ digits, isNumberChar c := by
  intro c member
  have digit := List.all_eq_true.1 all c member
  simp [isNumberChar, digit]

theorem number_chars_of_span (text : List Char)
    (rest : ∀ c ∈ text.dropWhile Char.isDigit, isNumberChar c) : ∀ c ∈ text, isNumberChar c := by
  rw [← List.takeWhile_append_dropWhile (p := Char.isDigit) (l := text)]
  exact List.forall_mem_append.2 ⟨number_chars_of_digits _ List.all_takeWhile, rest⟩

theorem chars_of_exponent (text : List Char) (exponent : Option Exponent)
    (read : readExponent text = some exponent) : ∀ c ∈ text, isNumberChar c := by
  cases text with
  | nil => exact List.forall_mem_nil _
  | cons mark rest =>
      simp only [readExponent] at read
      split_ifs at read with marked digits
      have here : isNumberChar mark := by rcases marked with rfl | rfl <;> rfl
      refine List.forall_mem_cons.2 ⟨here, ?_⟩
      split at digits
      all_goals
        have all := number_chars_of_digits _ (by simpa using (not_or.1 digits).2)
      · exact List.forall_mem_cons.2 ⟨rfl, all⟩
      · exact List.forall_mem_cons.2 ⟨rfl, all⟩
      · exact all

theorem chars_of_unsigned (negative : Bool) (text : List Char) (literal : Literal)
    (read : readUnsigned negative text = some literal) :
    (∀ c ∈ text, isNumberChar c) ∧ ∃ first rest, text = first :: rest ∧ first.isDigit := by
  unfold readUnsigned spanDigits at read
  dsimp only at read
  split_ifs at read with proper
  constructor
  · apply number_chars_of_span
    split at read
    · split_ifs at read
      rename_i fraction pointed _
      obtain ⟨exponent, found, -⟩ := Option.map_eq_some_iff.1 read
      rw [pointed]
      refine List.forall_mem_cons.2 ⟨rfl, ?_⟩
      exact number_chars_of_span fraction (chars_of_exponent _ exponent found)
    · obtain ⟨exponent, found, -⟩ := Option.map_eq_some_iff.1 read
      exact chars_of_exponent _ exponent found
  · cases text with
    | nil => exact absurd (Or.inl rfl) proper
    | cons first rest =>
        refine ⟨first, rest, rfl, ?_⟩
        by_contra other
        exact proper (Or.inl (by simp [other]))

/-- What is read as a literal consists of number characters and starts with a digit or a minus. -/
theorem chars_of_read (text : List Char) (literal : Literal) (read : read? text = some literal) :
    (∀ c ∈ text, isNumberChar c) ∧
      ∃ first rest, text = first :: rest ∧ (first.isDigit ∨ first = '-') := by
  unfold read? at read
  split at read
  · obtain ⟨chars, -⟩ := chars_of_unsigned _ _ _ read
    exact ⟨List.forall_mem_cons.2 ⟨rfl, chars⟩, _, _, rfl, Or.inr rfl⟩
  · obtain ⟨chars, first, rest, same, digit⟩ := chars_of_unsigned _ _ _ read
    exact ⟨chars, first, rest, same, Or.inl digit⟩

theorem first_digit (value : Nat) (positive : 0 < value) (first : Char) (rest : List Char)
    (digits : Nat.toDigits 10 value = first :: rest) : first ≠ '0' := by
  induction value using Nat.strongRecOn generalizing first rest with
  | ind value ih =>
      rw [Nat.toDigits_eq_if (by decide)] at digits
      split at digits
      · rename_i small
        obtain ⟨rfl, -⟩ := List.cons.inj digits
        have nonzero : ∀ digit, digit < 10 → 0 < digit → Nat.digitChar digit ≠ '0' := by decide
        exact nonzero value small positive
      · rename_i large
        obtain ⟨head, tail, upper⟩ := List.exists_cons_of_ne_nil
          (Nat.toDigits_ne_nil (n := value / 10) (b := 10))
        rw [upper] at digits
        obtain ⟨rfl, -⟩ := List.cons.inj digits
        exact ih (value / 10) (by omega) (by omega) head tail upper

theorem read_digits (negative : Bool) (value : Nat) :
    readUnsigned negative (Nat.toDigits 10 value) =
      some ⟨negative, Nat.toDigits 10 value, none, none⟩ := by
  have all : ∀ c ∈ Nat.toDigits 10 value, c.isDigit := fun c member =>
    Nat.isDigit_of_mem_toDigits (by decide) (by decide) member
  unfold readUnsigned spanDigits
  dsimp only
  rw [List.takeWhile_eq_self_iff.2 all, List.dropWhile_eq_nil_iff.2 all, if_neg]
  · rfl
  · rintro (empty | leading)
    · exact Nat.toDigits_ne_nil (List.isEmpty_iff.1 empty)
    · split at leading
      · rename_i digits
        rcases Nat.eq_zero_or_pos value with rfl | positive
        · simp at digits
        · exact first_digit value positive _ _ digits rfl
      · cases leading

theorem read_natural (value : Nat) :
    read? (Nat.toDigits 10 value) = some ⟨false, Nat.toDigits 10 value, none, none⟩ := by
  have digits := read_digits false value
  unfold read?
  split
  · rename_i text same
    have digit := Nat.isDigit_of_mem_toDigits (b := 10) (n := value) (c := '-') (by decide) (by decide)
      (by simp [same])
    cases digit
  · exact digits

end Literal

namespace Number

theorem accumulate_digits (digits : List Char) (significand : Nat)
    (small : digits.foldl (fun value c => value * 10 + digitValue c) significand ≤ maxSignificand) :
    accumulate significand digits =
      (digits.foldl (fun value c => value * 10 + digitValue c) significand, []) := by
  have grows : ∀ (rest : List Char) (start : Nat),
      start ≤ rest.foldl (fun value c => value * 10 + digitValue c) start := by
    intro rest
    induction rest with
    | nil => exact fun start => le_rfl
    | cons c rest ih =>
        intro start
        have next := ih (start * 10 + digitValue c)
        rw [List.foldl_cons]
        omega
  induction digits generalizing significand with
  | nil => rfl
  | cons c rest ih =>
      rw [List.foldl_cons] at small ⊢
      have fits := (grows rest _).trans small
      rw [accumulate, if_pos fits, ih _ small]

theorem of_integer_literal (negative : Bool) (value : Nat) (small : value ≤ maxSignificand) :
    ofLiteral? ⟨negative, Nat.toDigits 10 value, none, none⟩ = some (ofInteger negative value) := by
  have whole := Path.digits_value_to_digits value
  unfold digitsValue at whole
  have exact := accumulate_digits (Nat.toDigits 10 value) 0 (by rw [whole]; exact small)
  rw [whole] at exact
  simp only [ofLiteral?, exact]

def ReadsBack (number : Number) : Prop :=
  (Literal.read? number.toText.toList).map ofLiteral? = some (some number)

instance (number : Number) : Decidable number.ReadsBack :=
  inferInstanceAs (Decidable (_ = _))

theorem integer_reads_back (value : Int) (fitting : fits value) : (int value).ReadsBack := by
  have range : minInt ≤ value ∧ value ≤ maxInt := by simpa [fits] using fitting
  simp only [minInt, maxInt] at range
  have small : value.natAbs ≤ maxSignificand := by
    simp only [maxSignificand]
    omega
  simp only [ReadsBack, toText, intText, String.toList_ofList]
  split
  · rename_i below
    rw [Literal.read?, Literal.read_digits, Option.map_some, of_integer_literal _ _ small]
    have exact : ¬ (value.natAbs = 0 ∨ -(value.natAbs : Int) < minInt) := by
      simp only [minInt]
      omega
    have same : -(value.natAbs : Int) = value := by omega
    simp only [ofInteger, Bool.not_true, Bool.false_eq_true, if_false]
    rw [if_neg exact, same]
  · rw [Literal.read_natural, Option.map_some, of_integer_literal _ _ small]
    have same : (value.natAbs : Int) = value := by omega
    simp only [ofInteger, Bool.not_false, if_true, same]

end Number

end LayeredConfig
