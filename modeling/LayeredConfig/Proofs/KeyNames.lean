import LayeredConfig.Naming

/-!
# Keys of conventional names

A naming rule is read in two ways, character by character and word by word. On a name made of words of
lower-case letters and digits, with single underscores between them, the words are found again as they
were joined: no boundary but the underscores is seen, since no letter is in upper case. Both readings then
respell the same words.
-/
set_option autoImplicit false

namespace LayeredConfig

namespace Text

/-- The characters of a conventional name, its underscores apart: lower-case ASCII letters and digits. -/
def Plain (c : Char) : Prop :=
  c.isLower ∨ c.isDigit

instance (c : Char) : Decidable (Plain c) :=
  inferInstanceAs (Decidable (_ ∨ _))

/-- What the two readings of a rule ask of a character. -/
structure Plain.Spelled (c : Char) : Prop where
  alphanumeric : isAlphanumeric c
  notUpper : isUppercase c = false
  lower : lowerChar c = [c]
  upper : upperChar c = [c.toUpper]
  asciiLower : c.toLower = c
  back : c.toUpper.toLower = c
  noUnderscore : c ≠ '_'
  upperNoUnderscore : c.toUpper ≠ '_'
  noSigma : c ≠ 'Σ'

theorem ascii_of_plain (c : Char) (plain : Plain c) : c.toNat < 128 := by
  rcases plain with lower | digit
  · have within : (decide (97 ≤ c.val) && decide (c.val ≤ 122)) = true := lower
    simp only [Bool.and_eq_true, decide_eq_true_eq] at within
    have bound : c.toNat ≤ 122 := UInt32.le_iff_toNat_le.1 within.2
    omega
  · simp only [Char.isDigit, Bool.and_eq_true, decide_eq_true_eq] at digit
    have bound : c.toNat ≤ 57 := UInt32.le_iff_toNat_le.1 digit.2
    omega

theorem plain_spelled (c : Char) (plain : Plain c) : Plain.Spelled c := by
  have all : ∀ code : Fin 128, Plain (Char.ofNat code) →
      isAlphanumeric (Char.ofNat code) ∧ isUppercase (Char.ofNat code) = false ∧
        lowerChar (Char.ofNat code) = [Char.ofNat code] ∧
        upperChar (Char.ofNat code) = [(Char.ofNat code).toUpper] ∧
        (Char.ofNat code).toLower = Char.ofNat code ∧
        (Char.ofNat code).toUpper.toLower = Char.ofNat code ∧
        Char.ofNat code ≠ '_' ∧ (Char.ofNat code).toUpper ≠ '_' ∧ Char.ofNat code ≠ 'Σ' := by
    decide
  have facts := all ⟨c.toNat, ascii_of_plain c plain⟩
  simp only [Char.ofNat_toNat] at facts
  obtain ⟨alphanumeric, notUpper, lower, upper, asciiLower, back, noUnderscore, upperNoUnderscore,
    noSigma⟩ := facts plain
  exact ⟨alphanumeric, notUpper, lower, upper, asciiLower, back, noUnderscore, upperNoUnderscore,
    noSigma⟩

def PlainWord (word : List Char) : Prop :=
  word ≠ [] ∧ ∀ c ∈ word, Plain c

theorem runs_of_word (word : List Char) (plain : ∀ c ∈ word, Plain c) : runsOf word = [word] := by
  induction word with
  | nil => rfl
  | cons c word ih =>
      obtain ⟨head, tail⟩ := List.forall_mem_cons.1 plain
      simp [runsOf, (plain_spelled c head).alphanumeric, ih tail]

theorem runs_of_append (word rest : List Char) (plain : ∀ c ∈ word, Plain c) :
    runsOf (word ++ '_' :: rest) = word :: runsOf rest := by
  induction word with
  | nil =>
      have separator : isAlphanumeric '_' = false := by decide
      simp [runsOf, separator]
  | cons c word ih =>
      obtain ⟨head, tail⟩ := List.forall_mem_cons.1 plain
      simp [runsOf, (plain_spelled c head).alphanumeric, ih tail]

theorem runs_of_joined (words : List (List Char)) (nonempty : words ≠ [])
    (plain : ∀ word ∈ words, PlainWord word) : runsOf (joinWords '_' words) = words := by
  induction words with
  | nil => exact absurd rfl nonempty
  | cons word rest ih =>
      obtain ⟨head, tail⟩ := List.forall_mem_cons.1 plain
      cases rest with
      | nil => exact runs_of_word word head.2
      | cons next more => rw [joinWords, runs_of_append word _ head.2, ih (by simp) tail]; simp

theorem split_run_unbroken (state : WordCase) (reversed word : List Char) (nonempty : word ≠ [])
    (noUpper : ∀ c ∈ word, isUppercase c = false) :
    splitRun state reversed word = [reversed.reverse ++ word] := by
  fun_induction splitRun state reversed word with
  | case1 => exact absurd rfl nonempty
  | case2 => exact absurd rfl nonempty
  | case3 => simp
  | case4 => simp_all
  | case5 => simp_all
  | case6 => simp_all

theorem words_of_joined (words : List (List Char)) (nonempty : words ≠ [])
    (plain : ∀ word ∈ words, PlainWord word) : Text.words (joinWords '_' words) = words := by
  rw [Text.words, runs_of_joined words nonempty plain]
  have whole (word : List Char) (member : word ∈ words) : splitRun .unknown [] word = [word] := by
    obtain ⟨wordNonempty, chars⟩ := plain word member
    refine split_run_unbroken .unknown [] word wordNonempty ?_
    exact fun c inWord => (plain_spelled c (chars c inWord)).notUpper
  rw [List.flatMap_def, List.map_congr_left whole, ← List.flatMap_def]
  exact List.flatMap_singleton' words

theorem lower_word_plain (word : List Char) (plain : ∀ c ∈ word, Plain c) : lowerWord word = word := by
  induction word with
  | nil => rfl
  | cons c word ih =>
      obtain ⟨head, tail⟩ := List.forall_mem_cons.1 plain
      have spelled := plain_spelled c head
      cases word with
      | nil => simp [lowerWord, spelled.noSigma, spelled.lower]
      | cons next more => rw [lowerWord, spelled.lower, ih tail]; simp; simp

theorem upper_word_plain (word : List Char) (plain : ∀ c ∈ word, Plain c) :
    upperWord word = word.map Char.toUpper := by
  induction word with
  | nil => rfl
  | cons c word ih =>
      obtain ⟨head, tail⟩ := List.forall_mem_cons.1 plain
      have rest : word.flatMap upperChar = word.map Char.toUpper := ih tail
      simp [upperWord, (plain_spelled c head).upper, rest]

theorem capital_word_plain (c : Char) (word : List Char) (plain : ∀ d ∈ c :: word, Plain d) :
    capitalWord (c :: word) = c.toUpper :: word := by
  obtain ⟨head, tail⟩ := List.forall_mem_cons.1 plain
  simp [capitalWord, (plain_spelled c head).upper, lower_word_plain word tail]

theorem map_joined (respell : Char → Char) (separator : Char) (words : List (List Char)) :
    (joinWords separator words).map respell =
      joinWords (respell separator) (words.map (List.map respell)) := by
  induction words with
  | nil => rfl
  | cons word rest ih =>
      cases rest with
      | nil => rfl
      | cons next more =>
          rw [joinWords, List.map_append, List.map_cons, ih]
          · rfl
          · simp

end Text

namespace NamingRule

open Text

/-- A name of one or more words of lower-case ASCII letters and digits, with single underscores between.
It may start with a digit, which a name in a program may not. -/
def Conventional (name : String) : Prop :=
  ∃ words, words ≠ [] ∧ (∀ word ∈ words, PlainWord word) ∧ name.toList = joinWords '_' words

theorem drop_underscores_word (word rest : List Char) (plain : ∀ c ∈ word, Plain c) :
    dropUnderscores false (word ++ rest) = word ++ dropUnderscores false rest := by
  induction word with
  | nil => rfl
  | cons c word ih =>
      obtain ⟨head, tail⟩ := List.forall_mem_cons.1 plain
      simp [dropUnderscores, (plain_spelled c head).noUnderscore, ih tail]

/-- Dropping the underscores and raising the letter after each capitalises every word. -/
theorem drop_underscores_joined (words : List (List Char)) (plain : ∀ word ∈ words, PlainWord word) :
    dropUnderscores true (joinWords '_' words) = words.flatMap capitalWord := by
  induction words with
  | nil => rfl
  | cons word rest ih =>
      obtain ⟨⟨nonempty, head⟩, tail⟩ := List.forall_mem_cons.1 plain
      cases word with
      | nil => exact absurd rfl nonempty
      | cons c word =>
          obtain ⟨first, others⟩ := List.forall_mem_cons.1 head
          have noUnderscore := (plain_spelled c first).noUnderscore
          have capital := capital_word_plain c word head
          cases rest with
          | nil =>
              have kept := drop_underscores_word word [] others
              simp_all [joinWords, dropUnderscores]
          | cons next more =>
              rw [joinWords, List.cons_append, dropUnderscores, if_neg noUnderscore,
                drop_underscores_word word _ others, dropUnderscores, if_pos rfl, ih tail]
              · simp [capital]
              · simp

theorem respell_words (first second : Char → Char) (words : List (List Char))
    (plain : ∀ word ∈ words, PlainWord word) (agree : ∀ c, Plain c → first c = second c) :
    words.map (List.map first) = words.map (List.map second) := by
  apply List.map_congr_left
  intro word member
  exact List.map_congr_left fun c inWord => agree c ((plain word member).2 c inWord)

theorem lower_words (words : List (List Char)) (plain : ∀ word ∈ words, PlainWord word) :
    words.map lowerWord = words := by
  have each (word : List Char) (member : word ∈ words) : lowerWord word = id word :=
    lower_word_plain word (plain word member).2
  rw [List.map_congr_left each, List.map_id]

theorem path_chars_joined (rule : NamingRule) (words : List (List Char)) (nonempty : words ≠ [])
    (plain : ∀ word ∈ words, PlainWord word) :
    rule.pathChars (joinWords '_' words) = rule.memberChars (joinWords '_' words) := by
  have found := words_of_joined words nonempty plain
  have capitals : words.map upperWord = words.map (List.map Char.toUpper) :=
    List.map_congr_left fun word member => upper_word_plain word (plain word member).2
  cases rule with
  | lower =>
      have kept := respell_words Char.toLower id words plain
        fun c spelled => (plain_spelled c spelled).asciiLower
      show (joinWords '_' words).map Char.toLower = joinWords '_' words
      rw [map_joined, kept]
      simp
  | upper => rfl
  | pascal =>
      show (Text.words (joinWords '_' words)).flatMap capitalWord = _
      rw [found]
      exact (drop_underscores_joined words plain).symm
  | camel =>
      simp only [pathChars, memberChars, found, drop_underscores_joined words plain]
      cases words with
      | nil => exact absurd rfl nonempty
      | cons word rest =>
          obtain ⟨⟨wordNonempty, chars⟩, -⟩ := List.forall_mem_cons.1 plain
          cases word with
          | nil => exact absurd rfl wordNonempty
          | cons c word =>
              have back := (plain_spelled c (chars c (by simp))).back
              simp only [List.flatMap_cons, capital_word_plain c word chars, List.cons_append,
                lowerFirst, back, lower_word_plain _ chars]
  | snake => simp only [pathChars, memberChars, found, lower_words words plain]
  | screamingSnake =>
      simp only [pathChars, memberChars, found, asciiUpper, map_joined, capitals]
      rfl
  | kebab =>
      have kept := respell_words (fun c => if c = '_' then '-' else c) id words plain
        fun c spelled => if_neg (plain_spelled c spelled).noUnderscore
      simp only [pathChars, memberChars, found, lower_words words plain, hyphenate, map_joined, kept]
      simp
  | screamingKebab =>
      have kept := respell_words ((fun c => if c = '_' then '-' else c) ∘ Char.toUpper) Char.toUpper
        words plain fun c spelled => if_neg (plain_spelled c spelled).upperNoUnderscore
      show joinWords '-' ((Text.words (joinWords '_' words)).map upperWord) =
        ((joinWords '_' words).map Char.toUpper).map fun c => if c = '_' then '-' else c
      rw [List.map_map, map_joined, kept, found, capitals]
      rfl

/-- The two readings of every rule give a conventional name the same key. -/
theorem conventional_keys_agree (rule : NamingRule) (name : String) (conventional : Conventional name) :
    rule.pathKey name = rule.memberKey name := by
  obtain ⟨words, nonempty, plain, joined⟩ := conventional
  rw [pathKey, memberKey, joined, path_chars_joined rule words nonempty plain]

/-- A word that starts with a digit is no exception. -/
theorem second_item_keys_agree :
    Conventional "max_items_2nd" ∧
      (∀ rule : NamingRule, rule.pathKey "max_items_2nd" = rule.memberKey "max_items_2nd") ∧
      NamingRule.camel.pathKey "max_items_2nd" = "maxItems2nd" ∧
      NamingRule.screamingKebab.pathKey "max_items_2nd" = "MAX-ITEMS-2ND" := by
  have plain : ∀ word ∈ [['m', 'a', 'x'], ['i', 't', 'e', 'm', 's'], ['2', 'n', 'd']],
      PlainWord word := by
    simp [PlainWord, Plain]
  have conventional : Conventional "max_items_2nd" := ⟨_, by simp, plain, rfl⟩
  have agree (rule : NamingRule) := conventional_keys_agree rule "max_items_2nd" conventional
  refine ⟨conventional, agree, ?_, ?_⟩
  · rw [agree]
    rfl
  · rw [agree]
    rfl

end NamingRule

end LayeredConfig
