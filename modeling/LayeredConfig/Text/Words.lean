import LayeredConfig.Text.Character

/-!
# Words of an identifier

An identifier is split into words at every character that is neither letter nor number, between a
lower-case and an upper-case letter, and before the last letter of an upper-case run that a
lower-case letter follows. A naming convention is a way of writing the words in turn.
-/
set_option autoImplicit false

namespace LayeredConfig.Text

/-- The case of the last cased letter of a word so far. -/
inductive WordCase where
  | unknown
  | lower
  | upper
deriving DecidableEq, Repr

def WordCase.next (state : WordCase) (c : Char) : WordCase :=
  if isLowercase c then .lower
  else if isUppercase c then .upper
  else state

/-- Split a run of letters and numbers into words; `reversed` is the current word so far. -/
def splitRun (state : WordCase) (reversed : List Char) : List Char → List (List Char)
  | [] => if reversed.isEmpty then [] else [reversed.reverse]
  | [c] => [(c :: reversed).reverse]
  | c :: next :: rest =>
      let after := state.next c
      if after = .lower ∧ isUppercase next then
        (c :: reversed).reverse :: splitRun .unknown [] (next :: rest)
      else if state = .upper ∧ isUppercase c ∧ isLowercase next then
        reversed.reverse :: splitRun .unknown [c] (next :: rest)
      else splitRun after (c :: reversed) (next :: rest)

/-- The maximal runs of letters and numbers of a text, with an empty run between two other
characters. -/
def runsOf : List Char → List (List Char)
  | [] => [[]]
  | c :: rest =>
      if isAlphanumeric c then
        match runsOf rest with
        | [] => [[c]]
        | run :: more => (c :: run) :: more
      else [] :: runsOf rest

def words (name : List Char) : List (List Char) :=
  (runsOf name).flatMap (splitRun .unknown [])

/-- A word in lower case; a final sigma has a form of its own. -/
def lowerWord : List Char → List Char
  | [] => []
  | [c] => if c = 'Σ' then ['ς'] else lowerChar c
  | c :: rest => lowerChar c ++ lowerWord rest

def upperWord (word : List Char) : List Char :=
  word.flatMap upperChar

def capitalWord : List Char → List Char
  | [] => []
  | c :: rest => upperChar c ++ lowerWord rest

def joinWords (separator : Char) : List (List Char) → List Char
  | [] => []
  | [word] => word
  | word :: rest => word ++ separator :: joinWords separator rest

end LayeredConfig.Text
