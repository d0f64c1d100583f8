import LayeredConfig.Text.Words

/-!
# Naming rules for members

A type may state one rule by which the names of its fields become the keys of the written document.
The rule is read in two ways: `memberKey` respells a name character by character, as the writer of
documents does, and `pathKey` respells it word by word, as the description of paths does. The two
agree on names of lower-case words joined by single underscores.
-/
set_option autoImplicit false

namespace LayeredConfig

inductive NamingRule where
  | lower
  | upper
  | pascal
  | camel
  | snake
  | screamingSnake
  | kebab
  | screamingKebab
deriving DecidableEq, Repr

namespace NamingRule

/-- All rules, in the order in which they are listed to the user. -/
def all : List NamingRule :=
  [.lower, .upper, .pascal, .camel, .snake, .screamingSnake, .kebab, .screamingKebab]

/-- The name of a rule, written in its own convention. -/
def label : NamingRule → String
  | .lower => "lowercase"
  | .upper => "UPPERCASE"
  | .pascal => "PascalCase"
  | .camel => "camelCase"
  | .snake => "snake_case"
  | .screamingSnake => "SCREAMING_SNAKE_CASE"
  | .kebab => "kebab-case"
  | .screamingKebab => "SCREAMING-KEBAB-CASE"

def ofLabel? (text : String) : Option NamingRule :=
  all.find? fun rule => rule.label = text

def asciiLower (name : List Char) : List Char :=
  name.map Char.toLower

def asciiUpper (name : List Char) : List Char :=
  name.map Char.toUpper

/-- Underscores are dropped and the letter after each is put in upper case, as is the next letter
when `capital` holds. -/
def dropUnderscores (capital : Bool) : List Char → List Char
  | [] => []
  | c :: rest =>
      if c = '_' then dropUnderscores true rest
      else (if capital then c.toUpper else c) :: dropUnderscores false rest

def hyphenate (name : List Char) : List Char :=
  name.map fun c => if c = '_' then '-' else c

def lowerFirst : List Char → List Char
  | [] => []
  | c :: rest => c.toLower :: rest

def memberChars : NamingRule → List Char → List Char
  | .lower, name => name
  | .upper, name => asciiUpper name
  | .pascal, name => dropUnderscores true name
  | .camel, name => lowerFirst (dropUnderscores true name)
  | .snake, name => name
  | .screamingSnake, name => asciiUpper name
  | .kebab, name => hyphenate name
  | .screamingKebab, name => hyphenate (asciiUpper name)

/-- The key of a name, word by word; the two plain rules change ASCII letters only. -/
def pathChars : NamingRule → List Char → List Char
  | .lower, name => asciiLower name
  | .upper, name => asciiUpper name
  | .pascal, name => (Text.words name).flatMap Text.capitalWord
  | .camel, name =>
      match Text.words name with
      | [] => []
      | word :: rest => Text.lowerWord word ++ rest.flatMap Text.capitalWord
  | .snake, name => Text.joinWords '_' ((Text.words name).map Text.lowerWord)
  | .screamingSnake, name => Text.joinWords '_' ((Text.words name).map Text.upperWord)
  | .kebab, name => Text.joinWords '-' ((Text.words name).map Text.lowerWord)
  | .screamingKebab, name => Text.joinWords '-' ((Text.words name).map Text.upperWord)

def memberKey (rule : NamingRule) (name : String) : String :=
  String.ofList (rule.memberChars name.toList)

def pathKey (rule : NamingRule) (name : String) : String :=
  String.ofList (rule.pathChars name.toList)

end NamingRule

end LayeredConfig
