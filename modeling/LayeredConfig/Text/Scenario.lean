import LayeredConfig.Json.Reader
import LayeredConfig.Text.Character

/-!
# Literals of scenarios

A scenario writes values as JSON, or as words with or without quotes around them.
-/
set_option autoImplicit false

namespace LayeredConfig.Text

/-- A text without the given quote at both ends; a single quote is no pair. -/
def stripQuote? (quote : Char) : List Char → Option (List Char)
  | c :: rest =>
      match rest.reverse with
      | last :: inner => if c = quote ∧ last = quote then some inner.reverse else none
      | [] => none
  | [] => none

/-- A text without one pair of outer quotes, double or single. -/
def unquoted (text : List Char) : List Char :=
  ((stripQuote? '"' text).or (stripQuote? '\'' text)).getD text

/-- The value of a literal: JSON where it is one, and otherwise a string. A literal that begins with a
single quote is a string. -/
def scalarOf (text : String) : Json :=
  let trimmed := trim text.toList
  let plain : Json := .string (String.ofList (unquoted trimmed))
  match trimmed with
  | '\'' :: _ => plain
  | _ => (Json.parse? (String.ofList trimmed)).getD plain

end LayeredConfig.Text
