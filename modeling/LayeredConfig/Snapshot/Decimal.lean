import LayeredConfig.Json.Number
import LayeredConfig.Snapshot.Type

/-!
# Integers in texts

Map keys are integers in their one canonical form. The parts of a dotted text are looser: they may
carry a plus sign and leading zeros.
-/
set_option autoImplicit false

namespace LayeredConfig.Snapshot

def signedValue (negative : Bool) (digits : List Char) : Int :=
  if negative then -(digitsValue digits) else digitsValue digits

def looseInt? (text : List Char) : Option Int :=
  let (negative, digits) :=
    match text with
    | '-' :: digits => (true, digits)
    | '+' :: digits => (false, digits)
    | digits => (false, digits)
  if digits.isEmpty || !digits.all Char.isDigit then none else some (signedValue negative digits)

/-- An integer of a range. A minus sign is refused where the range has no negative numbers, even
before zero. -/
def IntRange.loose? (range : IntRange) (text : List Char) : Option Int :=
  if range.least = 0 && text.head? = some '-' then none
  else
    match looseInt? text with
    | some value => if range.contains value then some value else none
    | none => none

def IntRange.canonical? (range : IntRange) (text : String) : Option Int :=
  match looseInt? text.toList with
  | some value =>
      if range.contains value && Number.intText value = text then some value else none
  | none => none

end LayeredConfig.Snapshot
