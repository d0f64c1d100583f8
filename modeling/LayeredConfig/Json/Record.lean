import LayeredConfig.Json.Reader

/-!
# Reading records from JSON texts

A record is read from an object, where each known member occurs at most once and unknown members
are ignored whatever they hold, or from an array of its members in order.
-/
set_option autoImplicit false

namespace LayeredConfig.JsonText

/-- The value of a member that occurs at most once, `some none` when it is absent. -/
def member? (name : String) (members : List (Option String × JsonText)) :
    Option (Option JsonText) :=
  match members.filter fun member => member.1 = some name with
  | [] => some none
  | [(_, value)] => some (some value)
  | _ => none

def fields? (names : List String) : JsonText → Option (List (Option JsonText))
  | .object members =>
      if members.all fun member => member.1.isSome then
        names.mapM fun name => member? name members
      else none
  | .array items =>
      if items.length ≤ names.length then
        some (items.map some ++ List.replicate (names.length - items.length) none)
      else none
  | _ => none

def readString : JsonText → Option String
  | .string value => value
  | _ => none

def readBool : JsonText → Option Bool
  | .bool value => some value
  | _ => none

def readSigned : JsonText → Option Int
  | .number (some (.int value)) => if value ≤ Number.maxSigned then some value else none
  | _ => none

/-- A map from keys to values, where of repeated keys the last counts. -/
def readMembers {α : Type} (read : JsonText → Option α) : JsonText → Option (Members α)
  | .object members => do
      let pairs ← members.mapM fun (key, value) => do
        let key ← key
        let value ← read value
        pure (key, value)
      pure (Members.ofList pairs)
  | _ => none

def readList {α : Type} (read : JsonText → Option α) : JsonText → Option (List α)
  | .array items => items.mapM read
  | _ => none

/-- An absent member takes a default, a present one must be readable. -/
def readOr {α : Type} (default : α) (read : JsonText → Option α) :
    Option JsonText → Option α
  | none => some default
  | some text => read text

def readRequired {α : Type} (read : JsonText → Option α) : Option JsonText → Option α
  | none => none
  | some text => read text

def writeNonEmpty (value : String) : Option JsonText :=
  if value = "" then none else some (ofString value)

def writeNonEmptyMembers (members : Members Json) : Option JsonText :=
  if members.isEmpty then none else some (Json.object members).toText

end LayeredConfig.JsonText
