import LayeredConfig.Json.Basic

/-!
# JSON texts as trees

`JsonText` keeps what a text says about itself and a document does not: the order of members and
their repetition, and literals that stand for no value. Reading a record looks at this tree,
writing a record produces it, and `Json.ofText?` and `Json.toText` pass to and from documents.
-/
set_option autoImplicit false

namespace LayeredConfig

/-- A JSON text. A number beyond the doubles and a string with an unpaired surrogate are literals
without a value. -/
inductive JsonText where
  | null
  | bool (value : Bool)
  | number (value : Option Number)
  | string (value : Option String)
  | array (items : List JsonText)
  | object (members : List (Option String × JsonText))
deriving Inhabited

namespace JsonText

def ofString (value : String) : JsonText :=
  .string (some value)

def ofInt (value : Int) : JsonText :=
  .number (some (.int value))

/-- An object of the members that are present, in the order given. -/
def ofMembers (members : List (String × Option JsonText)) : JsonText :=
  .object (members.filterMap fun (key, value) => value.map fun value => (some key, value))

def hexDigit (value : Nat) : Char :=
  Nat.digitChar value

/-- One character of a string literal: quotes, backslashes and control characters are escaped. -/
def escapeChar (c : Char) : List Char :=
  if c = '"' then ['\\', '"']
  else if c = '\\' then ['\\', '\\']
  else if c = '\x08' then ['\\', 'b']
  else if c = '\x0c' then ['\\', 'f']
  else if c = '\n' then ['\\', 'n']
  else if c = '\r' then ['\\', 'r']
  else if c = '\t' then ['\\', 't']
  else if c.toNat < 32 then ['\\', 'u', '0', '0', hexDigit (c.toNat / 16), hexDigit (c.toNat % 16)]
  else [c]

def quote (value : String) : List Char :=
  '"' :: value.toList.flatMap escapeChar ++ ['"']

mutual

/-- The compact text: no blanks, members in the order of the tree. A literal without a value is
written `null`. -/
def write : JsonText → List Char
  | .null => ['n', 'u', 'l', 'l']
  | .bool true => ['t', 'r', 'u', 'e']
  | .bool false => ['f', 'a', 'l', 's', 'e']
  | .number (some value) => value.toText.toList
  | .number none => ['n', 'u', 'l', 'l']
  | .string (some value) => quote value
  | .string none => ['n', 'u', 'l', 'l']
  | .array items => '[' :: writeItems items ++ [']']
  | .object members => '\x7b' :: writeMembers members ++ ['\x7d']

def writeItems : List JsonText → List Char
  | [] => []
  | [item] => write item
  | item :: rest => write item ++ ',' :: writeItems rest

def writeMembers : List (Option String × JsonText) → List Char
  | [] => []
  | [(key, value)] => quote (key.getD "") ++ ':' :: write value
  | (key, value) :: rest => quote (key.getD "") ++ ':' :: (write value ++ ',' :: writeMembers rest)

end

def render (text : JsonText) : String :=
  String.ofList text.write

end JsonText

namespace Json

mutual

/-- The document a text stands for, where every literal has a value and containers nest at most
`budget` deep. Of members with the same key the last one counts. -/
def ofText? : Nat → JsonText → Option Json
  | _, .null => some .null
  | _, .bool value => some (.bool value)
  | _, .number value => value.map .number
  | _, .string value => value.map .string
  | 0, .array _ => none
  | budget + 1, .array items => (ofTextItems? budget items).map .array
  | 0, .object _ => none
  | budget + 1, .object members =>
      (ofTextMembers? budget members).map fun pairs => .object (Members.ofList pairs)

def ofTextItems? : Nat → List JsonText → Option (List Json)
  | _, [] => some []
  | budget, item :: rest => do
      let item ← ofText? budget item
      let rest ← ofTextItems? budget rest
      pure (item :: rest)

def ofTextMembers? : Nat → List (Option String × JsonText) → Option (List (String × Json))
  | _, [] => some []
  | budget, (key, value) :: rest => do
      let key ← key
      let value ← ofText? budget value
      let rest ← ofTextMembers? budget rest
      pure ((key, value) :: rest)

end

mutual

def toText : Json → JsonText
  | .null => .null
  | .bool value => .bool value
  | .number value => .number (some value)
  | .string value => .string (some value)
  | .array items => .array (toTextItems items)
  | .object members => .object (toTextMembers members)

def toTextItems : List Json → List JsonText
  | [] => []
  | item :: rest => item.toText :: toTextItems rest

def toTextMembers : List (String × Json) → List (Option String × JsonText)
  | [] => []
  | (key, value) :: rest => (some key, value.toText) :: toTextMembers rest

end

end Json

end LayeredConfig
