import LayeredConfig.Double.Decimal
import LayeredConfig.Json.Merge

/-!
# Environment variables as documents

Variables whose names begin with a given text, in any case, make a document: the rest of the name in
lower case is a key, and a double underscore separates nested keys. Values are truth values, numbers
or lists where they look so, and strings otherwise.
-/
set_option autoImplicit false

namespace LayeredConfig.Environment

/-- The rest of a name after a beginning that is compared without regard to ASCII case. -/
def stripStart : List Char → List Char → Option (List Char)
  | [], name => some name
  | _ :: _, [] => none
  | c :: start, d :: name => if c.toLower = d.toLower then stripStart start name else none

def dotted : List Char → List Char
  | '_' :: '_' :: rest => '.' :: dotted rest
  | c :: rest => c :: dotted rest
  | [] => []

def pieces : List Char → List (List Char)
  | [] => [[]]
  | c :: rest =>
      match pieces rest with
      | [] => [[c]]
      | piece :: more => if c = '.' then [] :: piece :: more else (c :: piece) :: more

def isBlank (c : Char) : Bool :=
  c = ' ' || c = '\t' || c = '\n' || c = '\r' || c = '\x0c'

def trim (text : List Char) : List Char :=
  ((text.dropWhile isBlank).reverse.dropWhile isBlank).reverse

/-- The keys that a variable's name stands for. Names with an empty key stand for nothing. -/
def keys? (start name : String) : Option (List String) :=
  match stripStart start.toList (trim name.toList) with
  | none => none
  | some rest =>
      let keys := pieces ((trim (dotted rest)).map Char.toLower)
      if keys.any List.isEmpty then none else some (keys.map String.ofList)

def isSeparator (c : Char) : Bool :=
  c = ',' || c = '\x7b' || c = '\x7d' || c = '[' || c = ']'

/-- An integer of the signed or unsigned 64-bit range: a sign and digits. -/
def int? (text : List Char) : Option Int :=
  match Double.exponent? text with
  | some value => if Number.fits value then some value else none
  | none => none

/-- A plain value: a number with a point, an integer, or a string. A number beyond the doubles is
`null`, as no document can hold it. -/
def plain (text : List Char) : Json :=
  let fallback : Json :=
    match int? text with
    | some value => .ofInt value
    | none => .string (String.ofList text)
  if text.contains '.' then
    match Double.ofText? text with
    | some value => if value.isFinite then .number (.double value) else .null
    | none => fallback
  else fallback

def afterWord? : List Char → List Char → Option (List Char)
  | [], text => some text
  | _ :: _, [] => none
  | c :: word, d :: text => if c = d then afterWord? word text else none

mutual

/-- A value at the start of a text, and the rest. `fuel` bounds the nesting of lists. -/
def readValue : Nat → List Char → Option (Json × List Char)
  | 0, _ => none
  | fuel + 1, text =>
      let text := text.dropWhile isBlank
      match afterWord? "true".toList text, afterWord? "false".toList text, text with
      | some rest, _, _ => some (.bool true, rest.dropWhile isBlank)
      | _, some rest, _ => some (.bool false, rest.dropWhile isBlank)
      | _, _, '[' :: rest =>
          (readItems fuel rest).map fun (items, rest) => (.array items, rest.dropWhile isBlank)
      | _, _, _ =>
          some (plain (trim (text.takeWhile fun c => !isSeparator c)),
            (text.dropWhile fun c => !isSeparator c).dropWhile isBlank)

/-- The items of a list up to its end; a comma may stand after the last one. -/
def readItems : Nat → List Char → Option (List Json × List Char)
  | 0, _ => none
  | _ + 1, ']' :: rest => some ([], rest)
  | fuel + 1, text =>
      match readValue fuel text with
      | some (item, ',' :: rest) =>
          (readItems fuel rest).map fun (items, rest) => (item :: items, rest)
      | some (item, ']' :: rest) => some ([item], rest)
      | _ => none

end

/-- The value of a variable; a text that is no single value is a string. -/
def value (text : String) : Json :=
  match readValue (text.length + 1) text.toList with
  | some (document, []) => document
  | _ => .string text

def nest : List String → Json → Json
  | [], document => document
  | key :: rest, document => .object [(key, nest rest document)]

mutual

/-- The second document over the first: objects merge, anything else replaces. -/
def overlay : Json → Json → Json
  | .object below, .object above => .object (overlayMembers below above)
  | _, above => above

def overlayMembers :
    List (String × Json) → List (String × Json) → List (String × Json)
  | [], above => above
  | (key, value) :: rest, above =>
      let merged :=
        match Members.find? key above with
        | some other => overlay value other
        | none => value
      Members.insert key merged (overlayMembers rest above)

end

/-- An environment with one more variable set. A variable that is there keeps its place. -/
def assign (name text : String) : List (String × String) → List (String × String)
  | [] => [(name, text)]
  | (other, old) :: rest =>
      if other = name then (name, text) :: rest else (other, old) :: assign name text rest

def ofAssignments (assignments : List (String × String)) : List (String × String) :=
  assignments.foldl (fun environment (name, text) => assign name text environment) []

def document (start : String) (environment : List (String × String)) : Json :=
  environment.foldl
    (fun below (name, text) =>
      match keys? start name with
      | some keys => overlay below (nest keys (value text))
      | none => below)
    (.object [])

end LayeredConfig.Environment
