import LayeredConfig.Double.Decimal
import LayeredConfig.Json.Members
import LayeredConfig.Json.Reader

/-!
# TOML documents

A document is read line by line: table headers, keys with values, comments and empty lines. A key may
be dotted. Keys and tables are defined once.
-/
set_option autoImplicit false

namespace LayeredConfig.Toml

def isBlank (c : Char) : Bool :=
  c = ' ' || c = '\t'

def skip (text : List Char) : List Char :=
  text.dropWhile isBlank

/-- Whether nothing but blanks and a comment is left of a line. -/
def isDone (text : List Char) : Bool :=
  match skip text with
  | [] => true
  | '#' :: _ => true
  | _ => false

def hexValue? (digits : List Char) : Option Nat :=
  digits.foldlM (fun value c => (JsonText.hexValue? c).map fun digit => value * 16 + digit) 0

def charOf? (code : Nat) : Option Char :=
  if h : code.isValidChar then some (Char.ofNatAux code h) else none

def escaped? (c : Char) : Option Char :=
  if c = '/' then none else JsonText.escaped? c

def readBasic : List Char → Option (List Char × List Char)
  | [] => none
  | '"' :: rest => some ([], rest)
  | '\\' :: 'u' :: a :: b :: c :: d :: rest => do
      let char ← (hexValue? [a, b, c, d]).bind charOf?
      let (text, rest) ← readBasic rest
      pure (char :: text, rest)
  | '\\' :: 'U' :: a :: b :: c :: d :: e :: f :: g :: h :: rest => do
      let char ← (hexValue? [a, b, c, d, e, f, g, h]).bind charOf?
      let (text, rest) ← readBasic rest
      pure (char :: text, rest)
  | '\\' :: c :: rest => do
      let char ← escaped? c
      let (text, rest) ← readBasic rest
      pure (char :: text, rest)
  | c :: rest =>
      if (c.toNat < 32 && c ≠ '\t') || c.toNat = 127 then none
      else (readBasic rest).map fun (text, rest) => (c :: text, rest)

def readLiteral : List Char → Option (List Char × List Char)
  | [] => none
  | '\'' :: rest => some ([], rest)
  | c :: rest =>
      if (c.toNat < 32 && c ≠ '\t') || c.toNat = 127 then none
      else (readLiteral rest).map fun (text, rest) => (c :: text, rest)

def digits? (isDigit : Char → Bool) : List Char → Option (List Char)
  | [] => none
  | [c] => if isDigit c then some [c] else none
  | c :: '_' :: rest => if isDigit c then (digits? isDigit rest).map (c :: ·) else none
  | c :: rest => if isDigit c then (digits? isDigit rest).map (c :: ·) else none

def valueIn (base : Nat) (digits : List Char) : Nat :=
  digits.foldl (fun value c => value * base + (JsonText.hexValue? c).getD 0) 0

def isDigitIn (base : Nat) (c : Char) : Bool :=
  match JsonText.hexValue? c with
  | some digit => digit < base
  | none => false

/-- The document of an integer, which has to be of the signed 64-bit range. -/
def ofInteger (value : Int) : Option Json :=
  if Number.minInt ≤ value ∧ value ≤ Number.maxSigned then some (.ofInt value) else none

def decimal? (text : List Char) : Option (List Char) :=
  match digits? Char.isDigit text with
  | some ('0' :: _ :: _) => none
  | found => found

/-- The document of a decimal. One above the doubles is refused; one below them is `null`, as every
number that no document can hold. -/
def ofDouble (negative : Bool) (value : Double) : Option Json :=
  if value.isFinite then some (.number (.double value))
  else if negative then some .null
  else none

/-- A number without a base mark: an integer, or a decimal with a fraction or an exponent. -/
def readDecimal (negative : Bool) (text : List Char) : Option Json :=
  let isMark (c : Char) : Bool := c = 'e' || c = 'E'
  let mantissa := text.takeWhile fun c => !isMark c
  let mark := text.dropWhile fun c => !isMark c
  let whole := mantissa.takeWhile (· ≠ '.')
  let exponent? : Option Int :=
    match mark with
    | [] => some 0
    | _ :: rest => Double.exponent? (rest.filter (· ≠ '_'))
  match decimal? whole, mantissa.dropWhile (· ≠ '.'), mark, exponent? with
  | some whole, [], [], _ =>
      ofInteger (if negative then -(digitsValue whole) else digitsValue whole)
  | some whole, [], _, some exponent =>
      ofDouble negative (Double.ofDigits negative whole [] exponent)
  | some whole, _ :: fraction, _, some exponent =>
      (digits? Char.isDigit fraction).bind fun fraction =>
        ofDouble negative (Double.ofDigits negative whole fraction exponent)
  | _, _, _, _ => none

def readBased (base : Nat) (text : List Char) : Option Json :=
  (digits? (isDigitIn base) text).bind fun digits => ofInteger (valueIn base digits)

/-- A number after its sign: one with digits, or a word for one that no document can hold. -/
def readNumber (negative : Bool) : List Char → Option Json
  | ['i', 'n', 'f'] | ['n', 'a', 'n'] => some .null
  | text => readDecimal negative text

def readScalar : List Char → Option Json
  | ['t', 'r', 'u', 'e'] => some (.bool true)
  | ['f', 'a', 'l', 's', 'e'] => some (.bool false)
  | '0' :: 'x' :: digits => readBased 16 digits
  | '0' :: 'o' :: digits => readBased 8 digits
  | '0' :: 'b' :: digits => readBased 2 digits
  | '-' :: text => readNumber true text
  | '+' :: text => readNumber false text
  | text => readNumber false text

def endsScalar (c : Char) : Bool :=
  isBlank c || c = ',' || c = ']' || c = '\x7d' || c = '#'

mutual

/-- A value at the start of a text, and the rest. `fuel` bounds the nesting of lists. -/
def readValue : Nat → List Char → Option (Json × List Char)
  | 0, _ => none
  | fuel + 1, text =>
      match text with
      | '"' :: rest => (readBasic rest).map fun (text, rest) => (.string (String.ofList text), rest)
      | '\'' :: rest =>
          (readLiteral rest).map fun (text, rest) => (.string (String.ofList text), rest)
      | '[' :: rest => (readItems fuel (skip rest)).map fun (items, rest) => (.array items, rest)
      | text =>
          (readScalar (text.takeWhile fun c => !endsScalar c)).map fun value =>
            (value, text.dropWhile fun c => !endsScalar c)

/-- The items of a list up to its end; a comma may stand after the last one. -/
def readItems : Nat → List Char → Option (List Json × List Char)
  | 0, _ => none
  | _ + 1, ']' :: rest => some ([], rest)
  | fuel + 1, text =>
      match readValue fuel text with
      | none => none
      | some (item, rest) =>
          match skip rest with
          | ',' :: rest =>
              (readItems fuel (skip rest)).map fun (items, rest) => (item :: items, rest)
          | ']' :: rest => some ([item], rest)
          | _ => none

end

def isKeyChar (c : Char) : Bool :=
  c.isAlphanum || c = '_' || c = '-'

def readKeyPart : List Char → Option (List Char × List Char)
  | '"' :: rest => readBasic rest
  | '\'' :: rest => readLiteral rest
  | text =>
      let part := text.takeWhile isKeyChar
      if part.isEmpty then none else some (part, text.dropWhile isKeyChar)

/-- The parts of a key, and the rest. `fuel` bounds their number. -/
def readKey : Nat → List Char → Option (List String × List Char)
  | 0, _ => none
  | fuel + 1, text => do
      let (part, rest) ← readKeyPart (skip text)
      let rest := skip rest
      match rest with
      | '.' :: rest =>
          let (parts, rest) ← readKey fuel rest
          pure (String.ofList part :: parts, rest)
      | rest => pure ([String.ofList part], rest)

inductive Line where
  | empty
  | header (key : List String)
  | assign (key : List String) (value : Json)
deriving Repr

def readLine (text : List Char) : Option Line :=
  let size := text.length + 1
  let line := skip text
  if isDone line then some .empty
  else
    match line with
    | '[' :: rest =>
        match readKey size rest with
        | some (key, ']' :: rest) => if isDone rest then some (.header key) else none
        | _ => none
    | line =>
        match readKey size line with
        | some (key, '=' :: rest) =>
            match readValue size (skip rest) with
            | some (value, rest) => if isDone rest then some (.assign key value) else none
            | none => none
        | _ => none

/-- A document in progress: the current table, the tables that have had a header, and the tables that
dotted keys have made. -/
structure Progress where
  members : List (String × Json)
  table : List String
  headed : List (List String)
  dotted : List (List String)

/-- The members after a change below some keys; tables on the way are made where they are missing. -/
def modify (change : List (String × Json) → Option (List (String × Json))) :
    List String → List (String × Json) → Option (List (String × Json))
  | [], members => change members
  | key :: rest, members =>
      match Members.find? key members with
      | none => (modify change rest []).map fun below => Members.insert key (.object below) members
      | some (.object below) =>
          (modify change rest below).map fun below => Members.insert key (.object below) members
      | some _ => none

def define (key : String) (value : Json) (members : List (String × Json)) :
    Option (List (String × Json)) :=
  if Members.contains key members then none else some (Members.insert key value members)

/-- The non-empty beginnings of a list, without the list itself. -/
def properStarts {α : Type} : List α → List (List α)
  | [] => []
  | [_] => []
  | item :: rest => [item] :: (properStarts rest).map (item :: ·)

def Progress.follow (progress : Progress) : Line → Option Progress
  | .empty => some progress
  | .header key =>
      if progress.headed.contains key || progress.dotted.contains key then none
      else
        (modify some key progress.members).map fun members =>
          { progress with members, table := key, headed := key :: progress.headed }
  | .assign key value =>
      let tables := (properStarts key).map (progress.table ++ ·)
      if tables.any progress.headed.contains then none
      else
        match key.getLast? with
        | none => none
        | some last =>
            (modify (define last value) (progress.table ++ key.dropLast) progress.members).map
              fun members => { progress with members, dotted := tables ++ progress.dotted }

def Progress.followAll : Progress → List (List Char) → Option Progress
  | progress, [] => some progress
  | progress, text :: rest => do
      let line ← readLine text
      let progress ← progress.follow line
      progress.followAll rest

/-- The lines of a text; a carriage return before the end of a line belongs to the end. -/
def linesOf : List Char → List (List Char)
  | [] => [[]]
  | '\n' :: rest => [] :: linesOf rest
  | '\r' :: '\n' :: rest => [] :: linesOf rest
  | c :: rest =>
      match linesOf rest with
      | [] => [[c]]
      | line :: more => (c :: line) :: more

def parse? (text : String) : Option Json :=
  (Progress.followAll ⟨[], [], [], []⟩ (linesOf text.toList)).map fun progress =>
    .object progress.members

end LayeredConfig.Toml
