import LayeredConfig.Json.Text

/-!
# Reading JSON texts

A text is read by two machines that each look at one symbol at a time: the scanner turns
characters into tokens, and the builder turns tokens into a `JsonText`. The grammar is the strict
one: no comments, no trailing commas, no raw control characters in strings, no leading zeros.
-/
set_option autoImplicit false

namespace LayeredConfig.JsonText

inductive Token where
  | beginArray | endArray | beginObject | endObject | colon | comma
  | null
  | bool (value : Bool)
  | number (value : Option Number)
  | string (value : Option String)
deriving DecidableEq, Repr

inductive EscapeState where
  | plain
  | backslash
  | hex (left value : Nat)
deriving DecidableEq, Repr

/-- A string literal in progress: the characters so far in reverse, whether every surrogate so far
is paired, and a high surrogate that waits for its pair. -/
structure StringState where
  reversed : List Char
  paired : Bool
  high : Option Nat
  escape : EscapeState
deriving DecidableEq, Repr

namespace StringState

def start : StringState := ⟨[], true, none, .plain⟩

/-- Add a character. A high surrogate that still waits stays unpaired. -/
def push (state : StringState) (c : Char) : StringState :=
  { reversed := c :: state.reversed
    paired := state.paired && state.high.isNone
    high := none
    escape := .plain }

/-- Add a 16-bit unit: a surrogate pair makes one character. -/
def pushUnit (state : StringState) (unit : Nat) : StringState :=
  if 0xD800 ≤ unit ∧ unit < 0xDC00 then
    { state with paired := state.paired && state.high.isNone, high := some unit, escape := .plain }
  else if 0xDC00 ≤ unit ∧ unit < 0xE000 then
    match state.high with
    | some high =>
        { state with
          reversed := Char.ofNat (0x10000 + (high - 0xD800) * 0x400 + (unit - 0xDC00)) ::
            state.reversed
          high := none
          escape := .plain }
    | none => { state with paired := false, escape := .plain }
  else state.push (Char.ofNat unit)

def value (state : StringState) : Option String :=
  if state.paired && state.high.isNone then some (String.ofList state.reversed.reverse) else none

end StringState

def hexValue? (c : Char) : Option Nat :=
  if c.isDigit then some (c.toNat - '0'.toNat)
  else if 'a' ≤ c ∧ c ≤ 'f' then some (c.toNat - 'a'.toNat + 10)
  else if 'A' ≤ c ∧ c ≤ 'F' then some (c.toNat - 'A'.toNat + 10)
  else none

def escaped? (c : Char) : Option Char :=
  if c = '"' then some '"'
  else if c = '\\' then some '\\'
  else if c = '/' then some '/'
  else if c = 'b' then some '\x08'
  else if c = 'f' then some '\x0c'
  else if c = 'n' then some '\n'
  else if c = 'r' then some '\r'
  else if c = 't' then some '\t'
  else none

inductive Scan where
  | between
  | word (reversed : List Char)
  | number (reversed : List Char)
  | string (state : StringState)
deriving DecidableEq, Repr

def wordToken? (word : List Char) : Option Token :=
  if word = ['n', 'u', 'l', 'l'] then some .null
  else if word = ['t', 'r', 'u', 'e'] then some (.bool true)
  else if word = ['f', 'a', 'l', 's', 'e'] then some (.bool false)
  else none

def numberToken? (text : List Char) : Option Token :=
  (Literal.read? text).map fun literal => .number (Number.ofLiteral? literal)

def isNumberChar (c : Char) : Bool :=
  c.isDigit || c = '-' || c = '+' || c = '.' || c = 'e' || c = 'E'

def isBlank (c : Char) : Bool :=
  c = ' ' || c = '\t' || c = '\n' || c = '\r'

namespace Scan

def begin (c : Char) : Option (Scan × List Token) :=
  if isBlank c then some (.between, [])
  else if c = '[' then some (.between, [.beginArray])
  else if c = ']' then some (.between, [.endArray])
  else if c = '\x7b' then some (.between, [.beginObject])
  else if c = '\x7d' then some (.between, [.endObject])
  else if c = ':' then some (.between, [.colon])
  else if c = ',' then some (.between, [.comma])
  else if c = '"' then some (.string .start, [])
  else if c.isDigit || c = '-' then some (.number [c], [])
  else if c.isLower then some (.word [c], [])
  else none

def stepString (state : StringState) (c : Char) : Option (Scan × List Token) :=
  match state.escape with
  | .plain =>
      if c = '"' then some (.between, [.string state.value])
      else if c = '\\' then some (.string { state with escape := .backslash }, [])
      else if c.toNat < 32 then none
      else some (.string (state.push c), [])
  | .backslash =>
      if c = 'u' then some (.string { state with escape := .hex 4 0 }, [])
      else (escaped? c).map fun c => (.string (state.push c), [])
  | .hex left value =>
      match hexValue? c with
      | none => none
      | some digit =>
          let value := value * 16 + digit
          if left ≤ 1 then some (.string (state.pushUnit value), [])
          else some (.string { state with escape := .hex (left - 1) value }, [])

def step : Scan → Char → Option (Scan × List Token)
  | .between, c => begin c
  | .word reversed, c =>
      if c.isLower then some (.word (c :: reversed), [])
      else do
        let token ← wordToken? reversed.reverse
        let (state, tokens) ← begin c
        pure (state, token :: tokens)
  | .number reversed, c =>
      if isNumberChar c then some (.number (c :: reversed), [])
      else do
        let token ← numberToken? reversed.reverse
        let (state, tokens) ← begin c
        pure (state, token :: tokens)
  | .string state, c => stepString state c

def finish : Scan → Option (List Token)
  | .between => some []
  | .word reversed => (wordToken? reversed.reverse).map fun token => [token]
  | .number reversed => (numberToken? reversed.reverse).map fun token => [token]
  | .string _ => none

def run : Scan → List Char → Option (List Token)
  | state, [] => state.finish
  | state, c :: rest => do
      let (state, tokens) ← state.step c
      let more ← run state rest
      pure (tokens ++ more)

end Scan

/-- A container in progress: its items or members in reverse, and the key that waits for a value. -/
inductive Frame where
  | array (reversed : List JsonText)
  | object (reversed : List (Option String × JsonText)) (key : Option String)

inductive Build where
  | value (stack : List Frame)
  | firstItem (stack : List Frame)
  | firstKey (stack : List Frame)
  | nextKey (reversed : List (Option String × JsonText)) (stack : List Frame)
  | colon (key : Option String) (reversed : List (Option String × JsonText)) (stack : List Frame)
  | after (value : JsonText) (stack : List Frame)

namespace Build

def stepValue (stack : List Frame) : Token → Option Build
  | .beginArray => some (.firstItem stack)
  | .beginObject => some (.firstKey stack)
  | .null => some (.after .null stack)
  | .bool flag => some (.after (.bool flag) stack)
  | .number literal => some (.after (.number literal) stack)
  | .string literal => some (.after (.string literal) stack)
  | _ => none

def step : Build → Token → Option Build
  | .value stack, token => stepValue stack token
  | .firstItem stack, .endArray => some (.after (.array []) stack)
  | .firstItem stack, token => stepValue (.array [] :: stack) token
  | .firstKey stack, .endObject => some (.after (.object []) stack)
  | .firstKey stack, .string key => some (.colon key [] stack)
  | .nextKey reversed stack, .string key => some (.colon key reversed stack)
  | .colon key reversed stack, .colon => some (.value (.object reversed key :: stack))
  | .after done (.array reversed :: stack), .comma =>
      some (.value (.array (done :: reversed) :: stack))
  | .after done (.array reversed :: stack), .endArray =>
      some (.after (.array (done :: reversed).reverse) stack)
  | .after done (.object reversed key :: stack), .comma =>
      some (.nextKey ((key, done) :: reversed) stack)
  | .after done (.object reversed key :: stack), .endObject =>
      some (.after (.object ((key, done) :: reversed).reverse) stack)
  | _, _ => none

def finish : Build → Option JsonText
  | .after done [] => some done
  | _ => none

def run : Build → List Token → Option JsonText
  | state, [] => state.finish
  | state, token :: rest => do
      let state ← state.step token
      run state rest

end Build

def parse? (text : String) : Option JsonText := do
  let tokens ← Scan.run .between text.toList
  Build.run (.value []) tokens

end LayeredConfig.JsonText

namespace LayeredConfig.Json

def maxDepth : Nat := 127

def parse? (text : String) : Option Json := do
  let tree ← JsonText.parse? text
  Json.ofText? maxDepth tree

def render (document : Json) : String :=
  document.toText.render

end LayeredConfig.Json
