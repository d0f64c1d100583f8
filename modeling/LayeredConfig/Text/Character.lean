import LayeredConfig.Text.Table.Alphanumeric
import LayeredConfig.Text.Table.Extenders
import LayeredConfig.Text.Table.Lowercase
import LayeredConfig.Text.Table.ToLower
import LayeredConfig.Text.Table.ToUpper
import LayeredConfig.Text.Table.Unprintable
import LayeredConfig.Text.Table.Uppercase

/-!
# Character classes and case

Classes and case mappings of all characters. ASCII is decided by its own ranges and everything
beyond it by the tables of the properties.
-/
set_option autoImplicit false

namespace LayeredConfig.Text

def inRanges (ranges : Array (Nat × Nat)) (code : Nat) : Bool :=
  ranges.any fun (first, last) => first ≤ code && code ≤ last

def inRuns (runs : Array (Nat × Nat × Nat)) (code : Nat) : Bool :=
  runs.any fun (first, last, step) =>
    first ≤ code && code ≤ last && (code - first) % step = 0

def isAscii (c : Char) : Bool :=
  c.toNat < 128

def isAlphanumeric (c : Char) : Bool :=
  if isAscii c then c.isAlphanum else inRanges Table.alphanumeric c.toNat

def isLowercase (c : Char) : Bool :=
  if isAscii c then c.isLower else inRuns Table.lowercase c.toNat

def isUppercase (c : Char) : Bool :=
  if isAscii c then c.isUpper else inRuns Table.uppercase c.toNat

def isExtender (c : Char) : Bool :=
  !isAscii c && inRanges Table.extenders c.toNat

/-- A character that is printed verbatim: no control, format, private-use or unassigned character
and no separator but the space. -/
def isPrintable (c : Char) : Bool :=
  if isAscii c then 32 ≤ c.toNat && c.toNat < 127 else !inRanges Table.unprintable c.toNat

def isWhiteSpace (c : Char) : Bool :=
  let code := c.toNat
  (9 ≤ code && code ≤ 13) || code = 0x20 || code = 0x85 || code = 0xa0 || code = 0x1680 ||
    (0x2000 ≤ code && code ≤ 0x200a) || code = 0x2028 || code = 0x2029 || code = 0x202f ||
    code = 0x205f || code = 0x3000

def mapCase (offsets : Array (Nat × Nat × Nat × Int)) (sequences : Array (Nat × List Nat))
    (c : Char) : List Char :=
  let code := c.toNat
  match sequences.find? fun (source, _) => source = code with
  | some (_, image) => image.map Char.ofNat
  | none =>
      let run := offsets.find? fun (first, last, step, _) =>
        first ≤ code && code ≤ last && (code - first) % step = 0
      match run with
      | some (_, _, _, offset) => [Char.ofNat ((code : Int) + offset).toNat]
      | none => [c]

def lowerChar (c : Char) : List Char :=
  if isAscii c then [c.toLower] else mapCase Table.toLowerOffsets Table.toLowerSequences c

def upperChar (c : Char) : List Char :=
  if isAscii c then [c.toUpper] else mapCase Table.toUpperOffsets Table.toUpperSequences c

def trim (text : List Char) : List Char :=
  ((text.dropWhile isWhiteSpace).reverse.dropWhile isWhiteSpace).reverse

end LayeredConfig.Text
