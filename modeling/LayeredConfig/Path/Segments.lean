import LayeredConfig.Path.Fault

/-!
# Paths as text and as segments

A path is its segments with dots between them. There is no escape: a key that is empty or holds a
dot cannot be a segment.
-/
set_option autoImplicit false

namespace LayeredConfig.Path

/-- The pieces of a text between its dots; a text without a dot is one piece. -/
def splitDots : List Char → List (List Char)
  | [] => [[]]
  | c :: rest =>
      if c = '.' then [] :: splitDots rest
      else
        match splitDots rest with
        | [] => [[c]]
        | piece :: more => (c :: piece) :: more

def split (path : String) : List String :=
  (splitDots path.toList).map String.ofList

def parse (path : String) : Except PathFault (List String) :=
  if path = "" then .error .emptyPath
  else
    let segments := split path
    if segments.any (· = "") then .error (.blankSegment path) else .ok segments

def isSegment (key : String) : Bool :=
  key ≠ "" && !key.toList.contains '.'

def joinDots : List (List Char) → List Char
  | [] => []
  | [piece] => piece
  | piece :: rest => piece ++ '.' :: joinDots rest

def join (segments : List String) : String :=
  String.ofList (joinDots (segments.map String.toList))

/-- The greatest index that a path can name, the last of the unsigned 64-bit range. -/
def maxIndex : Nat := 18446744073709551615

/-- The index a segment names: decimal digits only, leading zeros allowed. -/
def index? (segment : String) : Option Nat :=
  let digits := segment.toList
  if digits.isEmpty || !digits.all Char.isDigit then none
  else
    let index := digitsValue digits
    if index ≤ maxIndex then some index else none

def ofIndex (index : Nat) : String :=
  String.ofList (Nat.toDigits 10 index)

end LayeredConfig.Path
