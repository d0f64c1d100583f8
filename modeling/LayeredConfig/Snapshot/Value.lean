import LayeredConfig.Json.Merge

/-!
# Snapshot values

A snapshot is a tree of records, maps, sequences, options and scalars. Its shape alone says how it
merges: options inherit, records, arrays and maps merge part by part, and everything else is
replaced as a whole.
-/
set_option autoImplicit false

namespace LayeredConfig.Snapshot

/-- A value without parts. Numbers of both precisions are kept as doubles, and the nanoseconds of a
duration stay below a second. -/
inductive Atom where
  | unit
  | bool (value : Bool)
  | int (value : Int)
  | double (value : Double)
  | text (value : String)
  | duration (seconds nanoseconds : Nat)
deriving DecidableEq, Repr, Inhabited

/-- Equality of atoms: doubles compare as numbers. -/
def Atom.same : Atom → Atom → Bool
  | .double a, .double b => a.same b
  | a, b => a = b

/-- A snapshot value. `held` is the content of a box or a newtype, `frozen` a value that only
merges as a whole, `product` the fields of a record or the items of an array of fixed length, and
`variant` a chosen alternative with its content. -/
inductive Value where
  | atom (value : Atom)
  | absent
  | present (value : Value)
  | held (value : Value)
  | frozen (value : Value)
  | product (parts : List Value)
  | sequence (items : List Value)
  | map (entries : List (String × Value))
  | variant (name : String) (content : Value)
  | dynamic (document : Json)
deriving Repr, Inhabited

namespace Value

def isUnset : Value → Bool
  | .absent => true
  | _ => false

def isEmptyMap : Value → Bool
  | .map [] => true
  | _ => false

/-- Whether a value is a number that may have a fraction, whatever it is wrapped in. -/
def isDouble : Value → Bool
  | .atom (.double _) => true
  | .present value | .held value | .frozen value => value.isDouble
  | _ => false

/-- Whether a value is an alternative that holds nothing, whatever it is wrapped in. -/
def isAlone : Value → Bool
  | .variant _ (.product []) => true
  | .present value | .held value | .frozen value | .variant _ value => value.isAlone
  | _ => false

mutual

/-- The first value over the second. -/
def merge : Value → Value → Value
  | .absent, weaker => weaker
  | .present strong, .present weak => .present (merge strong weak)
  | .held strong, .held weak => .held (merge strong weak)
  | .product strong, .product weak => .product (mergeParts strong weak)
  | .map strong, .map weak => .map (mergeEntries strong weak)
  | .dynamic strong, .dynamic weak => .dynamic (strong.merge weak)
  | stronger, _ => stronger

def mergeParts : List Value → List Value → List Value
  | strong :: rest, weak :: weaker => merge strong weak :: mergeParts rest weaker
  | stronger, _ => stronger

/-- Every weaker entry is kept, and entries of both sides merge. -/
def mergeEntries :
    List (String × Value) → List (String × Value) → List (String × Value)
  | [], weak => weak
  | (key, value) :: rest, weak =>
      let merged :=
        match Members.find? key weak with
        | some weaker => merge value weaker
        | none => value
      Members.insert key merged (mergeEntries rest weak)

end

mutual

/-- Equality of values: doubles compare as numbers. -/
def same : Value → Value → Bool
  | .atom a, .atom b => a.same b
  | .absent, .absent => true
  | .present a, .present b => same a b
  | .held a, .held b => same a b
  | .frozen a, .frozen b => same a b
  | .product a, .product b => sameItems a b
  | .sequence a, .sequence b => sameItems a b
  | .map a, .map b => sameEntries a b
  | .variant name a, .variant other b => name = other && same a b
  | .dynamic a, .dynamic b => a.same b
  | _, _ => false

def sameItems : List Value → List Value → Bool
  | [], [] => true
  | a :: rest, b :: others => same a b && sameItems rest others
  | _, _ => false

def sameEntries : List (String × Value) → List (String × Value) → Bool
  | [], [] => true
  | (key, a) :: rest, (other, b) :: others => key = other && same a b && sameEntries rest others
  | _, _ => false

end

end Value

end LayeredConfig.Snapshot
