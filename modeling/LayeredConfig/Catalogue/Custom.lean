import LayeredConfig.Catalogue.Declarations
import LayeredConfig.Snapshot.Basic

/-!
# Types with rules of their own

Two snapshot types that do not merge or describe their paths by their shape. Their written forms are
those of declared records.
-/
set_option autoImplicit false

namespace LayeredConfig.Catalogue

open Snapshot

/-- A label that inherits, and a count of the merges that led to the value. -/
structure Tally where
  label : Option String
  depth : Option Nat
deriving DecidableEq, Repr

namespace Tally

/-- Counts stay below this bound, one more than the last of the unsigned 32-bit range. -/
def bound : Nat := 4294967296

def nextDepth (stronger weaker : Tally) : Nat :=
  (max (stronger.depth.getD 0) (weaker.depth.getD 0) + 1) % bound

def toValue (tally : Tally) : Value :=
  .product
    [ (tally.label.map fun label => Value.present (.atom (.text label))).getD .absent
    , (tally.depth.map fun depth => Value.present (.atom (.int depth))).getD .absent ]

def textOf : Value → Option String
  | .present (.atom (.text label)) => some label
  | _ => none

def countOf : Value → Option Nat
  | .present (.atom (.int depth)) => some depth.toNat
  | _ => none

def ofValue? : Value → Option Tally
  | .product [label, depth] => some ⟨textOf label, countOf depth⟩
  | _ => none

end Tally

instance : Mergeable Tally where
  merge stronger weaker := ⟨stronger.label.or weaker.label, some (stronger.nextDepth weaker)⟩
  stepsOf := verbatimSteps

instance : Writable Tally where
  encode tally := write declarations tally.toValue (.named "tally")
  decode document := (read declarations document (.named "tally")).bind Tally.ofValue?

instance : Blank Tally where
  blank := ⟨none, none⟩
  same a b := a = b

instance : Ruled Tally where
  check _ := .ok ()

/-- A record whose paths have no steps at all. -/
structure Blind where
  value : Value
deriving Repr

instance : Mergeable Blind where
  merge stronger weaker := ⟨stronger.value.merge weaker.value⟩
  stepsOf _ := []

instance : Writable Blind where
  encode blind := write declarations blind.value (.named "blind")
  decode document := (read declarations document (.named "blind")).map Blind.mk

instance : Blank Blind where
  blank := ⟨.product [.absent]⟩
  same a b := a.value.same b.value

instance : Ruled Blind where
  check _ := .ok ()

end LayeredConfig.Catalogue
