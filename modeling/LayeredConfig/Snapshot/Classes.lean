import LayeredConfig.Failure
import LayeredConfig.Json.Merge
import LayeredConfig.Path.Step

/-!
# What a snapshot type offers

A snapshot type says how a stronger value absorbs a weaker one, which keys of its written form a path
names, and how it is written and read. Layers fold from the weakest up.
-/
set_option autoImplicit false

namespace LayeredConfig

/-- Values that merge over weaker values of the same type and know their paths. -/
class Mergeable (α : Type) where
  merge : α → α → α
  stepsOf : List String → List Step

/-- Values with a written form. Writing and reading may both fail. -/
class Writable (α : Type) where
  encode : α → Option Json
  decode : Json → Option α

class Ruled (α : Type) where
  /-- The first way in which a value breaks its rule. -/
  check : α → Except Failure Unit

class Blank (α : Type) where
  blank : α
  same : α → α → Bool

export Mergeable (merge stepsOf)
export Writable (encode decode)

/-- Documents merge by their kinds, and only the document knows its paths. -/
instance : Mergeable Json where
  merge := Json.merge
  stepsOf := verbatimSteps

instance : Writable Json where
  encode := some
  decode := some

instance : Blank Json where
  blank := .null
  same := Json.same

instance : Ruled Json where
  check _ := .ok ()

section

variable {α : Type}

/-- Layers, strongest first, as one value: the weakest is the baseline and each stronger one is
merged over what is below it. -/
def overlay? [Mergeable α] : List α → Option α
  | [] => none
  | strongest :: weaker =>
      match overlay? weaker with
      | none => some strongest
      | some below => some (merge strongest below)

def overlayAll [Mergeable α] [Blank α] (layers : List α) : α :=
  (overlay? layers).getD Blank.blank

def orDefaults [Blank α] (value defaults : α) : α :=
  if Blank.same value Blank.blank then defaults else value

end

end LayeredConfig
