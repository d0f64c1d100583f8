import LayeredConfig.Json.Basic

/-!
# Merging documents

A stronger document is laid over a weaker one: `null` inherits, objects merge key by key, anything
else replaces.
-/
set_option autoImplicit false

namespace LayeredConfig.Json

mutual

def merge : Json → Json → Json
  | .null, weaker => weaker
  | .object strong, .object weak => .object (mergeMembers strong weak)
  | stronger, _ => stronger

def mergeMembers : List (String × Json) → List (String × Json) → List (String × Json)
  | [], weak => weak
  | (key, value) :: rest, weak =>
      let merged :=
        match Members.find? key weak with
        | some weaker => merge value weaker
        | none => value
      Members.insert key merged (mergeMembers rest weak)

end

end LayeredConfig.Json
