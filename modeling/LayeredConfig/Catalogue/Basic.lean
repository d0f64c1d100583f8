import LayeredConfig.Catalogue.Custom

/-!
# The catalogue of snapshot types

Every type of the catalogue under its name, with all that a snapshot type needs.
-/
set_option autoImplicit false

namespace LayeredConfig.Catalogue

open Snapshot

structure Entry where
  carrier : Type
  mergeable : Mergeable carrier
  writable : Writable carrier
  blank : Blank carrier
  ruled : Ruled carrier

def Entry.of (carrier : Type) [mergeable : Mergeable carrier] [writable : Writable carrier]
    [blank : Blank carrier] [ruled : Ruled carrier] : Entry :=
  ⟨carrier, mergeable, writable, blank, ruled⟩

def settingsRule : Value → Except Failure Unit
  | .product (_ :: .present (.atom (.text "")) :: _) =>
      .error (.brokenRule "displayName" "must not be empty")
  | _ => .ok ()

def billingRule : Value → Except Failure Unit
  | .product (_ :: .present (.atom (.int 0)) :: _) =>
      .error (.brokenRule "limit" "must be positive")
  | _ => .ok ()

def model (type : Ty) : Model :=
  { declarations, type }

def declared (name : String) : Model :=
  model (.named name)

def plainType? : String → Option Ty
  | "json_map" => some (mapOf .json)
  | "bool" => some bool
  | "i64" => some (signed 64)
  | "u8" => some (unsigned 8)
  | "string" => some text
  | "char" => some character
  | "f64" => some double
  | "f32" => some single
  | "unit" => some unit
  | "marker" => some unit
  | "opt_u32" => some (.option (unsigned 32))
  | "opt_opt_u8" => some (.option (.option (unsigned 8)))
  | "box_retry" => some (.box (.named "retry"))
  | "vec_i64" => some (.sequence (signed 64))
  | "vec_retry" => some (.sequence (.named "retry"))
  | "arr3" => some (.array 3 (.option (unsigned 8)))
  | "arr2_retry" => some (.array 2 (.named "retry"))
  | "btree_i64" => some (mapOf (signed 64))
  | "hash_opt" => some (mapOf (.option (signed 64)))
  | "btree_u32_retry" => some (.map (.int (.unsigned 32)) (.named "retry"))
  | "nested_map" => some (mapOf (mapOf (.option text)))
  | "vec_map" => some (.sequence (mapOf (.option (signed 64))))
  | "labels" => some labels
  | "pinned" => some pinned
  | _ => none

def billingModel : Model :=
  { declared "billing" with rule := billingRule }

def settingsModel : Model :=
  { declared "settings" with rule := settingsRule }

def entry? : String → Option Entry
  | "json" => some (.of Json)
  | "tally" => some (.of Tally)
  | "blind" => some (.of Blind)
  | "billing" => some (.of (Snapshot billingModel))
  | "settings" => some (.of (Snapshot settingsModel))
  | name =>
      match plainType? name with
      | some type => some (.of (Snapshot (model type)))
      | none => (declarations name).map fun _ => .of (Snapshot (declared name))

end LayeredConfig.Catalogue
