import LayeredConfig.Snapshot.Classes
import LayeredConfig.Snapshot.Describe
import LayeredConfig.Snapshot.Read
import LayeredConfig.Snapshot.Write

/-!
# Snapshots of declared types

A `Model` is a type with the declarations it refers to and a rule for its values. Its snapshots merge
by shape, and their paths and written forms follow the type.
-/
set_option autoImplicit false

namespace LayeredConfig.Snapshot

/-- A snapshot type with its declarations and the rule that loaded values keep. -/
structure Model where
  declarations : Declarations
  type : Ty
  rule : Value → Except Failure Unit := fun _ => .ok ()

end LayeredConfig.Snapshot

namespace LayeredConfig

structure Snapshot (model : Snapshot.Model) where
  value : Snapshot.Value
deriving Repr, Inhabited

namespace Snapshot

variable {model : Model}

instance : Mergeable (Snapshot model) where
  merge stronger weaker := ⟨stronger.value.merge weaker.value⟩
  stepsOf segments := Snapshot.describe model.declarations segments model.type

instance : Writable (Snapshot model) where
  encode snapshot := write model.declarations snapshot.value model.type
  decode document := (read model.declarations document model.type).map Snapshot.mk

instance : Blank (Snapshot model) where
  blank := ⟨model.type.blank model.declarations⟩
  same a b := a.value.same b.value

instance : Ruled (Snapshot model) where
  check snapshot := model.rule snapshot.value

end Snapshot

end LayeredConfig
