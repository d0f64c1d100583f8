import LayeredConfig.Store.Update

/-!
# Edits

An edit is a change written down: a replacement, a patch laid over the snapshot, an assignment at a
path, or a refusal. Edits apply in order and stop at the first that fails; what the earlier ones did
stays.
-/
set_option autoImplicit false

namespace LayeredConfig

inductive Edit where
  | replace (document : Json)
  | patch (document : Json)
  | set (path : String) (value : Json)
  | refuse (key message : String)
deriving DecidableEq, Repr

namespace Edit

variable {α : Type} [Mergeable α] [Writable α]

def apply (snapshot : α) : Edit → Except Failure α
  | .replace document => snapshotOf document
  | .patch document => (snapshotOf document).map fun stronger => merge stronger snapshot
  | .set path value => ((Configuration.ofValue snapshot).set path value).map Configuration.value
  | .refuse key message => .error (.brokenRule key message)

def change : List Edit → Change α
  | [], snapshot => (snapshot, none)
  | edit :: rest, snapshot =>
      match edit.apply snapshot with
      | .ok snapshot => change rest snapshot
      | .error failure => (snapshot, some failure)

end Edit

end LayeredConfig
