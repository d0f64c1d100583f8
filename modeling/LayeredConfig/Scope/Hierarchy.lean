import LayeredConfig.Scope

/-!
# The built-in hierarchy

Five scopes from `system`, the weakest, to `user`, the strongest. Each but `system` addresses what is
stored for it by an identifier in its metadata.
-/
set_option autoImplicit false

namespace LayeredConfig.Scope

def systemPriority : Int := 100

def tenantPriority : Int := 200

def orgPriority : Int := 300

def teamPriority : Int := 400

def userPriority : Int := 500

def identifierKey (name : String) : String :=
  name ++ "_id"

def addressing (name : String) (priority : Int) (identifier : String) : Scope :=
  (ofName name priority).annotated [(identifierKey name, .string identifier)]

def system : Scope := ofName "system" systemPriority

def tenant (identifier : String) : Scope := addressing "tenant" tenantPriority identifier

def org (identifier : String) : Scope := addressing "org" orgPriority identifier

def team (identifier : String) : Scope := addressing "team" teamPriority identifier

def user (identifier : String) : Scope := addressing "user" userPriority identifier

end LayeredConfig.Scope
