import LayeredConfig.Naming

/-!
# Attributes of a derived type

Attributes say how a field is written and merged. Only three settings of the written form matter
here: the naming of all fields, the key of one field, and whether a field has a key at all. Anything
else is passed over, and what cannot be understood is a fault.
-/
set_option autoImplicit false

namespace LayeredConfig.Derive

inductive Literal where
  | text (value : String)
  | other
deriving DecidableEq, Repr

/-- An attribute, or an item inside one: a word, a setting, or a list of items. -/
inductive AttributeItem where
  | word (path : String)
  | setting (path : String) (value : Literal)
  | list (path : String) (items : List AttributeItem)
deriving Repr, Inhabited

def AttributeItem.path : AttributeItem → String
  | .word path | .setting path _ | .list path _ => path

inductive Fault where
  | misplaced
  | union
  | argumentsMissing (name : String)
  | parenthesesWanted (name : String)
  | itemMissing
  | commaExpected
  | parenthesesExpected (atEnd : Bool)
  | textExpected
  | equalsExpected
  | unsupportedItem
  | unknownNaming (requested : String)
deriving DecidableEq, Repr

def namingLabels : String :=
  ", ".intercalate (NamingRule.all.map NamingRule.label)

def Fault.message : Fault → String
  | .misplaced => "#[layered(...)] is only supported on fields"
  | .union => "Layered cannot be derived for unions"
  | .argumentsMissing name =>
      "expected attribute arguments in parentheses: #[" ++ name ++ "(...)]"
  | .parenthesesWanted name => "expected parentheses: #[" ++ name ++ "(...)]"
  | .itemMissing => "unexpected end of input, expected nested attribute"
  | .commaExpected => "expected `,`"
  | .parenthesesExpected true => "unexpected end of input, expected parentheses"
  | .parenthesesExpected false => "expected parentheses"
  | .textExpected => "expected string literal"
  | .equalsExpected => "expected `=`"
  | .unsupportedItem => "unsupported layered attribute; expected `replace`"
  | .unknownNaming requested =>
      "unsupported serde rename_all value '" ++ requested ++ "'; expected one of " ++ namingLabels

/-- Visit items in order. A visitor learns whether an item is the last one. -/
def visitItems {σ : Type} (visit : σ → AttributeItem → Bool → Except Fault σ) :
    σ → List AttributeItem → Except Fault σ
  | state, [] => .ok state
  | state, item :: rest =>
      match visit state item rest.isEmpty with
      | .ok state => visitItems visit state rest
      | .error fault => .error fault

/-- Visit the items of an attribute, which has to have a list of them. -/
def visitAttribute {σ : Type} (visit : σ → AttributeItem → Bool → Except Fault σ) (state : σ) :
    AttributeItem → Except Fault σ
  | .word path => .error (.argumentsMissing path)
  | .setting path _ => .error (.parenthesesWanted path)
  | .list _ items => visitItems visit state items

def visitAttributes {σ : Type} (path : String)
    (visit : σ → AttributeItem → Bool → Except Fault σ) :
    σ → List AttributeItem → Except Fault σ
  | state, [] => .ok state
  | state, item :: rest =>
      if item.path = path then
        match visitAttribute visit state item with
        | .ok state => visitAttributes path visit state rest
        | .error fault => .error fault
      else visitAttributes path visit state rest

/-- The written half of a list that may set the written and the read form apart. -/
def visitHalf (found : Option String) (item : AttributeItem) (_ : Bool) :
    Except Fault (Option String) :=
  if item.path = "serialize" then
    match item with
    | .setting _ (.text value) => .ok (some value)
    | .setting _ .other => .error .textExpected
    | _ => .error .equalsExpected
  else .ok found

def writtenText (item : AttributeItem) (last : Bool) : Except Fault (Option String) :=
  match item with
  | .setting _ (.text value) => .ok (some value)
  | .setting _ .other => .error .textExpected
  | .word _ => .error (.parenthesesExpected last)
  | .list _ [] => .error .itemMissing
  | .list _ items => visitItems visitHalf none items

def bareWord {σ : Type} (state : σ) : AttributeItem → Except Fault σ
  | .word _ => .ok state
  | _ => .error .commaExpected

def writtenAttribute : String := "serde"

def mergeAttribute : String := "layered"

def visitNaming (rule : Option NamingRule) (item : AttributeItem) (last : Bool) :
    Except Fault (Option NamingRule) :=
  if item.path = "rename_all" then
    match writtenText item last with
    | .error fault => .error fault
    | .ok none => .ok rule
    | .ok (some requested) =>
        match NamingRule.ofLabel? requested with
        | some rule => .ok (some rule)
        | none => .error (.unknownNaming requested)
  else .ok rule

/-- The naming rule of a type's attributes; the last one set counts. -/
def namingOf (attributes : List AttributeItem) : Except Fault (Option NamingRule) :=
  visitAttributes writtenAttribute visitNaming none attributes

structure KeySettings where
  rename : Option String := none
  skipped : Bool := false
  flattened : Bool := false
deriving DecidableEq, Repr

def visitKey (settings : KeySettings) (item : AttributeItem) (last : Bool) :
    Except Fault KeySettings :=
  if item.path = "skip" ∨ item.path = "skip_serializing" then
    bareWord { settings with skipped := true } item
  else if item.path = "flatten" then bareWord { settings with flattened := true } item
  else if item.path = "rename" then
    match writtenText item last with
    | .error fault => .error fault
    | .ok none => .ok settings
    | .ok (some key) => .ok { settings with rename := some key }
  else .ok settings

def keySettingsOf (attributes : List AttributeItem) : Except Fault KeySettings :=
  visitAttributes writtenAttribute visitKey {} attributes

def visitReplaced (_ : Bool) (item : AttributeItem) (_ : Bool) : Except Fault Bool :=
  if item.path = "replace" then bareWord true item else .error .unsupportedItem

def replacedOf (attributes : List AttributeItem) : Except Fault Bool :=
  visitAttributes mergeAttribute visitReplaced false attributes

end LayeredConfig.Derive
