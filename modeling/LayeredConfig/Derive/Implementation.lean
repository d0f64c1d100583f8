import LayeredConfig.Derive.Declaration
import LayeredConfig.Derive.Generics
import LayeredConfig.Text.Quoted

/-!
# The derived implementation

The implementation is a text of tokens with one space between them. Merging rebuilds a value field by
field; the description of paths tries the names of the fields, then their keys, and keeps a segment
that is neither.
-/
set_option autoImplicit false

namespace LayeredConfig.Derive

def isOctal (c : Char) : Bool :=
  '0' ≤ c && c ≤ '7'

/-- The characters of a string literal. A zero byte is spelled so that a digit after it is no part of
the escape. -/
def literalChars : List Char → List Char
  | [] => []
  | c :: rest =>
      let escaped :=
        if c = '\x00' ∧ (rest.head?.any isOctal) then ['\\', 'x', '0', '0']
        else Text.quotedChar c
      escaped ++ literalChars rest

def literal (text : String) : String :=
  String.ofList ('"' :: literalChars text.toList ++ ['"'])

def braced (inner : String) : String :=
  "\x7b " ++ inner ++ " \x7d"

def mergeBound : List String :=
  ["::", "strata", "::", "Layered"]

def mergedField (field : FieldPlan) : String :=
  let member := field.member.text
  if field.replaced then
    member ++ " : :: core :: clone :: Clone :: clone (& self . " ++ member ++ ")"
  else
    member ++ " : :: strata :: Layered :: merge (& self . " ++ member ++ " , & weaker . " ++
      member ++ ")"

def keepTokens : String :=
  "fn merge (& self , _weaker : & Self) -> Self " ++
    braced ":: core :: clone :: Clone :: clone (self)"

def mergeFunction (plan : TypePlan) : String :=
  if plan.fields.isEmpty then keepTokens
  else
    "fn merge (& self , weaker : & Self) -> Self " ++
      braced ("Self " ++ braced (" ".intercalate (plan.fields.map fun field =>
        mergedField field ++ " ,")))

def describeHead : String :=
  "fn describe_path (segments : & [& str] , " ++
    "steps : & mut :: std :: vec :: Vec < :: strata :: PathStep > ,)"

def describeBelow (field : FieldPlan) (segments : String) : String :=
  if field.replaced then ":: strata :: describe_opaque (" ++ segments ++ " , steps) ;"
  else
    "< " ++ field.type ++ " as :: strata :: Layered > :: describe_path (" ++ segments ++
      " , steps) ;"

def pushTokens (key shape : String) : String :=
  "steps . push (:: strata :: PathStep :: new (" ++ key ++ " , :: strata :: Shape :: " ++ shape ++
    ")) ;"

def armTokens (shape : String) (wanted key : String) (field : FieldPlan) : String :=
  "if head == " ++ literal wanted ++ " " ++
    braced (pushTokens (literal key) shape ++ " " ++ describeBelow field "rest" ++ " return ;")

def nameArm? (field : FieldPlan) : Option String :=
  match field.name, field.key with
  | some name, some key => some (armTokens "Struct" name key field)
  | _, _ => none

/-- The arm that matches a field by its key, where that is not its name. -/
def keyArm? (field : FieldPlan) : Option String :=
  match field.key with
  | some key =>
      if field.name = some key then none else some (armTokens "Struct" key key field)
  | none => none

def itemArm? (field : FieldPlan) : Option String :=
  field.key.map fun key => armTokens "Sequence" key key field

def describeArms (shape : String) (arms : List String) : String :=
  describeHead ++ " " ++ braced (" ".intercalate
    (["let :: core :: option :: Option :: Some ((first , rest)) = segments . split_first () else " ++
        braced "return ;" ++ " ; let head : & str = first ;"] ++
      arms ++
      [pushTokens "head" shape, ":: strata :: describe_opaque (rest , steps) ;"]))

/-- The describing function, which a type without fields of its own does not need. -/
def describeFunction (plan : TypePlan) : String :=
  match plan.layout, plan.fields with
  | .named, fields =>
      describeArms "Struct" (fields.filterMap nameArm? ++ fields.filterMap keyArm?)
  | .tuple, [field] => describeHead ++ " " ++ braced (describeBelow field "segments")
  | .tuple, fields => describeArms "Sequence" (fields.filterMap itemArm?)
  | .unit, _ | .enumeration, _ => ""

def boundTokens (bounds : String) : String :=
  if (tokensOf bounds).isEmpty then "" else " where " ++ bounds

def implementationTokens (input : DeclaredType) (plan : TypePlan) : String :=
  let functions := [mergeFunction plan, describeFunction plan].filter (· ≠ "")
  "# [automatically_derived] impl" ++ declaredGenerics mergeBound input.generics ++
    " :: strata :: Layered for " ++ input.name ++ argumentGenerics input.generics ++
    boundTokens input.bounds ++ " " ++ braced (" ".intercalate functions)

def DeclaredType.implementation (input : DeclaredType) : Except Fault String :=
  input.plan.map (implementationTokens input)

end LayeredConfig.Derive
