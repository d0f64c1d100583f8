/-!
# Generic parameters

The parameters of a type are a text of tokens. An implementation repeats them with one more bound on
every type parameter, and names them as arguments. Lifetimes come first in both.
-/
set_option autoImplicit false

namespace LayeredConfig.Derive

def tokensOf (text : String) : List String :=
  (text.splitOn " ").filter (· ≠ "")

/-- How far a token opens brackets, less how far it closes them. An arrow closes nothing. -/
def depthChange (token : String) : Int :=
  if token = "->" then 0
  else
    token.toList.foldl
      (fun depth c =>
        if c = '<' ∨ c = '(' ∨ c = '[' ∨ c = '\x7b' then depth + 1
        else if c = '>' ∨ c = ')' ∨ c = ']' ∨ c = '\x7d' then depth - 1
        else depth)
      0

/-- The tokens before the first `mark` outside of brackets, and the tokens after it if there is
one. -/
def splitAtMark (mark : String) (depth : Int) : List String → List String × Option (List String)
  | [] => ([], none)
  | token :: rest =>
      if token = mark ∧ depth = 0 then ([], some rest)
      else
        let (before, after) := splitAtMark mark (depth + depthChange token) rest
        (token :: before, after)

inductive ParameterKind where
  | lifetime
  | constant
  | type
deriving DecidableEq, Repr

/-- A parameter without its default, and whether a comma follows it. -/
structure Parameter where
  kind : ParameterKind
  tokens : List String
  comma : Bool
deriving DecidableEq, Repr

def kindOf : List String → ParameterKind
  | token :: _ =>
      if token.toList.head? = some '\'' then .lifetime
      else if token = "const" then .constant
      else .type
  | [] => .type

/-- The parameters of some tokens. `fuel` bounds their number. -/
def parameters : Nat → List String → List Parameter
  | 0, _ => []
  | _, [] => []
  | fuel + 1, tokens =>
      let (own, rest) := splitAtMark "," 0 tokens
      let (declared, _) := splitAtMark "=" 0 own
      ⟨kindOf own, declared, rest.isSome⟩ :: parameters fuel (rest.getD [])

def Parameter.name (parameter : Parameter) : List String :=
  match parameter.kind, parameter.tokens with
  | .constant, _ :: name :: _ => [name]
  | _, name :: _ => [name]
  | _, [] => []

def addBound (bound : List String) (tokens : List String) : List String :=
  match splitAtMark ":" 0 tokens with
  | (_, none) => tokens ++ ":" :: bound
  | (_, some []) => tokens ++ bound
  | (_, some bounds) =>
      if bounds.getLast? = some "+" then tokens ++ bound else tokens ++ "+" :: bound

def Parameter.bounded (bound : List String) (parameter : Parameter) : List String :=
  match parameter.kind with
  | .type => addBound bound parameter.tokens
  | .lifetime | .constant => parameter.tokens

def Parameter.commaTokens (parameter : Parameter) : List String :=
  if parameter.comma then [","] else []

/-- Parameters with their own commas, and one between lifetimes and others where none is. -/
def listParameters (write : Parameter → List String) (parameters : List Parameter) :
    List String :=
  let lifetimes := parameters.filter fun parameter => parameter.kind = .lifetime
  let others := parameters.filter fun parameter => parameter.kind ≠ .lifetime
  let each := fun parameter : Parameter => write parameter ++ parameter.commaTokens
  let closed := (lifetimes.getLast?.map Parameter.comma).getD true
  let between := if others.isEmpty || closed then [] else [","]
  lifetimes.flatMap each ++ between ++ others.flatMap each

/-- A list of parameters in angle brackets after a space, or nothing where there is none. -/
def angled (tokens : List String) : String :=
  if tokens.isEmpty then "" else " < " ++ " ".intercalate tokens ++ " >"

def declaredGenerics (bound : List String) (generics : String) : String :=
  let tokens := tokensOf generics
  angled (listParameters (Parameter.bounded bound) (parameters tokens.length tokens))

def argumentGenerics (generics : String) : String :=
  let tokens := tokensOf generics
  angled (listParameters Parameter.name (parameters tokens.length tokens))

end LayeredConfig.Derive
