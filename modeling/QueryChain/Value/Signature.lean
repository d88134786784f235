import QueryChain.Failure.Fault

/-!
# Arguments of calls

A function that is called by name takes its arguments by position or by the names of its parameters.
Its last parameters may have defaults.  Arguments that do not fit the parameters are a fault; in the
numbers that the fault gives, the receiver of a method counts as one argument.

## Main definitions

* `Signature` — the name and the parameters of a function.
* `Signature.bind` — one argument for every parameter, by name.
* `Signature.arguments` — one argument for every parameter, in order.
-/

set_option relaxedAutoImplicit false
set_option autoImplicit false

namespace QueryChain

/-- The name of a function, whether it is called on a receiver, the names of the parameters that
have to be given, and those that may be left out with their defaults. -/
structure Signature where
  name : String
  isMethod : Bool
  required : List String
  optional : Fields

namespace Signature

/-- The names of the parameters. -/
def parameters (s : Signature) : List String := s.required ++ s.optional.map Prod.fst

/-- Adds arguments by name to those that are taken already. -/
def addNamed (s : Signature) (taken : Fields) : Fields → Except Fault Fields
  | [] => .ok taken
  | (name, v) :: rest =>
    if !s.parameters.contains name then .error (.unexpectedArgument s.name name)
    else if taken.has name then .error (.repeatedArgument s.name name)
    else s.addNamed (taken ++ [(name, v)]) rest

/-- The argument of a parameter, or its default. -/
def argument (s : Signature) (taken : Fields) (name : String) : Value :=
  ((taken.get? name).or (s.optional.get? name)).getD .null

/-- Refuses more arguments by position than there are parameters, and a parameter that was left out
and has no default. -/
def requireCount (s : Signature) (given : Nat) (taken : Fields) : Except Fault Unit :=
  let own := if s.isMethod then 1 else 0
  let missing := s.required.filter fun name => !taken.has name
  if s.parameters.length < given then
    .error (.extraArguments s.name (s.required.length + own) (s.parameters.length + own)
      (given + own))
  else if missing.isEmpty then .ok ()
  else .error (.missingArguments s.name missing)

/-- One argument for every parameter: those given by position, those given by name, and defaults. -/
def bind (s : Signature) (given : List Value) (named : Fields) : Except Fault Fields := do
  let taken ← s.addNamed (s.parameters.zip given) named
  s.requireCount given.length taken
  return s.parameters.map fun name => (name, s.argument taken name)

/-- One argument for every parameter, in order. -/
def arguments (s : Signature) (given : List Value) : Except Fault (List Value) :=
  (s.bind given []).map fun fields => fields.map Prod.snd

end Signature

end QueryChain
