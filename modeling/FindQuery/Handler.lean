import FindQuery.Query.Compiler

namespace FindQuery

inductive Argument where
  | value (v : Value)
  | query (d : Descriptor)
  deriving DecidableEq

structure Parameter where
  name : Text
  default : Option Argument

namespace Handler

/-- Binds arguments by position, and gives the parameters that are left. -/
def bindPositions (named : Fields Argument) :
    List Parameter → List Argument → Except Fault (Fields Argument × List Parameter)
  | ps, [] => .ok ([], ps)
  | [], _ :: _ => .error .tooManyArguments
  | p :: ps, a :: as =>
    if (named.find? p.name).isSome then .error (.repeatedArgument p.name)
    else do
      let (bound, left) ← bindPositions named ps as
      return ((p.name, a) :: bound, left)

/-- Binds arguments by name. A parameter without argument must have a default. -/
def bindNames (named : Fields Argument) : List Parameter → Except Fault (Fields Argument)
  | [] => .ok []
  | p :: ps =>
    match named.find? p.name with
    | some a => do return (p.name, a) :: (← bindNames named ps)
    | none => if p.default.isSome then bindNames named ps else .error (.missingArgument p.name)

/-- Binds the arguments of a call to parameters. Parameters that keep their default are absent. -/
def bind (params : List Parameter) (positional : List Argument) (named : Fields Argument) :
    Except Fault (Fields Argument) := do
  let (first, left) ← bindPositions named params positional
  let second ← bindNames named left
  match List.find? (fun e => left.all (·.name ≠ e.1)) named with
  | some e => .error (.unknownArgument e.1)
  | none => return first ++ second

/-- Compiles an argument that is not compiled yet, with a compiler made when it is needed. -/
def convert (compiler : Except Fault QueryCompiler) : Argument → Journal Argument
  | .query d => pure (.query d)
  | .value v => do
    let c ← compiler
    return .query (← c.compile v)

/-- Compiles the argument of one name among bound arguments. -/
def convertNamed (name : Text) (compiler : Except Fault QueryCompiler) (bound : Fields Argument) :
    Journal (Fields Argument) :=
  match bound.find? name with
  | some a => return bound.insert name (← convert compiler a)
  | none => pure bound

/-- What a handler sees: for each parameter its argument or else its default. -/
def seen (params : List Parameter) (bound : Fields Argument) : List Argument :=
  params.filterMap fun p => (bound.find? p.name).or p.default

/-- The positional and the named arguments that bind to given ones. The first parameter that keeps
its default ends the positional ones. -/
def spread (bound : Fields Argument) : List Parameter → List Argument × Fields Argument
  | [] => ([], [])
  | p :: ps =>
    match bound.find? p.name with
    | some a =>
      let rest := spread bound ps
      (a :: rest.1, rest.2)
    | none => ([], ps.filterMap fun p => (bound.find? p.name).map fun a => (p.name, a))

/-- What a handler sees of the arguments of a call. -/
def arguments (params : List Parameter) (positional : List Argument) (named : Fields Argument) :
    Except Fault (List Argument) :=
  return seen params (← bind params positional named)

/-- The arguments of a call with the one of the parameter `name` compiled. -/
def convertArguments (params : List Parameter) (name : Text) (compiler : Except Fault QueryCompiler)
    (positional : List Argument) (named : Fields Argument) :
    Journal (List Argument × Fields Argument) := do
  let bound ← bind params positional named
  return spread (← convertNamed name compiler bound) params

end Handler

/-- What a call returns: a value, or a coroutine that runs when it is awaited. -/
inductive Returned (α : Type) where
  | value (a : α)
  | coroutine (run : Journal α)

/-- The value that a call returned or that its coroutine gives. -/
def Returned.awaited {α : Type} : Returned α → Journal α
  | .value a => pure a
  | .coroutine run => run

/-- A function that is called by position and by name. -/
abbrev Callable (α : Type) := List Argument → Fields Argument → Journal (Returned α)

/-- Calls a function, and awaits the coroutine if there is one. -/
def Callable.run {α : Type} (f : Callable α) (positional : List Argument)
    (named : Fields Argument) : Journal α := do
  (← f positional named).awaited

/-- What a handler does with the arguments that it sees, when it is called or, for a coroutine
function, when it is awaited. -/
structure Routine (α : Type) where
  body : List Argument → Journal α
  isCoroutine : Bool

namespace Routine

variable {α : Type}

/-- The handler itself. Arguments are bound when it is called. -/
def callable (f : Routine α) (params : List Parameter) : Callable α := fun positional named => do
  let seen ← Handler.arguments params positional named
  if f.isCoroutine then return .coroutine (f.body seen)
  else return .value (← f.body seen)

/-- The handler whose parameter `name` receives the compiled query. A coroutine function binds and
compiles its arguments when it is awaited. -/
def decorated (f : Routine α) (params : List Parameter) (name : Text)
    (compiler : Except Fault QueryCompiler) : Callable α := fun positional named =>
  let call : Journal (Returned α) := do
    let arguments ← Handler.convertArguments params name compiler positional named
    f.callable params arguments.1 arguments.2
  if f.isCoroutine then return .coroutine do (← call).awaited
  else call

/-- Makes the parameter `name` of a handler receive the compiled query. -/
def decorate (f : Routine α) (handler : Text) (params : List Parameter) (name : Text)
    (compiler : Except Fault QueryCompiler) : Except Fault (Callable α) :=
  if params.all (·.name ≠ name) then .error (.noParameter handler name)
  else .ok (f.decorated params name compiler)

/-- Runs a call of a handler whose parameter `name` receives the compiled query. -/
def call (f : Routine α) (handler : Text) (params : List Parameter) (name : Text)
    (compiler : Except Fault QueryCompiler) (positional : List Argument)
    (named : Fields Argument) : Journal α := do
  let decorated ← f.decorate handler params name compiler
  decorated.run positional named

end Routine

end FindQuery
