import Exemplar.Config.Layer

namespace Exemplar

inductive Flag where
  | logFilter
  | logFormat
  | nameSeparator
  | configPath
  deriving DecidableEq, Repr

namespace Flag

def ofLongName? (name : String) : Option Flag :=
  if name = "log-filter" then some logFilter
  else if name = "log-format" then some logFormat
  else if name = "name-separator" then some nameSeparator
  else if name = "config-path" then some configPath
  else none

def ofShortName? (c : Char) : Option Flag :=
  if c = 'l' then some logFilter
  else if c = 'L' then some logFormat
  else if c = 'n' then some nameSeparator
  else none

/-- The flag of an argument, and the value that is attached to it. A long flag and its value are
parted by an equals sign; behind a short flag the sign may be left out. -/
def ofArgument? : List Char → Option (Flag × Option String)
  | '-' :: '-' :: cs =>
    let name := cs.takeWhile (· ≠ '=')
    let value :=
      match cs.drop name.length with
      | [] => none
      | _ :: value => some (String.ofList value)
    (ofLongName? (String.ofList name)).map (·, value)
  | '-' :: c :: cs =>
    let value :=
      match cs with
      | [] => none
      | '=' :: value => some (String.ofList value)
      | value => some (String.ofList value)
    (ofShortName? c).map (·, value)
  | _ => none

end Flag

structure Arguments where
  logFilter : Option String
  logFormat : Option LogFormat
  nameSeparator : Option String
  configPath : Option String
  deriving DecidableEq, Repr

namespace Arguments

def none : Arguments := ⟨.none, .none, .none, .none⟩

/-- Takes the value of a flag, unless the flag was given before or does not admit the value. -/
def take? (a : Arguments) (flag : Flag) (value : String) : Option Arguments :=
  match flag with
  | .logFilter => if a.logFilter.isSome then .none else some { a with logFilter := value }
  | .logFormat =>
    if a.logFormat.isSome then .none
    else (LogFormat.ofNameAnyCase? value).map fun format => { a with logFormat := format }
  | .nameSeparator => if a.nameSeparator.isSome then .none else some { a with nameSeparator := value }
  | .configPath => if a.configPath.isSome then .none else some { a with configPath := value }

/-- An argument that can be the value of the flag in front of it. -/
def isValue (arg : String) : Bool := arg.toList.head? != some '-' || arg == "-"

/-- Reads arguments on top of those read already. -/
def readAfter (a : Arguments) : List String → Option Arguments
  | [] => some a
  | arg :: rest =>
    if arg = "--" && rest.isEmpty then some a else
    match Flag.ofArgument? arg.toList, rest with
    | .none, _ => .none
    | some (flag, some value), rest => (a.take? flag value).bind fun a => a.readAfter rest
    | some (_, .none), [] => .none
    | some (flag, .none), value :: rest =>
      if isValue value then (a.take? flag value).bind fun a => a.readAfter rest else .none

/-- Reads a command line, which starts with the name of the program. -/
def read? (args : List String) : Option Arguments := none.readAfter (args.drop 1)

/-- All settings are given, and each is what holds anyway. -/
def restatesDefaults (a : Arguments) : Bool :=
  a == ⟨some Config.defaultLogFilter, some Config.defaultLogFormat,
    some Config.defaultNameSeparator, .none⟩

/-- The layer of a command line. One that only restates the defaults says nothing. -/
def layer (a : Arguments) : Layer :=
  if a.restatesDefaults then .empty
  else .ofTexts a.logFilter (a.logFormat.map LogFormat.name) a.nameSeparator

end Arguments

end Exemplar
