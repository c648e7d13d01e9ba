import Exemplar.Event.Basic
import Exemplar.Text.Alphanumeric
import Exemplar.Text.Split

/-!
Filters that say which events are written. A filter is a list of directives, each a level for the
parts of the engine whose names start with its target; the directive with the longest such target
decides.
-/

namespace Exemplar

/-- A language of filters. The subscriber takes it as it is: it hands over texts, shows what the reader
says of those that it refuses, and asks the others about events. -/
class FilterLanguage (φ : Type) where
  read : String → Except String φ
  admits : φ → Level → String → Bool

/-- The least urgent level that is let through for a target, or none of all levels. -/
structure Directive where
  target : String
  level : Option Level
  deriving DecidableEq, Repr

abbrev Filter := List Directive

inductive FilterError where
  | unknownLevel
  | malformed
  deriving DecidableEq, Repr

def FilterError.message : FilterError → String
  | unknownLevel =>
    "error parsing level filter: expected one of \"off\", \"error\", \"warn\", \"info\", " ++
      "\"debug\", \"trace\", or a number 0-5"
  | malformed => "invalid filter directive"

namespace Filter

def levelOfNumber? : Nat → Option (Option Level)
  | 0 => some none
  | 1 => some (some .error)
  | 2 => some (some .warn)
  | 3 => some (some .info)
  | 4 => some (some .debug)
  | 5 => some (some .trace)
  | _ => none

/-- A level by its name in any case, or by its number. -/
def levelOfText? (s : String) : Option (Option Level) :=
  match Text.asciiLower s with
  | "off" => some none
  | "error" => some (some .error)
  | "warn" => some (some .warn)
  | "info" => some (some .info)
  | "debug" => some (some .debug)
  | "trace" => some (some .trace)
  | word =>
    let digits := match word.toList with
      | '+' :: digits => digits
      | digits => digits
    if Text.isDigits digits then levelOfNumber? (Text.decimalValue digits) else none

/-- Characters that a directive may start with. -/
def startsDirective (c : Char) : Bool :=
  Text.isAlphanumeric c || c == '-' || c == ':' || c == '_'

/-- A directive: a level for everything, a target with its level, or a target all of whose events are
let through. -/
def readDirective (cs : List Char) : Except FilterError Directive :=
  let target := cs.takeWhile (· ≠ '=')
  if !(cs.head?.any startsDirective) then .error .malformed
  else
    match cs.drop target.length with
    | [] =>
      match levelOfText? (String.ofList cs) with
      | some level => .ok ⟨"", level⟩
      | none => .ok ⟨String.ofList cs, some .trace⟩
    | [_] => .ok ⟨String.ofList target, some .trace⟩
    | _ :: level =>
      match levelOfText? (String.ofList level) with
      | some level => .ok ⟨String.ofList target, level⟩
      | none => .error .unknownLevel

def read (s : String) : Except FilterError Filter :=
  ((Text.splitAtChar ',' s.toList).filter (!·.isEmpty)).mapM readDirective

/-- The directive that decides about a target: of those whose targets it starts with, the one with
the longest, and of equal ones the last. -/
def deciding? (f : Filter) (target : String) : Option Directive :=
  (f.filter fun d => d.target.toList.isPrefixOf target.toList).foldl (fun best d =>
    match best with
    | some b => if b.target.length ≤ d.target.length then some d else some b
    | none => some d) none

def admits (f : Filter) (level : Level) (target : String) : Bool :=
  match f.deciding? target with
  | some ⟨_, some limit⟩ => level.rank ≤ limit.rank
  | _ => false

end Filter

instance : FilterLanguage Filter where
  read text := (Filter.read text).mapError FilterError.message
  admits := Filter.admits

end Exemplar
