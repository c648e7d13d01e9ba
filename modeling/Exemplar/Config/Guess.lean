import Exemplar.Config.Layer
import Exemplar.Text.Blank
import Exemplar.Text.Toml.Strings

/-!
The value that the text of an environment variable stands for. The text may be written as a list, an
object, a quoted string, a truth value or a number; what is nothing of the kind is a string as it
stands.
-/

namespace Exemplar.Guess

open Text (decimalValue dropSign isDigits trimBlank)
open Text.Toml (readBasic)

/-- The blanks of ASCII, among which the vertical tab does not count. -/
def isAsciiBlank (c : Char) : Bool :=
  c == ' ' || c == '\t' || c == '\n' || c == '\x0c' || c == '\r'

def skipAsciiBlanks (cs : List Char) : List Char := cs.dropWhile isAsciiBlank

/-- Characters that end a value without quotes. -/
def isSeparator (c : Char) : Bool := c == ',' || c == '{' || c == '}' || c == '[' || c == ']'

/-- A whole number that fits 64 bits, with or without a sign. -/
def isWholeNumber : List Char → Bool
  | '-' :: ds => isDigits ds && decimalValue ds ≤ Nat.pow 2 63
  | '+' :: ds => isDigits ds && decimalValue ds < Nat.pow 2 64
  | ds => isDigits ds && decimalValue ds < Nat.pow 2 64

/-- A number with a point, which has a digit on at least one side, and perhaps an exponent. -/
def isPointNumber (cs : List Char) : Bool :=
  let cs := dropSign cs
  let whole := cs.takeWhile Char.isDigit
  match cs.drop whole.length with
  | '.' :: cs =>
    let fraction := cs.takeWhile Char.isDigit
    !(whole.isEmpty && fraction.isEmpty) &&
      match cs.drop fraction.length with
      | [] => true
      | e :: exponent => (e == 'e' || e == 'E') && isDigits (dropSign exponent)
  | _ => false

def plain (cs : List Char) : SourceValue :=
  if isPointNumber cs || isWholeNumber cs then .other else .text (String.ofList cs)

def isKeyChar (c : Char) : Bool := c.isAlphanum || c == '_' || c == '-'

def readKey (cs : List Char) : Option (List Char) :=
  match cs with
  | '"' :: rest => (readBasic rest).map (·.2)
  | cs =>
    let key := cs.takeWhile isKeyChar
    if key.isEmpty then none else some (cs.drop key.length)

mutual

/-- One value and what follows it. The first argument bounds how often readers call each other. -/
def readValue : Nat → List Char → Option (SourceValue × List Char)
  | 0, _ => none
  | n + 1, cs => do
    let (value, rest) ←
      match skipAsciiBlanks cs with
      | 't' :: 'r' :: 'u' :: 'e' :: rest => some (.other, rest)
      | 'f' :: 'a' :: 'l' :: 's' :: 'e' :: rest => some (.other, rest)
      | '{' :: rest => (readPairs n rest).map fun rest => (.other, rest)
      | '[' :: rest => (readItems n rest).map fun rest => (.other, rest)
      | '"' :: rest => (readBasic rest).map fun (s, rest) => (.text (String.ofList s), rest)
      | '\'' :: c :: '\'' :: rest => some (.text (String.ofList [c]), rest)
      | '\'' :: _ => none
      | cs =>
        let word := cs.takeWhile fun c => !isSeparator c
        some (plain (trimBlank word), cs.drop word.length)
    return (value, skipAsciiBlanks rest)

/-- The items of a list and its closing bracket. A comma may stand behind the last item. -/
def readItems : Nat → List Char → Option (List Char)
  | 0, _ => none
  | n + 1, cs =>
    match cs with
    | ']' :: rest => some rest
    | cs => do
      match ← readValue n cs with
      | (_, ',' :: rest) => readItems n rest
      | (_, ']' :: rest) => return rest
      | _ => none

/-- The pairs of an object and its closing brace. A comma may stand behind the last pair. -/
def readPairs : Nat → List Char → Option (List Char)
  | 0, _ => none
  | n + 1, cs =>
    match cs with
    | '}' :: rest => some rest
    | cs => do
      match skipAsciiBlanks (← readKey (skipAsciiBlanks cs)) with
      | '=' :: rest =>
        match ← readValue n rest with
        | (_, ',' :: rest) => readPairs n rest
        | (_, '}' :: rest) => return rest
        | _ => none
      | _ => none

end

/-- A list written without brackets. -/
def isBareList (cs : List Char) : Bool :=
  cs.contains ',' && !(cs.head?.any fun c => c == '[' || c == '{' || c == '"' || c == '\'')

def isTruthValue (cs : List Char) : Bool :=
  let word := cs.map Char.toLower
  word == "true".toList || word == "false".toList

def value (text : String) : SourceValue :=
  let cs := trimBlank text.toList
  if isBareList cs || isTruthValue cs then .other
  else
    match readValue (2 * cs.length + 2) cs with
    | some (value, []) => value
    | _ => .text (String.ofList cs)

end Exemplar.Guess
