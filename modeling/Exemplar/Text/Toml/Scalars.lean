import Exemplar.Text.Digits
import Exemplar.Text.Split

namespace Exemplar.Text.Toml

/-- Digits in groups with one underscore between two groups. -/
def isGrouped (digit : Char → Bool) (cs : List Char) : Bool :=
  (splitAtChar '_' cs).all fun part => !part.isEmpty && part.all digit

/-- The value of digits of either case in a base up to sixteen, underscores left out. -/
def groupedValue (base : Nat) (cs : List Char) : Nat :=
  (cs.filter (· ≠ '_')).foldl (fun n c =>
    base * n + (if c.isDigit then c.toNat - '0'.toNat else c.toLower.toNat - 'a'.toNat + 10)) 0

def isHexDigit (c : Char) : Bool :=
  c.isDigit || ('a' ≤ c && c ≤ 'f') || ('A' ≤ c && c ≤ 'F')

def isDecimal (cs : List Char) : Bool :=
  isGrouped Char.isDigit cs && (cs == ['0'] || cs.head? != some '0')

/-- An integer of 64 bits. A sign goes only with a decimal one. -/
def isInteger : List Char → Bool
  | '0' :: 'x' :: cs => isGrouped isHexDigit cs && groupedValue 16 cs < Nat.pow 2 63
  | '0' :: 'o' :: cs => isGrouped (fun c => '0' ≤ c && c ≤ '7') cs && groupedValue 8 cs < Nat.pow 2 63
  | '0' :: 'b' :: cs => isGrouped (fun c => c == '0' || c == '1') cs && groupedValue 2 cs < Nat.pow 2 63
  | '-' :: cs => isDecimal cs && groupedValue 10 cs ≤ Nat.pow 2 63
  | cs => isDecimal (dropSign cs) && groupedValue 10 (dropSign cs) < Nat.pow 2 63

/-- A number with a fraction, an exponent or both, an infinity, or no number. -/
def isFloat (cs : List Char) : Bool :=
  let cs := dropSign cs
  if cs == "inf".toList || cs == "nan".toList then true else
  let mantissa := cs.takeWhile fun c => c ≠ 'e' && c ≠ 'E'
  let exponent := cs.drop mantissa.length
  let whole := mantissa.takeWhile (· ≠ '.')
  let fraction := mantissa.drop whole.length
  isDecimal whole && !(fraction.isEmpty && exponent.isEmpty) &&
    (fraction.isEmpty || isGrouped Char.isDigit fraction.tail) &&
    (exponent.isEmpty || isGrouped Char.isDigit (dropSign exponent.tail))

/-- The number that exactly so many digits stand for. -/
def digits? (width : Nat) (cs : List Char) : Option Nat :=
  if cs.length = width && cs.all Char.isDigit then some (groupedValue 10 cs) else none

def daysOfMonth (year month : Nat) : Nat :=
  if month = 2 then
    if year % 4 = 0 && (year % 100 ≠ 0 || year % 400 = 0) then 29 else 28
  else if month = 4 || month = 6 || month = 9 || month = 11 then 30
  else 31

def isDate (cs : List Char) : Bool :=
  match splitAtChar '-' cs with
  | [y, m, d] =>
    match digits? 4 y, digits? 2 m, digits? 2 d with
    | some y, some m, some d => 1 ≤ m && m ≤ 12 && 1 ≤ d && d ≤ daysOfMonth y m
    | _, _, _ => false
  | _ => false

/-- A time of day, written with colons; seconds may have a fraction. -/
def isTime (cs : List Char) : Bool :=
  let clock := cs.takeWhile (· ≠ '.')
  let fraction := cs.drop clock.length
  (fraction.isEmpty || (2 ≤ fraction.length && fraction.tail.all Char.isDigit)) &&
    match splitAtChar ':' clock with
    | [h, m, s] =>
      match digits? 2 h, digits? 2 m, digits? 2 s with
      | some h, some m, some s => h ≤ 23 && m ≤ 59 && s ≤ 60
      | _, _, _ => false
    | _ => false

def isOffset (cs : List Char) : Bool :=
  match splitAtChar ':' cs with
  | [h, m] =>
    match digits? 2 h, digits? 2 m with
    | some h, some m => h ≤ 23 && m ≤ 59
    | _, _ => false
  | _ => false

def isPlacedTime (cs : List Char) : Bool :=
  let clock := cs.takeWhile fun c => c.isDigit || c == ':' || c == '.'
  isTime clock &&
    match cs.drop clock.length with
    | [] | ['Z'] | ['z'] => true
    | '+' :: offset | '-' :: offset => isOffset offset
    | _ => false

def isDateTime (cs : List Char) : Bool :=
  isDate cs || isTime cs ||
    (isDate (cs.take 10) &&
      match cs.drop 10 with
      | c :: time => (c == 'T' || c == 't' || c == ' ') && isPlacedTime time
      | [] => false)

/-- Any value that is written without quotes or brackets. -/
def isScalar (cs : List Char) : Bool :=
  cs == "true".toList || cs == "false".toList || isInteger cs || isFloat cs || isDateTime cs

/-- Characters of such a value. A blank belongs to it between a date and a time. -/
def isScalarChar (c : Char) : Bool :=
  c.isAlphanum || c == '+' || c == '-' || c == '_' || c == '.' || c == ':'

def readScalar (cs : List Char) : Option (List Char) :=
  let word := cs.takeWhile isScalarChar
  let rest := cs.drop word.length
  let dateAndTime :=
    match rest with
    | ' ' :: more =>
      let time := more.takeWhile isScalarChar
      if isDate word && !time.isEmpty && time.head?.any Char.isDigit then
        some (word ++ ' ' :: time, more.drop time.length)
      else none
    | _ => none
  match dateAndTime with
  | some (whole, rest) => if isDateTime whole then some rest else none
  | none => if isScalar word then some rest else none

end Exemplar.Text.Toml
