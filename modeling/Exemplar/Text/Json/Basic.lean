import Exemplar.Text.Digits

/-!
JSON values, as they are read and before anyone has asked for a meaning. A number stays the literal
that was written. Text that escapes half of a surrogate pair has no characters to stand for; such
text is legal where nobody looks at it, so it is a value too.
-/

namespace Exemplar.Text

inductive Json where
  | null
  | bool (b : Bool)
  | number (literal : List Char)
  /-- The characters, or `none` if an escape in the text stands for no character. -/
  | text (content : Option String)
  | array (items : List Json)
  | object (members : List (Option String × Json))
  deriving Inhabited

namespace Json

def ofNat (n : Nat) : Json := number (Nat.toDigits 10 n)

def ofString (s : String) : Json := text (some s)

def ofMembers (members : List (String × Json)) : Json :=
  object (members.map fun m => (some m.1, m.2))

def string? : Json → Option String
  | text content => content
  | _ => none

/-- A number written with digits only, if it is below 2³². -/
def uint32? : Json → Option UInt32
  | number literal =>
    let n := decimalValue literal
    if isDigits literal && n < UInt32.size then some (UInt32.ofNat n) else none
  | _ => none

/-- The values of a record with the given fields. It is written as an object that has each field
once, in any order and perhaps among others, or as an array with exactly these values. -/
def record? (fields : List String) : Json → Option (List Json)
  | array items => if items.length = fields.length then some items else none
  | object members =>
    if members.all (·.1.isSome) then
      fields.mapM fun field =>
        match members.filter (·.1 == some field) with
        | [member] => some member.2
        | _ => none
    else none
  | _ => none

end Json

end Exemplar.Text
