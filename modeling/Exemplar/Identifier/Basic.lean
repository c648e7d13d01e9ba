import Exemplar.Text.Alphanumeric
import Exemplar.Text.LowerCase

/-!
Identifiers made from descriptions: the words of all descriptions in lower case, with one underscore
between two words. A word is a run of letters and digits inside one description.
-/

namespace Exemplar.Identifier

open Text (isAlphanumeric lowerCase)

/-- The identifier of descriptions without a word. -/
def fallback : String := "example"

/-- An identifier that is being written, and whether something other than a word has been passed
since its last character. -/
structure Draft where
  written : List Char
  gap : Bool
  deriving DecidableEq, Repr

namespace Draft

def start : Draft := ⟨[], false⟩

def add (d : Draft) (c : Char) : Draft :=
  if isAlphanumeric c then
    let separator := if d.gap && !d.written.isEmpty then ['_'] else []
    ⟨d.written ++ separator ++ lowerCase c, false⟩
  else { d with gap := true }

/-- Takes one description. Its end parts words like any other gap. -/
def addPart (d : Draft) (part : String) : Draft := { part.toList.foldl add d with gap := true }

end Draft

def ofParts (parts : List String) : String :=
  match (parts.foldl Draft.addPart Draft.start).written with
  | [] => fallback
  | cs => String.ofList cs

end Exemplar.Identifier
