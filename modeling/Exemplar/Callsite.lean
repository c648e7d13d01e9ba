import Exemplar.Text.Inspection

namespace Exemplar

open Text (Inspection)

/-- A line of a source file. -/
structure Callsite where
  file : String
  line : UInt32
  deriving DecidableEq, Repr, Inhabited

namespace Callsite

def display (c : Callsite) : String := c.file ++ ":" ++ toString c.line.toNat

def inspect (c : Callsite) : Inspection :=
  .record "Callsite" [("file", .text c.file), ("line", .count c.line.toNat)] true

end Callsite

end Exemplar
