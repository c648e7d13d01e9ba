namespace Exemplar.Text

/-- The parts of a text between the occurrences of a separator: one part more than there are
separators. -/
def splitAtChar (separator : Char) : List Char → List (List Char)
  | [] => [[]]
  | c :: rest =>
    match splitAtChar separator rest with
    | [] => []
    | part :: parts => if c = separator then [] :: part :: parts else (c :: part) :: parts

theorem splitAtChar_ne_nil (separator : Char) (cs : List Char) :
    splitAtChar separator cs ≠ [] := by
  induction cs with
  | nil => simp [splitAtChar]
  | cons c rest ih =>
    unfold splitAtChar
    split
    · next h => exact absurd h ih
    · split <;> simp

end Exemplar.Text
