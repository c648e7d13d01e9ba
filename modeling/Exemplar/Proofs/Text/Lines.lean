import Exemplar.Text.Split
import Mathlib.Data.List.Basic

namespace Exemplar.Text

theorem splitAtChar_cons_self (separator : Char) (cs : List Char) :
    splitAtChar separator (separator :: cs) = [] :: splitAtChar separator cs := by
  obtain ⟨part, parts, h⟩ := List.exists_cons_of_ne_nil (splitAtChar_ne_nil separator cs)
  simp only [splitAtChar, h, if_true]

theorem splitAtChar_cons_of_ne {separator c : Char} {cs part : List Char} {parts : List (List Char)}
    (hc : c ≠ separator) (h : splitAtChar separator cs = part :: parts) :
    splitAtChar separator (c :: cs) = (c :: part) :: parts := by
  simp only [splitAtChar, h, if_neg hc]

/-- A separator between two texts ends the last part of the first and begins the first of the second. -/
theorem splitAtChar_append (separator : Char) (front back : List Char) :
    splitAtChar separator (front ++ separator :: back) =
      splitAtChar separator front ++ splitAtChar separator back := by
  induction front with
  | nil => exact splitAtChar_cons_self separator back
  | cons c front ih =>
    by_cases hc : c = separator
    · rw [hc, List.cons_append, splitAtChar_cons_self, splitAtChar_cons_self, ih, List.cons_append]
    · obtain ⟨part, parts, h⟩ := List.exists_cons_of_ne_nil (splitAtChar_ne_nil separator front)
      rw [h, List.cons_append] at ih
      rw [List.cons_append, splitAtChar_cons_of_ne hc ih, splitAtChar_cons_of_ne hc h, List.cons_append]

theorem splitAtChar_of_not_mem {separator : Char} {cs : List Char} (h : separator ∉ cs) :
    splitAtChar separator cs = [cs] := by
  induction cs with
  | nil => rfl
  | cons c cs ih =>
    have hc : c ≠ separator := fun hc => h (hc ▸ List.mem_cons_self)
    have hcs : separator ∉ cs := fun hcs => h (List.mem_cons_of_mem c hcs)
    exact splitAtChar_cons_of_ne hc (ih hcs)

theorem length_splitAtChar (separator : Char) (cs : List Char) :
    (splitAtChar separator cs).length = cs.count separator + 1 := by
  induction cs with
  | nil => rfl
  | cons c cs ih =>
    by_cases hc : c = separator
    · rw [hc, splitAtChar_cons_self, List.length_cons, ih, List.count_cons_self]
    · obtain ⟨part, parts, h⟩ := List.exists_cons_of_ne_nil (splitAtChar_ne_nil separator cs)
      rw [h] at ih
      rw [splitAtChar_cons_of_ne hc h, List.count_cons_of_ne hc]
      exact ih

/-- The lines of a text. What stands behind the last newline is a line only if there is anything. -/
def lines (cs : List Char) : List (List Char) :=
  let parts := splitAtChar '\n' cs
  if parts.getLast? = some [] then parts.dropLast else parts

/-- The newline at the end of a text ends its last line and begins no other. -/
theorem lines_append_newline (cs : List Char) : lines (cs ++ ['\n']) = splitAtChar '\n' cs := by
  have hparts : splitAtChar '\n' (cs ++ ['\n']) = splitAtChar '\n' cs ++ [[]] :=
    splitAtChar_append '\n' cs []
  simp only [lines, hparts, List.getLast?_concat, List.dropLast_concat, if_true]

/-- Texts that are each followed by a newline are parted where they end, and where they break. -/
theorem splitAtChar_flatMap (front : List (List Char)) (back : List Char) :
    splitAtChar '\n' (front.flatMap (· ++ ['\n']) ++ back) =
      front.flatMap (splitAtChar '\n') ++ splitAtChar '\n' back := by
  induction front with
  | nil => rfl
  | cons line front ih =>
    rw [List.flatMap_cons, List.flatMap_cons, List.append_assoc, List.append_assoc, List.append_assoc,
      List.singleton_append, splitAtChar_append, ih]

/-- The number of newlines in texts. -/
def newlines (texts : List String) : Nat := (texts.flatMap String.toList).count '\n'

theorem newlines_nil : newlines [] = 0 := rfl

theorem newlines_append (texts more : List String) :
    newlines (texts ++ more) = newlines texts + newlines more := by
  rw [newlines, List.flatMap_append, List.count_append, newlines, newlines]

theorem newlines_cons (text : String) (texts : List String) :
    newlines (text :: texts) = text.toList.count '\n' + newlines texts := by
  rw [newlines, List.flatMap_cons, List.count_append, newlines]

theorem newlines_eq_zero_iff {texts : List String} :
    newlines texts = 0 ↔ ∀ text ∈ texts, '\n' ∉ text.toList := by
  rw [newlines, List.count_eq_zero, List.mem_flatMap]
  push Not
  rfl

end Exemplar.Text
