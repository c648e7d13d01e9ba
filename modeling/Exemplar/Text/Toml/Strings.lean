import Exemplar.Text.Digits

namespace Exemplar.Text.Toml

/-- Characters that may stand unescaped: all but control characters, and the tab. -/
def isPlain (c : Char) : Bool := c == '\t' || (0x20 ≤ c.toNat && c.toNat ≠ 0x7F)

def hexChar? (cs : List Char) : Option Char := do
  let n ← hexNumber? cs
  if n.isValidChar then some (Char.ofNat n) else none

def shortEscape? : Char → Option Char
  | 'b' => some '\x08'
  | 't' => some '\t'
  | 'n' => some '\n'
  | 'f' => some '\x0c'
  | 'r' => some '\r'
  | '"' => some '"'
  | '\\' => some '\\'
  | _ => none

def prepend (c : Char) (r : List Char × List Char) : List Char × List Char := (c :: r.1, r.2)

/-- A string on one line with escapes. -/
def readBasic : List Char → Option (List Char × List Char)
  | [] => none
  | '"' :: rest => some ([], rest)
  | '\\' :: 'u' :: a :: b :: c :: d :: rest => do
    let ch ← hexChar? [a, b, c, d]
    return prepend ch (← readBasic rest)
  | '\\' :: 'U' :: a :: b :: c :: d :: e :: f :: g :: h :: rest => do
    let ch ← hexChar? [a, b, c, d, e, f, g, h]
    return prepend ch (← readBasic rest)
  | '\\' :: e :: rest => do
    let ch ← shortEscape? e
    return prepend ch (← readBasic rest)
  | c :: rest => if isPlain c && c ≠ '\\' then (readBasic rest).map (prepend c) else none

def readLiteral : List Char → Option (List Char × List Char)
  | [] => none
  | '\'' :: rest => some ([], rest)
  | c :: rest => if isPlain c then (readLiteral rest).map (prepend c) else none

def dropLineEnd : List Char → List Char
  | '\n' :: rest => rest
  | '\r' :: '\n' :: rest => rest
  | cs => cs

/-- The closing quotes of a string over several lines. Up to two more of them belong to the string. -/
def readClosing (quote : Char) (cs : List Char) : Option (List Char × List Char) :=
  let run := cs.takeWhile (· == quote)
  if 3 ≤ run.length && run.length ≤ 5 then
    some (List.replicate (run.length - 3) quote, cs.drop run.length)
  else none

def readLongLiteral : List Char → Option (List Char × List Char)
  | [] => none
  | '\'' :: rest =>
    match readClosing '\'' ('\'' :: rest) with
    | some closing => some closing
    | none => if rest.take 2 = ['\'', '\''] then none else (readLongLiteral rest).map (prepend '\'')
  | '\n' :: rest => (readLongLiteral rest).map (prepend '\n')
  | '\r' :: '\n' :: rest => (readLongLiteral rest).map fun r => prepend '\r' (prepend '\n' r)
  | c :: rest => if isPlain c then (readLongLiteral rest).map (prepend c) else none

/-- Blanks at the end of a line and line ends after a backslash; `ended` once a line has ended. -/
def skipFolded : List Char → (ended : Bool) → Option (List Char)
  | ' ' :: rest, ended => skipFolded rest ended
  | '\t' :: rest, ended => skipFolded rest ended
  | '\n' :: rest, _ => skipFolded rest true
  | '\r' :: '\n' :: rest, _ => skipFolded rest true
  | cs, ended => if ended then some cs else none

/-- A string over several lines with escapes. A backslash at the end of a line folds it with what
follows. The first argument bounds the number of steps. -/
def readLongBasic : Nat → List Char → Option (List Char × List Char)
  | 0, _ => none
  | _, [] => none
  | n + 1, '"' :: rest =>
    match readClosing '"' ('"' :: rest) with
    | some closing => some closing
    | none => if rest.take 2 = ['"', '"'] then none else (readLongBasic n rest).map (prepend '"')
  | n + 1, '\\' :: 'u' :: a :: b :: c :: d :: rest => do
    let ch ← hexChar? [a, b, c, d]
    return prepend ch (← readLongBasic n rest)
  | n + 1, '\\' :: 'U' :: a :: b :: c :: d :: e :: f :: g :: h :: rest => do
    let ch ← hexChar? [a, b, c, d, e, f, g, h]
    return prepend ch (← readLongBasic n rest)
  | n + 1, '\\' :: e :: rest =>
    match shortEscape? e with
    | some ch => (readLongBasic n rest).map (prepend ch)
    | none => do readLongBasic n (← skipFolded (e :: rest) false)
  | n + 1, '\n' :: rest => (readLongBasic n rest).map (prepend '\n')
  | n + 1, '\r' :: '\n' :: rest => (readLongBasic n rest).map fun r => prepend '\r' (prepend '\n' r)
  | n + 1, c :: rest =>
    if isPlain c && c ≠ '\\' then (readLongBasic n rest).map (prepend c) else none

/-- A string of any kind, from its first quote on. -/
def readString : List Char → Option (List Char × List Char)
  | '"' :: '"' :: '"' :: rest => readLongBasic (rest.length + 1) (dropLineEnd rest)
  | '"' :: rest => readBasic rest
  | '\'' :: '\'' :: '\'' :: rest => readLongLiteral (dropLineEnd rest)
  | '\'' :: rest => readLiteral rest
  | _ => none

end Exemplar.Text.Toml
