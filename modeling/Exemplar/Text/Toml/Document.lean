import Exemplar.Text.Toml.Scalars
import Exemplar.Text.Toml.Strings
import Exemplar.Text.Toml.Table

namespace Exemplar.Text.Toml

def isLineBlank (c : Char) : Bool := c == ' ' || c == '\t'

def skipBlanks (cs : List Char) : List Char := cs.dropWhile isLineBlank

/-- The characters after a comment, if one starts here: up to the end of the line, where control
characters other than the tab are not allowed. -/
def skipComment : List Char → List Char
  | '#' :: rest => rest.dropWhile isPlain
  | cs => cs

/-- The characters of the next line, if nothing but blanks and a comment is left on this one. -/
def endLine (cs : List Char) : Option (List Char) :=
  match skipComment (skipBlanks cs) with
  | [] => some []
  | '\n' :: rest => some rest
  | '\r' :: '\n' :: rest => some rest
  | _ => none

/-- Skips blanks, comments and line ends. The first argument bounds the number of lines. -/
def skipLines : Nat → List Char → List Char
  | 0, cs => cs
  | n + 1, cs =>
    match skipComment (skipBlanks cs) with
    | '\n' :: rest => skipLines n rest
    | '\r' :: '\n' :: rest => skipLines n rest
    | cs => cs

def isBareKeyChar (c : Char) : Bool := c.isAlphanum || c == '_' || c == '-'

/-- One part of a key: bare, or a string on one line. -/
def readKeyPart (cs : List Char) : Option (String × List Char) :=
  match cs with
  | '"' :: rest => (readBasic rest).map fun (key, rest) => (String.ofList key, rest)
  | '\'' :: rest => (readLiteral rest).map fun (key, rest) => (String.ofList key, rest)
  | cs =>
    match cs.takeWhile isBareKeyChar with
    | [] => none
    | key => some (String.ofList key, cs.drop key.length)

/-- A key: parts with dots between them. The first argument bounds the number of parts. -/
def readKey : Nat → List Char → Option (List String × List Char)
  | 0, _ => none
  | n + 1, cs => do
    let (part, rest) ← readKeyPart (skipBlanks cs)
    match skipBlanks rest with
    | '.' :: rest =>
      let (parts, rest) ← readKey n rest
      return (part :: parts, rest)
    | rest => return ([part], rest)

mutual

/-- One value. The first argument bounds how often readers call each other. -/
def readValue : Nat → List Char → Option (Item × List Char)
  | 0, _ => none
  | n + 1, cs =>
    match cs with
    | '"' :: _ | '\'' :: _ =>
      (readString cs).map fun (s, rest) => (.text (String.ofList s), rest)
    | '[' :: rest => (readItems n (skipLines rest.length rest)).map fun rest => (.value, rest)
    | '{' :: rest =>
      match skipBlanks rest with
      | '}' :: rest => some (.value, rest)
      | rest => (readPairs n [] rest).map fun rest => (.value, rest)
    | cs => (readScalar cs).map fun rest => (.value, rest)

/-- The items of an array and its closing bracket. A comma may stand behind the last item. -/
def readItems : Nat → List Char → Option (List Char)
  | 0, _ => none
  | n + 1, cs =>
    match cs with
    | ']' :: rest => some rest
    | cs => do
      let (_, rest) ← readValue n cs
      match skipLines rest.length rest with
      | ',' :: rest => readItems n (skipLines rest.length rest)
      | ']' :: rest => return rest
      | _ => none

def readPairs : Nat → Entries → List Char → Option (List Char)
  | 0, _, _ => none
  | n + 1, entries, cs => do
    let (key, rest) ← readKey cs.length cs
    match rest with
    | '=' :: rest =>
      let (item, rest) ← readValue n (skipBlanks rest)
      let entries ← entries.assign key item
      match skipBlanks rest with
      | ',' :: rest => readPairs n entries (skipBlanks rest)
      | '}' :: rest => return rest
      | _ => none
    | _ => none

end

/-- What has been read of a document: its entries, and the path of the table that is open. -/
structure State where
  entries : Entries
  path : List String

def readStatement (s : State) (cs : List Char) : Option (State × List Char) :=
  match cs with
  | '[' :: '[' :: rest => do
    let (key, rest) ← readKey rest.length rest
    match rest with
    | ']' :: ']' :: rest => return (⟨← s.entries.addTable key, key⟩, ← endLine rest)
    | _ => none
  | '[' :: rest => do
    let (key, rest) ← readKey rest.length rest
    match rest with
    | ']' :: rest => return (⟨← s.entries.defineTable key, key⟩, ← endLine rest)
    | _ => none
  | cs => do
    let (key, rest) ← readKey cs.length cs
    match rest with
    | '=' :: rest =>
      let (item, rest) ← readValue (2 * rest.length + 1) (skipBlanks rest)
      return (⟨← s.entries.assignIn s.path key item, s.path⟩, ← endLine rest)
    | _ => none

/-- Statements up to the end. The first argument bounds their number. -/
def readStatements : Nat → State → List Char → Option Entries
  | 0, _, _ => none
  | n + 1, s, cs =>
    match skipBlanks (skipLines cs.length cs) with
    | [] => some s.entries
    | cs => do
      let (s, rest) ← readStatement s cs
      readStatements n s rest

/-- The top-level entries of a document, which may start with a byte order mark. -/
def parse (text : String) : Option Entries :=
  let cs := match text.toList with
    | '\uFEFF' :: rest => rest
    | cs => cs
  readStatements (cs.length + 1) ⟨[], []⟩ cs

end Exemplar.Text.Toml
