namespace Exemplar.Text.Toml

/-- How a table came about: as the parent of a table with a header, by a header of its own, or by a
dotted key. -/
inductive Origin where
  | implied
  | headed
  | dotted
  deriving DecidableEq, Repr

/-- What a key stands for. Of values only strings are kept; arrays and inline tables are closed, so
they are values like numbers. -/
inductive Item where
  | text (s : String)
  | value
  | table (origin : Origin) (entries : List (String × Item))
  /-- An array of tables, the latest first. -/
  | tables (entries : List (String × Item)) (earlier : Nat)
  deriving Inhabited

abbrev Entries := List (String × Item)

namespace Entries

def put (es : Entries) (key : String) (item : Item) : Entries :=
  (key, item) :: es.filter (·.1 ≠ key)

/-- Sets the value of a key, which may be dotted. Each key is set once. A dotted key goes through
tables that no header has defined and into the latest table of an array, and the value is set in a
table that dotted keys have made. -/
def assign (es : Entries) : List String → Item → Option Entries
  | [], _ => none
  | [key], item => if (es.lookup key).isSome then none else some (es.put key item)
  | key :: keys, item =>
    match es.lookup key with
    | none => (assign [] keys item).map fun inner => es.put key (.table .dotted inner)
    | some (.table .dotted inner) =>
      (assign inner keys item).map fun inner => es.put key (.table .dotted inner)
    | some (.table .implied inner) =>
      if keys.length = 1 then none
      else (assign inner keys item).map fun inner => es.put key (.table .implied inner)
    | some (.tables inner n) =>
      if keys.length = 1 then none
      else (assign inner keys item).map fun inner => es.put key (.tables inner n)
    | _ => none

def defineTable (es : Entries) : List String → Option Entries
  | [] => none
  | [key] =>
    match es.lookup key with
    | none => some (es.put key (.table .headed []))
    | some (.table .implied inner) => some (es.put key (.table .headed inner))
    | _ => none
  | key :: keys =>
    match es.lookup key with
    | none => (defineTable [] keys).map fun inner => es.put key (.table .implied inner)
    | some (.table origin inner) =>
      (defineTable inner keys).map fun inner => es.put key (.table origin inner)
    | some (.tables inner n) => (defineTable inner keys).map fun inner => es.put key (.tables inner n)
    | _ => none

/-- Adds a table to an array of tables by a header. -/
def addTable (es : Entries) : List String → Option Entries
  | [] => none
  | [key] =>
    match es.lookup key with
    | none => some (es.put key (.tables [] 0))
    | some (.tables _ n) => some (es.put key (.tables [] (n + 1)))
    | _ => none
  | key :: keys =>
    match es.lookup key with
    | none => (addTable [] keys).map fun inner => es.put key (.table .implied inner)
    | some (.table origin inner) =>
      (addTable inner keys).map fun inner => es.put key (.table origin inner)
    | some (.tables inner n) => (addTable inner keys).map fun inner => es.put key (.tables inner n)
    | _ => none

/-- Sets the value of a key in the table that the latest header has opened. -/
def assignIn (es : Entries) : List String → List String → Item → Option Entries
  | [], keys, item => es.assign keys item
  | key :: path, keys, item =>
    match es.lookup key with
    | some (.table origin inner) =>
      (assignIn inner path keys item).map fun inner => es.put key (.table origin inner)
    | some (.tables inner n) =>
      (assignIn inner path keys item).map fun inner => es.put key (.tables inner n)
    | _ => none

end Entries

end Exemplar.Text.Toml
