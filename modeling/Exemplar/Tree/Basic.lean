import Exemplar.Callsite

/-!
The example tree: groups hold examples and further groups in the order of their declaration, and
hooks that run around every example beneath them. What a hook or body is, `β`, is left open.
-/

namespace Exemplar

/-- A leaf of the tree. Once declared only its generated name changes, and that only once. -/
structure Example (β : Type) where
  description : String
  /-- Descriptions of the groups around it, outermost first. -/
  ancestry : List String
  callsite : Callsite
  /-- What runs; a pending example has none. -/
  body : Option β
  generatedName : Option String
  deriving Repr

namespace Example

variable {β : Type}

def isPending (e : Example β) : Bool := e.body.isNone

/-- The descriptions from the outermost group down to the example. -/
def chain (e : Example β) : List String := e.ancestry ++ [e.description]

def fullDescription (e : Example β) (separator : String) : String :=
  separator.intercalate e.chain

/-- The name that the example bears after it has been given `name`: the first one given stays. -/
def nameAfter (e : Example β) (name : String) : String := e.generatedName.getD name

def assignName (e : Example β) (name : String) : Example β :=
  { e with generatedName := some (e.nameAfter name) }

end Example

/-- What a group holds, in the order of declaration. -/
inductive Children (β : Type) where
  | nil
  | leaf (e : Example β) (rest : Children β)
  | branch (description : String) (members : Children β) (before after : List β)
      (rest : Children β)
  deriving Repr, Inhabited

/-- A group. That of a whole spec has an empty description, which no example name shows. -/
structure Group (β : Type) where
  description : String
  children : Children β
  before : List β
  after : List β
  deriving Repr, Inhabited

namespace Children

variable {β : Type}

def append : Children β → Children β → Children β
  | nil, more => more
  | leaf e rest, more => leaf e (rest.append more)
  | branch d members before after rest, more => branch d members before after (rest.append more)

def groups : Children β → List (Group β)
  | nil => []
  | leaf _ rest => rest.groups
  | branch d members before after rest => ⟨d, members, before, after⟩ :: rest.groups

def examples : Children β → List (Example β)
  | nil => []
  | leaf e rest => e :: rest.examples
  | branch _ _ _ _ rest => rest.examples

def flatten : Children β → List (Example β)
  | nil => []
  | leaf e rest => e :: rest.flatten
  | branch _ members _ _ rest => members.flatten ++ rest.flatten

def exampleCount : Children β → Nat
  | nil => 0
  | leaf _ rest => 1 + rest.exampleCount
  | branch _ members _ _ rest => members.exampleCount + rest.exampleCount

/-- Gives the examples beneath one name each, in order, and returns the names that are left. -/
def assignNames : Children β → List String → Children β × List String
  | nil, names => (nil, names)
  | leaf e rest, [] => (leaf e rest, [])
  | leaf e rest, name :: names =>
    let (rest, names) := rest.assignNames names
    (leaf (e.assignName name) rest, names)
  | branch d members before after rest, names =>
    let (members, names) := members.assignNames names
    let (rest, names) := rest.assignNames names
    (branch d members before after rest, names)

/-- Replaces the direct child group at an index, if there is one. -/
def setGroup : Children β → Nat → Group β → Children β
  | nil, _, _ => nil
  | leaf e rest, i, g => leaf e (rest.setGroup i g)
  | branch _ _ _ _ rest, 0, g => branch g.description g.children g.before g.after rest
  | branch d members before after rest, i + 1, g =>
    branch d members before after (rest.setGroup i g)

end Children

namespace Group

variable {β : Type}

def empty (description : String) : Group β := ⟨description, .nil, [], []⟩

/-- The group of a whole spec before its declaration. -/
def root : Group β := empty ""

def groups (g : Group β) : List (Group β) := g.children.groups

def examples (g : Group β) : List (Example β) := g.children.examples

def flatten (g : Group β) : List (Example β) := g.children.flatten

def exampleCount (g : Group β) : Nat := g.children.exampleCount

def pushExample (g : Group β) (e : Example β) : Group β :=
  { g with children := g.children.append (.leaf e .nil) }

def pushGroup (g sub : Group β) : Group β :=
  { g with
    children := g.children.append
      (.branch sub.description sub.children sub.before sub.after .nil) }

def pushBefore (g : Group β) (hook : β) : Group β := { g with before := g.before ++ [hook] }

def pushAfter (g : Group β) (hook : β) : Group β := { g with after := g.after ++ [hook] }

/-- Gives the examples beneath one name each, in order. -/
def assignNames (g : Group β) (names : List String) : Group β :=
  { g with children := (g.children.assignNames names).1 }

/-- The group that a path of indices into the child groups leads to. -/
def at? (g : Group β) : List Nat → Option (Group β)
  | [] => some g
  | i :: path =>
    match g.groups[i]? with
    | some sub => sub.at? path
    | none => none

/-- The tree with the group at the path changed, if the path leads to one. -/
def updateAt (g : Group β) (path : List Nat) (f : Group β → Group β) : Group β :=
  match path with
  | [] => f g
  | i :: path =>
    match g.groups[i]? with
    | some sub => { g with children := g.children.setGroup i (sub.updateAt path f) }
    | none => g

end Group

end Exemplar
