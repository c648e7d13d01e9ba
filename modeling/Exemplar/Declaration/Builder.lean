import Exemplar.Tree.Basic

namespace Exemplar

structure Builder (β : Type) where
  root : Group β
  opened : List (Group β)
  deriving Repr, Inhabited

namespace Builder

variable {β : Type}

def start : Builder β := ⟨.root, []⟩

/-- Changes the group to which declarations go. -/
def modifyCurrent (b : Builder β) (f : Group β → Group β) : Builder β :=
  match b.opened with
  | [] => { b with root := f b.root }
  | g :: outer => { b with opened := f g :: outer }

def ancestry (b : Builder β) : List String := (b.opened.map Group.description).reverse

def openGroup (b : Builder β) (description : String) : Builder β :=
  { b with opened := .empty description :: b.opened }

def closeGroup (b : Builder β) : Builder β :=
  match b.opened with
  | [] => b
  | g :: outer => modifyCurrent { b with opened := outer } (·.pushGroup g)

def addExample (b : Builder β) (description : String) (callsite : Callsite) (body : Option β) :
    Builder β :=
  b.modifyCurrent (·.pushExample ⟨description, b.ancestry, callsite, body, none⟩)

def addBefore (b : Builder β) (hook : β) : Builder β := b.modifyCurrent (·.pushBefore hook)

def addAfter (b : Builder β) (hook : β) : Builder β := b.modifyCurrent (·.pushAfter hook)

/-- What declarations can make of a builder: they open and close groups and declare examples and
hooks, and a builder changes in no other way. -/
inductive Grows (b : Builder β) : Builder β → Prop where
  | same : Grows b b
  | openGroup {c : Builder β} (h : Grows b c) (description : String) :
    Grows b (c.openGroup description)
  | closeGroup {c : Builder β} (h : Grows b c) : Grows b c.closeGroup
  | addExample {c : Builder β} (h : Grows b c) (description : String) (callsite : Callsite)
    (body : Option β) : Grows b (c.addExample description callsite body)
  | addBefore {c : Builder β} (h : Grows b c) (hook : β) : Grows b (c.addBefore hook)
  | addAfter {c : Builder β} (h : Grows b c) (hook : β) : Grows b (c.addAfter hook)

/-- Puts a group into the one around it and so on outwards, and the outermost into the root. -/
def closeInto (root : Group β) : Group β → List (Group β) → Group β
  | g, [] => root.pushGroup g
  | g, outer :: rest => closeInto root (outer.pushGroup g) rest

/-- Closes all groups that are still open and gives the tree. -/
def finish (b : Builder β) : Group β :=
  match b.opened with
  | [] => b.root
  | g :: outer => closeInto b.root g outer

end Builder

end Exemplar
