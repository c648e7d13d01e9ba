import Exemplar.Tree.Basic

namespace Exemplar

open Text (Inspection)

variable {β : Type}

def Example.inspect (e : Example β) : Inspection :=
  .record "Example"
    [("description", .text e.description), ("ancestry", .list (e.ancestry.map .text)),
      ("callsite", e.callsite.inspect), ("pending", .flag e.isPending),
      ("generated_name", .option (e.generatedName.map .text))] false

/-- A group shows its child groups first and its examples after them. -/
def inspectGroup (description : String) (groups examples : List Inspection)
    (before after : List β) : Inspection :=
  .record "ExampleGroup"
    [("description", .text description), ("groups", .list groups), ("examples", .list examples),
      ("before_each", .count before.length), ("after_each", .count after.length)] true

def Children.inspectGroups : Children β → List Inspection
  | nil => []
  | leaf _ rest => rest.inspectGroups
  | branch d members before after rest =>
    inspectGroup d members.inspectGroups (members.examples.map Example.inspect) before after ::
      rest.inspectGroups

def Group.inspect (g : Group β) : Inspection :=
  inspectGroup g.description g.children.inspectGroups (g.examples.map Example.inspect)
    g.before g.after

end Exemplar
