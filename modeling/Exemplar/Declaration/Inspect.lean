import Exemplar.Declaration.Builder
import Exemplar.Tree.Inspect

namespace Exemplar

open Text (Inspection)

def Builder.inspect {β : Type} (b : Builder β) : Inspection :=
  .record "SpecBuilder"
    [("root", b.root.inspect), ("open", .list (b.opened.reverse.map Group.inspect))] true

end Exemplar
