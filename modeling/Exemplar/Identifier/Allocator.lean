namespace Exemplar.Identifier

/-- The identifiers that were handed out, the latest first. -/
structure Allocator where
  taken : List String
  deriving DecidableEq, Repr, Inhabited

namespace Allocator

def start : Allocator := ⟨[]⟩

def suffixed (base : String) (k : Nat) : String := base ++ "_" ++ toString k

/-- The least number from 2 on whose suffixed base is free. Among as many numbers as there are taken
identifiers one is free if the base itself is taken. -/
def leastFree (a : Allocator) (base : String) : Nat :=
  ((List.range' 2 a.taken.length).find? fun k => !a.taken.contains (suffixed base k)).getD
    (a.taken.length + 2)

def choose (a : Allocator) (base : String) : String :=
  if a.taken.contains base then suffixed base (a.leastFree base) else base

def allocate (a : Allocator) (base : String) : String × Allocator :=
  let name := a.choose base
  (name, ⟨name :: a.taken⟩)

end Allocator

end Exemplar.Identifier
