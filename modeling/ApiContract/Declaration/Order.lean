import ApiContract.Declaration.Basic

/-!
# The order of declarations

`Declaration.order` arranges declarations so that each one comes after those that it depends on. The
ones without dependencies stand first, sorted by name; the others keep their order, except that each
follows what it depends on.
-/

namespace ApiContract

namespace Declaration

/-- The declarations placed so far; `names` are those that are not visited again. -/
structure Placement where
  names : List String
  declarations : List Declaration

def Placement.place (p : Placement) (d : Declaration) : Placement :=
  ⟨p.names ++ [d.name], p.declarations ++ [d]⟩

/-- The declarations that stand for their names: of several with one name, the last. -/
def current : List Declaration → List Declaration
  | [] => []
  | d :: rest => if rest.any (·.name == d.name) then current rest else d :: current rest

/-- The declarations of `pool` that `d` depends on directly, in the order of `pool`. -/
def dependencies (pool : List Declaration) (d : Declaration) : List Declaration :=
  pool.filter fun e => d.dependsOn.contains e.name

/-- Declarations without dependencies, sorted by name. -/
def leaves (declarations : List Declaration) : List Declaration :=
  (declarations.filter fun d => d.dependsOn.isEmpty).mergeSort fun a b => decide (a.name ≤ b.name)

/-- The fault of a cycle, at the source of the declaration that it starts with. -/
def cycleFault (pool : List Declaration) (cycle : List String) : Fault :=
  let source := do
    let first ← cycle.head?
    (← pool.find? (·.name == first)).source
  let path :=
    match source with
    | none | some "" => "#/components/schemas"
    | some source => source
  .uncompilable (.cycle cycle) path

/-- Places a declaration after everything it depends on. `path` holds the names that are being
visited; one of them met again closes a cycle. The path has no repetition, so that as many `levels` as
there are declarations, and one more, are enough. -/
def visit (pool : List Declaration) :
    (levels : Nat) → (path : List String) → Placement → Declaration → Except Fault Placement
  | 0, _, _, _ => .error .unexpected
  | levels + 1, path, placed, d =>
    if placed.names.contains d.name then .ok placed
    else if path.contains d.name then .error (cycleFault pool (path.dropWhile (· != d.name)))
    else do
      let placed ← (dependencies pool d).foldlM (visit pool levels (path ++ [d.name])) placed
      return placed.place d

/-- The declarations with dependencies before their users. -/
def order (declarations : List Declaration) : Except Fault (List Declaration) := do
  let first := leaves declarations
  let placed ← declarations.foldlM (visit (current declarations) (declarations.length + 1) [])
    ⟨first.map (·.name), first⟩
  return placed.declarations

end Declaration

end ApiContract
