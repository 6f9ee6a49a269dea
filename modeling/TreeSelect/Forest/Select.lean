import TreeSelect.Forest.Basic
import TreeSelect.Machine
import TreeSelect.Program.Codegen

namespace TreeSelect

namespace Machine

/-- The walk of `select`: pop a node and its depth, cut the shared path back to that depth and
add the node's element, run the machine on the path, and push the node's children so that the
leftmost comes next; an unknown id is skipped. Each pass pops one entry, and `fuel` bounds the
passes. -/
def selectWalk (f : Forest) : Nat → Machine → List Element → List (Nat × Nat) → List Nat →
    List Nat × Machine
  | 0, m, _, _, found => (found, m)
  | _ + 1, m, _, [], found => (found, m)
  | fuel + 1, m, path, (id, depth) :: stack, found =>
    match f.get? id with
    | none => selectWalk f fuel m path stack found
    | some e =>
      let path := path.take depth ++ [e.elem]
      let r := m.run path
      selectWalk f fuel r.2 path (e.children.map (·, depth + 1) ++ stack)
        (if r.1 then found ++ [id] else found)

/-- The nodes of the subtree under `root`, `root` included, whose path from `root` the program
accepts, in pre-order, and the machine after them. -/
def select (m : Machine) (f : Forest) (root : Nat) : List Nat × Machine :=
  selectWalk f (f.size + 1) m [] [(root, 0)] []

def selectAll (m : Machine) (f : Forest) : List Nat → List Nat × Machine
  | [] => ([], m)
  | root :: roots =>
    let r := m.select f root
    let rest := r.2.selectAll f roots
    (r.1 ++ rest.1, rest.2)

end Machine

namespace Program

/-- The nodes of the subtree under `root`, `root` included, whose path from `root` the program
accepts, in pre-order. -/
def select (p : Program) (f : Forest) (root : Nat) : List Nat :=
  ((Machine.new p).select f root).1

def selectAll (p : Program) (f : Forest) : List Nat :=
  ((Machine.new p).selectAll f f.roots).1

end Program

namespace Forest

def select (f : Forest) (selector : String) : Except Selector.CompileError (List Nat) :=
  (·.selectAll f) <$> Program.compile selector

def selectFrom (f : Forest) (root : Nat) (selector : String) :
    Except Selector.CompileError (List Nat) :=
  (·.select f root) <$> Program.compile selector

end Forest

end TreeSelect
