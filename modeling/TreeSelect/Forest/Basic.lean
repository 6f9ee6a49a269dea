import TreeSelect.Element

namespace TreeSelect

/-- A node of a forest: its element, its parent and its children in order. -/
structure Forest.Entry where
  elem : Element
  parent : Option Nat := none
  children : List Nat := []
  deriving Repr, Inhabited

/-- A forest of elements, its nodes numbered from 0. -/
structure Forest where
  entries : Array Forest.Entry := #[]
  /-- The nodes without a parent, in the order they became top-level. -/
  roots : List Nat := []
  deriving Repr, Inhabited

/-- Why a forest refuses an edit. -/
inductive TreeError where
  | nodeNotFound (id : Nat)
  | alreadyAttached (id : Nat)
  | cycle (child parent : Nat)
  deriving DecidableEq, Repr

def TreeError.message : TreeError → String
  | .nodeNotFound id => s!"Tree error: node {id} does not exist"
  | .alreadyAttached id => s!"Tree error: node {id} already has a parent"
  | .cycle c p => s!"Tree error: attaching {c} under {p} would create a cycle"

namespace Forest

def size (f : Forest) : Nat := f.entries.size

def get? (f : Forest) (id : Nat) : Option Entry := f.entries[id]?

def elem? (f : Forest) (id : Nat) : Option Element := (f.get? id).map (·.elem)

def parent? (f : Forest) (id : Nat) : Option Nat := (f.get? id).bind (·.parent)

def children (f : Forest) (id : Nat) : List Nat := ((f.get? id).map (·.children)).getD []

def add (f : Forest) (e : Element) : Forest × Nat :=
  ({ entries := f.entries.push { elem := e }, roots := f.roots ++ [f.size] }, f.size)

def append (f : Forest) (parent : Nat) (e : Element) : Except TreeError (Forest × Nat) :=
  match f.get? parent with
  | none => .error (.nodeNotFound parent)
  | some pe =>
    let id := f.size
    let entries := f.entries.set! parent { pe with children := pe.children ++ [id] }
    .ok ({ f with entries := entries.push { elem := e, parent := some parent } }, id)

def ancestorsUpTo (f : Forest) : Nat → Nat → List Nat
  | 0, id => [id]
  | fuel + 1, id =>
    match f.parent? id with
    | some p => id :: f.ancestorsUpTo fuel p
    | none => [id]

def ancestors (f : Forest) (id : Nat) : List Nat :=
  if id < f.size then f.ancestorsUpTo f.size id else []

def path (f : Forest) (id : Nat) : List Nat := (f.ancestors id).reverse

def tagPath (f : Forest) (id : Nat) : List String :=
  (f.path id).filterMap fun i => (f.elem? i).map (·.tag)

def index? (f : Forest) (id : Nat) : Option Nat :=
  (f.parent? id).bind fun p => (f.children p).idxOf? id

/-- Attach a root under a node, as its last child. Refused if the child is unknown or already
has a parent, if the parent is unknown, or if the child is the parent or one of its ancestors;
in that order. -/
def setParent (f : Forest) (child parent : Nat) : Except TreeError Forest :=
  match f.get? child with
  | none => .error (.nodeNotFound child)
  | some ce =>
    if ce.parent.isSome then .error (.alreadyAttached child)
    else match f.get? parent with
      | none => .error (.nodeNotFound parent)
      | some pe =>
        if (f.ancestors parent).contains child then .error (.cycle child parent)
        else
          let entries := f.entries.set! child { ce with parent := some parent }
          let entries := entries.set! parent { pe with children := pe.children ++ [child] }
          .ok { entries, roots := f.roots.filter (· != child) }

def modify (f : Forest) (id : Nat) (g : Element → Element) : Option Forest :=
  (f.get? id).map fun e => { f with entries := f.entries.set! id { e with elem := g e.elem } }

def preorderUpTo (f : Forest) : Nat → Nat → List Nat
  | 0, id => [id]
  | fuel + 1, id => id :: (f.children id).flatMap (f.preorderUpTo fuel)

def descendants (f : Forest) (id : Nat) : List Nat :=
  if id < f.size then f.preorderUpTo f.size id else []

/-- One step of the pre-order iterator, over a stack of ids with the next one first: that id,
and the stack with it replaced by its children, leftmost first. -/
def nextDescendant (f : Forest) : List Nat → Option (Nat × List Nat)
  | [] => none
  | id :: stack => some (id, f.children id ++ stack)

def descendantsStack (f : Forest) (root : Nat) : List Nat :=
  if root < f.size then [root] else []

/-- The ids the pre-order iterator yields from a stack in at most `fuel` steps, and the stack it
leaves. -/
def drainDescendants (f : Forest) : Nat → List Nat → List Nat × List Nat
  | 0, stack => ([], stack)
  | fuel + 1, stack =>
    match f.nextDescendant stack with
    | none => ([], stack)
    | some (id, rest) =>
      let r := f.drainDescendants fuel rest
      (id :: r.1, r.2)

end Forest

end TreeSelect
