import TreeSelect.Document
import TreeSelect.Forest.Select

namespace TreeSelect

def version : String := "0.1.0"

/-- One element of a document as the scripting interface shows it. -/
structure ElementView where
  nodeId : Nat
  index : Option Nat
  tag : String
  id : String
  classes : List String
  attrs : List (String × String)
  text : String
  raw : String
  tagPath : List String
  deriving Repr, Inhabited

def ElementView.summary (v : ElementView) : String :=
  "<Element " ++ v.tag ++ (if v.id.isEmpty then "" else " id='" ++ v.id ++ "'") ++
    (if v.classes.isEmpty then "" else " class='" ++ " ".intercalate v.classes ++ "'") ++ ">"

def Forest.view (f : Forest) (n : Nat) : ElementView :=
  let e := (f.elem? n).getD default
  { nodeId := n, index := f.index? n, tag := e.tag, id := e.id, classes := e.classes,
    attrs := e.attrs, text := e.text, raw := e.raw, tagPath := f.tagPath n }

/-- A request to a session. -/
inductive Request where
  | version
  | parseHtml (markup : String)
  | compile (selector : String)
  | programSelect
  | select (selector : String)
  | element (id : Nat)
  | parent (id : Nat)
  | children (id : Nat)
  deriving Repr

/-- A successful answer. -/
inductive Reply where
  | version (v : String)
  | document (size : Nat)
  | program (size : Nat) (listing : String)
  | elements (es : List ElementView)
  | element (e : ElementView)
  | parent (e : Option ElementView)
  | children (es : List ElementView)
  deriving Repr

/-- Why a request failed: no document or program yet, a selector that does not compile, or an
element id past the end of the document. -/
inductive Failure where
  | noDocument
  | noProgram
  | badSelector (e : Selector.CompileError)
  | outOfRange (id : Nat)
  deriving Repr

def Failure.message : Failure → String
  | .noDocument => "no doc yet"
  | .noProgram => "no program yet"
  | .badSelector e => e.message
  | .outOfRange id => s!"element index out of range: {id}"

/-- The state of a session. -/
structure Session where
  doc : Option Forest := none
  program : Option Program := none

namespace Session

def document (s : Session) : Except Failure Forest :=
  match s.doc with
  | some f => .ok f
  | none => .error .noDocument

def elementAt (s : Session) (id : Nat) : Except Failure (Forest × Nat) := do
  let f ← s.document
  if id < f.size then pure (f, id) else throw (.outOfRange id)

def step (s : Session) : Request → Session × Except Failure Reply
  | .version => (s, .ok (.version version))
  | .parseHtml m =>
    let f := Forest.ofMarkup m
    ({ s with doc := some f }, .ok (.document f.size))
  | .compile sel =>
    match Program.compile sel with
    | .ok p => ({ s with program := some p }, .ok (.program p.size p.render))
    | .error e => (s, .error (.badSelector e))
  | .programSelect =>
    (s, match s.program with
      | none => .error .noProgram
      | some p => s.document.map fun f => .elements ((p.selectAll f).map f.view))
  | .select sel =>
    (s, do
      let f ← s.document
      match f.select sel with
      | .ok ids => pure (.elements (ids.map f.view))
      | .error e => throw (.badSelector e))
  | .element id => (s, (s.elementAt id).map fun (f, n) => .element (f.view n))
  | .parent id => (s, (s.elementAt id).map fun (f, n) => .parent ((f.parent? n).map f.view))
  | .children id => (s, (s.elementAt id).map fun (f, n) => .children ((f.children n).map f.view))

end Session

end TreeSelect
