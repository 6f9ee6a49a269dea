import TreeSelect.Markup.Token

namespace TreeSelect.Markup

/-- The namespace of an element. -/
inductive Ns where
  | html
  | svg
  | mathml
  deriving DecidableEq, Repr, Inhabited

/-- The namespace of an attribute: none for most, or one of the three that foreign elements use. -/
inductive AttrNs where
  | none
  | xlink
  | xml
  | xmlns
  deriving DecidableEq, Repr, Inhabited

/-- An attribute of an element. -/
structure Attribute where
  ns : AttrNs := .none
  name : String
  value : String
  deriving Repr, Inhabited

/-- What a node is. -/
inductive NodeData where
  | document
  /-- The contents of a `template` element. -/
  | fragment
  | element (ns : Ns) (name : String) (attrs : List Attribute) (contents : Option Nat)
  | text (s : String)
  | comment (s : String)
  | doctype (name : String)
  deriving Repr, Inhabited

/-- A node of a document, with its parent and its children in order. -/
structure DomNode where
  data : NodeData
  parent : Option Nat := none
  children : Array Nat := #[]
  deriving Repr, Inhabited

/-- A document: node 0 is the document itself. -/
structure Dom where
  nodes : Array DomNode := #[{ data := .document }]
  deriving Repr, Inhabited

namespace Dom

def get (d : Dom) (id : Nat) : DomNode := d.nodes.getD id default

def name? (d : Dom) (id : Nat) : Option (Ns × String) :=
  match (d.get id).data with
  | .element ns n _ _ => some (ns, n)
  | _ => none

def isHtml (d : Dom) (id : Nat) (names : List String) : Bool :=
  match d.name? id with
  | some (.html, n) => names.contains n
  | _ => false

def attrs (d : Dom) (id : Nat) : List Attribute :=
  match (d.get id).data with
  | .element _ _ as _ => as
  | _ => []

def contents? (d : Dom) (id : Nat) : Option Nat :=
  match (d.get id).data with
  | .element _ _ _ c => c
  | _ => none

def modify (d : Dom) (id : Nat) (f : DomNode → DomNode) : Dom :=
  { nodes := d.nodes.modify id f }

def create (d : Dom) (data : NodeData) : Dom × Nat :=
  ({ nodes := d.nodes.push { data } }, d.nodes.size)

def createElement (d : Dom) (ns : Ns) (name : String) (attrs : List Attribute) : Dom × Nat :=
  if ns == .html && name == "template" then
    let (d, frag) := d.create .fragment
    d.create (.element ns name attrs (some frag))
  else d.create (.element ns name attrs none)

def detach (d : Dom) (id : Nat) : Dom :=
  match (d.get id).parent with
  | some p =>
    let d := d.modify p fun n => { n with children := n.children.filter (· != id) }
    d.modify id fun n => { n with parent := none }
  | none => d

def append (d : Dom) (parent id : Nat) : Dom :=
  let d := d.detach id
  let d := d.modify parent fun n => { n with children := n.children.push id }
  d.modify id fun n => { n with parent := some parent }

def insertBefore (d : Dom) (parent sibling id : Nat) : Dom :=
  let d := d.detach id
  let d := d.modify parent fun n =>
    let i := (n.children.idxOf? sibling).getD n.children.size
    { n with children := n.children.insertIdx! i id }
  d.modify id fun n => { n with parent := some parent }

def extendText (d : Dom) (id : Nat) (s : String) : Dom :=
  d.modify id fun n =>
    match n.data with
    | .text t => { n with data := .text (t ++ s) }
    | _ => n

def isText (d : Dom) (id : Nat) : Bool :=
  match (d.get id).data with
  | .text _ => true
  | _ => false

def appendText (d : Dom) (parent : Nat) (s : String) : Dom :=
  match (d.get parent).children.back? with
  | some last => if d.isText last then d.extendText last s else
      let (d, t) := d.create (.text s)
      d.append parent t
  | none =>
    let (d, t) := d.create (.text s)
    d.append parent t

def insertTextBefore (d : Dom) (parent sibling : Nat) (s : String) : Dom :=
  let kids := (d.get parent).children
  let i := (kids.idxOf? sibling).getD kids.size
  match if i == 0 then none else kids[i - 1]? with
  | some prev => if d.isText prev then d.extendText prev s else
      let (d, t) := d.create (.text s)
      d.insertBefore parent sibling t
  | none =>
    let (d, t) := d.create (.text s)
    d.insertBefore parent sibling t

def moveChildren (d : Dom) (src dst : Nat) : Dom :=
  let kids := (d.get src).children
  let d := d.modify src fun n => { n with children := #[] }
  let d := kids.foldl (fun d k => d.modify k fun n => { n with parent := some dst }) d
  d.modify dst fun n => { n with children := n.children ++ kids }

def addMissingAttrs (d : Dom) (id : Nat) (extra : List Attribute) : Dom :=
  d.modify id fun n =>
    match n.data with
    | .element ns name as c =>
      let missing := extra.filter fun a => !as.any fun b => b.name == a.name && b.ns == a.ns
      { n with data := .element ns name (as ++ missing) c }
    | _ => n

end Dom

end TreeSelect.Markup
