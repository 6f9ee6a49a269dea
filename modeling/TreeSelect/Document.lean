import TreeSelect.Forest.Basic
import TreeSelect.Markup.Parse
import TreeSelect.Markup.Render

namespace TreeSelect

open Markup

/-- Why a document could not be made into a forest: the markup of an element could not be
written out, or the forest refused an edit. -/
inductive HtmlError where
  | io (message : String)
  | tree (err : TreeError)
  deriving DecidableEq, Repr

namespace Forest

def elementOf (raw : Bool) (markup : String) (name : String) (attrs : List Attribute) : Element :=
  let e := attrs.foldl (fun e a => e.setAttr a.name a.value) (Element.ofTag name)
  if raw then { e with raw := markup } else e

/-- The node of an element. Its markup is written out by `outer` only when `raw` is set, and a
failure to write it is an I/O error. -/
def elementNode (raw : Bool) (outer : Except String String) (name : String)
    (attrs : List Attribute) : Except HtmlError Element :=
  if raw then (outer.mapError .io).map (elementOf true · name attrs)
  else .ok (elementOf false "" name attrs)

def place (f : Forest) (parent : Option Nat) (e : Element) : Except HtmlError (Forest × Nat) :=
  match parent with
  | some p => (f.append p e).mapError .tree
  | none => .ok (f.add e)

/-- One node taken off the stack, with the node it goes under: the forest after it, and the node
its children go under, or none when the walk does not go below it. -/
def visit (d : Dom) (raw : Bool) (ser : Nat → Except String String) (x : Nat)
    (parent : Option Nat) (f : Forest) : Except HtmlError (Forest × Option (Option Nat)) :=
  match (d.get x).data with
  | .document => .ok (f, some parent)
  | .element _ name attrs _ => do
    let e ← elementNode raw (ser x) name attrs
    let r ← f.place parent e
    return (r.1, some (some r.2))
  | .text s =>
    match parent with
    | some p => .ok ((f.modify p (·.pushText s)).getD f, none)
    | none => .ok (f, none)
  | _ => .ok (f, none)

/-- The walk of a document with an explicit stack of nodes, each with the node it goes under: pop
the last one, visit it, and push its children last first, so that they come off in order. -/
def convertLoop (d : Dom) (raw : Bool) (ser : Nat → Except String String) :
    Nat → Array (Nat × Option Nat) → Forest → Except HtmlError Forest
  | 0, _, f => .ok f
  | fuel + 1, stack, f =>
    match stack.back? with
    | none => .ok f
    | some (x, parent) =>
      (visit d raw ser x parent f).bind fun r =>
        match r.2 with
        | none => convertLoop d raw ser fuel stack.pop r.1
        | some p =>
          convertLoop d raw ser fuel (stack.pop ++ ((d.get x).children.map (·, p)).reverse) r.1

def convert (d : Dom) (raw : Bool) (ser : Nat → Except String String) : Except HtmlError Forest :=
  convertLoop d raw ser (d.nodes.size + 1) #[(0, none)] {}

def parseHtml (markup : String) (raw : Bool := true) : Except HtmlError Forest :=
  let d := parseDocument markup
  convert d raw fun id => .ok (d.render id)

/-- The forest of a text of markup, or the empty forest if it could not be built: the serializer
here never fails, and no edit is refused. -/
def ofMarkup (markup : String) (raw : Bool := true) : Forest :=
  match parseHtml markup raw with
  | .ok f => f
  | .error _ => {}

end Forest

end TreeSelect
