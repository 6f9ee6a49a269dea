import TreeSelect.Markup.Dom

namespace TreeSelect.Markup

def voidElements : List String :=
  ["area", "base", "basefont", "bgsound", "br", "col", "embed", "frame", "hr", "img", "input",
    "keygen", "link", "meta", "param", "source", "track", "wbr"]

def rawTextParents : List String :=
  ["style", "script", "xmp", "iframe", "noembed", "noframes", "plaintext", "noscript"]

/-- Escape text: in an attribute value the ampersand, no-break space and double quote; in text
the ampersand, no-break space and angle brackets. -/
def escape (inAttr : Bool) (s : String) : String :=
  String.join (s.toList.map fun c =>
    if c == '&' then "&amp;"
    else if c == '\u00A0' then "&nbsp;"
    else if c == '"' && inAttr then "&quot;"
    else if c == '<' && !inAttr then "&lt;"
    else if c == '>' && !inAttr then "&gt;"
    else String.singleton c)

def Attribute.render (a : Attribute) : String :=
  let pre := match a.ns with
    | .none => ""
    | .xml => "xml:"
    | .xlink => "xlink:"
    | .xmlns => if a.name == "xmlns" then "" else "xmlns:"
  " " ++ pre ++ a.name ++ "=\"" ++ escape true a.value ++ "\""

namespace Dom

/-- A node as markup, `parent` being the name of the HTML element it is in, descending at most
`fuel` levels. -/
def renderUpTo (d : Dom) : Nat → Option String → Nat → String
  | 0, _, _ => ""
  | fuel + 1, parent, id =>
    let node := d.get id
    match node.data with
    | .element ns name attrs _ =>
      let start := "<" ++ name ++ String.join (attrs.map Attribute.render) ++ ">"
      if ns == .html && voidElements.contains name then start
      else
        let inner := node.children.toList.map
          (d.renderUpTo fuel (if ns == .html then some name else none))
        start ++ String.join inner ++ "</" ++ name ++ ">"
    | .text s => if parent.any rawTextParents.contains then s else escape false s
    | .comment s => "<!--" ++ s ++ "-->"
    | .doctype n => "<!DOCTYPE " ++ n ++ ">\n"
    | _ => ""

def render (d : Dom) (id : Nat) : String := d.renderUpTo (d.nodes.size + 1) none id

end Dom

end TreeSelect.Markup
