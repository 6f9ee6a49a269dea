import TreeSelect.Text.Blank

namespace TreeSelect

/-- An element of a document tree, apart from its place in the tree. -/
structure Element where
  tag : String
  /-- The `id` attribute as last set, or empty. -/
  id : String := ""
  /-- The tokens of the `class` attribute as last set, split at white space. -/
  classes : List String := []
  /-- Attribute names and values, sorted by name, each name once. -/
  attrs : List (String × String) := []
  /-- The trimmed runs of text, joined. -/
  text : String := ""
  /-- The trimmed runs of text, one entry per run. -/
  textParts : List String := []
  /-- The element and its subtree as markup, or empty for an element made by hand. -/
  raw : String := ""
  deriving Repr, Inhabited, DecidableEq

def insertSorted (k v : String) : List (String × String) → List (String × String)
  | [] => [(k, v)]
  | (k', v') :: rest =>
    if k = k' then (k, v) :: rest
    else if k < k' then (k, v) :: (k', v') :: rest
    else (k', v') :: insertSorted k v rest

namespace Element

def ofTag (tag : String) : Element := { tag }

def attr? (e : Element) (name : String) : Option String := e.attrs.lookup name

def setAttr (e : Element) (name value : String) : Element :=
  let e := if name = "id" then { e with id := value }
    else if name = "class" then { e with classes := Text.splitBlank value }
    else e
  { e with attrs := insertSorted name value e.attrs }

def hasClass (e : Element) (c : String) : Bool := e.classes.contains c

def pushText (e : Element) (t : String) : Element :=
  let t := Text.trim t
  if t.isEmpty then e else { e with text := e.text ++ t, textParts := e.textParts ++ [t] }

end Element

end TreeSelect
