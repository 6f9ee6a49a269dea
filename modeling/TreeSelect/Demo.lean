import TreeSelect.Document
import TreeSelect.Forest.Select

namespace TreeSelect.Demo

def document : String :=
  "<!DOCTYPE html>\n<html>\n<head><title>Demo</title></head>\n<body>\n" ++
  "  <div id=\"main\" class=\"content wide\">\n    <p lang=\"en\">Hello</p>\n" ++
  "    <div class=\"note\"><p lang=\"fr\">Bonjour</p></div>\n  </div>\n" ++
  "  <div><p>Plain</p></div>\n</body>\n</html>\n"

def defaultSelector : String := "html body div []* p"

/-- What a run of the command produces. -/
structure Outcome where
  status : Nat
  stdout : String
  stderr : String
  deriving Repr, Inhabited

def padLeft (width : Nat) (s : String) : String :=
  String.ofList (List.replicate (width - s.length) ' ') ++ s

def padRight (width : Nat) (s : String) : String :=
  s ++ String.ofList (List.replicate (width - s.length) ' ')

def matchLine (f : Forest) (id : Nat) : String :=
  let text := ((f.elem? id).map (·.text)).getD ""
  padLeft 3 (toString id) ++ "  " ++ padRight 24 (" ".intercalate (f.tagPath id)) ++ " " ++ text ++
    "\n"

def run (args : List String) : Outcome :=
  let selector := args.head?.getD defaultSelector
  match Program.compile selector with
  | .error e => { status := 1, stdout := "", stderr := "Error: " ++ e.record ++ "\n" }
  | .ok p =>
    let f := Forest.ofMarkup document
    let lines := (p.selectAll f).map (matchLine f)
    { status := 0, stdout := selector ++ "\n" ++ p.render ++ "\n" ++ String.join lines,
      stderr := "" }

end TreeSelect.Demo
