import TreeSelect.Demo

open TreeSelect

def main (args : List String) : IO UInt32 := do
  let out := Demo.run args
  IO.print out.stdout
  IO.eprint out.stderr
  return out.status.toUInt32
