import TreeSelect.Predicate.Basic

namespace TreeSelect

/-- An instruction of the path machine. -/
inductive Instruction where
  /-- Read one node; the thread survives, at the next instruction, if the node passes. -/
  | predict (p : Predicate)
  /-- Go on at both targets. -/
  | split (a b : Nat)
  /-- Go on at the target. -/
  | jump (a : Nat)
  /-- Accept, if the whole path has been read. -/
  | accept
  deriving Repr, Inhabited

namespace Instruction

def targets : Instruction → List Nat
  | split a b => [a, b]
  | jump a => [a]
  | _ => []

def isAccept : Instruction → Bool
  | accept => true
  | _ => false

def render : Instruction → String
  | predict p => "predict " ++ p.render
  | split a b => s!"split {a}, {b}"
  | jump a => s!"jump {a}"
  | accept => "match"

end Instruction

/-- Why a list of instructions is not a program. -/
inductive ProgramError where
  /-- The list is empty or does not end with `accept`. -/
  | missingMatch
  /-- The instruction at `pc` has a target past the end. -/
  | targetOutOfRange (pc target : Nat)
  deriving DecidableEq, Repr

def ProgramError.message : ProgramError → String
  | .missingMatch => "Program error: program must end with a match instruction"
  | .targetOutOfRange pc t => s!"Program error: instruction {pc} targets {t}, past the end of the program"

/-- A program of the path machine. -/
structure Program where
  code : Array Instruction
  deriving Repr, Inhabited

/-- The first target, in address order and within an instruction in order, that is at least
`size`, with its address, reading from address `pc`. -/
def firstOutOfRange (size : Nat) : Nat → List Instruction → Option (Nat × Nat)
  | _, [] => none
  | pc, i :: is =>
    match i.targets.find? (size ≤ ·) with
    | some t => some (pc, t)
    | none => firstOutOfRange size (pc + 1) is

namespace Program

/-- Check a list of instructions: it must end with `accept`, which is checked first, and every
target must lie inside it. -/
def ofList (is : List Instruction) : Except ProgramError Program :=
  if is.getLast?.any Instruction.isAccept then
    match firstOutOfRange is.length 0 is with
    | some (pc, t) => .error (.targetOutOfRange pc t)
    | none => .ok ⟨is.toArray⟩
  else .error .missingMatch

def size (p : Program) : Nat := p.code.size

def address (pc : Nat) : String :=
  let s := toString pc
  String.ofList (List.replicate (4 - s.length) '0') ++ s

def render (p : Program) : String :=
  String.join (p.code.toList.zipIdx.map fun (i, pc) => address pc ++ " " ++ i.render ++ "\n")

end Program

end TreeSelect
