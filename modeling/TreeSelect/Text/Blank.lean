namespace TreeSelect.Text

def isBlank (c : Char) : Bool :=
  let n := c.toNat
  (0x9 ≤ n && n ≤ 0xD) || n == 0x20 || n == 0x85 || n == 0xA0 || n == 0x1680 ||
    (0x2000 ≤ n && n ≤ 0x200A) || n == 0x2028 || n == 0x2029 || n == 0x202F ||
    n == 0x205F || n == 0x3000

def isAsciiBlank (c : Char) : Bool :=
  c == ' ' || c == '\t' || c == '\n' || c == '\x0c' || c == '\r'

theorem isBlank_of_isAsciiBlank {c : Char} (h : isAsciiBlank c = true) : isBlank c = true := by
  simp only [isAsciiBlank, Bool.or_eq_true, beq_iff_eq] at h
  rcases h with (((h | h) | h) | h) | h <;> subst h <;> decide

def trimList (p : Char → Bool) (cs : List Char) : List Char :=
  ((cs.dropWhile p).reverse.dropWhile p).reverse

def trim (s : String) : String := String.ofList (trimList isBlank s.toList)

/-- The maximal runs of characters outside a class, in order; `acc` holds the run being read,
reversed. -/
def wordsFrom (p : Char → Bool) : List Char → List Char → List (List Char)
  | [], acc => if acc.isEmpty then [] else [acc.reverse]
  | c :: cs, acc =>
    if p c then (if acc.isEmpty then wordsFrom p cs [] else acc.reverse :: wordsFrom p cs [])
    else wordsFrom p cs (c :: acc)

def words (p : Char → Bool) (cs : List Char) : List (List Char) := wordsFrom p cs []

def splitBlank (s : String) : List String := (words isBlank s.toList).map String.ofList

def splitAsciiBlank (s : String) : List String := (words isAsciiBlank s.toList).map String.ofList

end TreeSelect.Text
