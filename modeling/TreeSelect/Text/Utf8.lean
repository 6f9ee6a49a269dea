namespace TreeSelect.Text

def byteSize : List Char → Nat
  | [] => 0
  | c :: cs => c.utf8Size + byteSize cs

@[simp] theorem byteSize_nil : byteSize [] = 0 := rfl

@[simp] theorem byteSize_cons (c : Char) (cs : List Char) :
    byteSize (c :: cs) = c.utf8Size + byteSize cs := rfl

/-- The characters that start at or after a byte offset. An offset inside a character drops
that character too. -/
def dropBytes : List Char → Nat → List Char
  | cs, 0 => cs
  | [], _ => []
  | c :: cs, n + 1 => dropBytes cs (n + 1 - c.utf8Size)

def takeBytes : List Char → Nat → List Char
  | _, 0 => []
  | [], _ => []
  | c :: cs, n + 1 => if c.utf8Size ≤ n + 1 then c :: takeBytes cs (n + 1 - c.utf8Size) else []

def isBoundary : List Char → Nat → Bool
  | _, 0 => true
  | [], _ => false
  | c :: cs, n + 1 => c.utf8Size ≤ n + 1 && isBoundary cs (n + 1 - c.utf8Size)

def sliceBytes (s : String) (start len : Nat) : String :=
  String.ofList (takeBytes (dropBytes s.toList start) len)

@[simp] theorem byteSize_append (xs ys : List Char) :
    byteSize (xs ++ ys) = byteSize xs + byteSize ys := by
  induction xs with
  | nil => simp
  | cons x xs ih => simp [ih, Nat.add_assoc]

theorem byteSize_pos {xs : List Char} (h : xs ≠ []) : 0 < byteSize xs := by
  obtain ⟨x, xs, rfl⟩ := List.exists_cons_of_ne_nil h
  have := x.utf8Size_pos
  simp only [byteSize_cons]
  omega

theorem byteSize_cons_eq_succ (x : Char) (xs : List Char) :
    ∃ n, byteSize (x :: xs) = n + 1 ∧ n + 1 - x.utf8Size = byteSize xs := by
  have := x.utf8Size_pos
  exact ⟨x.utf8Size + byteSize xs - 1, by simp only [byteSize_cons]; omega, by omega⟩

theorem dropBytes_append (pre rest : List Char) : dropBytes (pre ++ rest) (byteSize pre) = rest := by
  induction pre with
  | nil => cases rest <;> rfl
  | cons x pre ih =>
    obtain ⟨n, hn, hrest⟩ := byteSize_cons_eq_succ x pre
    rw [hn, List.cons_append, dropBytes, hrest, ih]

theorem takeBytes_append (w rest : List Char) : takeBytes (w ++ rest) (byteSize w) = w := by
  induction w with
  | nil => cases rest <;> rfl
  | cons x w ih =>
    obtain ⟨n, hn, hrest⟩ := byteSize_cons_eq_succ x w
    have hx : x.utf8Size ≤ n + 1 := by simp only [byteSize_cons] at hn; omega
    rw [hn, List.cons_append, takeBytes, if_pos hx, hrest, ih]

theorem isBoundary_append (pre rest : List Char) : isBoundary (pre ++ rest) (byteSize pre) = true := by
  induction pre with
  | nil => cases rest <;> rfl
  | cons x pre ih =>
    obtain ⟨n, hn, hrest⟩ := byteSize_cons_eq_succ x pre
    have hx : x.utf8Size ≤ n + 1 := by simp only [byteSize_cons] at hn; omega
    rw [hn, List.cons_append, isBoundary, hrest, ih]
    simp [hx]

theorem sliceBytes_eq {s : String} {pre w rest : List Char} (h : s.toList = pre ++ w ++ rest) :
    sliceBytes s (byteSize pre) (byteSize w) = String.ofList w := by
  rw [sliceBytes, h, List.append_assoc, dropBytes_append, takeBytes_append]

end TreeSelect.Text
