namespace TreeSelect.Text

def inRanges (rs : Array (Nat × Nat)) (n : Nat) : Bool :=
  rs.any fun r => r.1 ≤ n && n ≤ r.2

end TreeSelect.Text
