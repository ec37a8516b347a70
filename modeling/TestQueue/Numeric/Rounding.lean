namespace TestQueue.Rounding

def halfEven (num den : Nat) : Nat :=
  let floor := num / den
  let doubled := 2 * (num % den)
  if doubled < den then floor
  else if den < doubled then floor + 1
  else floor + floor % 2

end TestQueue.Rounding
