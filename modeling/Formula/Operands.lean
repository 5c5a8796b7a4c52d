/-!
# Operands on a stack

A stack is a list with its top in front. The operands of an operation are its topmost entries, in
the order in which they were put there.
-/

namespace Formula

variable {α : Type}

/-- The `n` topmost entries of a stack, the top one last, and what is below them. -/
def operands? (n : Nat) (stack : List α) : Option (List α × List α) :=
  if stack.length < n then none else some ((stack.take n).reverse, stack.drop n)

end Formula
