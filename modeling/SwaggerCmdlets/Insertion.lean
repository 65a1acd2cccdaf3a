/-! # Insertion — lists that take up what is new

    Names, conditions and models are gathered one after the other, and what is
    there already is not appended again.  Parameters and declarations are told apart
    by a key, which is their name. -/

namespace SwaggerCmdlets

variable {α : Type}

/-- Appends what is not there yet. -/
def insertNew [BEq α] (xs : List α) (x : α) : List α :=
  if xs.contains x then xs else xs ++ [x]

/-- The list without its later repeats. -/
def distinct [BEq α] (xs : List α) : List α := xs.foldl insertNew []

/-- Appends an element, unless one with its key is there. -/
def insertBy (key : α → String) (xs : List α) (x : α) : List α :=
  if xs.any (key · == key x) then xs else xs ++ [x]

end SwaggerCmdlets
