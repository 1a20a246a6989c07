/-!
Splitting a text at separators.
-/
namespace FlowConsole.Text

/-- The parts of a text between the characters that satisfy `p`; always at least one. -/
def splitWhere (p : Char → Bool) (s : List Char) : List (List Char) :=
  s.foldr (fun c acc =>
    if p c then [] :: acc
    else match acc with
      | [] => [[c]]
      | part :: rest => (c :: part) :: rest) [[]]

def splitOn (sep : Char) (s : List Char) : List (List Char) :=
  splitWhere (· == sep) s

@[simp] theorem splitWhere_nil (p : Char → Bool) : splitWhere p [] = [[]] := rfl

end FlowConsole.Text
