/-!
# Parts of a text

Texts cut at separators.
-/

namespace TopicClient.Text

/-- The parts between separators; one part if there is none. -/
def parts (separator : Char) : List Char → List (List Char)
  | [] => [[]]
  | c :: cs =>
    if c = separator then [] :: parts separator cs
    else
      match parts separator cs with
      | [] => [[c]]
      | p :: ps => (c :: p) :: ps

/-- What stands before the first separator and what stands after it. -/
def splitFirst (separator : Char) (cs : List Char) : List Char × List Char :=
  (cs.takeWhile (· ≠ separator), (cs.dropWhile (· ≠ separator)).drop 1)

end TopicClient.Text
