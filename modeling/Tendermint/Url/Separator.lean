/-!
# Tendermint.Url.Separator

Texts that fall apart at a separator, as domain names, addresses and paths do.
-/

namespace Tendermint.Url

/-- The parts of a text between occurrences of a separator. -/
def splitOn {α : Type} [DecidableEq α] (separator : α) : List α → List (List α)
  | [] => [[]]
  | c :: rest =>
    if c = separator then [] :: splitOn separator rest
    else
      match splitOn separator rest with
      | [] => [[c]]
      | part :: parts => (c :: part) :: parts

end Tendermint.Url
