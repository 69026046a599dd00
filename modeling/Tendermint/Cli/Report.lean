import Tendermint.Client.Error

/-!
# Tendermint.Cli.Report

What the program says when it fails: the outermost error, and below it the causes, one by one.
A single cause stands alone; several are numbered. Further lines of a cause are indented below
its first one.
-/

namespace Tendermint

/-- An error and its causes, from the outside in. -/
structure Report where
  message : String
  causes : List String
  deriving DecidableEq, Repr

namespace Report

/-- A failure without causes. -/
def plain (message : String) : Report := ⟨message, []⟩

def ofClientError (e : ClientError) : Report := ⟨e.message, e.causes⟩

/-- A failure of something larger. -/
def within (context : String) (report : Report) : Report :=
  ⟨context, report.message :: report.causes⟩

def lines (text : String) : List String :=
  ((text.toList.foldr (fun c acc =>
      match c, acc with
      | '\n', _ => [] :: acc
      | c, line :: rest => (c :: line) :: rest
      | c, [] => [[c]]) [[]]).map String.ofList)

/-- A text whose first line stands behind `first` and whose other lines stand behind `other`.
Empty lines have nothing before them. -/
def indented (first other : String) (text : String) : String :=
  match lines text with
  | [] => first
  | head :: rest =>
    let written := (if head.isEmpty then "" else first ++ head) ::
      rest.map fun line => if line.isEmpty then "" else other ++ line
    String.intercalate "\n" written

/-- The number of a cause, four places wide. -/
def number (n : Nat) : String :=
  let digits := toString n
  String.ofList (List.replicate (4 - digits.length) ' ') ++ digits ++ ": "

def numbered (causes : List String) : List String :=
  causes.zipIdx.map fun (cause, n) => indented (number n) "      " cause

/-- The text of a report. -/
def text (report : Report) : String :=
  let head := "Error: " ++ report.message
  match report.causes with
  | [] => head
  | [cause] => head ++ "\n\nCaused by:\n" ++ indented "    " "    " cause
  | causes => head ++ "\n\nCaused by:\n" ++ String.intercalate "\n" (numbered causes)

end Report

end Tendermint
