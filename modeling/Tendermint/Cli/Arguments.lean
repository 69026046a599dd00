/-!
# Tendermint.Cli.Arguments

How a list of arguments falls apart into options and positional arguments. An option begins with
two dashes; its value stands behind an equals sign or is the next argument, which then must not
look like an option itself. Two dashes alone end the options. A single dash is an ordinary
argument.

* `Grammar`: the options of a program or of one of its commands.
* `Grammar.scan`: takes arguments one by one, up to the first mistake.
* `Grammar.allows`: whether no option was given too often.
-/

namespace Tendermint.Cli

/-- What may be given. -/
structure Grammar where
  /-- Options without a value, at most once each. -/
  flags : List String
  /-- Options with a value, at most once each. -/
  single : List String
  /-- Options with a value, any number of times. -/
  repeated : List String
  /-- How many positional arguments there may be. -/
  positionals : Nat
  /-- Whether the program tells its own version here. -/
  tellsVersion : Bool
  /-- Whether the first positional argument is a command, which takes all that follows. -/
  commands : Bool

/-- What was given. -/
structure Found where
  flags : List String
  values : List (String × String)
  positionals : List String
  /-- Whether the last argument is the value of the last option. -/
  isOpen : Bool
  deriving DecidableEq, Repr

/-- How a list of arguments reads. -/
inductive Scan where
  /-- All of it was taken. -/
  | complete (found : Found)
  | command (found : Found) (name : String) (rest : List String)
  /-- The version was asked for after what had been given by then. -/
  | version (found : Found)
  /-- Help was asked for after what had been given by then. -/
  | help (found : Found)
  | mistake
  deriving DecidableEq, Repr

/-- One argument by its form. -/
inductive Form where
  | plain (text : String)
  | escape
  | long (name : String) (value : Option String)
  | short (letters : List Char)
  deriving DecidableEq, Repr

namespace Form

/-- A name and the value behind its equals sign. -/
def longOf (text : List Char) : Form :=
  match text.dropWhile (· ≠ '=') with
  | [] => .long (String.ofList text) none
  | _ :: value => .long (String.ofList (text.takeWhile (· ≠ '='))) (some (String.ofList value))

def of (argument : String) : Form :=
  match argument.toList with
  | ['-', '-'] => .escape
  | '-' :: '-' :: rest => longOf rest
  | ['-'] => .plain argument
  | '-' :: letters => .short letters
  | _ => .plain argument

end Form

namespace Found

def empty : Found := ⟨[], [], [], false⟩

def addFlag (found : Found) (name : String) : Found :=
  { found with flags := found.flags ++ [name], isOpen := false }

/-- Adds a value that stood behind an equals sign, or else in an argument of its own. -/
def addValue (found : Found) (attached : Bool) (name value : String) : Found :=
  { found with values := found.values ++ [(name, value)], isOpen := !attached }

def addPositional (found : Found) (text : String) : Found :=
  { found with positionals := found.positionals ++ [text], isOpen := false }

/-- What was given and looked at by now: the value of an option is looked at when the next
argument shows that it has no more of them. -/
def settled (found : Found) : Found :=
  if found.isOpen then { found with values := found.values.dropLast, isOpen := false } else found

def has (found : Found) (name : String) : Bool := name ∈ found.flags

/-- The first value of an option. -/
def value? (found : Found) (name : String) : Option String :=
  (found.values.find? (·.1 == name)).map Prod.snd

/-- All values of an option. -/
def valuesOf (found : Found) (name : String) : List String :=
  (found.values.filter (·.1 == name)).map Prod.snd

end Found

namespace Grammar

/-- Whether an option takes a value. -/
def takesValue (grammar : Grammar) (name : String) : Bool :=
  name ∈ grammar.single || name ∈ grammar.repeated

/-- Whether nothing is given twice that may be given only once. -/
def allows (grammar : Grammar) (found : Found) : Bool :=
  (found.flags ++ (found.values.map Prod.fst).filter (· ∉ grammar.repeated)).Nodup

/-- Positional arguments behind the end of the options. -/
def takeAll (grammar : Grammar) (found : Found) (rest : List String) : Scan :=
  let found := rest.foldl Found.addPositional found
  if !grammar.commands && found.positionals.length ≤ grammar.positionals then .complete found
  else if grammar.commands && rest.isEmpty then .complete found
  else .mistake

/-- Takes arguments one by one. `pending` is an option that waits for its value. -/
def scanFrom (grammar : Grammar) (pending : Option String) (found : Found) : List String → Scan
  | [] => if pending.isSome then .mistake else .complete found
  | argument :: rest =>
    match pending, Form.of argument with
    | some name, .plain value => scanFrom grammar none (found.addValue false name value) rest
    | some _, _ => .mistake
    | none, .escape => grammar.takeAll found rest
    | none, .short letters =>
      match letters with
      | 'h' :: _ => .help found
      | 'V' :: _ => if grammar.tellsVersion then .version found else .mistake
      | _ => .mistake
    | none, .plain text =>
      if grammar.commands then .command found text rest
      else if found.positionals.length < grammar.positionals then
        scanFrom grammar none (found.addPositional text) rest
      else .mistake
    | none, .long name value =>
      if name = "help" ∧ value = none then .help found
      else if name = "version" ∧ value = none ∧ grammar.tellsVersion then .version found
      else if name ∈ grammar.flags then
        if value.isSome then .mistake else scanFrom grammar none (found.addFlag name) rest
      else if grammar.takesValue name then
        match value with
        | some value => scanFrom grammar none (found.addValue true name value) rest
        | none => scanFrom grammar (some name) found rest
      else .mistake

def scan (grammar : Grammar) (arguments : List String) : Scan :=
  grammar.scanFrom none Found.empty arguments

end Grammar

end Tendermint.Cli
