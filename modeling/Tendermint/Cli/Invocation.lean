import Tendermint.Cli.Arguments
import Tendermint.Client.Config
import Tendermint.Wire.Query

/-!
# Tendermint.Cli.Invocation

What a user asks of the program: where the node is, how to talk to it, and one command. The
address and the version of the node may also come from the environment.

* `Command`: the commands.
* `Invocation.ofArguments`: reads a command line; every mistake in it is just a mistake.
-/

namespace Tendermint.Cli

/-- How long a submission waits. -/
inductive SubmitMode where
  | async
  | sync
  | commit
  deriving DecidableEq, Repr

inductive Command where
  | status
  | block (height : Option UInt64)
  | tx (hash : String) (prove : Bool)
  | search (filter : TxFilter) (page perPage : Option UInt32) (all : Bool)
  | submit (tx : String) (mode : SubmitMode)
  | watch (kind : EventKind) (tags : List TagCondition)
  | height
  deriving DecidableEq, Repr

/-- A command and how to reach the node. -/
structure Order where
  url : String
  nodeVersion : Option String
  timeout : UInt64
  requestsPerSecond : Option UInt32
  command : Command
  deriving DecidableEq, Repr

/-- What a command line asks for. -/
inductive Invocation where
  | order (given : Order)
  | version
  | help
  | mistake
  deriving DecidableEq, Repr

/-- The settings that the environment may hold. -/
structure Environment where
  url : Option String
  nodeVersion : Option String
  deriving DecidableEq, Repr

namespace Order

def standardUrl : String := "http://127.0.0.1:26657"

def standardTimeout : UInt64 := 30

/-- Timeouts and rate of the transport; connecting takes no longer than usual. -/
def config (order : Order) : Config :=
  { Config.standard with
    requestTimeout := .ofSeconds order.timeout.toNat
    requestsPerSecond := order.requestsPerSecond }

end Order

/-- Decimal digits, at least one. -/
def digits? (text : List Char) : Option Nat :=
  if text.isEmpty || !text.all Char.isDigit then none
  else some (text.foldl (fun n c => n * 10 + (c.toNat - 48)) 0)

/-- A natural number of 64 bits; a plus sign is allowed. -/
def u64? (text : String) : Option UInt64 :=
  let digits := match text.toList with
    | '+' :: rest => rest
    | text => text
  (digits? digits).bind fun n => if n < UInt64.size then some (UInt64.ofNat n) else none

/-- A natural number of 32 bits. It may have any sign that does not make it negative. -/
def u32? (text : String) : Option UInt32 :=
  match text.toList with
  | '-' :: rest => (digits? rest).bind fun n => if n = 0 then some 0 else none
  | '+' :: rest => (digits? rest).bind within
  | text => (digits? text).bind within
where
  within (n : Nat) : Option UInt32 := if n < UInt32.size then some (UInt32.ofNat n) else none

/-- A condition on a tag: a key, an equals sign and a value. Only the key must not be empty. -/
def tag? (text : String) : Option TagCondition :=
  match text.toList.takeWhile (· ≠ '='), text.toList.dropWhile (· ≠ '=') with
  | key, _ :: value => if key.isEmpty then none else some ⟨String.ofList key, String.ofList value⟩
  | _, [] => none

def submitMode? : String → Option SubmitMode
  | "async" => some .async
  | "sync" => some .sync
  | "commit" => some .commit
  | _ => none

def watchKind? : String → Option EventKind
  | "blocks" => some .newBlock
  | "headers" => some .newBlockHeader
  | "txs" => some .tx
  | _ => none

/-- A value that may be left out but must be right if it is given. -/
def given? {α : Type} (read : String → Option α) : Option String → Option (Option α)
  | none => some none
  | some text => (read text).map some

/-- What may stand before the command. -/
def rootGrammar : Grammar :=
  ⟨[], ["url", "node-version", "timeout-secs", "requests-per-second"], [], 0, true, true⟩

/-- A grammar of a command. -/
def commandGrammar (flags single repeated : List String) (positionals : Nat) : Grammar :=
  ⟨flags, single, repeated, positionals, false, false⟩

namespace Command

/-- What was read of a command: `none` where a value is wrong, and nothing inside where one is
missing. -/
abbrev Reading := Option (Option Command)

/-- The options of a command, and how the command is made of what was given. -/
def forms : List (String × Grammar × (Found → Reading)) := [
  ("status", commandGrammar [] [] [] 0, fun _ => some (some .status)),
  ("block", commandGrammar [] [] [] 1, fun found =>
    (given? u64? found.positionals.head?).map fun height => some (.block height)),
  ("tx", commandGrammar ["prove"] [] [] 1, fun found =>
    some (found.positionals.head?.map fun hash => .tx hash (found.has "prove"))),
  ("search",
    commandGrammar ["all"] ["height", "min-height", "max-height", "page", "per-page"] ["tag"] 0,
    fun found => do
      let tags ← (found.valuesOf "tag").mapM tag?
      let height ← given? u64? (found.value? "height")
      let least ← given? u64? (found.value? "min-height")
      let greatest ← given? u64? (found.value? "max-height")
      let page ← given? u32? (found.value? "page")
      let perPage ← given? u32? (found.value? "per-page")
      let filter : TxFilter := ⟨tags, height, least, greatest, none⟩
      some (some (.search filter page perPage (found.has "all")))),
  ("broadcast", commandGrammar [] ["mode"] [] 1, fun found => do
    let mode ← submitMode? ((found.value? "mode").getD "sync")
    some (found.positionals.head?.map fun tx => .submit tx mode)),
  ("watch", commandGrammar [] [] ["tag"] 1, fun found => do
    let tags ← (found.valuesOf "tag").mapM tag?
    let kind ← given? watchKind? found.positionals.head?
    some (kind.map fun kind => .watch kind tags)),
  ("height", commandGrammar [] [] [] 0, fun _ => some (some .height))]

/-- Reads what was given for a command. -/
def reading (grammar : Grammar) (read : Found → Reading) (found : Found) : Reading :=
  if grammar.allows found then read found else none

/-- The command that explains the others. -/
def helpName : String := "help"

/-- Whether there is such a command. -/
def isKnown (name : String) : Bool := name = helpName || forms.any (·.1 == name)

end Command

namespace Invocation

/-- What stands before the command; the environment comes second. -/
def orderOf (environment : Environment) (found : Found) (command : Command) : Option Order := do
  guard (rootGrammar.allows found)
  let timeout ← given? u64? (found.value? "timeout-secs")
  let rate ← given? u32? (found.value? "requests-per-second")
  some {
    url := (found.value? "url" <|> environment.url).getD Order.standardUrl
    nodeVersion := found.value? "node-version" <|> environment.nodeVersion
    timeout := timeout.getD Order.standardTimeout
    requestsPerSecond := rate
    command := command }

/-- An invocation that asks for no order, unless what was given before is wrong. -/
def after (environment : Environment) (found : Found) (invocation : Invocation) : Invocation :=
  if (orderOf environment found .status).isSome then invocation else .mistake

/-- Whether a command can be explained: there is one of that name, and no more is asked. -/
def canExplain : List String → Bool
  | [] => true
  | [name] => Command.isKnown name
  | _ => false

/-- The command of some name with all that follows it. -/
def ofCommand (environment : Environment) (found : Found) (name : String)
    (rest : List String) : Invocation :=
  if name = Command.helpName then
    if canExplain rest then after environment found.settled .help else .mistake
  else
    match Command.forms.find? (·.1 == name) with
    | none => .mistake
    | some (_, grammar, read) =>
      match grammar.scan rest with
      | .help given =>
        if (Command.reading grammar read given).isSome then after environment found.settled .help else .mistake
      | .complete given =>
        match (Command.reading grammar read given).join.bind (orderOf environment found) with
        | some given => .order given
        | none => .mistake
      | _ => .mistake

/-- Reads a command line. What stands before a request for help or for the version must be
right. -/
def ofArguments (environment : Environment) (arguments : List String) : Invocation :=
  match rootGrammar.scan arguments with
  | .help found => after environment found .help
  | .version found => after environment found .version
  | .command found name rest => ofCommand environment found name rest
  | _ => .mistake

end Invocation

end Tendermint.Cli
