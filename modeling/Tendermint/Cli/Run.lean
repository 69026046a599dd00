import Tendermint.Cli.Invocation
import Tendermint.Cli.Print
import Tendermint.Cli.Report
import Tendermint.Client.Network
import Tendermint.Client.Paging

/-!
# Tendermint.Cli.Run

What the program does: it connects, carries out its command and prints what it finds. A command
that follows events prints each of them until their stream ends and passes over bad ones.

* `Cli.work`: the conversation of a command.
* `Cli.run`: the program on a network.
-/

namespace Tendermint.Cli

/-- What is followed once a subscription stands. -/
inductive Following where
  | blocks
  | headers
  | txs
  | heights
  deriving DecidableEq, Repr

/-- How far a command has come. -/
structure Progress where
  lines : List String
  following : Option Following
  failure : Option Report
  deriving DecidableEq, Repr

namespace Progress

def printed (lines : List String) : Progress := ⟨lines, none, none⟩

def failed (report : Report) : Progress := ⟨[], none, some report⟩

end Progress

/-- The conversation of a command. -/
abbrev Work := Exchange Progress

/-- Prints what a call finds. -/
def printing {α : Type} (report : ClientError → Report) (call : Call α)
    (write : α → List String) : Work :=
  Exchange.bind call fun
    | .error e => .done (.failed (report e))
    | .ok a => .done (.printed (write a))

def plainly (e : ClientError) : Report := .ofClientError e

/-- A failure of a step that has a name. -/
def during (step : String) (e : ClientError) : Report := (Report.ofClientError e).within step

/-- Follows a subscription once it stands. -/
def followed (call : Call Unit) (following : Following) : Work :=
  Exchange.bind call fun
    | .error e => .done (.failed (plainly e))
    | .ok () => .done ⟨[], some following, none⟩

def heightFailure (e : ClientError) : Report := .plain ("height watch failed: " ++ e.message)

def heightLine (height : UInt64) : String := toString height.toNat

/-- Prints the height and follows the headers from there. -/
def watchHeight (client : Client) (streaming : Bool) : Work :=
  Exchange.bind (client.heightSeed streaming) fun
    | .error e => .done (.failed (during "watch height" e))
    | .ok height =>
      Exchange.bind (client.subscribe streaming EventKind.newBlockHeader.query) fun
        | .error e => .done ⟨[heightLine height], none, some (heightFailure e)⟩
        | .ok () => .done ⟨[heightLine height], some .heights, none⟩

/-- Hands in a transaction. -/
def submit (client : Client) (tx : Bytes) : SubmitMode → Work
  | .async => printing plainly (client.submitAsync tx) fun answer => [submittedLine answer]
  | .sync => printing plainly (client.submit tx) fun answer => [checkedLine answer]
  | .commit => printing plainly (client.submitCommit tx) fun answer => [inclusionLine answer]

/-- Bytes in hexadecimal, or the report of what is wrong with them. -/
def hexOr (step text : String) : Except Report Bytes :=
  (Hex.decode text).mapError fun e => (Report.plain e.message).within step

/-- The conversation of a command, over a transport that streams or does not. -/
def work (client : Client) (streaming : Bool) : Command → Work
  | .status => printing (during "fetch status") client.status statusLines
  | .block height =>
    printing (during "fetch block") (client.block height) fun found => blockLines found.block
  | .tx hash prove =>
    match hexOr "parse transaction hash" hash with
    | .error report => .done (.failed report)
    | .ok hash => printing (during "fetch transaction") (client.tx ⟨hash⟩ prove) recordLines
  | .search filter page perPage all =>
    let query := filter.query
    if query.isEmpty then
      .done (.failed (.plain "search needs at least one --tag or height filter"))
    else
      let search : TxSearch := ⟨query, false, page, perPage⟩
      printing (during "search transactions")
        (if all then client.searchAll search else client.search search) matchesLines
  | .submit tx mode =>
    match hexOr "parse transaction hex" (String.ofList (Text.trim tx.toList)) with
    | .error report => .done (.failed report)
    | .ok tx => submit client tx mode
  | .watch .newBlock _ => followed (client.subscribe streaming EventKind.newBlock.query) .blocks
  | .watch .newBlockHeader _ =>
    followed (client.subscribe streaming EventKind.newBlockHeader.query) .headers
  | .watch .tx tags =>
    let filter := { TxFilter.none with tags }
    followed (client.subscribe streaming (EventKind.tx.queryWith filter.query)) .txs
  | .height => watchHeight client streaming

/-- Prints every event that can be read. -/
def follow {α : Type} (read : Event → Except DecodeError α) (write : α → List String)
    (events : List (Except RpcError Event)) : List String :=
  events.flatMap fun event =>
    match Feed.item read event with
    | .ok a => write a
    | .error _ => []

/-- Prints every height, and fails when the connection is lost. -/
def followHeights : List (Except RpcError Event) → List String × Option Report
  | [] => ([], none)
  | event :: rest =>
    match Feed.item Event.header event with
    | .ok header =>
      let (lines, failure) := followHeights rest
      (heightLine header.height :: lines, failure)
    | .error e =>
      if e = .rpc .transportClosed then ([], some (heightFailure e)) else followHeights rest

/-- What is printed while events come in. -/
def followLines (version : Version) (events : List (Except RpcError Event)) :
    Following → List String × Option Report
  | .blocks => (follow (Event.block version) blockLines events, none)
  | .headers => (follow Event.header (fun header => [headerLine header]) events, none)
  | .txs => (follow (Event.tx version) (fun tx => [eventLine tx]) events, none)
  | .heights => followHeights events

/-- How the program ends. -/
structure Ending where
  exit : UInt32
  lines : List String
  failure : Option Report
  deriving DecidableEq, Repr

namespace Ending

def ofResult (lines : List String) (failure : Option Report) : Ending :=
  ⟨if failure.isSome then 1 else 0, lines, failure⟩

end Ending

/-- The version of the node that the user names. -/
def namedVersion : Option String → Except Report (Option Version)
  | none => .ok none
  | some text =>
    match Version.parse text with
    | .ok version => .ok (some version)
    | .error e => .error (during "parse --node-version" e)

variable {σ : Type}

/-- Carries out a command with a client. -/
def carryOut (network : Network σ) (client : Client) (transport : Transport) (command : Command)
    (session : Session σ) : Ending × Session σ :=
  let (progress, session) := network.run transport (work client transport.streaming command) session
  match progress.following with
  | none => (.ofResult progress.lines progress.failure, session)
  | some following =>
    let (events, state) := network.events session.state
    let (lines, failure) := followLines client.version events following
    (.ofResult (progress.lines ++ lines) failure, { session with state })

/-- Connects and carries out a command. -/
def obey (network : Network σ) (order : Order) (session : Session σ) : Ending × Session σ :=
  match namedVersion order.nodeVersion with
  | .error report => (.ofResult [] (some report), session)
  | .ok version =>
    match network.connect order.url order.config version session with
    | (.error e, session) => (.ofResult [] (some (plainly e)), session)
    | (.ok (client, transport), session) =>
      carryOut network client transport order.command session

/-- The name and version of the program. -/
def versionLine : String := "tmrpc 0.1.0"

def usageLine : String := "Usage: tmrpc [OPTIONS] <COMMAND>"

/-- The exit code of a command line that cannot be read. -/
def mistakeExit : UInt32 := 2

/-- The program. -/
def run (network : Network σ) (environment : Environment) (arguments : List String)
    (session : Session σ) : Ending × Session σ :=
  match Invocation.ofArguments environment arguments with
  | .version => (.ofResult [versionLine] none, session)
  | .help => (.ofResult [usageLine] none, session)
  | .mistake => (⟨mistakeExit, [], none⟩, session)
  | .order given => obey network given session

end Tendermint.Cli
