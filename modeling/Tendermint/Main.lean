import Tendermint.Cli.Run

/-!
# Tendermint.Main

The command line. The program brings no socket layer of its own, so it runs as on a machine
without a network: what needs no node works, and everything else says that none can be reached.
-/

namespace Tendermint.Cli

/-- The settings of the process. -/
def Environment.ofProcess : IO Environment := do
  return ⟨← IO.getEnv "TMRPC_URL", ← IO.getEnv "TMRPC_NODE_VERSION"⟩

end Tendermint.Cli

open Tendermint

def main (arguments : List String) : IO UInt32 := do
  let session : Session Unit := ⟨.start none, ()⟩
  let ending := (Cli.run .unreachable (← Cli.Environment.ofProcess) arguments session).1
  for line in ending.lines do
    IO.println line
  match ending.failure with
  | some report => IO.eprintln report.text
  | none => pure ()
  if ending.exit = Cli.mistakeExit then
    IO.eprintln Cli.usageLine
  return ending.exit
