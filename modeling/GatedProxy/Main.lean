import GatedProxy.Program

open GatedProxy

-- The listener is given the address it asked for, and the shutdown comes at once.
def main (args : List String) : IO UInt32 := do
  let wanted ← IO.getEnv "RUST_LOG"
  let result := Program.run (wanted.map String.toList) (args.map String.toList) .ok
  IO.print result.output
  for line in result.errors do
    IO.eprintln line
  return UInt32.ofNat result.exit
