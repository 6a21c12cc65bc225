import TreeQuery.Command

open TreeQuery in
def main (args : List String) : IO UInt32 := do
  let needed := (Command.read? args).any Command.readsInput
  let stdin ← if needed then (← IO.getStdin).readToEnd else pure ""
  let outcome := Command.runArgs args stdin
  (← IO.getStdout).putStr outcome.stdout
  (← IO.getStderr).putStr outcome.stderr
  return UInt32.ofNat outcome.code
