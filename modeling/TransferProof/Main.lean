import TransferProof.Checker

/-!
# Program

Runs the checker once. Each line of the standard input is the body of one reply of the service; the
last one is given again and again. The clock starts at the epoch.
-/

namespace TransferProof.Main

/-- The settings that are in the environment of the process. -/
def environment : IO Environment := do
  let mut found : Environment := []
  for name in Settings.allVariables do
    match ← IO.getEnv name.toString with
    | some value => found := found ++ [(name, Text.ofString value)]
    | none => pure ()
  return found

/-- The lines of a stream, without their ends. -/
partial def lines (stream : IO.FS.Stream) : IO (List Text) := do
  let line ← stream.getLine
  if line.isEmpty then return []
  let rest ← lines stream
  return Text.trim (· == 0x0A) (Text.ofString line) :: rest

end TransferProof.Main

open TransferProof in
def main (arguments : List String) : IO UInt32 := do
  let bodies ← Main.lines (← IO.getStdin)
  let report := Checker.run (arguments.map Text.ofString)
    { environment := ← Main.environment
      now := .ofInt 0
      timeAt := Seconds.toDouble
      freshId := "00000000-0000-4000-8000-000000000000"
      replies := bodies.map fun body => { reply := .response 200 (some "OK") body } }
  IO.print report.output.toString
  IO.eprint report.complaint.toString
  match report.ending with
  | .crash crash => IO.eprintln (crash.message?.getD "The amount is too large.").toString
  | _ => pure ()
  return report.ending.exitCode.toUInt32
