import Interception.Cli
import Std.Time.DateTime.Timestamp

/-!
# The program

Reads the clock and a seed for ids, and prints what the command line answers.
-/

open Interception

def currentTime : IO Nat := do
  let now ← Std.Time.Timestamp.now
  return now.toMillisecondsSinceUnixEpoch.val.toNat

def randomSeed : IO Nat := do
  return (← IO.getRandomBytes 16).toList.foldl (fun n b => n * 256 + b.toNat) 0

def main (args : List String) : IO UInt32 := do
  let output := Cli.run (← currentTime) (.start (← randomSeed)) args
  IO.print output.stdout
  IO.eprint output.stderr
  return UInt32.ofNat output.exit
