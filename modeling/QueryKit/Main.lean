import QueryKit.Cli.App
import QueryKit.Session.Scripted
import Std.Time.Format

/-!
# The qb program

Reads the files its command line names, runs qb on them at the current time, prints what qb
printed, appends log text to the files it logs to, and exits with qb's code. The only driver
it can open is the scripted one, which answers every statement with no rows.
-/

namespace QueryKit.Cli

/-- The text of a file, if it can be read. -/
def readText (path : String) : IO (Option String) := do
  try
    return some (← IO.FS.readFile path)
  catch _ =>
    return none

/-- Whether a file can be opened for appending. -/
def canAppend (path : String) : IO Bool := do
  try
    let _ ← IO.FS.Handle.mk path .append
    return true
  catch _ =>
    return false

/-- Appends text to a file, as far as it can. -/
def appendText (path text : String) : IO Unit := do
  try
    let h ← IO.FS.Handle.mk path .append
    h.putStr text
    h.flush
  catch _ =>
    pure ()

/-- The current time. -/
def now : IO Instant := do
  let ns := (← Std.Time.Timestamp.now).toNanosecondsSinceUnixEpoch.val
  return ⟨ns / 1000000000, (ns % 1000000000).toNat⟩

end QueryKit.Cli

open QueryKit QueryKit.Cli in
/-- Runs qb on the command line. -/
def main (args : List String) : IO UInt32 := do
  let mut files : List (String × String) := []
  for path in Invocation.named args do
    if let some text ← readText path then files := files ++ [(path, text)]
  let inv : Invocation := { args, folder := { files }, now := ← now }
  let inv ← match inv.logFile with
    | some path => do
      if ← canAppend path then pure { inv with folder := { files := files ++ [(path, "")] } } else pure inv
    | none => pure inv
  let (code, console) := execute Session.Scripted.connection {} inv
  IO.print console.stdout
  IO.eprint console.stderr
  for (path, text) in console.appended do
    appendText path text
  return code.toUInt32
