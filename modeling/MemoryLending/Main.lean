/-
This file is the command line of the soak run. It reads the environment, runs the soak, and
prints the records and the summary.
-/

import MemoryLending.Settings.CommandLine
import MemoryLending.Soak.Program

namespace MemoryLending

/-- The variables of the environment that settings can come from. -/
def readVariables : IO (List (String × String)) := do
  let names := Setting.all.filterMap Setting.environmentName?
  names.filterMapM fun name => do
    return (← IO.getEnv name).map fun value => (name, value)

/-- Runs the soak and answers with the exit code of the process. -/
def runAndPrint (settings : Settings) : IO UInt32 := do
  let before ← IO.monoNanosNow
  let (outcome, journal) := runSoak soakArena settings
  for line in journal.lines (if settings.verbose then .debug else .info) do
    IO.println line
  let after ← IO.monoNanosNow
  if let some summary := outcome.summary? then
    IO.println (summary.line (SoakSummary.elapsedText (after - before)))
  if let some text := outcome.error? then
    IO.eprintln text
  if let .panicked panic := outcome then
    IO.eprintln panic.message
  return UInt32.ofNat outcome.exitCode

/-- Reads the settings, and runs the soak or says why there are none. -/
def runCommandLine (words : List String) : IO UInt32 := do
  let environment ← readVariables
  match Settings.read words (List.lookup · environment) with
  | .ok settings => runAndPrint settings
  | .error mistake =>
    match mistake.kind with
    | .helpAsked => IO.println Settings.usage
    | .versionAsked => IO.println Settings.versionText
    | _ => IO.eprintln mistake.message
    return if mistake.isQuestion then 0 else 2

end MemoryLending

def main (words : List String) : IO UInt32 :=
  MemoryLending.runCommandLine words
