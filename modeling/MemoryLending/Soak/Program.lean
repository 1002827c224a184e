/-
This file runs a whole soak: it makes a lender and a sensor, installs the callbacks, runs the
workers one after another, sweeps while the kept captures are still held, and sums up how the
reserve did. The end of the process belongs to the run: what is still held is let go of, and the
exit handler sweeps once more.
-/

import MemoryLending.Soak.Worker

namespace MemoryLending

/-- What a soak run reports. -/
structure SoakSummary where
  frames : Nat
  tally : Tally
  report : SweepReport
  deriving DecidableEq, Repr

namespace SoakSummary

/-- A count of nanoseconds with two decimals, in the largest unit that leaves a whole part. -/
def elapsedText (nanoseconds : Nat) : String :=
  let (unit, name) :=
    if 1000000000 ≤ nanoseconds then (1000000000, "s")
    else if 1000000 ≤ nanoseconds then (1000000, "ms")
    else if 1000 ≤ nanoseconds then (1000, "µs")
    else (1, "ns")
  let hundredths := (nanoseconds * 100 + unit / 2) / unit
  let decimals := hundredths % 100
  let padding := if decimals < 10 then "0" else ""
  s!"{hundredths / 100}." ++ padding ++ s!"{decimals}" ++ name

/-- The line of the summary, given the text of the elapsed time. -/
def line (summary : SoakSummary) (elapsed : String) : String :=
  s!"soak {summary.frames} frames in {elapsed}: pool rents {summary.tally.requests.toNat}" ++
    s!" hits {summary.tally.hits.toNat} allocations {summary.tally.misses.toNat}" ++
    s!" evictions {summary.tally.evictions.toNat}," ++
    s!" forced disposal {summary.report.retired} pruned {summary.report.pruned}"

end SoakSummary

namespace Action

/-- Turns a panic of the settings into a panic of the run. -/
def orPanic {Answer : Type} (outcome : Except Panic Answer) : Action Answer :=
  match outcome with
  | .ok answer => return answer
  | .error panic => throw (.panicked panic)

/-- The length of the handle by which a worker is waited for. All handles are in one block, which
bounds how many workers there can be. -/
def handleLength : Nat := 24

/-- Runs the workers from number `worker` on. The answer is how each of them ended. -/
def workAll (lender sensor : Nat) (settings : Settings) :
    (count worker : Nat) → Action (List (Except Fault (List WrapperId)))
  | 0, _ => return []
  | count + 1, worker => do
    let outcome : Except Fault (List WrapperId) ←
      try
        let kept ← work lender sensor worker settings
        pure (.ok kept)
      catch
        | .aborted => throw .aborted
        | fault => pure (.error fault)
    return outcome :: (← workAll lender sensor settings count (worker + 1))

/-- Whether a worker ended in a panic. -/
def hasPanicked : Except Fault (List WrapperId) → Bool
  | .error (.panicked _) => true
  | _ => false

/-- What is said about the first worker that failed, given how the workers after it ended. These
are not heard any more, so a panic among them becomes a panic of the run. -/
def faultOf (fault : Fault) (later : List (Except Fault (List WrapperId))) : Fault :=
  if later.any hasPanicked then .panicked .workerPanicked
  else
    match fault with
    | .panicked _ => .complained .workerPanicked
    | fault => fault

/-- The captures that all workers have kept, or what is said about the first one that failed.
Captures that are not passed on are let go of. -/
def collect : List WrapperId → List (Except Fault (List WrapperId)) → Action (List WrapperId)
  | collected, [] => return collected
  | collected, .ok kept :: later => collect (collected ++ kept) later
  | collected, .error fault :: later => do
    letGoAll collected
    later.forM fun
      | .ok kept => letGoAll kept
      | .error _ => pure ()
    throw (faultOf fault later)

/-- The end of a soak run: the sweep, while the captures that were kept are still held. -/
def finishSoak (lender : Nat) (session : WrapperId) (captures : List WrapperId)
    (settings : Settings) : Action SoakSummary := do
  let office ← get
  let book := (office.lender lender).loans
  let replicas := (office.lender lender).replicas.count
  let tally := (office.lender lender).reserve.tally
  log (.capturesComplete book.count (office.livingCount lender) replicas)
  let report ← sweep lender
  let office ← get
  let survivors := (captures.filter fun capture => !office.released capture).length
  if survivors ≠ 0 || !office.released session then
    throw (.complained (.survivors survivors))
  let frames ← product settings.threads settings.iterations
  return ⟨frames, tally, report⟩

/-- A soak run over a lender and a sensor, while their session is held. -/
def runSession (lender sensor : Nat) (session : WrapperId) (settings : Settings)
    (frameLength : Nat) : Action SoakSummary := do
  log (.soakStarted settings.threads settings.iterations frameLength)
  if Word.longestBlock < settings.threads * handleLength then
    throw (.panicked .capacityOverflow)
  let captures ← collect [] (← workAll lender sensor settings settings.threads 0)
  thenLetGo captures (finishSoak lender session captures settings)

/-- A soak run with a lender and a sensor of its own. -/
def soak (settings : Settings) : Action SoakSummary := do
  let frameLength ← orPanic settings.frameLength
  if frameLength = 0 then throw (.complained .emptyFrame)
  let policy ← orPanic settings.policy
  let lender ← modifyGet fun office =>
    (office.lenders.size,
      { office with lenders := office.lenders.push (Lender.ofPolicy policy) })
  let sensor ← makeSensor frameLength settings.foreignBuffers
  let session ← openSession lender sensor
  thenLetGo [session] (runSession lender sensor session settings frameLength)

end Action

/-- How a soak run ends for the one who started it. -/
inductive SoakEnd where
  /-- The run has a summary. -/
  | finished (summary : SoakSummary)
  /-- The run ends with an error text. -/
  | failed (text : String)
  /-- The run panics. -/
  | panicked (panic : Panic)
  /-- The process ends by an abort. -/
  | aborted
  deriving DecidableEq, Repr

namespace SoakEnd

/-- The exit code of the process. -/
def exitCode : SoakEnd → Nat
  | finished _ => 0
  | failed _ => 1
  | panicked _ => 101
  | aborted => 134

/-- The summary of a run that has one. -/
def summary? : SoakEnd → Option SoakSummary
  | finished summary => some summary
  | _ => none

/-- The error text of a run that has one. -/
def error? : SoakEnd → Option String
  | failed text => some ("Error: " ++ text)
  | _ => none

/-- The end of a run with a fault. -/
def ofFault : Fault → SoakEnd
  | .refused violation => failed violation.outline
  | .complained complaint => failed complaint.outline
  | .panicked panic => panicked panic
  | .aborted => aborted

end SoakEnd

/-- The arena of the command line: blocks from 64 GiB on, aligned to sixteen bytes. -/
def soakArena : Arena := Arena.startingAt (64 * 1024 * 1024 * 1024) 16 0

/-- Runs a soak in an arena and ends the process. The answer is how the run ends, and its
records. -/
def runSoak (arena : Arena) (settings : Settings) : SoakEnd × Journal :=
  match Action.soak settings (Office.start arena []) with
  | (.error .aborted, office) => (.aborted, office.journal)
  | (outcome, office) =>
    match Action.exit office with
    | (.error _, office) => (.aborted, office.journal)
    | (.ok (), office) =>
      match outcome with
      | .ok summary => (.finished summary, office.journal)
      | .error fault => (SoakEnd.ofFault fault, office.journal)

end MemoryLending
