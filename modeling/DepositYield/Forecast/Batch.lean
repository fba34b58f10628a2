import DepositYield.Forecast.Store

/-!
# Batches of forecasts

A batch forecasts many periods and windows over one snapshot.  One after the
other, the first failure stops the batch.  In a pool, every task has a future,
and an outcome of its own: it completes, it gets no answer in time, or it fails.

The workers of a pool take the tasks in their order.  A worker that gets no answer
stays with its task, so that later tasks wait for the others.
-/

namespace DepositYield

/-- A period and window to forecast. -/
abbrev Task := WindowKey

/-- A task and what its future gives. -/
abbrev Future := Task × Except YieldFailure WindowForecast

/-- Whether a future gives no answer in time. -/
def Future.isUnanswered : Future → Bool
  | (_, .error .noAnswer) => true
  | _ => false

/-- What became of a task in a pool. -/
inductive TaskOutcome where
  | completed (forecast : WindowForecast)
  | timedOut
  | failed (failure : YieldFailure)
  deriving DecidableEq, Repr

/-- The completed forecasts and the tasks that did not complete, in the order of
the tasks. -/
structure BatchReport where
  results : List WindowForecast
  timedOut : List Task
  failed : List (Task × YieldFailure)
  deriving DecidableEq, Repr

namespace BatchReport

/-- The result of no tasks. -/
def empty : BatchReport where
  results := []
  timedOut := []
  failed := []

/-- Add the outcome of a task before those of later tasks. -/
def add (task : Task) (outcome : TaskOutcome) (later : BatchReport) : BatchReport :=
  match outcome with
  | .completed forecast => { later with results := forecast :: later.results }
  | .timedOut => { later with timedOut := task :: later.timedOut }
  | .failed failure => { later with failed := (task, failure) :: later.failed }

/-- The outcomes of tasks, sorted by what became of them. -/
def collect (outcomes : List (Task × TaskOutcome)) : BatchReport :=
  outcomes.foldr (fun (task, outcome) later => add task outcome later) empty

/-- Keep the completed forecasts. -/
def keep (batch : BatchReport) (store : ForecastStore) : ForecastStore :=
  batch.results.foldl ForecastStore.keepForecast store

end BatchReport

namespace Forecast

/-- Every pair of a period and a window. -/
def taskGrid (periods windows : List Int) : List Task :=
  periods.flatMap fun period => windows.map fun window => ⟨period, window⟩

/-- The outcome of a task in a pool.  Inputs that do not fit together are no
outcome of the task: they stop the batch. -/
def taskOutcome : Except YieldFailure WindowForecast → Except YieldFailure TaskOutcome
  | .ok forecast => .ok (.completed forecast)
  | .error .noAnswer => .ok .timedOut
  | .error .missingEntry => .error .missingEntry
  | .error failure => .ok (.failed failure)

/-- Wait for all futures in their order and sort what they give. -/
def awaitAll (futures : List Future) : Except YieldFailure BatchReport := do
  let outcomes ← futures.mapM fun (task, result) => do return (task, ← taskOutcome result)
  return BatchReport.collect outcomes

end Forecast

namespace ForecastSource

/-- The forecast of a task. -/
def evaluate (source : ForecastSource) (snapshot : Snapshot) (createdAt : Int) (task : Task) :
    Except YieldFailure WindowForecast :=
  source.forecast snapshot task.period task.window createdAt

/-- Forecast tasks one after the other. -/
def runInOrder (source : ForecastSource) (snapshot : Snapshot) (createdAt : Int)
    (tasks : List Task) : Except YieldFailure BatchReport := do
  let results ← tasks.mapM (source.evaluate snapshot createdAt)
  return { BatchReport.empty with results }

/-- The futures of tasks in a pool with a number of free workers.  A task that no
worker is left for gets no answer. -/
def futures (source : ForecastSource) (snapshot : Snapshot) (createdAt : Int) :
    Nat → List Task → List Future
  | _, [] => []
  | 0, task :: tasks => (task, .error .noAnswer) :: futures source snapshot createdAt 0 tasks
  | free + 1, task :: tasks =>
      let future : Future := (task, source.evaluate snapshot createdAt task)
      let stillFree := if future.isUnanswered then free else free + 1
      future :: futures source snapshot createdAt stillFree tasks

/-- Forecast tasks in a pool with a number of workers. -/
def runPooled (source : ForecastSource) (snapshot : Snapshot) (createdAt : Int)
    (workers : Nat) (tasks : List Task) : Except YieldFailure BatchReport :=
  Forecast.awaitAll (source.futures snapshot createdAt workers tasks)

/-- Forecast tasks with a number of workers; with at most one they run one after
the other. -/
def runBatch (source : ForecastSource) (snapshot : Snapshot) (createdAt : Int)
    (workers : Int) (tasks : List Task) : Except YieldFailure BatchReport :=
  if workers ≤ 1 then source.runInOrder snapshot createdAt tasks
  else source.runPooled snapshot createdAt workers.toNat tasks

end ForecastSource

end DepositYield
