import DepositYield.Forecast.Batch
import DepositYield.Proofs.Forecast.Store

/-!
# Refreshes and batches keep the same records

To refresh periods and to keep a batch of them both come down to keeping forecasts in a
row, one for each task.  No forecast reads the store, and each is laid over the records of
its own period and window only.  So it does not matter in which order tasks are forecast,
how often, or by how many workers.
-/

namespace DepositYield

theorem Forecast.mem_taskGrid {periods windows : List Int} {task : Task} :
    task ∈ taskGrid periods windows ↔ task.period ∈ periods ∧ task.window ∈ windows := by
  obtain ⟨period, window⟩ := task
  simp [taskGrid]

theorem Forecast.awaitAll_cons (task : Task) (result : Except YieldFailure WindowForecast)
    (futures : List Future) :
    awaitAll ((task, result) :: futures) = do
      let outcome ← taskOutcome result
      return BatchReport.add task outcome (← awaitAll futures) := by
  simp only [awaitAll, List.mapM_cons, bind_assoc, pure_bind]
  rfl

namespace ForecastSource

variable {source : ForecastSource} {snapshot : Snapshot} {createdAt : Int} {tasks : List Task}
  {forecasts : List WindowForecast}

/-! ## Forecasts in a row -/

/-- The forecasts are those of the tasks, in their order. -/
def Forecasts (source : ForecastSource) (snapshot : Snapshot) (createdAt : Int) :
    List Task → List WindowForecast → Prop :=
  List.Forall₂ fun task forecast => source.evaluate snapshot createdAt task = .ok forecast

theorem exists_forecasts
    (each : ∀ task ∈ tasks, ∃ forecast, source.evaluate snapshot createdAt task = .ok forecast) :
    ∃ forecasts, source.Forecasts snapshot createdAt tasks forecasts := by
  induction tasks with
  | nil => exact ⟨[], .nil⟩
  | cons task tasks ih =>
      obtain ⟨forecast, made⟩ := each task (.head _)
      obtain ⟨forecasts, rest⟩ := ih fun later inside => each later (.tail _ inside)
      exact ⟨forecast :: forecasts, .cons made rest⟩

/-- The records of a task once it has been forecast. -/
def renewed (source : ForecastSource) (snapshot : Snapshot) (createdAt : Int) (task : Task)
    (records : WindowRecords) : WindowRecords :=
  match source.evaluate snapshot createdAt task with
  | .ok forecast => forecast.laidOver records
  | .error _ => records

/-- Of forecasts that are kept in a row, each period and window has its own, and those
without a task are left alone. -/
theorem Forecasts.recordsAt_foldl (made : source.Forecasts snapshot createdAt tasks forecasts)
    (store : ForecastStore) (key : WindowKey) :
    (forecasts.foldl ForecastStore.keepForecast store).recordsAt key =
      if key ∈ tasks then source.renewed snapshot createdAt key (store.recordsAt key)
      else store.recordsAt key := by
  induction made generalizing store with
  | nil => rfl
  | @cons task forecast tasks forecasts first _ ih =>
      rw [List.foldl_cons, ih,
        ForecastStore.recordsAt_keepForecast (isAbout_of_forecast first) store key]
      by_cases same : task = key
      · subst same
        have renew : ∀ records,
            source.renewed snapshot createdAt task records = forecast.laidOver records := by
          intro records
          unfold renewed
          rw [first]
        -- a task that comes again lays the same forecast over itself
        simp [renew]
      · have apart : key ≠ task := Ne.symm same
        simp [same, apart]

/-! ## Refreshes -/

theorem Forecasts.refreshWindows_eq {period : Int} {windows : List Int}
    (made : source.Forecasts snapshot createdAt (windows.map fun window => ⟨period, window⟩)
      forecasts) (store : ForecastStore) :
    source.refreshWindows snapshot period createdAt store windows =
      { result := .ok forecasts, store := forecasts.foldl ForecastStore.keepForecast store } := by
  induction windows generalizing forecasts store with
  | nil =>
      cases made
      rfl
  | cons window windows ih =>
      obtain ⟨forecast, rest, first, others, rfl⟩ := List.forall₂_cons_left_iff.mp made
      have kept : source.refreshWindow store snapshot period window createdAt =
          { result := .ok forecast, store := store.keepForecast forecast } := by
        unfold refreshWindow
        rw [show source.forecast snapshot period window createdAt = .ok forecast from first]
      unfold refreshWindows
      simp only [kept, ih others]
      rfl

/-- Refresh periods one after the other, up to the first that fails. -/
def refreshPeriods (source : ForecastSource) (snapshot : Snapshot) (createdAt : Int)
    (store : ForecastStore) : List Int → Refresh (List (List WindowForecast))
  | [] => { result := .ok [], store }
  | period :: periods =>
      let first := source.refresh store snapshot period createdAt
      match first.result with
      | .error failure => { result := .error failure, store := first.store }
      | .ok forecasts =>
          let rest := source.refreshPeriods snapshot createdAt first.store periods
          { result := rest.result.map (forecasts :: ·), store := rest.store }

/-- Periods whose windows can all be forecast are refreshed, and the forecasts are kept in a
row. -/
theorem exists_refreshPeriods_eq {periods : List Int}
    (each : ∀ task ∈ Forecast.taskGrid periods source.settings.rates.windows,
      ∃ forecast, source.evaluate snapshot createdAt task = .ok forecast)
    (store : ForecastStore) :
    ∃ forecasts,
      source.Forecasts snapshot createdAt
        (Forecast.taskGrid periods source.settings.rates.windows) forecasts.flatten ∧
      source.refreshPeriods snapshot createdAt store periods =
        { result := .ok forecasts
          store := forecasts.flatten.foldl ForecastStore.keepForecast store } := by
  induction periods generalizing store with
  | nil => exact ⟨[], .nil, rfl⟩
  | cons period periods ih =>
      obtain ⟨first, made⟩ := exists_forecasts fun task inside =>
        each task (List.mem_append_left _ inside)
      obtain ⟨rest, others, refreshed⟩ := ih (fun task inside =>
        each task (List.mem_append_right _ inside))
        (first.foldl ForecastStore.keepForecast store)
      refine ⟨first :: rest, List.rel_append made others, ?_⟩
      unfold refreshPeriods refresh
      simp only [made.refreshWindows_eq store, refreshed, List.flatten_cons, List.foldl_append]
      rfl

/-! ## Batches -/

/-- The futures of tasks that are all evaluated. -/
def evaluated (source : ForecastSource) (snapshot : Snapshot) (createdAt : Int)
    (tasks : List Task) : List Future :=
  tasks.map fun task => (task, source.evaluate snapshot createdAt task)

/-- A pool whose tasks all get an answer keeps all of its workers. -/
theorem futures_of_answered (free : Nat)
    (answered : ∀ future ∈ source.evaluated snapshot createdAt tasks, ¬future.isUnanswered) :
    source.futures snapshot createdAt (free + 1) tasks =
      source.evaluated snapshot createdAt tasks := by
  induction tasks with
  | nil => rfl
  | cons task tasks ih =>
      unfold evaluated at answered ⊢
      rw [List.map_cons, List.forall_mem_cons] at answered
      unfold futures
      simp only [if_neg answered.1]
      exact congrArg _ (ih answered.2)

/-- The futures of tasks that can all be forecast complete. -/
theorem Forecasts.awaitAll_eq (made : source.Forecasts snapshot createdAt tasks forecasts) :
    Forecast.awaitAll (source.evaluated snapshot createdAt tasks) =
      .ok { BatchReport.empty with results := forecasts } := by
  induction made with
  | nil => rfl
  | @cons task forecast tasks forecasts first _ ih =>
      unfold evaluated at ih ⊢
      rw [List.map_cons, Forecast.awaitAll_cons, first, ih]
      rfl

theorem Forecasts.answered (made : source.Forecasts snapshot createdAt tasks forecasts) :
    ∀ future ∈ source.evaluated snapshot createdAt tasks, ¬future.isUnanswered := by
  intro future inside
  obtain ⟨task, isTask, rfl⟩ := List.mem_map.mp inside
  obtain ⟨forecast, -, given⟩ := exists_mem_of_forall₂ made isTask
  rw [given]
  exact Bool.false_ne_true

/-- A batch of tasks that can all be forecast reports the forecasts in the order of the
tasks, however many workers it has. -/
theorem Forecasts.runBatch_eq (made : source.Forecasts snapshot createdAt tasks forecasts)
    (workers : Int) :
    source.runBatch snapshot createdAt workers tasks =
      .ok { BatchReport.empty with results := forecasts } := by
  unfold runBatch
  split
  · unfold runInOrder
    rw [mapM_eq_ok_iff.mpr made]
    rfl
  · next several =>
      obtain ⟨free, count⟩ : ∃ free, workers.toNat = free + 1 := ⟨workers.toNat - 1, by omega⟩
      unfold runPooled
      rw [count, futures_of_answered free made.answered, made.awaitAll_eq]

/-! ## The same records -/

/-- Periods whose windows can all be forecast are refreshed, and each of their windows has its
own forecast then. -/
theorem recordsAt_refreshPeriods {periods : List Int}
    (each : ∀ task ∈ Forecast.taskGrid periods source.settings.rates.windows,
      ∃ forecast, source.evaluate snapshot createdAt task = .ok forecast)
    (store : ForecastStore) :
    let refreshed := source.refreshPeriods snapshot createdAt store periods
    (∃ forecasts, refreshed.result = .ok forecasts) ∧
      ∀ key, refreshed.store.recordsAt key =
        if key ∈ Forecast.taskGrid periods source.settings.rates.windows then
          source.renewed snapshot createdAt key (store.recordsAt key)
        else store.recordsAt key := by
  intro refreshed
  obtain ⟨forecasts, made, refreshedEq⟩ := exists_refreshPeriods_eq each store
  refine ⟨⟨forecasts, congrArg Refresh.result refreshedEq⟩, fun key => ?_⟩
  rw [← made.recordsAt_foldl store key]
  exact congrArg (fun refresh => refresh.store.recordsAt key) refreshedEq

/-- A batch of tasks that can all be forecast completes, and each of them has its own
forecast in a store then. -/
theorem recordsAt_keep_runBatch
    (each : ∀ task ∈ tasks, ∃ forecast, source.evaluate snapshot createdAt task = .ok forecast)
    (workers : Int) :
    ∃ report, source.runBatch snapshot createdAt workers tasks = .ok report ∧
      report.timedOut = [] ∧ report.failed = [] ∧
      ∀ (store : ForecastStore) key, (report.keep store).recordsAt key =
        if key ∈ tasks then source.renewed snapshot createdAt key (store.recordsAt key)
        else store.recordsAt key := by
  obtain ⟨forecasts, made⟩ := exists_forecasts each
  exact ⟨_, made.runBatch_eq workers, rfl, rfl, made.recordsAt_foldl⟩

/-- Periods that are refreshed, in any order and repeatedly, leave in a store the records
that a batch over the same periods leaves there, with any number of workers.  In either
case the records of each task of the batch are its forecast laid over what the store held
before, and the records of all other periods and windows are as they were. -/
theorem refreshes_keep_as_batch (source : ForecastSource) (ledger : Ledger)
    (periods visited : List Int) (sameMembers : ∀ period, period ∈ visited ↔ period ∈ periods)
    (createdAt : Int)
    (each : ∀ task ∈ Forecast.taskGrid periods source.settings.rates.windows,
      ∃ forecast, source.evaluate ledger.snapshot createdAt task = .ok forecast)
    (workers : Int) (store : ForecastStore) :
    let tasks := Forecast.taskGrid periods source.settings.rates.windows
    let refreshed := source.refreshPeriods ledger.snapshot createdAt store visited
    ∃ forecasts report, refreshed.result = .ok forecasts ∧
      source.runBatch ledger.snapshot createdAt workers tasks = .ok report ∧
      report.timedOut = [] ∧ report.failed = [] ∧
      (∀ key, refreshed.store.recordsAt key = (report.keep store).recordsAt key) ∧
      (∀ task ∈ tasks, ∀ forecast,
        source.evaluate ledger.snapshot createdAt task = .ok forecast →
          refreshed.store.recordsAt task = forecast.laidOver (store.recordsAt task)) ∧
      ∀ key, key ∉ tasks → refreshed.store.recordsAt key = store.recordsAt key := by
  intro tasks refreshed
  have sameTasks : ∀ task,
      task ∈ Forecast.taskGrid visited source.settings.rates.windows ↔ task ∈ tasks := by
    intro task
    rw [Forecast.mem_taskGrid, Forecast.mem_taskGrid, sameMembers]
  obtain ⟨⟨forecasts, refreshedAll⟩, kept⟩ := recordsAt_refreshPeriods
    (fun task inside => each task ((sameTasks task).mp inside)) store
  simp only [sameTasks] at kept
  obtain ⟨report, ran, timedOut, failed, keptByBatch⟩ := recordsAt_keep_runBatch each workers
  refine ⟨forecasts, report, refreshedAll, ran, timedOut, failed, ?_, ?_, ?_⟩
  · intro key
    exact (kept key).trans (keptByBatch store key).symm
  · intro task inside forecast made
    refine (kept task).trans ?_
    unfold renewed
    rw [if_pos inside, made]
  · intro key outside
    exact (kept key).trans (if_neg outside)

/-- Two short windows, with one mint in the history. -/
def shortWindows : ForecastSource where
  settings :=
    { Forecast.threeSeasons with
      rates := { Forecast.threeSeasons.rates with windows := [2, 3] } }
  history := MintHistory.empty.set 19628 .hundred
  reader := .fixed (some 500) 1000
  supply := none

/-- Two periods, one of them refreshed twice, leave the records of a pool of two workers. -/
theorem shortWindows_keep_as_batch :
    let ledger := (Ledger.empty none).run Forecast.threeWhitelisted
    let refreshed := shortWindows.refreshPeriods ledger.snapshot 0 .empty [19629, 19628, 19629]
    ∃ report,
      shortWindows.runBatch ledger.snapshot 0 2 (Forecast.taskGrid [19628, 19629] [2, 3]) =
        .ok report ∧
      ∀ key, refreshed.store.recordsAt key = (report.keep .empty).recordsAt key := by
  intro ledger refreshed
  have settled : ∀ task ∈ Forecast.taskGrid [19628, 19629] shortWindows.settings.rates.windows,
      (shortWindows.evaluate ledger.snapshot 0 task).isOk := by decide +kernel
  obtain ⟨-, report, -, batch, -, -, same, -⟩ := refreshes_keep_as_batch shortWindows ledger
    [19628, 19629] [19629, 19628, 19629] (by simp) 0
    (fun task inside => exists_ok_of_isOk (settled task inside)) 2 .empty
  exact ⟨report, batch, same⟩

end ForecastSource

end DepositYield
