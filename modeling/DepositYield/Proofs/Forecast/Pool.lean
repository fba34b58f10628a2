import DepositYield.Proofs.Forecast.Failures
import DepositYield.Proofs.Forecast.GivenRate

/-!
# Pools and their futures

A pool gives each task a future, which gives what the task gave, or no answer in time.  The
report of the pool sorts the futures by what they gave and keeps their order, so that every
task is in one of its lists, as often as it was asked for.  To keep the report is to lay the
completed forecasts over the store, later ones over earlier ones.

One after the other, the same tasks give the same report as long as none of them fails.
The first one that does stops the batch.
-/

namespace DepositYield

/-- The period and window of a forecast. -/
def WindowForecast.task (forecast : WindowForecast) : Task :=
  ⟨forecast.rate.period, forecast.rate.window⟩

/-- The report of futures: what they give, sorted into completed forecasts, tasks without an
answer and tasks that failed. -/
def BatchReport.ofFutures (futures : List Future) : BatchReport where
  results := futures.filterMap fun (_, result) => result.toOption
  timedOut := futures.filterMap fun
    | (task, .error .noAnswer) => some task
    | _ => none
  failed := futures.filterMap fun
    | (_, .error .noAnswer) => none
    | (task, .error failure) => some (task, failure)
    | (_, .ok _) => none

/-! ## Reports -/

/-- Futures that do not reach beyond a list are all reported. -/
theorem Forecast.awaitAll_eq {futures : List Future}
    (sound : ∀ future ∈ futures, future.2 ≠ .error .missingEntry) :
    awaitAll futures = .ok (.ofFutures futures) := by
  induction futures with
  | nil => rfl
  | cons future futures ih =>
      obtain ⟨task, result⟩ := future
      rw [List.forall_mem_cons] at sound
      rw [awaitAll_cons, ih sound.2]
      cases result with
      | ok forecast => rfl
      | error failure =>
          cases failure with
          | missingEntry => exact absurd rfl sound.1
          | _ => rfl

theorem BatchReport.ofFutures_ok (task : Task) (forecast : WindowForecast)
    (futures : List Future) :
    ofFutures ((task, .ok forecast) :: futures) =
      { ofFutures futures with results := forecast :: (ofFutures futures).results } :=
  rfl

theorem BatchReport.failed_ofFutures {failure : YieldFailure} (answered : failure ≠ .noAnswer)
    (task : Task) (futures : List Future) :
    (ofFutures ((task, .error failure) :: futures)).failed =
      (task, failure) :: (ofFutures futures).failed := by
  cases failure with
  | noAnswer => exact absurd rfl answered
  | _ => rfl

/-- Every task of a future is in one list of the report, as often as it has a future. -/
theorem BatchReport.perm_ofFutures {futures : List Future}
    (own : ∀ future ∈ futures, ∀ forecast, future.2 = .ok forecast → forecast.task = future.1) :
    ((ofFutures futures).results.map WindowForecast.task ++ (ofFutures futures).timedOut ++
      (ofFutures futures).failed.map Prod.fst).Perm (futures.map Prod.fst) := by
  induction futures with
  | nil => exact .nil
  | cons future futures ih =>
      obtain ⟨task, result⟩ := future
      rw [List.forall_mem_cons] at own
      have rest := ih own.2
      cases result with
      | ok forecast =>
          have isTask : forecast.task = task := own.1 forecast rfl
          rw [← isTask]
          exact rest.cons _
      | error failure =>
          cases failure with
          | noAnswer =>
              refine .trans ?_ (rest.cons task)
              exact List.perm_middle.append_right _
          | _ => exact List.perm_middle.trans (rest.cons task)

/-! ## Stores -/

theorem lastYield?_append (earlier later : List TokenYield) (token : Token) :
    lastYield? (earlier ++ later) token =
      (lastYield? later token).or (lastYield? earlier token) := by
  unfold lastYield?
  rw [List.reverse_append, List.find?_append]

/-- The records with those of forecasts in a row laid over them: the last rate, the last
yield of each token and the last yield of fertilizer. -/
def WindowRecords.under (records : WindowRecords) (forecasts : List WindowForecast) :
    WindowRecords where
  rate := (forecasts.getLast?.map WindowForecast.rate).or records.rate
  tokenYields := fun token =>
    (lastYield? (forecasts.flatMap WindowForecast.tokenYields) token).or (records.tokenYields token)
  fertilizer := (forecasts.getLast?.map WindowForecast.fertilizer).or records.fertilizer

theorem WindowRecords.under_cons (records : WindowRecords) (forecast : WindowForecast)
    (forecasts : List WindowForecast) :
    records.under (forecast :: forecasts) = (forecast.laidOver records).under forecasts := by
  unfold under
  ext1
  · simp only [List.getLast?_cons]
    cases forecasts.getLast? <;> rfl
  · funext token
    simp only [List.flatMap_cons, lastYield?_append, Option.or_assoc]
    rfl
  · simp only [List.getLast?_cons]
    cases forecasts.getLast? <;> rfl

/-- Of forecasts that are kept in a row, those of a period and window are laid over its
records. -/
theorem ForecastStore.recordsAt_keepAll {forecasts : List WindowForecast}
    (own : ∀ forecast ∈ forecasts, forecast.IsAbout forecast.task) (store : ForecastStore)
    (key : WindowKey) :
    (forecasts.foldl keepForecast store).recordsAt key =
      (store.recordsAt key).under (forecasts.filter fun forecast => forecast.task = key) := by
  induction forecasts generalizing store with
  | nil => rfl
  | cons forecast forecasts ih =>
      rw [List.forall_mem_cons] at own
      rw [List.foldl_cons, ih own.2, recordsAt_keepForecast own.1]
      by_cases same : forecast.task = key
      · rw [if_pos same, List.filter_cons_of_pos (by simpa using same),
          WindowRecords.under_cons]
      · rw [if_neg same, List.filter_cons_of_neg (by simpa using same)]

/-! ## Futures of a pool -/

namespace ForecastSource

variable {source : ForecastSource} {snapshot : Snapshot} {createdAt : Int} {tasks : List Task}

/-- The future gives what its task gives, or no answer in time. -/
def Awaited (source : ForecastSource) (snapshot : Snapshot) (createdAt : Int) (future : Future) :
    Prop :=
  future.2 = source.evaluate snapshot createdAt future.1 ∨ future.2 = .error .noAnswer

theorem isExpected_of_evaluate {task : Task} {failure : YieldFailure}
    (failed : source.evaluate snapshot createdAt task = .error failure) :
    failure.IsExpected source.reader :=
  (source.forecast_expected snapshot task.period task.window createdAt).stops_of_error failed

theorem evaluate_ne_missingEntry (source : ForecastSource) (snapshot : Snapshot)
    (createdAt : Int) (task : Task) :
    source.evaluate snapshot createdAt task ≠ .error .missingEntry := by
  intro reached
  rcases isExpected_of_evaluate reached with reported | ⟨other, -⟩
  · exact reported
  · contradiction

theorem Awaited.ne_missingEntry {future : Future}
    (awaited : source.Awaited snapshot createdAt future) : future.2 ≠ .error .missingEntry := by
  rcases awaited with same | silent
  · rw [same]
    exact source.evaluate_ne_missingEntry snapshot createdAt future.1
  · rw [silent]
    nofun

/-- What a future completes is the forecast of its task. -/
theorem Awaited.evaluate_eq {future : Future}
    (awaited : source.Awaited snapshot createdAt future) {forecast : WindowForecast}
    (completed : future.2 = .ok forecast) :
    source.evaluate snapshot createdAt future.1 = .ok forecast ∧ forecast.IsAbout future.1 := by
  rcases awaited with same | silent
  · have made := same.symm.trans completed
    exact ⟨made, isAbout_of_forecast made⟩
  · rw [silent] at completed
    contradiction

/-- The futures of a pool are those of its tasks. -/
theorem map_fst_futures (source : ForecastSource) (snapshot : Snapshot) (createdAt : Int)
    (workers : Nat) (tasks : List Task) :
    (source.futures snapshot createdAt workers tasks).map Prod.fst = tasks := by
  induction tasks generalizing workers with
  | nil => cases workers <;> rfl
  | cons task tasks ih =>
      cases workers with
      | zero => exact congrArg (task :: ·) (ih 0)
      | succ free => exact congrArg (task :: ·) (ih _)

/-- How many of the tasks get no answer when they are evaluated. -/
def silence (source : ForecastSource) (snapshot : Snapshot) (createdAt : Int)
    (tasks : List Task) : Nat :=
  (source.evaluated snapshot createdAt tasks).countP Future.isUnanswered

theorem silence_cons (task : Task) (tasks : List Task) :
    source.silence snapshot createdAt (task :: tasks) =
      source.silence snapshot createdAt tasks +
        if Future.isUnanswered (task, source.evaluate snapshot createdAt task) then 1 else 0 :=
  List.countP_cons

/-- As long as fewer tasks got no answer than there are workers, the next task is evaluated; once
all workers wait, no task is answered. -/
theorem getElem?_futures (source : ForecastSource) (snapshot : Snapshot) (createdAt : Int)
    (workers : Nat) {tasks : List Task} {position : Nat} {task : Task}
    (held : tasks[position]? = some task) :
    (source.futures snapshot createdAt workers tasks)[position]? =
      some (task,
        if source.silence snapshot createdAt (tasks.take position) < workers then
          source.evaluate snapshot createdAt task
        else .error .noAnswer) := by
  induction tasks generalizing workers position with
  | nil => contradiction
  | cons first tasks ih =>
      cases workers with
      | zero =>
          -- all workers wait for tasks that get no answer
          simp only [Nat.not_lt_zero, if_false] at ih ⊢
          cases position with
          | zero =>
              obtain rfl := Option.some.inj held
              rfl
          | succ position => exact ih 0 held
      | succ free =>
          cases position with
          | zero =>
              obtain rfl := Option.some.inj held
              rfl
          | succ position =>
              refine (ih _ held).trans ?_
              simp only [List.take_succ_cons, silence_cons]
              split <;> simp

/-- Every future of a pool gives what its task gives, or no answer in time. -/
theorem awaited_of_futures {workers : Nat} {future : Future}
    (inside : future ∈ source.futures snapshot createdAt workers tasks) :
    source.Awaited snapshot createdAt future := by
  obtain ⟨position, held⟩ := List.mem_iff_getElem?.mp inside
  have isTask : tasks[position]? = some future.1 := by
    rw [← source.map_fst_futures snapshot createdAt workers tasks, List.getElem?_map, held]
    rfl
  have given := congrArg Prod.snd (Option.some.inj
    (held.symm.trans (source.getElem?_futures snapshot createdAt workers isTask)))
  unfold Awaited
  rw [given]
  split
  · exact .inl rfl
  · exact .inr rfl

/-! ## Readers that answer -/

theorem evaluate_ne_noAnswer (answers : source.reader.Answers) (snapshot : Snapshot)
    (createdAt : Int) (task : Task) :
    source.evaluate snapshot createdAt task ≠ .error .noAnswer := by
  intro silent
  rcases isExpected_of_evaluate silent with reported | ⟨-, unanswered⟩
  · exact reported
  · exact unanswered answers

/-- A pool whose reader answers keeps all of its workers. -/
theorem runPooled_eq_awaitAll (answers : source.reader.Answers) (free : Nat) (tasks : List Task) :
    source.runPooled snapshot createdAt (free + 1) tasks =
      Forecast.awaitAll (source.evaluated snapshot createdAt tasks) := by
  unfold runPooled
  rw [futures_of_answered]
  intro future inside
  obtain ⟨task, -, rfl⟩ := List.mem_map.mp inside
  have answered := evaluate_ne_noAnswer answers snapshot createdAt task
  unfold Future.isUnanswered
  split <;> simp_all

theorem timedOut_ofFutures (answers : source.reader.Answers) (tasks : List Task) :
    (BatchReport.ofFutures (source.evaluated snapshot createdAt tasks)).timedOut = [] := by
  refine List.filterMap_eq_nil_iff.mpr fun future inside => ?_
  obtain ⟨task, -, rfl⟩ := List.mem_map.mp inside
  have answered := evaluate_ne_noAnswer answers snapshot createdAt task
  split <;> simp_all

/-- One after the other, tasks are forecast up to the first that fails. -/
theorem mapM_evaluate_eq (answers : source.reader.Answers) (tasks : List Task) :
    tasks.mapM (source.evaluate snapshot createdAt) =
      match (BatchReport.ofFutures (source.evaluated snapshot createdAt tasks)).failed with
      | [] => .ok (BatchReport.ofFutures (source.evaluated snapshot createdAt tasks)).results
      | (_, failure) :: _ => .error failure := by
  induction tasks with
  | nil => rfl
  | cons task tasks ih =>
      have own : source.evaluated snapshot createdAt (task :: tasks) =
          (task, source.evaluate snapshot createdAt task) ::
            source.evaluated snapshot createdAt tasks := rfl
      rw [List.mapM_cons, ih, own]
      cases result : source.evaluate snapshot createdAt task with
      | ok forecast =>
          rw [BatchReport.ofFutures_ok]
          dsimp only
          cases (BatchReport.ofFutures (source.evaluated snapshot createdAt tasks)).failed <;> rfl
      | error failure =>
          have answered : failure ≠ .noAnswer := by
            rintro rfl
            exact evaluate_ne_noAnswer answers snapshot createdAt task result
          rw [BatchReport.failed_ofFutures answered]
          rfl

/-! ## Reports of pools -/

/-- Whatever becomes of the tasks of a pool, its report has each of them in the list of what
became of it, as often and in the order in which they were asked for, and each result is the
forecast of its task.  In a store that keeps the report, the results of a period and window
lie over its records, later ones over earlier ones, and all other records are as they were.
A pool with any number of workers waits for such futures of its tasks.  A task is evaluated as
long as fewer of those before it got no answer than there are workers, and gets none itself
afterwards. -/
theorem report_of_futures (source : ForecastSource) (snapshot : Snapshot) (createdAt : Int) :
    (∀ futures : List Future,
      (∀ future ∈ futures, source.Awaited snapshot createdAt future) →
        ∃ report, Forecast.awaitAll futures = .ok report ∧
          report = .ofFutures futures ∧
          (∀ forecast ∈ report.results,
            source.evaluate snapshot createdAt forecast.task = .ok forecast) ∧
          (report.results.map WindowForecast.task ++ report.timedOut ++
            report.failed.map Prod.fst).Perm (futures.map Prod.fst) ∧
          ∀ (store : ForecastStore) key, (report.keep store).recordsAt key =
            (store.recordsAt key).under
              (report.results.filter fun forecast => forecast.task = key)) ∧
    ∀ (workers : Int) (tasks : List Task), 1 < workers →
      let futures := source.futures snapshot createdAt workers.toNat tasks
      source.runBatch snapshot createdAt workers tasks = Forecast.awaitAll futures ∧
        futures.map Prod.fst = tasks ∧
        (∀ future ∈ futures, source.Awaited snapshot createdAt future) ∧
        ∀ (position : Nat) (task : Task), tasks[position]? = some task →
          futures[position]? = some (task,
            if source.silence snapshot createdAt (tasks.take position) < workers.toNat then
              source.evaluate snapshot createdAt task
            else .error .noAnswer) := by
  constructor
  · intro futures awaited
    have completed : ∀ future ∈ futures, ∀ forecast, future.2 = .ok forecast →
        source.evaluate snapshot createdAt future.1 = .ok forecast ∧
          forecast.IsAbout future.1 :=
      fun future inside _ => (awaited future inside).evaluate_eq
    have results : ∀ forecast ∈ (BatchReport.ofFutures futures).results,
        source.evaluate snapshot createdAt forecast.task = .ok forecast ∧
          forecast.IsAbout forecast.task := by
      intro forecast inside
      obtain ⟨⟨task, result⟩, isFuture, given⟩ := List.mem_filterMap.mp inside
      cases result with
      | error failure => contradiction
      | ok value =>
          obtain rfl := Option.some.inj given
          obtain ⟨made, about⟩ := completed _ isFuture _ rfl
          have isTask : value.task = task := about.rate
          rw [isTask]
          exact ⟨made, about⟩
    refine ⟨_, Forecast.awaitAll_eq fun future inside => (awaited future inside).ne_missingEntry,
      rfl, fun forecast inside => (results forecast inside).1, ?_, ?_⟩
    · exact BatchReport.perm_ofFutures fun future inside forecast given =>
        (completed future inside forecast given).2.rate
    · exact ForecastStore.recordsAt_keepAll fun forecast inside => (results forecast inside).2
  · intro workers tasks several futures
    refine ⟨?_, source.map_fst_futures snapshot createdAt _ tasks,
      fun _ => awaited_of_futures, fun _ _ =>
        source.getElem?_futures snapshot createdAt workers.toNat⟩
    unfold runBatch
    rw [if_neg (by omega)]
    rfl

/-- Of four futures in a pool of tasks, one gives no answer and one fails. -/
theorem hugeMint_report :
    let snapshot := ((Ledger.empty none).run Forecast.threeWhitelisted).snapshot
    ∃ report,
      Forecast.awaitAll
          [(⟨19628, 2⟩, hugeMint.evaluate snapshot 0 ⟨19628, 2⟩),
            (⟨19628, 3⟩, .error .noAnswer),
            (⟨19629, 3⟩, hugeMint.evaluate snapshot 0 ⟨19629, 3⟩),
            (⟨19628, 2⟩, hugeMint.evaluate snapshot 0 ⟨19628, 2⟩)] = .ok report ∧
      report.results.map WindowForecast.task = [⟨19628, 2⟩, ⟨19628, 2⟩] ∧
      report.timedOut = [⟨19628, 3⟩] ∧
      report.failed = [(⟨19629, 3⟩, .signal .overflow)] ∧
      ∀ key, (report.keep .empty).recordsAt key =
        (ForecastStore.empty.recordsAt key).under
          (report.results.filter fun forecast => forecast.task = key) := by
  intro snapshot
  obtain ⟨report, waited, rfl, -, -, kept⟩ := (report_of_futures hugeMint snapshot 0).1
    [(⟨19628, 2⟩, hugeMint.evaluate snapshot 0 ⟨19628, 2⟩),
      (⟨19628, 3⟩, .error .noAnswer),
      (⟨19629, 3⟩, hugeMint.evaluate snapshot 0 ⟨19629, 3⟩),
      (⟨19628, 2⟩, hugeMint.evaluate snapshot 0 ⟨19628, 2⟩)]
    (by simp [Awaited])
  refine ⟨_, waited, ?_, ?_, ?_, kept .empty⟩
  · decide +kernel
  · decide +kernel
  · decide +kernel

/-- With a reader that answers, pools of any number of workers report all tasks, and none of
them as timed out.  One worker gives the same report if no task fails, and otherwise it stops
for the failure of the first one that does and reports nothing. -/
theorem one_worker_as_pool_unless_failed (source : ForecastSource) (snapshot : Snapshot)
    (createdAt : Int) (tasks : List Task) (answers : source.reader.Answers) :
    ∃ report : BatchReport,
      (∀ workers : Int, 1 < workers →
        source.runBatch snapshot createdAt workers tasks = .ok report) ∧
      report.timedOut = [] ∧
      (∀ workers : Int, workers ≤ 1 →
        source.runBatch snapshot createdAt workers tasks =
          match report.failed with
          | [] => .ok report
          | (_, failure) :: _ => .error failure) ∧
      ∀ one many : Int, one ≤ 1 → 1 < many →
        (source.runBatch snapshot createdAt one tasks =
            source.runBatch snapshot createdAt many tasks ↔ report.failed = []) := by
  have pooled : ∀ workers : Int, 1 < workers →
      source.runBatch snapshot createdAt workers tasks =
        .ok (.ofFutures (source.evaluated snapshot createdAt tasks)) := by
    intro workers several
    obtain ⟨free, count⟩ : ∃ free, workers.toNat = free + 1 := ⟨workers.toNat - 1, by omega⟩
    unfold runBatch
    rw [if_neg (by omega), count, runPooled_eq_awaitAll answers]
    refine Forecast.awaitAll_eq fun future inside => ?_
    obtain ⟨task, -, rfl⟩ := List.mem_map.mp inside
    exact source.evaluate_ne_missingEntry snapshot createdAt task
  have inOrder : ∀ workers : Int, workers ≤ 1 →
      source.runBatch snapshot createdAt workers tasks =
        match (BatchReport.ofFutures (source.evaluated snapshot createdAt tasks)).failed with
        | [] => .ok (.ofFutures (source.evaluated snapshot createdAt tasks))
        | (_, failure) :: _ => .error failure := by
    intro workers few
    have none : (BatchReport.ofFutures (source.evaluated snapshot createdAt tasks)).timedOut = [] :=
      timedOut_ofFutures answers tasks
    unfold runBatch runInOrder
    rw [if_pos few, mapM_evaluate_eq answers]
    generalize BatchReport.ofFutures (source.evaluated snapshot createdAt tasks) = report at none ⊢
    obtain ⟨results, timedOut, failed⟩ := report
    cases failed with
    | nil =>
        obtain rfl : timedOut = [] := none
        rfl
    | cons first others => rfl
  refine ⟨_, pooled, timedOut_ofFutures answers tasks, inOrder, ?_⟩
  intro one many few several
  rw [inOrder one few, pooled many several]
  split
  · next none => simp [none]
  · next failed => simp [failed]

/-- A pool reports a task that fails, one worker stops for it. -/
theorem hugeMint_stops_one_worker :
    let snapshot := ((Ledger.empty none).run Forecast.threeWhitelisted).snapshot
    let tasks : List Task := [⟨19628, 2⟩, ⟨19629, 3⟩, ⟨19629, 2⟩]
    ∃ report,
      hugeMint.runBatch snapshot 0 2 tasks = .ok report ∧
      report.failed =
        [(⟨19629, 3⟩, .signal .overflow), (⟨19629, 2⟩, .signal .overflow)] ∧
      hugeMint.runBatch snapshot 0 1 tasks = .error (.signal .overflow) := by
  intro snapshot tasks
  obtain ⟨report, pooled, -, inOrder, -⟩ := one_worker_as_pool_unless_failed hugeMint snapshot 0
    tasks ⟨by decide, by decide⟩
  have failed : (hugeMint.runBatch snapshot 0 2 tasks).map BatchReport.failed =
      .ok [(⟨19629, 3⟩, .signal .overflow), (⟨19629, 2⟩, .signal .overflow)] := by
    decide +kernel
  rw [pooled 2 (by decide)] at failed
  have failed := Except.ok.inj failed
  refine ⟨report, pooled 2 (by decide), failed, ?_⟩
  rw [inOrder 1 (by decide), failed]

/-- One worker and two do not always give the same report. -/
theorem one_worker_reports_no_failure :
    ¬∀ (source : ForecastSource) (operations : List Operation) (createdAt one many : Int)
      (tasks : List Task), source.reader.Answers → one ≤ 1 → 1 < many →
        let snapshot := ((Ledger.empty none).run operations).snapshot
        source.runBatch snapshot createdAt one tasks =
          source.runBatch snapshot createdAt many tasks := by
  intro same
  have agree := same hugeMint Forecast.threeWhitelisted 0 1 2 [⟨19629, 3⟩] ⟨by decide, by decide⟩
    (by decide) (by decide)
  let snapshot := ((Ledger.empty none).run Forecast.threeWhitelisted).snapshot
  have stopped : (hugeMint.runBatch snapshot 0 1 [⟨19629, 3⟩]).isOk = false := by decide +kernel
  have reported : (hugeMint.runBatch snapshot 0 2 [⟨19629, 3⟩]).isOk = true := by decide +kernel
  rw [agree, reported] at stopped
  contradiction

end ForecastSource

end DepositYield
