import DepositYield.Proofs.Ledger.Era

/-!
# Eras only move forward

The era of a token is never unset, and only a migration changes it, from seasons to stems.
While a token has an era, its deposits under keys of the other scheme are stranded: whatever
is asked about them is refused, and their records stay as they are.
-/

namespace DepositYield

namespace Operation

variable {operation : Operation} {ledger : Ledger} {token : Token} {era : KeyScheme}

/-- An era that is set stays or gives way to stems. -/
theorem era?_perform_of_set (operation : Operation) (set : ledger.era? token = some era) :
    (operation.perform ledger).ledger.era? token = some era ∨
      (operation.perform ledger).ledger.era? token = some .stem := by
  by_cases migrates : operation = .adoptStems token
  · right
    rw [migrates]
    exact (ledger.eras.get?_set token token .stem).trans (if_pos rfl)
  · left
    exact era?_perform_of_some migrates set

/-- A key of another scheme than that of the era is refused, and nothing is written. -/
theorem perform_of_other_scheme {key : DepositKey} (keyed : operation.key? = some (token, key))
    (set : ledger.era? token = some era) (other : key.scheme ≠ era) :
    operation.perform ledger =
      { result := .error (.versionMismatch token era key), ledger } := by
  apply perform_of_rejected
  have refused : ledger.requireEra token key = .error (.versionMismatch token era key) := by
    have held : ledger.eras.get? token = some era := set
    simp only [Ledger.requireEra, held, if_neg (Ne.symm other)]
  cases operation with
  | readDeposit id | putDeposit id =>
      obtain ⟨rfl, rfl⟩ := Prod.mk.inj (Option.some.inj keyed)
      exact refused
  | takeDeposit id =>
      obtain ⟨rfl, rfl⟩ := Prod.mk.inj (Option.some.inj keyed)
      simp only [admission, refused]
  | _ => contradiction

/-- No operation writes the record of a deposit under a key of another scheme than that of the
era. -/
theorem get?_deposits_perform_of_other_scheme (operation : Operation) {id : DepositId}
    (set : ledger.era? id.token = some era) (other : id.key.scheme ≠ era) :
    (operation.perform ledger).ledger.deposits.get? id = ledger.deposits.get? id := by
  cases admission : operation.admission ledger with
  | error failure => rw [perform_of_rejected admission]
  | ok _ =>
      have elsewhere : operation.deposit? ≠ some id := by
        intro own
        rcases era?_of_admission admission own with unset | same
        · rw [set] at unset
          contradiction
        · exact other (Option.some.inj (same.symm.trans set))
      rw [deposits_perform admission, get?_deposits_recorded_of_ne elsewhere]

end Operation

namespace Ledger

variable {ledger : Ledger} {token : Token} {era : KeyScheme}

/-- Along a run, an era that is set stays or gives way to stems. -/
theorem era?_run_of_set (operations : List Operation) (set : ledger.era? token = some era) :
    (ledger.run operations).era? token = some era ∨
      (ledger.run operations).era? token = some .stem := by
  refine run_preserves
    (fun ledger => ledger.era? token = some era ∨ ledger.era? token = some .stem) ?_ (.inl set)
    operations
  rintro ledger (stays | stems) operation
  · exact operation.era?_perform_of_set stays
  · exact .inr ((operation.era?_perform_of_set stems).elim id id)

/-- The stem era is final. -/
theorem era?_run_of_stem (operations : List Operation) (stems : ledger.era? token = some .stem) :
    (ledger.run operations).era? token = some .stem :=
  (era?_run_of_set operations stems).elim id id

/-- A run at whose end a token still has its era writes no record of a deposit of the token
under a key of the other scheme. -/
theorem get?_deposits_run_of_other_scheme (operations : List Operation) {id : DepositId}
    (set : ledger.era? id.token = some era) (other : id.key.scheme ≠ era)
    (still : (ledger.run operations).era? id.token = some era) :
    (ledger.run operations).deposits.get? id = ledger.deposits.get? id := by
  induction operations generalizing ledger with
  | nil => rfl
  | cons operation operations ih =>
      have now : (operation.perform ledger).ledger.era? id.token = some era := by
        rcases operation.era?_perform_of_set set with stays | stems
        · exact stays
        · -- A migration is final, so this can only be the era of stems itself.
          have final := era?_run_of_stem operations stems
          rwa [Option.some.inj (still.symm.trans final)]
      rw [run_cons, ih now still, operation.get?_deposits_perform_of_other_scheme set other]

/-- Once the era of a token is set it is never unset, and stems stay.  As long as a token has
an era, all records of its deposits under keys of the other scheme stay as they are, and
reading, putting and taking under such a key are refused for it and change nothing. -/
theorem other_scheme_stranded (ledger : Ledger) (token : Token) (era : KeyScheme)
    (set : ledger.era? token = some era) :
    (∀ operations,
      (∃ later, (ledger.run operations).era? token = some later) ∧
      (era = .stem → (ledger.run operations).era? token = some .stem) ∧
      ((ledger.run operations).era? token = some era →
        ∀ id : DepositId, id.token = token → id.key.scheme ≠ era →
          (ledger.run operations).deposits.get? id = ledger.deposits.get? id)) ∧
    ∀ (operation : Operation) (key : DepositKey),
      operation.key? = some (token, key) → key.scheme ≠ era →
        operation.perform ledger =
          { result := .error (.versionMismatch token era key), ledger } := by
  constructor
  · intro operations
    refine ⟨?_, ?_, ?_⟩
    · rcases era?_run_of_set operations set with stays | stems
      · exact ⟨era, stays⟩
      · exact ⟨.stem, stems⟩
    · rintro rfl
      exact era?_run_of_stem operations set
    · rintro still id rfl other
      exact get?_deposits_run_of_other_scheme operations set other still
  · intro operation key keyed other
    exact Operation.perform_of_other_scheme keyed set other

/-- A deposit of the season era is left behind by a migration.  The balance that it stood for
is debited away, but the record stays, and nothing can be taken from it. -/
theorem season_deposit_stranded :
    let id : DepositId := ⟨"0xa", "0xt", .season 1⟩
    let migrated := (Ledger.empty none).run [.putDeposit id 30 20 1, .adoptStems "0xt"]
    let later := migrated.run
      [.putDeposit ⟨"0xa", "0xt", .stem 1⟩ 5 5 2,
        .takeDeposit id 30 none 3,
        .debit "0xa" "0xt" ⟨20, 30, 0, 0, 0⟩ 4,
        .adoptStems "0xt"]
    migrated.era? "0xt" = some .stem ∧ later.era? "0xt" = some .stem ∧
      later.deposits.get? id = some ⟨.season, 30, 20, 0, 0, 1, 1⟩ ∧
      (Operation.takeDeposit id 0 none 5).perform later =
        { result := .error (.versionMismatch "0xt" .stem (.season 1)), ledger := later } := by
  intro id migrated later
  have set : migrated.era? "0xt" = some .stem := by decide
  have stranded := other_scheme_stranded migrated "0xt" .stem set
  obtain ⟨-, final, kept⟩ := stranded.1
    [.putDeposit ⟨"0xa", "0xt", .stem 1⟩ 5 5 2, .takeDeposit id 30 none 3,
      .debit "0xa" "0xt" ⟨20, 30, 0, 0, 0⟩ 4, .adoptStems "0xt"]
  have held : migrated.deposits.get? id = some ⟨.season, 30, 20, 0, 0, 1, 1⟩ := by decide
  have still : later.era? "0xt" = some .stem := final rfl
  have record := kept still id rfl (by decide)
  refine ⟨set, still, record.trans held, ?_⟩
  exact (other_scheme_stranded later "0xt" .stem still).2 (.takeDeposit id 0 none 5) (.season 1)
    rfl (by decide)

end Ledger

end DepositYield
