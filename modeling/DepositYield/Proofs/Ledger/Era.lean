import DepositYield.Proofs.Ledger.Locality
import DepositYield.Proofs.Ledger.Run

/-!
# Eras and the keys of deposits

The first deposit that is put sets the era of its token, and from then on only keys of that
scheme are admitted.  Before that a taking is admitted under any key and writes a record,
but it sets no era.  So unless the token is migrated, its deposits have keys of its era,
apart from those that were first taken from while there was none.
-/

namespace DepositYield

namespace Ledger

theorem requireEra_eq_ok_iff {ledger : Ledger} {token : Token} {key : DepositKey} :
    ledger.requireEra token key = .ok () ↔
      ledger.era? token = none ∨ ledger.era? token = some key.scheme := by
  unfold requireEra era?
  cases ledger.eras.get? token with
  | none => simp
  | some era => by_cases same : era = key.scheme <;> simp [same]

end Ledger

namespace Operation

/-- The deposit that an operation takes from while the token has no era, if it is
admitted. -/
def strayTake? (ledger : Ledger) (operation : Operation) : Option DepositId :=
  match operation, operation.admission ledger with
  | .takeDeposit id _ _ _, .ok () => if ledger.era? id.token = none then some id else none
  | _, _ => none

variable {operation : Operation} {ledger : Ledger} {id : DepositId}

/-- A deposit is admitted under a key of the era of its token, or while there is none. -/
theorem era?_of_admission (admitted : operation.admission ledger = .ok ())
    (about : operation.deposit? = some id) :
    ledger.era? id.token = none ∨ ledger.era? id.token = some id.key.scheme := by
  rw [← Ledger.requireEra_eq_ok_iff]
  cases operation with
  | putDeposit =>
      obtain rfl := Option.some.inj about
      exact admitted
  | takeDeposit =>
      obtain rfl := Option.some.inj about
      simp only [admission] at admitted
      split at admitted
      · contradiction
      · assumption
  | _ => contradiction

theorem of_strayTake? (stray : operation.strayTake? ledger = some id) :
    operation.admission ledger = .ok () ∧ operation.deposit? = some id := by
  unfold strayTake? at stray
  split at stray
  · next own _ _ _ admitted =>
      split at stray
      · exact ⟨admitted, stray⟩
      · contradiction
  · contradiction

/-- An era that is set stays, unless the token is migrated. -/
theorem era?_perform_of_some {token : Token} (keeps : operation ≠ .adoptStems token)
    {era : KeyScheme} (set : ledger.era? token = some era) :
    (operation.perform ledger).ledger.era? token = some era := by
  unfold Ledger.era? at set ⊢
  rw [eras_perform keeps, set, Option.some_or]

/-- An admitted operation on a deposit leaves the token with the era of the key, unless it
takes from the deposit of a token without an era. -/
theorem era?_perform_or_strayTake? (admitted : operation.admission ledger = .ok ())
    (about : operation.deposit? = some id) :
    (operation.perform ledger).ledger.era? id.token = some id.key.scheme ∨
      operation.strayTake? ledger = some id := by
  have keeps : operation ≠ .adoptStems id.token := by
    rintro rfl
    contradiction
  rcases era?_of_admission admitted about with unset | set
  · cases operation with
    | putDeposit =>
        obtain rfl := Option.some.inj about
        left
        unfold Ledger.era? at unset ⊢
        rw [eras_perform keeps, unset, Option.none_or]
        exact if_pos rfl
    | takeDeposit =>
        obtain rfl := Option.some.inj about
        right
        simp [strayTake?, admitted, unset]
    | _ => contradiction
  · exact .inl (era?_perform_of_some keeps set)

end Operation

namespace Ledger

/-- The deposits that a run takes from while their tokens have no era. -/
def strayTakes (ledger : Ledger) : List Operation → List DepositId
  | [] => []
  | operation :: operations =>
      (operation.strayTake? ledger).toList ++
        (operation.perform ledger).ledger.strayTakes operations

/-- The deposits of a token have keys of its era, apart from strays, all of which have
records. -/
structure KeyedByEra (ledger : Ledger) (token : Token) (strays : List DepositId) : Prop where
  keyed : ∀ id, id.token = token → (ledger.deposits.get? id).isSome →
    ledger.era? token = some id.key.scheme ∨ id ∈ strays
  recorded : ∀ id ∈ strays, (ledger.deposits.get? id).isSome

theorem keyedByEra_empty (v31Period : Option Int) (token : Token) :
    (Ledger.empty v31Period).KeyedByEra token [] where
  keyed _ _ held := by simp [Ledger.empty] at held
  recorded _ inside := absurd inside List.not_mem_nil

namespace KeyedByEra

variable {ledger : Ledger} {token : Token} {strays : List DepositId}

/-- Every operation but the migration of the token keeps its deposits keyed by its era;
a taking without an era adds a stray. -/
theorem perform (keyedBy : ledger.KeyedByEra token strays) {operation : Operation}
    (keeps : operation ≠ .adoptStems token) :
    (operation.perform ledger).ledger.KeyedByEra token
      (strays ++ (operation.strayTake? ledger).toList) where
  keyed id own held := by
    rw [List.mem_append]
    rcases (operation.isSome_get?_deposits_perform_iff ledger id).mp held with
      before | ⟨admitted, about⟩
    · rcases keyedBy.keyed id own before with set | stray
      · exact .inl (Operation.era?_perform_of_some keeps set)
      · exact .inr (.inl stray)
    · subst own
      rcases Operation.era?_perform_or_strayTake? admitted about with set | stray
      · exact .inl set
      · exact .inr (.inr (Option.mem_toList.mpr stray))
  recorded id inside := by
    rw [operation.isSome_get?_deposits_perform_iff ledger id]
    rcases List.mem_append.mp inside with old | new
    · exact .inl (keyedBy.recorded id old)
    · exact .inr (Operation.of_strayTake? (Option.mem_toList.mp new))

/-- Every run without the migration of the token keeps its deposits keyed by its era. -/
theorem run (keyedBy : ledger.KeyedByEra token strays) {operations : List Operation}
    (unmigrated : Operation.adoptStems token ∉ operations) :
    (ledger.run operations).KeyedByEra token (strays ++ ledger.strayTakes operations) := by
  induction operations generalizing ledger strays with
  | nil => simpa [strayTakes] using keyedBy
  | cons operation operations ih =>
      rw [List.mem_cons, not_or] at unmigrated
      have next := keyedBy.perform (Ne.symm unmigrated.1)
      have later := ih next unmigrated.2
      rwa [List.append_assoc] at later

end KeyedByEra

/-- After every run from the empty ledger without a migration of a token, each of its
deposits has a key of the era of the token, or was taken from while there was no era.  So
the era is set and is that of all deposits of the token exactly if it is that of those. -/
theorem era_of_deposits_iff (v31Period : Option Int) (operations : List Operation)
    (token : Token) (unmigrated : Operation.adoptStems token ∉ operations) :
    let ledger := (Ledger.empty v31Period).run operations
    let strays := (Ledger.empty v31Period).strayTakes operations
    (∀ id deposit, id.token = token → ledger.deposits.get? id = some deposit →
      ledger.era? token = some id.key.scheme ∨ id ∈ strays) ∧
    ((∀ id deposit, id.token = token → ledger.deposits.get? id = some deposit →
        ledger.era? token = some id.key.scheme) ↔
      ∀ id ∈ strays, id.token = token → ledger.era? token = some id.key.scheme) := by
  intro ledger strays
  have keyedBy := (keyedByEra_empty v31Period token).run unmigrated
  rw [List.nil_append] at keyedBy
  have apart : ∀ id deposit, id.token = token → ledger.deposits.get? id = some deposit →
      ledger.era? token = some id.key.scheme ∨ id ∈ strays := by
    intro id deposit own held
    exact keyedBy.keyed id own (Option.isSome_of_eq_some held)
  refine ⟨apart, ?_, ?_⟩
  · intro followed id stray own
    obtain ⟨deposit, held⟩ := Option.isSome_iff_exists.mp (keyedBy.recorded id stray)
    exact followed id deposit own held
  · intro agreeing id deposit own held
    rcases apart id deposit own held with set | stray
    · exact set
    · exact agreeing id stray own

/-- Something is taken under a season before the first deposit is put, which has a season,
too.  A stem is refused after that, and the migration of another token does not count. -/
theorem seasons_after_stray_take :
    let operations : List Operation :=
      [.takeDeposit ⟨"0xa", "0xt", .season 3⟩ 0 none 1,
        .adoptStems "0xs",
        .putDeposit ⟨"0xb", "0xt", .season 4⟩ 30 20 2,
        .takeDeposit ⟨"0xb", "0xt", .stem 4⟩ 0 none 3]
    let ledger := (Ledger.empty none).run operations
    Operation.adoptStems "0xt" ∉ operations ∧
      (Ledger.empty none).strayTakes operations = [⟨"0xa", "0xt", .season 3⟩] ∧
      ∀ id deposit, id.token = "0xt" → ledger.deposits.get? id = some deposit →
        ledger.era? "0xt" = some id.key.scheme := by
  intro operations ledger
  have unmigrated : Operation.adoptStems "0xt" ∉ operations := by decide
  have strays : (Ledger.empty none).strayTakes operations = [⟨"0xa", "0xt", .season 3⟩] := by
    decide
  refine ⟨unmigrated, strays, (era_of_deposits_iff none operations "0xt" unmigrated).2.mpr ?_⟩
  rw [strays]
  decide

/-- Not every run without a migration keeps the deposits of a token to its era: two takings
of nothing leave deposits of both schemes and no era. -/
theorem stray_takes_mix_schemes :
    ¬∀ (v31Period : Option Int) (operations : List Operation) (token : Token),
      Operation.adoptStems token ∉ operations →
        ∀ id deposit, id.token = token →
          ((Ledger.empty v31Period).run operations).deposits.get? id = some deposit →
            ((Ledger.empty v31Period).run operations).era? token = some id.key.scheme := by
  intro keyed
  let operations : List Operation :=
    [.takeDeposit ⟨"0xa", "0xt", .season 1⟩ 0 none 1,
      .takeDeposit ⟨"0xa", "0xt", .stem 1⟩ 0 none 2]
  have season := keyed none operations "0xt" (by decide) ⟨"0xa", "0xt", .season 1⟩
    ⟨.season, 0, 0, 0, 0, 0, 1⟩ rfl (by decide)
  have stem := keyed none operations "0xt" (by decide) ⟨"0xa", "0xt", .stem 1⟩
    ⟨.v3, 0, 0, 0, 0, 0, 2⟩ rfl (by decide)
  rw [season] at stem
  contradiction

end Ledger

end DepositYield
