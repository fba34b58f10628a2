import DepositYield.Proofs.Ledger.Phases
import DepositYield.Proofs.Ledger.Run

/-!
# The journal replays to the balances

The journal is a second account of the ledger.  A booked change enters every
balance that it reaches, the account first and the protocol right after it, with
the period of the ledger.  Nothing else is entered, so the entries of a balance add
up to it, and each entry shows the sum so far.
-/

namespace DepositYield

/-! ## Entries of one balance -/

namespace JournalEntry

/-- What entries add to the balance of a scope and token. -/
def netChange (entries : List JournalEntry) (scope : Scope) (token : Token) : Amounts :=
  ((entries.filter fun entry => entry.scope = scope ∧ entry.token = token).map change).sum

variable {entry : JournalEntry} {entries : List JournalEntry} {scope : Scope} {token : Token}

@[simp]
theorem netChange_nil : netChange [] scope token = 0 :=
  rfl

@[simp]
theorem netChange_cons :
    netChange (entry :: entries) scope token =
      (if entry.scope = scope ∧ entry.token = token then entry.change else 0) +
        netChange entries scope token := by
  unfold netChange
  by_cases own : entry.scope = scope ∧ entry.token = token <;> simp [own]

@[simp]
theorem netChange_append (left right : List JournalEntry) :
    netChange (left ++ right) scope token =
      netChange left scope token + netChange right scope token := by
  simp [netChange]

/-- An entry of the protocol that repeats the change of another entry. -/
def Mirrors (mirror entry : JournalEntry) : Prop :=
  mirror.scope = protocolScope ∧ mirror.token = entry.token ∧
    mirror.timestamp = entry.timestamp ∧ mirror.period = entry.period ∧
    mirror.change = entry.change

instance (mirror entry : JournalEntry) : Decidable (mirror.Mirrors entry) :=
  inferInstanceAs (Decidable (_ ∧ _ ∧ _ ∧ _ ∧ _))

end JournalEntry

namespace Ledger

open JournalEntry

/-! ## What a booked change enters -/

/-- The entries of a booked change. -/
def bookedEntries (ledger : Ledger) (scope : Scope) (token : Token) (change : Amounts)
    (timestamp : Int) : List JournalEntry :=
  scope.reached.map fun other =>
    { scope := other
      token
      period := ledger.period
      timestamp
      change
      balance := ledger.balance other token + change }

variable {ledger : Ledger} {scope : Scope} {token : Token} {change : Amounts} {timestamp : Int}

theorem journal_book :
    (ledger.book scope token change timestamp).journal =
      ledger.journal ++ ledger.bookedEntries scope token change timestamp :=
  rfl

theorem period_of_mem_bookedEntries {entry : JournalEntry}
    (inside : entry ∈ ledger.bookedEntries scope token change timestamp) :
    entry.period = ledger.period := by
  obtain ⟨other, -, rfl⟩ := List.mem_map.mp inside
  rfl

/-- A booked change is entered once for each balance that it reaches. -/
theorem netChange_bookedEntries (other : Scope) (otherToken : Token) :
    netChange (ledger.bookedEntries scope token change timestamp) other otherToken =
      if otherToken = token ∧ other ∈ scope.reached then change else 0 := by
  unfold bookedEntries Scope.reached
  by_cases isProtocol : scope = protocolScope
  · simp only [isProtocol, if_true, List.map_cons, List.map_nil, netChange_cons, netChange_nil,
      add_zero, List.mem_singleton, eq_comm, and_comm]
  · have apart : ¬ (scope = other ∧ protocolScope = other) := fun both =>
      isProtocol (both.1.trans both.2.symm)
    simp only [isProtocol, if_false, List.map_cons, List.map_nil, netChange_cons, netChange_nil,
      List.mem_cons, List.not_mem_nil, or_false]
    grind

/-- Up to an entry of a booked change its own balance is entered once. -/
theorem netChange_take_bookedEntries {position : Nat} {entry : JournalEntry}
    (entered : (ledger.bookedEntries scope token change timestamp)[position]? = some entry) :
    netChange ((ledger.bookedEntries scope token change timestamp).take (position + 1))
        entry.scope entry.token = change ∧
      entry.balance = ledger.balance entry.scope entry.token + change := by
  unfold bookedEntries Scope.reached at *
  by_cases isProtocol : scope = protocolScope
  · rw [if_pos isProtocol] at entered ⊢
    obtain _ | position := position
    · obtain rfl := Option.some.inj entered
      simp
    · simp at entered
  · rw [if_neg isProtocol] at entered ⊢
    obtain _ | _ | position := position
    · obtain rfl := Option.some.inj entered
      simp
    · obtain rfl := Option.some.inj entered
      simp [isProtocol]
    · simp at entered

/-- After the entry of an account stands the one of the protocol. -/
theorem mirrors_bookedEntries {position : Nat} {entry : JournalEntry}
    (entered : (ledger.bookedEntries scope token change timestamp)[position]? = some entry)
    (isAccount : entry.scope ≠ protocolScope) :
    ∃ mirror, (ledger.bookedEntries scope token change timestamp)[position + 1]? = some mirror ∧
      mirror.Mirrors entry := by
  unfold bookedEntries Scope.reached at *
  by_cases isProtocol : scope = protocolScope
  · rw [if_pos isProtocol] at entered
    obtain _ | position := position
    · obtain rfl := Option.some.inj entered
      exact absurd rfl isAccount
    · simp at entered
  · rw [if_neg isProtocol] at entered ⊢
    obtain _ | _ | position := position
    · obtain rfl := Option.some.inj entered
      exact ⟨_, rfl, rfl, rfl, rfl, rfl, rfl⟩
    · obtain rfl := Option.some.inj entered
      exact absurd rfl isAccount
    · simp at entered

end Ledger

/-! ## What an operation enters -/

namespace Operation

/-- Only a granted change is entered in the journal. -/
theorem journal_perform (operation : Operation) (ledger : Ledger) :
    (operation.perform ledger).ledger.journal =
      ledger.journal ++
        match operation.granted? ledger with
        | none => []
        | some request =>
            ledger.bookedEntries request.scope request.token request.change
              request.timestamp := by
  unfold granted?
  have untouched := (operation.recorded_frame ledger).2.1
  cases operation.ending ledger with
  | rejected failure admission performed => simp [performed]
  | plain admission asked performed => simp [performed, asked, untouched]
  | overdrawn request other admission asked overdrawn performed => simp [performed, untouched]
  | booked request admission asked passed performed =>
      obtain ⟨deposits, withdrawals, eras, recorded⟩ :=
        recorded_frame_of_pair? (pair?_of_request? asked) ledger
      obtain ⟨activeAccounts, grownStalk, completed⟩ := operation.completed_frame ledger
        ((operation.recorded ledger).book request.scope request.token request.change
          request.timestamp)
      rw [performed, completed, recorded, asked]
      rfl

/-- What is recorded by an admitted operation never moves the period back. -/
theorem period_le_recorded {operation : Operation} {ledger : Ledger}
    (admitted : operation.admission ledger = .ok ()) :
    ledger.period ≤ (operation.recorded ledger).period := by
  cases operation with
  | putDeposit id =>
      obtain ⟨eras, opened⟩ := ledger.openEra_frame id.token id.key.scheme
      simp [recorded, opened, Ledger.writeDeposit]
  | dewhitelist token =>
      simp only [recorded, Ledger.dewhitelist]
      split <;> exact Int.le_refl _
  | advanceTo period =>
      simp only [admission] at admitted
      split at admitted
      · contradiction
      · next forward => exact Int.not_lt.mp forward
  | _ => exact Int.le_refl _

/-- The period never moves back. -/
theorem period_le_perform (operation : Operation) (ledger : Ledger) :
    ledger.period ≤ (operation.perform ledger).ledger.period := by
  cases admission : operation.admission ledger with
  | error failure =>
      have unmoved := congrArg Outcome.ledger (perform_of_rejected admission)
      exact Int.le_of_eq (congrArg Ledger.period unmoved.symm)
  | ok _ =>
      obtain ⟨_, _, _, _, left⟩ := perform_frame_of_admitted admission
      rw [left]
      exact period_le_recorded admission

end Operation

/-! ## The invariant -/

namespace Ledger

open JournalEntry

/-- The journal replays to the balances: its entries add up to them, each shows the
sum so far, periods never go down or beyond the present one, and an entry of an
account is followed by its mirror. -/
structure Replayed (ledger : Ledger) : Prop where
  balances : ∀ scope token, ledger.balance scope token = netChange ledger.journal scope token
  running : ∀ position entry, ledger.journal[position]? = some entry →
    entry.balance =
      netChange (ledger.journal.take (position + 1)) entry.scope entry.token
  ordered : ledger.journal.Pairwise fun earlier later => earlier.period ≤ later.period
  past : ∀ entry ∈ ledger.journal, entry.period ≤ ledger.period
  mirrored : ∀ position entry, ledger.journal[position]? = some entry →
    entry.scope ≠ protocolScope →
      ∃ mirror, ledger.journal[position + 1]? = some mirror ∧ mirror.Mirrors entry

theorem replayed_empty (v31Period : Option Int) : (Ledger.empty v31Period).Replayed where
  balances _ _ := rfl
  running _ _ entered := by simp [Ledger.empty] at entered
  ordered := List.Pairwise.nil
  past _ inside := absurd inside List.not_mem_nil
  mirrored _ _ entered := by simp [Ledger.empty] at entered

namespace Replayed

variable {ledger : Ledger}

/-- The journal stays replayed when only other parts of the ledger change and the
period does not go back. -/
theorem of_eq (replayed : ledger.Replayed) {other : Ledger}
    (balances : other.balances = ledger.balances) (journal : other.journal = ledger.journal)
    (period : ledger.period ≤ other.period) : other.Replayed where
  balances scope token := by
    have held := replayed.balances scope token
    unfold balance at held ⊢
    rwa [balances, journal]
  running := by
    rw [journal]
    exact replayed.running
  ordered := by
    rw [journal]
    exact replayed.ordered
  past entry inside := by
    rw [journal] at inside
    exact Int.le_trans (replayed.past entry inside) period
  mirrored := by
    rw [journal]
    exact replayed.mirrored

/-- A booked change keeps the journal replayed. -/
theorem book (replayed : ledger.Replayed) (scope : Scope) (token : Token) (change : Amounts)
    (timestamp : Int) : (ledger.book scope token change timestamp).Replayed where
  balances other otherToken := by
    rw [balance_book, journal_book, netChange_append, netChange_bookedEntries,
      replayed.balances]
  running position entry entered := by
    rw [journal_book] at entered ⊢
    by_cases early : position < ledger.journal.length
    · rw [List.getElem?_append_left early] at entered
      rw [List.take_append_of_le_length early]
      exact replayed.running position entry entered
    · -- a new entry sums up all that stood before and the new entries up to itself
      have late := not_lt.mp early
      rw [List.getElem?_append_right late] at entered
      obtain ⟨entered, shown⟩ := netChange_take_bookedEntries entered
      rw [List.take_append, List.take_of_length_le (by omega), netChange_append,
        Nat.sub_add_comm late, entered, shown, replayed.balances]
  ordered := by
    rw [journal_book, List.pairwise_append]
    refine ⟨replayed.ordered, ?_, fun earlier old later new => ?_⟩
    · refine List.pairwise_of_forall_mem_list fun earlier first later second => ?_
      exact Int.le_of_eq
        (by rw [period_of_mem_bookedEntries first, period_of_mem_bookedEntries second])
    · rw [period_of_mem_bookedEntries new]
      exact replayed.past earlier old
  past entry inside := by
    rw [journal_book, List.mem_append] at inside
    obtain old | new := inside
    · exact replayed.past entry old
    · rw [period_of_mem_bookedEntries new]
      exact Int.le_refl _
  mirrored position entry entered isAccount := by
    rw [journal_book] at entered ⊢
    by_cases early : position < ledger.journal.length
    · rw [List.getElem?_append_left early] at entered
      obtain ⟨mirror, next, mirrors⟩ := replayed.mirrored position entry entered isAccount
      obtain ⟨inside, -⟩ := List.getElem?_eq_some_iff.mp next
      exact ⟨mirror, by rw [List.getElem?_append_left inside, next], mirrors⟩
    · have late := not_lt.mp early
      rw [List.getElem?_append_right late] at entered
      obtain ⟨mirror, next, mirrors⟩ := mirrors_bookedEntries entered isAccount
      refine ⟨mirror, ?_, mirrors⟩
      rw [List.getElem?_append_right (by omega), Nat.sub_add_comm late, next]

/-- Every operation keeps the journal replayed, whether it is granted or not. -/
theorem perform (replayed : ledger.Replayed) (operation : Operation) :
    (operation.perform ledger).ledger.Replayed := by
  have balances := operation.balances_perform ledger
  have journal := operation.journal_perform ledger
  have period := operation.period_le_perform ledger
  cases granted : operation.granted? ledger with
  | none =>
      rw [granted] at balances journal
      exact replayed.of_eq balances (by simpa using journal) period
  | some request =>
      rw [granted] at balances journal
      exact (replayed.book request.scope request.token request.change request.timestamp).of_eq
        balances journal period

/-- Every run keeps the journal replayed. -/
theorem run (replayed : ledger.Replayed) (operations : List Operation) :
    (ledger.run operations).Replayed :=
  run_preserves Replayed (fun _ => Replayed.perform) replayed operations

end Replayed

/-- After every run from the empty ledger, refused operations included, the journal
replays to the balances: for every scope and token the entered changes add up to the
current balance, each entry shows the sum of the changes up to and with itself,
periods never go down, and the entry of an account is immediately followed by an
entry of the protocol with the same token, timestamp, period and change. -/
theorem journal_replays (v31Period : Option Int) (operations : List Operation) :
    let ledger := (Ledger.empty v31Period).run operations
    (∀ scope token, netChange ledger.journal scope token = ledger.balance scope token) ∧
    (∀ position entry, ledger.journal[position]? = some entry →
      entry.balance =
        netChange (ledger.journal.take (position + 1)) entry.scope entry.token) ∧
    (ledger.journal.Pairwise fun earlier later => earlier.period ≤ later.period) ∧
    (∀ position entry, ledger.journal[position]? = some entry → entry.scope ≠ protocolScope →
      ∃ mirror, ledger.journal[position + 1]? = some mirror ∧
        mirror.scope = protocolScope ∧ mirror.token = entry.token ∧
        mirror.timestamp = entry.timestamp ∧ mirror.period = entry.period ∧
        mirror.change = entry.change) := by
  intro ledger
  have replayed := (replayed_empty v31Period).run operations
  exact ⟨fun scope token => (replayed.balances scope token).symm, replayed.running,
    replayed.ordered, replayed.mirrored⟩

/-- After a refused debit and in a later period the journal goes on with the put of
another account and shows the running sum of the protocol. -/
theorem journal_shows_running_sums :
    let operations : List Operation :=
      [.putDeposit ⟨"0xa", "0xt", .season 1⟩ 100 90 1,
        .debit "0xa" "0xt" ⟨95, 0, 0, 0, 0⟩ 2,
        .advanceTo 7,
        .putDeposit ⟨"0xb", "0xt", .season 7⟩ 50 40 3]
    let ledger := (Ledger.empty none).run operations
    let third : JournalEntry := ⟨"0xb", "0xt", 7, 3, ⟨40, 50, 0, 0, 0, 0⟩, ⟨40, 50, 0, 0, 0, 0⟩⟩
    let fourth : JournalEntry :=
      ⟨protocolScope, "0xt", 7, 3, ⟨40, 50, 0, 0, 0, 0⟩, ⟨130, 150, 0, 0, 0, 0⟩⟩
    ledger.journal[2]? = some third ∧ third.scope ≠ protocolScope ∧
      ledger.journal[3]? = some fourth ∧
      fourth.balance = netChange (ledger.journal.take 4) protocolScope "0xt" ∧
      ∃ mirror, ledger.journal[3]? = some mirror ∧
        mirror.scope = protocolScope ∧ mirror.token = third.token ∧
        mirror.timestamp = third.timestamp ∧ mirror.period = third.period ∧
        mirror.change = third.change := by
  intro operations ledger third fourth
  obtain ⟨-, running, -, mirrored⟩ := journal_replays none operations
  have entered : ledger.journal[2]? = some third := by decide
  have next : ledger.journal[3]? = some fourth := by decide
  have isAccount : third.scope ≠ protocolScope := by decide
  exact ⟨entered, isAccount, next, running 3 fourth next, mirrored 2 third entered isAccount⟩

end Ledger

end DepositYield
