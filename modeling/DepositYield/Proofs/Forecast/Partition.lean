import DepositYield.Forecast.Scenario
import DepositYield.Proofs.Ledger.Standing

/-!
# The assets of a simulation

Every token of the protocol is the bean, a gauge token or neither.  The deposited and
the germinating value that is neither of the bean nor of a gauge token is what all other
tokens have together, so nothing is lost or counted twice, and no deposited value is
below zero.  Gauge tokens are numbered in the order in which they are simulated.
-/

namespace DepositYield

theorem Amounts.depositedValue_sumOver {Key : Type} (table : Table Key Amounts)
    (weight : Key → Amounts → Amounts) :
    (table.sumOver weight).depositedValue =
      table.sumOver fun key amounts => (weight key amounts).depositedValue := by
  unfold Table.sumOver
  induction table.entries with
  | nil => rfl
  | cons entry rest ih =>
      rw [List.map_cons, List.sum_cons, add_depositedValue, ih, List.map_cons, List.sum_cons]

namespace Forecast

variable {settings : Settings} {snapshot : Snapshot} {tokens : List Token}

/-! ## Tokens -/

theorem mem_gaugeTokens {token : Token} :
    token ∈ gaugeTokens settings snapshot tokens ↔
      token ∈ tokens ∧ token ≠ settings.reference ∧ (snapshot.setting token).isGauge := by
  simp [gaugeTokens]

theorem nodup_gaugeTokens (distinct : tokens.Nodup) :
    (gaugeTokens settings snapshot tokens).Nodup :=
  distinct.filter _

theorem nodup_reference_gaugeTokens (distinct : tokens.Nodup) :
    (settings.reference :: gaugeTokens settings snapshot tokens).Nodup := by
  refine List.nodup_cons.mpr ⟨?_, nodup_gaugeTokens distinct⟩
  intro inside
  exact (mem_gaugeTokens.mp inside).2.1 rfl

/-! ## Deposited value -/

/-- The deposited value of the protocol in the selected tokens. -/
def valueWhere (snapshot : Snapshot) (selected : Token → Prop) [DecidablePred selected] : Int :=
  snapshot.balances.sumOver fun pair amounts =>
    if pair.1 = protocolScope ∧ selected pair.2 then amounts.depositedValue else 0

theorem totals_eq_valueWhere (snapshot : Snapshot) :
    (snapshot.totals protocolScope).depositedValue = valueWhere snapshot fun _ => True := by
  change (Ledger.scopeAmounts snapshot.balances protocolScope).depositedValue = _
  rw [Ledger.scopeAmounts_eq, Amounts.depositedValue_sumOver]
  unfold valueWhere
  congr 1
  funext pair amounts
  by_cases isProtocol : pair.1 = protocolScope
  · simp [isProtocol]
  · simp only [isProtocol, false_and, if_false]
    rfl

/-- Different tokens have together what the protocol has in them. -/
theorem sum_depositedValue (snapshot : Snapshot) {selected : List Token}
    (distinct : selected.Nodup) :
    (selected.map (depositedValue snapshot)).sum =
      valueWhere snapshot fun token => token ∈ selected := by
  have pairs : (selected.map fun token => (protocolScope, token)).Nodup :=
    distinct.map fun _ _ same => (Prod.mk.inj same).2
  have sum := snapshot.balances.sum_getD (fun _ => Amounts.depositedValue) 0 (fun _ => rfl) pairs
  rw [List.map_map] at sum
  refine sum.trans ?_
  unfold valueWhere
  congr 1
  funext pair amounts
  simp [Prod.ext_iff, eq_comm, and_comm]

/-- What is selected and what is not make up the whole. -/
theorem valueWhere_add_not (snapshot : Snapshot) (selected : Token → Prop)
    [DecidablePred selected] :
    valueWhere snapshot selected + valueWhere snapshot (fun token => ¬selected token) =
      valueWhere snapshot fun _ => True := by
  unfold valueWhere
  rw [← Table.sumOver_add]
  congr 1
  funext pair amounts
  by_cases chosen : selected pair.2 <;> simp [chosen]

theorem valueWhere_nonneg
    (solvent : ∀ pair amounts, snapshot.balances.get? pair = some amounts →
      0 ≤ amounts.depositedValue) (selected : Token → Prop) [DecidablePred selected] :
    0 ≤ valueWhere snapshot selected := by
  refine Table.sumOver_induction (show (fun total : Int => 0 ≤ total) 0 from Int.le_refl 0)
    (fun _ _ => Int.add_nonneg) ?_
  intro pair amounts held
  split
  · exact solvent pair amounts held
  · exact Int.le_refl 0

theorem foldl_add_eq_sum (weight : Token → Int) (selected : List Token) :
    selected.foldl (fun total token => total + weight token) 0 = (selected.map weight).sum := by
  rw [List.sum_eq_foldl, List.foldl_map]

/-- The other value is what the protocol has in all tokens that are neither the bean nor
gauge tokens. -/
theorem otherValue_eq_valueWhere {gauges : List Token}
    (distinct : (settings.reference :: gauges).Nodup) :
    otherValue settings snapshot gauges =
      valueWhere snapshot fun token => token ∉ settings.reference :: gauges := by
  have listed := sum_depositedValue snapshot distinct
  have whole := valueWhere_add_not snapshot fun token => token ∈ settings.reference :: gauges
  rw [List.map_cons, List.sum_cons] at listed
  unfold otherValue
  rw [foldl_add_eq_sum, totals_eq_valueWhere, ← whole, ← listed]
  omega

/-! ## Germinating value -/

/-- The other germinating value is that of all tokens that are neither the bean nor gauge
tokens. -/
theorem otherGermination_eq (settings : Settings) (snapshot : Snapshot) (gauges : List Token) :
    otherGermination settings snapshot gauges =
      { even := snapshot.germinating.sumOver fun token germination =>
          if token ∈ settings.reference :: gauges then 0 else germination.even
        odd := snapshot.germinating.sumOver fun token germination =>
          if token ∈ settings.reference :: gauges then 0 else germination.odd } := by
  have general : ∀ (entries : List (Token × Germination)) (start : Germination),
      entries.foldl
          (fun total entry =>
            if entry.1 = settings.reference ∨ entry.1 ∈ gauges then total
            else { even := total.even + entry.2.even, odd := total.odd + entry.2.odd })
          start =
        { even := start.even + (entries.map fun entry =>
            if entry.1 ∈ settings.reference :: gauges then 0 else entry.2.even).sum
          odd := start.odd + (entries.map fun entry =>
            if entry.1 ∈ settings.reference :: gauges then 0 else entry.2.odd).sum } := by
    intro entries
    induction entries with
    | nil => simp
    | cons entry rest ih =>
        intro start
        rw [List.foldl_cons, ih]
        by_cases listed : entry.1 = settings.reference ∨ entry.1 ∈ gauges
        · simp [listed]
        · simp [listed, add_assoc]
  exact (general snapshot.germinating.entries .none).trans
    (by simp [Germination.none, Table.sumOver])

/-- The germinating value of the bean, of the gauge tokens and of the others is that of
all tokens, for either part of it. -/
theorem sum_germination (part : Germination → Int) (nothing : part .none = 0)
    {gauges : List Token} (distinct : (settings.reference :: gauges).Nodup) :
    part (snapshot.germination settings.reference) +
        (gauges.map fun token => part (snapshot.germination token)).sum +
        (snapshot.germinating.sumOver fun token germination =>
          if token ∈ settings.reference :: gauges then 0 else part germination) =
      snapshot.germinating.sumOver fun _ germination => part germination := by
  have listed := snapshot.germinating.sum_getD (fun _ => part) .none (fun _ => nothing) distinct
  rw [List.map_cons, List.sum_cons] at listed
  refine (congrArg (· + _) listed).trans ?_
  rw [← Table.sumOver_add]
  congr 1
  funext token germination
  split <;> simp

/-! ## Positions -/

/-- The position of a token in a list without repetitions. -/
theorem gaugePosition?_eq {gauges : List Token} (distinct : gauges.Nodup) {position : Nat}
    {token : Token} (held : gauges[position]? = some token) :
    gaugePosition? gauges token = some position := by
  obtain ⟨inside, rfl⟩ := List.getElem?_eq_some_iff.mp held
  -- positions are looked up from the end
  have within : gauges.length - 1 - position < gauges.reverse.length := by
    rw [List.length_reverse]
    omega
  have mirrored : gauges[position] = gauges.reverse[gauges.length - 1 - position] := by
    rw [List.getElem_reverse]
    congr 1
    omega
  have found := (List.nodup_reverse.mpr distinct).idxOf_getElem
    (gauges.length - 1 - position) within
  unfold gaugePosition?
  rw [if_pos (List.getElem_mem inside), mirrored, found]
  congr 1
  omega

theorem position_lt_of_gaugePosition? {gauges : List Token} {token : Token} {position : Nat}
    (found : gaugePosition? gauges token = some position) : position < gauges.length := by
  unfold gaugePosition? at found
  split at found
  · next inside =>
      have positive := List.length_pos_of_mem inside
      have same := Option.some.inj found
      omega
  · contradiction

/-- A gauge token comes after as many gauge tokens as stand before it among the tokens. -/
theorem getElem?_gaugeTokens {position : Nat} {token : Token}
    (held : tokens[position]? = some token) (other : token ≠ settings.reference)
    (isGauge : (snapshot.setting token).isGauge) :
    (gaugeTokens settings snapshot tokens)[
        (gaugeTokens settings snapshot (tokens.take position)).length]? = some token := by
  obtain ⟨inside, rfl⟩ := List.getElem?_eq_some_iff.mp held
  have apart : gaugeTokens settings snapshot tokens =
      gaugeTokens settings snapshot (tokens.take position) ++
        tokens[position] :: gaugeTokens settings snapshot (tokens.drop (position + 1)) := by
    unfold gaugeTokens
    have kept := List.filter_cons_of_pos (l := tokens.drop (position + 1))
      (p := fun token => decide (token ≠ settings.reference) && (snapshot.setting token).isGauge)
      (a := tokens[position]) (by simp [other, isGauge])
    rw [← kept, ← List.drop_eq_getElem_cons inside, ← List.filter_append,
      List.take_append_drop]
  rw [apart, List.getElem?_append_right (Nat.le_refl _), Nat.sub_self]
  rfl

end Forecast

end DepositYield
