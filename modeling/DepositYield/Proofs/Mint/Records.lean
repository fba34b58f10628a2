import DepositYield.Mint.Record
import DepositYield.Proofs.Mint.Bounds

/-!
# Records and a mapping of the same mints

A mapping keeps its amounts as they are.  Of records, each amount is added to what its period
has so far, in the ambient precision: so an amount is rounded even if it is the only one of its
period.  Hence the records of some mints make the same history as a mapping of them exactly if
the ambient context holds every amount with all its digits.
-/

namespace DepositYield

open Decimal

namespace MintHistory

variable {history : MintHistory} {entries others : List (Int × Decimal)} {entry : Int × Decimal}
  {period : Int}

/-! ## Mappings -/

/-- The history with one value after the other replaced. -/
def setAll (history : MintHistory) (entries : List (Int × Decimal)) : MintHistory :=
  entries.foldl (fun history entry => history.set entry.1 entry.2) history

theorem ofMapping_eq_setAll (entries : List (Int × Decimal)) :
    ofMapping entries = empty.setAll entries :=
  rfl

@[simp]
theorem setAll_cons (history : MintHistory) (entry : Int × Decimal)
    (entries : List (Int × Decimal)) :
    history.setAll (entry :: entries) = (history.set entry.1 entry.2).setAll entries :=
  rfl

theorem minted_empty (period : Int) : empty.minted period = zero :=
  rfl

theorem minted_setAll_of_absent (absent : period ∉ entries.map Prod.fst) :
    (history.setAll entries).minted period = history.minted period := by
  induction entries generalizing history with
  | nil => rfl
  | cons entry entries ih =>
      rw [List.map_cons, List.mem_cons, not_or] at absent
      rw [setAll_cons, ih absent.2, minted_set, if_neg (Ne.symm absent.1)]

/-- Where no period comes twice, no value is replaced again. -/
theorem minted_setAll_of_mem (distinct : (entries.map Prod.fst).Nodup) (inside : entry ∈ entries) :
    (history.setAll entries).minted entry.1 = entry.2 := by
  induction entries generalizing history with
  | nil => contradiction
  | cons first rest ih =>
      obtain ⟨absent, restDistinct⟩ := List.nodup_cons.mp distinct
      rw [setAll_cons]
      rcases List.mem_cons.mp inside with rfl | later
      · rw [minted_setAll_of_absent absent, minted_set, if_pos rfl]
      · exact ih restDistinct later

theorem mem_periods_setAll :
    period ∈ (history.setAll entries).periods ↔
      period ∈ history.periods ∨ period ∈ entries.map Prod.fst := by
  induction entries generalizing history with
  | nil => simp [setAll]
  | cons entry entries ih =>
      have inserted : period ∈ (history.set entry.1 entry.2).periods ↔
          entry.1 = period ∨ period ∈ history.periods := by
        simp [periods, set, Std.TreeMap.mem_insert]
      rw [setAll_cons, ih, inserted, List.map_cons, List.mem_cons]
      tauto

/-- Periods are listed in ascending order. -/
theorem pairwise_periods (history : MintHistory) :
    history.periods.Pairwise (· < ·) :=
  Std.TreeMap.ordered_keys.imp fun ascends => compare_lt_iff_lt.mp ascends

/-- The periods of a mapping depend on the periods of its entries only. -/
theorem periods_ofMapping_eq (same : entries.map Prod.fst = others.map Prod.fst) :
    (ofMapping entries).periods = (ofMapping others).periods := by
  have nodup (history : MintHistory) : history.periods.Nodup :=
    (pairwise_periods history).imp ne_of_lt
  refine List.Perm.eq_of_pairwise (fun _ _ _ _ less more => absurd less more.asymm)
    (pairwise_periods _) (pairwise_periods _) ?_
  refine (List.perm_ext_iff_of_nodup (nodup _) (nodup _)).mpr ?_
  intro period
  rw [ofMapping_eq_setAll, ofMapping_eq_setAll, mem_periods_setAll, mem_periods_setAll, same]

/-! ## Records -/

/-- The record is of the mint: it names its period and has the numeral of its amount. -/
structure RawRecord.IsOf (record : RawRecord) (entry : Int × Decimal) : Prop where
  period : periodOf record.period = .ok entry.1
  amount : ∃ text, record.amount = .text text ∧ Decimal.ofText text = .ok entry.2

/-- The second mint is the first one in the ambient precision. -/
structure IsRounding (entry rounded : Int × Decimal) : Prop where
  period : rounded.1 = entry.1
  finite : rounded.2.isFinite
  value : Context.ambient.result entry.2.toRat = .ok rounded.2.toRat

/-- The first record of a period rounds its amount, or the amount is too large. -/
theorem readRecord_settles {record : RawRecord} (isOf : record.IsOf entry)
    (finite : entry.2.isFinite) (absent : history.minted entry.1 = zero) :
    Settles
      (fun failure => failure = .signal .overflow ∧
        Context.ambient.result entry.2.toRat = .error .overflow)
      (fun next => ∃ rounded, IsRounding entry rounded ∧ next = history.set rounded.1 rounded.2)
      (readRecord history record) := by
  obtain ⟨text, isText, read⟩ := isOf.amount
  have calculates : Context.ambient.Calculates (Context.ambient.add zero entry.2)
      (zero.toRat + entry.2.toRat) :=
    Context.add_calculates (by decide) isFinite_zero finite
  rw [toRat_zero, zero_add] at calculates
  have value := calculates.value
  have reads : readRecord history record =
      (history.accumulate entry.1 entry.2).mapError .signal := by
    unfold readRecord
    rw [isOf.period, isText, writtenDecimal, read]
    rfl
  rw [reads, accumulate, absent]
  cases added : Context.ambient.add zero entry.2 with
  | ok amount =>
      rw [added] at value
      exact ⟨(entry.1, amount), ⟨rfl, calculates.finite amount added, value.symm⟩, rfl⟩
  | error signal =>
      rw [added] at value
      obtain rfl : signal = .overflow := by
        unfold Context.result at value
        split at value
        · exact Except.error.inj value
        · contradiction
      exact ⟨rfl, value.symm⟩

/-- Records of mints in new periods put in the rounded mints, or some amount is too large. -/
theorem foldlM_readRecord_settles {records : List RawRecord}
    (areOf : List.Forall₂ RawRecord.IsOf records entries)
    (distinct : (entries.map Prod.fst).Nodup) (finite : ∀ entry ∈ entries, entry.2.isFinite)
    (absent : ∀ entry ∈ entries, history.minted entry.1 = zero) :
    Settles
      (fun failure => failure = .signal .overflow ∧
        ∃ entry ∈ entries, Context.ambient.result entry.2.toRat = .error .overflow)
      (fun next => ∃ rounded, List.Forall₂ IsRounding entries rounded ∧
        next = history.setAll rounded)
      (records.foldlM readRecord history) := by
  induction areOf generalizing history with
  | nil => exact ⟨[], .nil, rfl⟩
  | @cons record entry _ entries isOf _ ih =>
      obtain ⟨new, restDistinct⟩ := List.nodup_cons.mp distinct
      rw [List.foldlM_cons]
      have first := readRecord_settles isOf (finite entry (.head _)) (absent entry (.head _))
      apply (first.allow _).bind
      · rintro _ ⟨rounded, isRounding, rfl⟩
        have stillAbsent : ∀ later ∈ entries,
            (history.set rounded.1 rounded.2).minted later.1 = zero := by
          intro later inside
          have other : rounded.1 ≠ later.1 := by
            rw [isRounding.period]
            exact fun same => new (same ▸ List.mem_map_of_mem inside)
          rw [minted_set, if_neg other]
          exact absent later (.tail _ inside)
        apply ((ih restDistinct (fun later inside => finite later (.tail _ inside))
          stillAbsent).mono _).allow
        · rintro failure ⟨overflows, later, inside, large⟩
          exact ⟨overflows, later, .tail _ inside, large⟩
        · rintro _ ⟨rest, areRoundings, rfl⟩
          exact ⟨rounded :: rest, .cons isRounding areRoundings, rfl⟩
      · rintro failure ⟨overflows, large⟩
        exact ⟨overflows, entry, .head _, large⟩

/-! ## Kept digits -/

/-- An amount that the ambient context holds is rounded to itself, and no other amount is. -/
theorem result_eq_self_iff {amount : Decimal} (finite : amount.isFinite) :
    Context.ambient.result amount.toRat = .ok amount.toRat ↔ amount.IsHeld .ambient := by
  unfold Context.result
  constructor
  · intro same
    split at same
    · contradiction
    · next within =>
        have value := Except.ok.inj same
        exact ⟨finite, value ▸ Context.representable_rounded (by decide) _,
          value ▸ not_le.mp within⟩
  · intro held
    rw [held.representable.rounded_eq, if_neg (not_le.mpr held.small)]

theorem IsRounding.compare?_eq_iff {rounded : Int × Decimal} (isRounding : IsRounding entry rounded)
    (finite : entry.2.isFinite) :
    compare? rounded.2 entry.2 = some .eq ↔ entry.2.IsHeld .ambient := by
  rw [compare?_eq_compare isRounding.finite finite, Option.some_inj, compare_eq_iff_eq,
    ← result_eq_self_iff finite, isRounding.value, Except.ok.injEq]

/-- The history holds the mints in the ambient precision and no others. -/
structure HoldsRounded (entries : List (Int × Decimal)) (history : MintHistory) : Prop where
  periods : history.periods = (ofMapping entries).periods
  mints : ∀ entry ∈ entries, IsRounding entry (entry.1, history.minted entry.1)
  others : ∀ period, period ∉ entries.map Prod.fst → history.minted period = zero

theorem map_fst_of_areRoundings {rounded : List (Int × Decimal)}
    (areRoundings : List.Forall₂ IsRounding entries rounded) :
    rounded.map Prod.fst = entries.map Prod.fst := by
  induction areRoundings with
  | nil => rfl
  | cons isRounding _ ih => rw [List.map_cons, List.map_cons, isRounding.period, ih]

theorem holdsRounded_ofMapping {rounded : List (Int × Decimal)}
    (areRoundings : List.Forall₂ IsRounding entries rounded)
    (distinct : (entries.map Prod.fst).Nodup) : HoldsRounded entries (ofMapping rounded) where
  periods := periods_ofMapping_eq (map_fst_of_areRoundings areRoundings)
  mints := by
    intro entry inside
    obtain ⟨rounding, insideRounded, isRounding⟩ := exists_mem_of_forall₂ areRoundings inside
    have minted : (ofMapping rounded).minted rounding.1 = rounding.2 :=
      minted_setAll_of_mem (map_fst_of_areRoundings areRoundings ▸ distinct) insideRounded
    rw [← isRounding.period, minted]
    exact isRounding
  others := by
    intro period absent
    rw [ofMapping_eq_setAll, minted_setAll_of_absent
      (map_fst_of_areRoundings areRoundings ▸ absent), minted_empty]

/-- Records of mints in distinct periods make the history of the rounded mints, or some amount is
too large. -/
theorem readRecords_settles {records : List RawRecord}
    (areOf : List.Forall₂ RawRecord.IsOf records entries)
    (distinct : (entries.map Prod.fst).Nodup) (finite : ∀ entry ∈ entries, entry.2.isFinite) :
    Settles
      (fun failure => failure = .signal .overflow ∧
        ∃ entry ∈ entries, Context.ambient.result entry.2.toRat = .error .overflow)
      (HoldsRounded entries) (readRecords records) := by
  apply (foldlM_readRecord_settles areOf distinct finite fun entry _ => minted_empty entry.1).mono
  rintro _ ⟨rounded, areRoundings, rfl⟩
  exact holdsRounded_ofMapping areRoundings distinct

/-- A history of rounded mints compares equal to the mapping of the mints, if the ambient context
holds them. -/
theorem HoldsRounded.compare?_ofMapping (holds : HoldsRounded entries history)
    (distinct : (entries.map Prod.fst).Nodup) (held : ∀ entry ∈ entries, entry.2.IsHeld .ambient)
    (period : Int) :
    compare? (history.minted period) ((ofMapping entries).minted period) = some .eq := by
  by_cases present : period ∈ entries.map Prod.fst
  · obtain ⟨entry, inside, rfl⟩ := List.mem_map.mp present
    have minted : (ofMapping entries).minted entry.1 = entry.2 :=
      minted_setAll_of_mem distinct inside
    rw [minted]
    exact ((holds.mints entry inside).compare?_eq_iff (held entry inside).finite).mpr
      (held entry inside)
  · rw [holds.others period present, ofMapping_eq_setAll, minted_setAll_of_absent present,
      minted_empty]
    rfl

/-- A mapping keeps every amount as it is.  Records of the same mints, each in a period of its own,
make a history with the same periods, in which every amount is rounded to the ambient precision:
so it compares equal to the amount exactly if the ambient context holds the amount.  They fail if
the rounding of some amount overflows, and for nothing else.  Hence the records make the same
history as the mapping exactly if the ambient context holds all amounts. -/
theorem readRecords_eq_ofMapping_iff {records : List RawRecord}
    (areOf : List.Forall₂ RawRecord.IsOf records entries)
    (distinct : (entries.map Prod.fst).Nodup) (finite : ∀ entry ∈ entries, entry.2.isFinite) :
    (∀ entry ∈ entries, (ofMapping entries).minted entry.1 = entry.2) ∧
    Settles
      (fun failure => failure = .signal .overflow ∧
        ∃ entry ∈ entries, Context.ambient.result entry.2.toRat = .error .overflow)
      (fun history => HoldsRounded entries history ∧
        ∀ entry ∈ entries,
          (compare? (history.minted entry.1) entry.2 = some .eq ↔ entry.2.IsHeld .ambient))
      (readRecords records) ∧
    ((∃ history, readRecords records = .ok history ∧
        history.periods = (ofMapping entries).periods ∧
        ∀ period, compare? (history.minted period) ((ofMapping entries).minted period) =
          some .eq) ↔
      ∀ entry ∈ entries, entry.2.IsHeld .ambient) := by
  have kept : ∀ entry ∈ entries, (ofMapping entries).minted entry.1 = entry.2 :=
    fun entry inside => minted_setAll_of_mem distinct inside
  have settles := readRecords_settles areOf distinct finite
  have each : ∀ history, HoldsRounded entries history → ∀ entry ∈ entries,
      (compare? (history.minted entry.1) entry.2 = some .eq ↔ entry.2.IsHeld .ambient) :=
    fun history holds entry inside =>
      (holds.mints entry inside).compare?_eq_iff (finite entry inside)
  refine ⟨kept, settles.mono fun history holds => ⟨holds, each history holds⟩, ?_⟩
  constructor
  · rintro ⟨history, read, -, same⟩ entry inside
    apply (each history (settles.good_of_ok read) entry inside).mp
    rw [← kept entry inside]
    exact same entry.1
  · intro held
    cases read : readRecords records with
    | ok history =>
        have holds := settles.good_of_ok read
        exact ⟨history, rfl, holds.periods, holds.compare?_ofMapping distinct held⟩
    | error failure =>
        obtain ⟨-, entry, inside, overflows⟩ := settles.stops_of_error read
        rw [(result_eq_self_iff (finite entry inside)).mpr (held entry inside)] at overflows
        contradiction

/-- Amounts of 28 digits are read as they are, wherever their point is. -/
theorem longestAmounts_read_as_mapping :
    ∃ history,
      readRecords [⟨.int 7000, .text "0.01234567890123456789012345678"⟩,
        ⟨.text "-1", .text "-9999999999999999999999999999E+20"⟩] = .ok history ∧
      history.periods = [-1, 7000] ∧
      compare? (history.minted 7000) (.finite false 1234567890123456789012345678 (-29)) =
        some .eq := by
  have areOf : List.Forall₂ RawRecord.IsOf
      [⟨.int 7000, .text "0.01234567890123456789012345678"⟩,
        ⟨.text "-1", .text "-9999999999999999999999999999E+20"⟩]
      [(7000, .finite false 1234567890123456789012345678 (-29)),
        (-1, .finite true 9999999999999999999999999999 20)] :=
    .cons ⟨rfl, _, rfl, by decide +kernel⟩
      (.cons ⟨by decide +kernel, _, rfl, by decide +kernel⟩ .nil)
  obtain ⟨history, read, periods, same⟩ :=
    (readRecords_eq_ofMapping_iff areOf (by decide) (by decide)).2.2.mpr (by
      intro entry inside
      rcases List.mem_pair.mp inside with rfl | rfl
      · exact isHeld_finite false (by decide) (by decide) (by decide +kernel)
      · exact isHeld_finite true (by decide) (by decide) (by decide +kernel))
  refine ⟨history, read, ?_, same 7000⟩
  rw [periods]
  decide +kernel

/-- One digit more is lost, though the mint is the only one of its period. -/
theorem lastDigit_lost_by_readRecords :
    (readRecords [⟨.int 7000, .text "1.0000000000000000000000000001"⟩]).map
        (fun history => compare? (history.minted 7000)
          (.finite false 10000000000000000000000000001 (-28))) = .ok (some .lt) ∧
      Decimal.ofText "1.0000000000000000000000000001" =
        .ok (.finite false 10000000000000000000000000001 (-28)) := by
  constructor
  · decide +kernel
  · decide +kernel

end MintHistory

end DepositYield
