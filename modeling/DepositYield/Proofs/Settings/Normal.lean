import DepositYield.Proofs.Settings.Drift
import DepositYield.Proofs.Settings.Reading
import DepositYield.Proofs.Text.Case
import DepositYield.Settings.Writer

/-!
# Settings in normal form

Reading puts settings into a normal form: the windows ascend and the address of the bean is
in lower case.  Settings in normal form are read back from the document that they are
written as, so they are exactly the settings that are ever read.
-/

namespace DepositYield

/-- Settings as they are read: valid, with a drift that has a numeral, and with the address
of the bean in lower case. -/
structure Settings.Normal (settings : Settings) : Prop where
  valid : settings.Valid
  driftInRange : settings.gauge.ratioDrift.InRange
  reference : Text.lowerCase settings.reference = settings.reference

namespace Settings

/-! ## Reading gives normal forms -/

theorem driftOf_eq_ok_iff {location : List Step} {value : Document} {drift : Decimal} :
    driftOf location value = .ok (.ok drift) ↔
      decimalOf value = .ok drift ∧ driftInRange drift = .ok true := by
  unfold driftOf
  cases read : decimalOf value with
  | error kind => simp [Checked.issue, Pure.pure, Except.pure]
  | ok decimal =>
      dsimp only
      rw [bind_eq_ok_iff]
      constructor
      · rintro ⟨inRange, ranged, given⟩
        cases inRange with
        | false => simp [Checked.issue, Pure.pure, Except.pure] at given
        | true =>
            obtain rfl : decimal = drift := Except.ok.inj (Except.ok.inj given)
            exact ⟨rfl, ranged⟩
      · rintro ⟨same, ranged⟩
        obtain rfl := Except.ok.inj same
        exact ⟨true, ranged, rfl⟩

theorem inRange_of_readDrift {fields : List (String × Document)} {drift : Decimal}
    (read : readDrift fields = .ok (.ok drift)) : drift.InRange := by
  unfold readDrift at read
  split at read
  · obtain rfl := Except.ok.inj (Except.ok.inj read)
    decide +kernel
  · obtain ⟨decimalRead, ranged⟩ := driftOf_eq_ok_iff.mp read
    exact inRange_of_decimalOf decimalRead ranged

/-- All settings that are read from a document are in normal form. -/
theorem normal_of_ofDocument {document : Document} {settings : Settings}
    (read : ofDocument document = .ok settings) : settings.Normal := by
  have valid := valid_of_ofDocument read
  unfold ofDocument at read
  split at read
  · obtain ⟨-, -, gaugeRead, -, referenceRead, -⟩ := ofFields_eq_ok_iff.mp read
    obtain ⟨fields, -, -, -, driftRead, -, -⟩ := readGauge_eq_ok_iff.mp gaugeRead
    obtain ⟨_, _, text, -, -, -, -, lowered⟩ := readReference_eq_ok_iff.mp referenceRead
    refine ⟨valid, inRange_of_readDrift driftRead, ?_⟩
    rw [← lowered, Text.lowerCase_lowerCase]
  · contradiction
  · contradiction

/-! ## Written values are read back -/

theorem boundedInteger_int {bound : Bound} {whole : Int} (kept : bound.violation? whole = none)
    (location : List Step) : boundedInteger bound location (.int whole) = .ok whole := by
  have read : integerOf (.int whole) = .ok whole := rfl
  unfold boundedInteger
  rw [read]
  simp only [kept]

theorem atLeast_int {minimum whole : Int} (kept : minimum ≤ whole) (location : List Step) :
    boundedInteger (.atLeast minimum) location (.int whole) = .ok whole :=
  boundedInteger_int (by simpa [Bound.violation?] using kept) location

theorem above_int {limit whole : Int} (kept : limit < whole) (location : List Step) :
    boundedInteger (.above limit) location (.int whole) = .ok whole :=
  boundedInteger_int (by simpa [Bound.violation?] using kept) location

theorem between_int {minimum maximum whole : Int} (kept : minimum ≤ whole ∧ whole ≤ maximum)
    (location : List Step) :
    boundedInteger (.between minimum maximum) location (.int whole) = .ok whole := by
  refine boundedInteger_int ?_ location
  simp [Bound.violation?, Int.not_lt.mpr kept.1, kept.2]

theorem windowsOf_list {windows : List Int} (valid : WindowsValid windows)
    (location : List Step) : windowsOf location (.list (windows.map .int)) = .ok windows := by
  refine windowsOf_eq_ok_iff.mpr ⟨_, windows, rfl, ?_, .refl windows, valid⟩
  rw [List.forall₂_map_left_iff, List.forall₂_same]
  intro window _
  rfl

theorem driftOf_text {drift : Decimal} (finite : drift.isFinite) (inRange : drift.InRange)
    (ranged : driftInRange drift = .ok true) (location : List Step) :
    driftOf location (.text drift.toText) = .ok (.ok drift) := by
  refine driftOf_eq_ok_iff.mpr ⟨?_, ranged⟩
  have read : (Decimal.ofText drift.toText).mapError (fun _ => IssueKind.unreadableDecimal) =
      .ok drift := by
    rw [Decimal.ofText_toText inRange]
    rfl
  exact bind_eq_ok_iff.mpr ⟨drift, read, if_pos finite⟩

theorem ruleOf_text {rule : String} (selects : rule ∈ ruleSelectors) (location : List Step) :
    ruleOf location (.text rule) = .ok rule := by
  simp only [ruleSelectors, List.mem_cons, List.not_mem_nil, or_false] at selects
  rcases selects with rfl | rfl <;> rfl

/-- Settings in normal form are read back from the document that they are written as. -/
theorem ofDocument_toDocument {settings : Settings} (normal : settings.Normal) :
    ofDocument settings.toDocument = .ok settings := by
  obtain ⟨⟨rates, simulation, gauge, fertilizer, activation⟩, drift, reference⟩ := normal
  refine ofFields_eq_ok_iff.mpr ⟨?_, ?_, ?_, ?_, ?_, activation⟩
  · exact readRates_eq_ok_iff.mpr ⟨_, rfl, atLeast_int rates.originPeriod _,
      windowsOf_list rates.windows _⟩
  · exact readSimulation_eq_ok_iff.mpr ⟨_, rfl, above_int simulation.horizon _,
      between_int simulation.decimalPrecision _, above_int simulation.seedPrecision _⟩
  · exact readGauge_eq_ok_iff.mpr ⟨_, rfl, atLeast_int gauge.activationPeriod _,
      above_int gauge.catchUpRate _,
      driftOf_text gauge.ratioDriftFinite drift gauge.ratioDriftInRange _,
      above_int gauge.ratioPrecision _, ruleOf_text gauge.pointRule _⟩
  · exact readFertilizer_eq_ok_iff.mpr ⟨_, rfl, atLeast_int fertilizer.defaultHumidity _,
      above_int fertilizer.humidityPrecision _⟩
  · exact readReference_eq_ok_iff.mpr ⟨_, _, _, rfl, rfl, rfl, rfl, reference⟩

theorem exists_ofDocument_iff {settings : Settings} :
    (∃ document, ofDocument document = .ok settings) ↔ settings.Normal :=
  ⟨fun ⟨_, read⟩ => normal_of_ofDocument read,
    fun normal => ⟨settings.toDocument, ofDocument_toDocument normal⟩⟩

end Settings

end DepositYield
