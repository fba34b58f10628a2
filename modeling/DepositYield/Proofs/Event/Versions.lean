import DepositYield.Proofs.Event.Calls

/-!
# Versions of deposit records

A record has the version of the moment in which it is created, by a deposit or by a
withdrawal, and keeps it.  Only the creation of a record looks at the period, and the period
never moves back.  So the records of the older kind of stems stand before those of the newer
kind, over all accounts and tokens.
-/

namespace DepositYield

namespace Ledger

/-- The deposits and the versions of their records, in the order of their creation. -/
def depositVersions (ledger : Ledger) : List (DepositId × DepositVersion) :=
  ledger.deposits.entries.map fun entry => (entry.1, entry.2.version)

variable {ledger : Ledger} {id : DepositId}

theorem mem_depositVersions_iff {version : DepositVersion} :
    (id, version) ∈ ledger.depositVersions ↔
      ∃ held, ledger.deposits.get? id = some held ∧ held.version = version := by
  simp only [depositVersions, List.mem_map, Prod.mk.injEq, Table.get?_eq_some_iff]
  constructor
  · rintro ⟨⟨_, held⟩, inside, rfl, same⟩
    exact ⟨held, inside, same⟩
  · rintro ⟨held, inside, same⟩
    exact ⟨(id, held), inside, rfl, same⟩

/-- Records of the season era are those under keys of the season era. -/
theorem versionOf_eq_season_iff (ledger : Ledger) (key : DepositKey) :
    ledger.versionOf key = .season ↔ key.scheme = .season := by
  cases key with
  | season number => simp [versionOf, DepositKey.scheme]
  | stem height =>
      simp only [versionOf, DepositKey.scheme]
      split
      · split <;> simp
      · simp

/-- The newer kind of stems begins with its first period. -/
theorem versionOf_eq_v31 {key : DepositKey} (newer : ledger.versionOf key = .v31) :
    ∃ first, ledger.v31Period = some first ∧ first ≤ ledger.period := by
  cases key with
  | season number => contradiction
  | stem height =>
      simp only [versionOf] at newer
      split at newer
      · next first begins =>
          split at newer
          · next reached => exact ⟨first, begins, reached⟩
          · contradiction
      · contradiction

/-- The older kind of stems ends with the first period of the newer one. -/
theorem versionOf_eq_v3 {key : DepositKey} (older : ledger.versionOf key = .v3) {first : Int}
    (begins : ledger.v31Period = some first) : ledger.period < first := by
  cases key with
  | season number => contradiction
  | stem height =>
      simp only [versionOf, begins] at older
      split at older
      · contradiction
      · next before => exact Int.not_le.mp before

theorem version_depositAt (ledger : Ledger) (id : DepositId) (createdAt : Int) :
    (ledger.depositAt id createdAt).version =
      ((ledger.deposits.get? id).map Deposit.version).getD (ledger.versionOf id.key) := by
  unfold depositAt Table.getD
  cases ledger.deposits.get? id with
  | none => rfl
  | some held => rfl

end Ledger

namespace Operation

variable {ledger : Ledger}

/-- What is written has the version of the record that was there, or that of a new one. -/
theorem version_of_written? {operation : Operation} {id : DepositId} {deposit : Deposit}
    (written : operation.written? ledger = some (id, deposit)) :
    deposit.version =
      ((ledger.deposits.get? id).map Deposit.version).getD (ledger.versionOf id.key) := by
  cases operation with
  | putDeposit own amount value timestamp =>
      obtain ⟨rfl, rfl⟩ := Prod.mk.inj (Option.some.inj written)
      exact ledger.version_depositAt own timestamp
  | takeDeposit own amount value timestamp =>
      obtain ⟨rfl, rfl⟩ := Prod.mk.inj (Option.some.inj written)
      exact ledger.version_depositAt own 0
  | _ => contradiction

/-- An operation leaves all versions as they are, or adds a record of a new deposit with the
version of the moment. -/
theorem depositVersions_perform (operation : Operation) (ledger : Ledger) :
    (operation.perform ledger).ledger.depositVersions = ledger.depositVersions ∨
      ∃ id, (operation.perform ledger).ledger.depositVersions =
        ledger.depositVersions ++ [(id, ledger.versionOf id.key)] := by
  cases admission : operation.admission ledger with
  | error failure =>
      left
      rw [perform_of_rejected admission]
  | ok _ =>
      unfold Ledger.depositVersions
      rw [deposits_perform admission, deposits_recorded]
      cases written : operation.written? ledger with
      | none => exact .inl rfl
      | some entry =>
          obtain ⟨id, deposit⟩ := entry
          have version := version_of_written? written
          cases held : ledger.deposits.get? id with
          | some record =>
              rw [held] at version
              exact .inl (Table.map_entries_set_of_same held (congrArg _ version))
          | none =>
              rw [held] at version
              refine .inr ⟨id, ?_⟩
              rw [Table.entries_set_of_absent held, List.map_append, List.map_singleton, version]
              rfl

/-- The first period of the newer kind of stems is fixed. -/
theorem v31Period_perform (operation : Operation) (ledger : Ledger) :
    (operation.perform ledger).ledger.v31Period = ledger.v31Period := by
  cases admission : operation.admission ledger with
  | error failure => rw [perform_of_rejected admission]
  | ok _ =>
      obtain ⟨_, _, _, _, left⟩ := perform_frame_of_admitted admission
      rw [left]
      cases operation with
      | putDeposit id =>
          obtain ⟨eras, opened⟩ := ledger.openEra_frame id.token id.key.scheme
          simp only [recorded, opened]
          rfl
      | dewhitelist token =>
          simp only [recorded, Ledger.dewhitelist]
          split <;> rfl
      | _ => rfl

end Operation

namespace Ledger

variable {ledger : Ledger}

/-- Along a run, records are added at the end and keep their versions. -/
theorem depositVersions_prefix_run (ledger : Ledger) (operations : List Operation) :
    ledger.depositVersions <+: (ledger.run operations).depositVersions := by
  induction operations generalizing ledger with
  | nil => exact List.prefix_rfl
  | cons operation operations ih =>
      refine List.IsPrefix.trans ?_ (ih (operation.perform ledger).ledger)
      rcases operation.depositVersions_perform ledger with same | ⟨id, added⟩
      · exact same ▸ List.prefix_rfl
      · exact added ▸ List.prefix_append _ _

/-- The versions follow the keys and the periods: seasons are told by the key, the newer kind of
stems has begun if it occurs, and none of the older kind comes after one of the newer. -/
structure VersionsInOrder (ledger : Ledger) : Prop where
  keyed : ∀ record ∈ ledger.depositVersions, record.2 = .season ↔ record.1.key.scheme = .season
  begun : ∀ record ∈ ledger.depositVersions, record.2 = .v31 →
    ∃ first, ledger.v31Period = some first ∧ first ≤ ledger.period
  ordered : ledger.depositVersions.Pairwise fun earlier later =>
    ¬(earlier.2 = .v31 ∧ later.2 = .v3)

theorem versionsInOrder_empty (v31Period : Option Int) :
    (Ledger.empty v31Period).VersionsInOrder where
  keyed := by simp [depositVersions, Ledger.empty, EmptyCollection.emptyCollection, Table.empty]
  begun := by simp [depositVersions, Ledger.empty, EmptyCollection.emptyCollection, Table.empty]
  ordered := .nil

namespace VersionsInOrder

/-- A record that is created at the end fits behind all others. -/
theorem perform (inOrder : ledger.VersionsInOrder) (operation : Operation) :
    (operation.perform ledger).ledger.VersionsInOrder := by
  have fixed := operation.v31Period_perform ledger
  have onward := operation.period_le_perform ledger
  have still : ∀ first, ledger.v31Period = some first ∧ first ≤ ledger.period →
      (operation.perform ledger).ledger.v31Period = some first ∧
        first ≤ (operation.perform ledger).ledger.period :=
    fun first begun => ⟨fixed.trans begun.1, begun.2.trans onward⟩
  rcases operation.depositVersions_perform ledger with same | ⟨id, added⟩
  · constructor
    · rw [same]
      exact inOrder.keyed
    · rw [same]
      intro record inside newer
      exact (inOrder.begun record inside newer).imp still
    · rw [same]
      exact inOrder.ordered
  · constructor
    · rw [added]
      intro record inside
      rcases List.mem_append.mp inside with old | new
      · exact inOrder.keyed record old
      · obtain rfl := List.mem_singleton.mp new
        exact ledger.versionOf_eq_season_iff id.key
    · rw [added]
      intro record inside newer
      rcases List.mem_append.mp inside with old | new
      · exact (inOrder.begun record old newer).imp still
      · obtain rfl := List.mem_singleton.mp new
        exact (versionOf_eq_v31 newer).imp still
    · rw [added, List.pairwise_append]
      refine ⟨inOrder.ordered, List.pairwise_singleton _ _, ?_⟩
      rintro record old _ new ⟨newer, older⟩
      obtain rfl := List.mem_singleton.mp new
      obtain ⟨first, begins, reached⟩ := inOrder.begun record old newer
      exact absurd (versionOf_eq_v3 older begins) (Int.not_lt.mpr reached)

theorem run (inOrder : ledger.VersionsInOrder) (operations : List Operation) :
    (ledger.run operations).VersionsInOrder :=
  run_preserves VersionsInOrder (fun _ => VersionsInOrder.perform) inOrder operations

end VersionsInOrder

end Ledger

namespace ChainFollower

/-- Over every mix of events and operations, refused ones included, a record of a deposit keeps
the version that it was created with and records are created one behind the other; a record has
the version of the season era exactly if it has a key of the season era; and of the records for
stems, none of the older version was created after one of the newer version. -/
theorem versions_kept_and_in_order (v31Period : Option Int) (earlier later : List FollowerCall) :
    let before := ((ofLedger (.empty v31Period)).answerAll earlier).ledger
    let after := ((ofLedger (.empty v31Period)).answerAll (earlier ++ later)).ledger
    (∀ id held, before.deposits.get? id = some held →
      ∃ kept, after.deposits.get? id = some kept ∧ kept.version = held.version) ∧
    before.depositVersions <+: after.depositVersions ∧
    (∀ id held, after.deposits.get? id = some held →
      (held.version = .season ↔ id.key.scheme = .season)) ∧
    after.depositVersions.Pairwise fun first second =>
      ¬(first.2 = .v31 ∧ second.2 = .v3) := by
  intro before after
  have onward : before.depositVersions <+: after.depositVersions := by
    simp only [after, answerAll_append]
    rw [ledger_answerAll _ later]
    exact Ledger.depositVersions_prefix_run before _
  have inOrder : after.VersionsInOrder := by
    simp only [after]
    rw [ledger_answerAll]
    exact (Ledger.versionsInOrder_empty v31Period).run _
  refine ⟨?_, onward, ?_, inOrder.ordered⟩
  · intro id held present
    exact Ledger.mem_depositVersions_iff.mp
      (onward.subset (Ledger.mem_depositVersions_iff.mpr ⟨held, present, rfl⟩))
  · intro id held present
    exact inOrder.keyed (id, held.version)
      (Ledger.mem_depositVersions_iff.mpr ⟨held, present, rfl⟩)

/-- A deposit of the older version is put into again in a period of the newer one.  In between a
withdrawal of nothing and a refused deposit create records of the newer version. -/
theorem older_record_keeps_version :
    let put : Operation := .putDeposit ⟨"0xa", "0xt", .stem 1⟩ 5 5 1
    let take : Event := ⟨⟨4, 2⟩, .withdraw ⟨"0xb", "0xt", .stem 2⟩ 0 none⟩
    let earlier : List FollowerCall := [.operation put]
    let later : List FollowerCall :=
      [.event take, .operation (.advanceTo 3),
        .operation (.putDeposit ⟨"0xc", "0xt", .stem 3⟩ (-1) (-1) 3),
        .operation (.putDeposit ⟨"0xc", "0xu", .season 2⟩ 1 1 4), .operation put]
    let before := ((ofLedger (.empty (some 4))).answerAll earlier).ledger
    let after := ((ofLedger (.empty (some 4))).answerAll (earlier ++ later)).ledger
    before.depositVersions = [(⟨"0xa", "0xt", .stem 1⟩, .v3)] ∧
      after.depositVersions =
        [(⟨"0xa", "0xt", .stem 1⟩, .v3), (⟨"0xb", "0xt", .stem 2⟩, .v31),
          (⟨"0xc", "0xt", .stem 3⟩, .v31), (⟨"0xc", "0xu", .season 2⟩, .season)] ∧
      before.depositVersions <+: after.depositVersions ∧
      after.depositVersions.Pairwise fun first second =>
        ¬(first.2 = .v31 ∧ second.2 = .v3) := by
  intro put take earlier later before after
  obtain ⟨-, onward, -, inOrder⟩ := versions_kept_and_in_order (some 4) earlier later
  exact ⟨by decide +kernel, by decide +kernel, onward, inOrder⟩

end ChainFollower

end DepositYield
