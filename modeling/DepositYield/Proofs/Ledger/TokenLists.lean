import DepositYield.Proofs.Ledger.Whitelist

/-!
# Whitelist and dewhitelist

Whitelisting puts a token on the one list and takes it off the other, dewhitelisting does the
reverse, and no other operation touches the lists.  The lists name no token twice, have none
in common, and name registered tokens only.  Together they name the tokens that were ever
whitelisted: a token that is listed stays listed.
-/

namespace DepositYield

/-- The token that an operation whitelists. -/
def Operation.whitelists? : Operation → Option Token
  | .whitelist token _ _ => some token
  | _ => none

namespace Ledger

/-- The token is whitelisted or was before it was dewhitelisted. -/
def Listed (ledger : Ledger) (token : Token) : Prop :=
  token ∈ ledger.whitelistedTokens ∨ token ∈ ledger.dewhitelistedTokens

/-- No token is listed twice, on one list or on both, and every listed token is registered. -/
structure ListsApart (ledger : Ledger) : Prop where
  once : ledger.ListsOnce
  dewhitelisted : ledger.dewhitelistedTokens.Nodup
  disjoint : ledger.whitelistedTokens.Disjoint ledger.dewhitelistedTokens
  registered : ∀ token, ledger.Listed token → (ledger.settings.get? token).isSome

theorem listsApart_empty (v31Period : Option Int) : (Ledger.empty v31Period).ListsApart where
  once := listsOnce_empty v31Period
  dewhitelisted := List.nodup_nil
  disjoint := List.disjoint_nil_left _
  registered := fun _ listed => absurd listed (by simp [Listed, Ledger.empty])

variable {ledger other : Ledger} {token listed : Token}

/-! ## Settings -/

/-- Settings that are written are never taken away. -/
theorem isSome_settings_writeSetting (setting : TokenSetting)
    (present : (ledger.settings.get? listed).isSome) :
    ((ledger.writeSetting token setting).settings.get? listed).isSome := by
  change ((ledger.settings.set token setting).get? listed).isSome
  rw [Table.get?_set]
  split
  · rfl
  · exact present

/-! ## The two lists -/

theorem mem_whitelistedTokens_whitelist {setting : TokenSetting} {timestamp : Int} :
    listed ∈ (ledger.whitelist token setting timestamp).whitelistedTokens ↔
      listed ∈ ledger.whitelistedTokens ∨ listed = token := by
  change listed ∈ (if token ∈ ledger.whitelistedTokens then ledger.whitelistedTokens
    else ledger.whitelistedTokens ++ [token]) ↔ _
  split
  · next present =>
      refine ⟨.inl, ?_⟩
      rintro (inside | rfl)
      · exact inside
      · exact present
  · rw [List.mem_append, List.mem_singleton]

theorem listed_whitelist_iff {setting : TokenSetting} {timestamp : Int} :
    (ledger.whitelist token setting timestamp).Listed listed ↔
      ledger.Listed listed ∨ listed = token := by
  unfold Listed
  rw [mem_whitelistedTokens_whitelist]
  change _ ∨ listed ∈ ledger.dewhitelistedTokens.erase token ↔ _
  by_cases same : listed = token
  · simp [same]
  · simp [same, List.mem_erase_of_ne same]

/-- Dewhitelisting moves a token from one list to the other. -/
theorem listed_dewhitelist_iff :
    (ledger.dewhitelist token).Listed listed ↔ ledger.Listed listed := by
  unfold dewhitelist
  split
  · next present =>
      unfold Listed
      change listed ∈ ledger.whitelistedTokens.erase token ∨
        listed ∈ ledger.dewhitelistedTokens ++ [token] ↔ _
      rw [List.mem_append, List.mem_singleton]
      by_cases same : listed = token
      · simp [same, present]
      · simp [same, List.mem_erase_of_ne same]
  · exact Iff.rfl

namespace ListsApart

/-- The lists stay apart while they are not touched and no settings are taken away. -/
theorem of_lists_eq (apart : ledger.ListsApart)
    (whitelisted : other.whitelistedTokens = ledger.whitelistedTokens)
    (dewhitelisted : other.dewhitelistedTokens = ledger.dewhitelistedTokens)
    (kept : ∀ token, (ledger.settings.get? token).isSome → (other.settings.get? token).isSome) :
    other.ListsApart where
  once := by
    unfold ListsOnce
    rw [whitelisted]
    exact apart.once
  dewhitelisted := by
    rw [dewhitelisted]
    exact apart.dewhitelisted
  disjoint := by
    rw [whitelisted, dewhitelisted]
    exact apart.disjoint
  registered := by
    intro token listed
    unfold Listed at listed
    rw [whitelisted, dewhitelisted] at listed
    exact kept token (apart.registered token listed)

theorem whitelist (apart : ledger.ListsApart) (token : Token) (setting : TokenSetting)
    (timestamp : Int) : (ledger.whitelist token setting timestamp).ListsApart where
  once := apart.once.whitelist token setting timestamp
  dewhitelisted := apart.dewhitelisted.erase token
  disjoint := by
    intro listed whitelisted dewhitelisted
    have left : listed ≠ token ∧ listed ∈ ledger.dewhitelistedTokens :=
      apart.dewhitelisted.mem_erase_iff.mp dewhitelisted
    rcases mem_whitelistedTokens_whitelist.mp whitelisted with inside | same
    · exact apart.disjoint inside left.2
    · exact left.1 same
  registered := by
    intro listed isListed
    change ((ledger.settings.set token _).get? listed).isSome
    rw [Table.get?_set]
    split
    · rfl
    · next different =>
        rcases listed_whitelist_iff.mp isListed with before | same
        · exact apart.registered listed before
        · exact absurd same.symm different

theorem dewhitelist (apart : ledger.ListsApart) (token : Token) :
    (ledger.dewhitelist token).ListsApart where
  once := apart.once.dewhitelist token
  dewhitelisted := by
    unfold Ledger.dewhitelist
    split
    · next present =>
        exact List.Nodup.append apart.dewhitelisted (List.nodup_singleton token)
          (List.disjoint_singleton.mpr (apart.disjoint present))
    · exact apart.dewhitelisted
  disjoint := by
    rw [apart.once.whitelistedTokens_dewhitelist]
    intro listed whitelisted dewhitelisted
    obtain ⟨inside, different⟩ := List.mem_filter.mp whitelisted
    unfold Ledger.dewhitelist at dewhitelisted
    split at dewhitelisted
    · rcases List.mem_append.mp dewhitelisted with before | moved
      · exact apart.disjoint inside before
      · exact absurd (List.mem_singleton.mp moved) (by simpa using different)
    · exact apart.disjoint inside dewhitelisted
  registered := by
    intro listed isListed
    have present := apart.registered listed (listed_dewhitelist_iff.mp isListed)
    unfold Ledger.dewhitelist
    split <;> exact present

theorem recorded (apart : ledger.ListsApart) (operation : Operation) :
    (operation.recorded ledger).ListsApart := by
  cases operation with
  | whitelist token setting timestamp => exact apart.whitelist token setting timestamp
  | dewhitelist token => exact apart.dewhitelist token
  | putDeposit id =>
      obtain ⟨eras, opened⟩ := ledger.openEra_frame id.token id.key.scheme
      simp only [Operation.recorded, opened]
      exact apart.of_lists_eq rfl rfl fun _ present => present
  | setStalkPerSeason token | configureGauge token =>
      exact apart.of_lists_eq rfl rfl fun _ => isSome_settings_writeSetting _
  | _ => exact apart.of_lists_eq rfl rfl fun _ present => present

/-- Every operation keeps the lists apart. -/
theorem perform (apart : ledger.ListsApart) (operation : Operation) :
    (operation.perform ledger).ledger.ListsApart := by
  cases admission : operation.admission ledger with
  | error failure =>
      rw [Operation.perform_of_rejected admission]
      exact apart
  | ok _ =>
      obtain ⟨_, _, _, _, left⟩ := Operation.perform_frame_of_admitted admission
      rw [left]
      exact (apart.recorded operation).of_lists_eq rfl rfl fun _ present => present

theorem run (apart : ledger.ListsApart) (operations : List Operation) :
    (ledger.run operations).ListsApart :=
  run_preserves ListsApart (fun _ => ListsApart.perform) apart operations

end ListsApart

/-! ## What is ever whitelisted -/

theorem listed_perform_iff (operation : Operation) :
    (operation.perform ledger).ledger.Listed token ↔
      ledger.Listed token ∨ operation.whitelists? = some token := by
  cases admission : operation.admission ledger with
  | error failure =>
      rw [Operation.perform_of_rejected admission]
      cases operation with
      | whitelist => contradiction
      | _ => simp [Operation.whitelists?]
  | ok _ =>
      obtain ⟨_, _, _, _, left⟩ := Operation.perform_frame_of_admitted admission
      rw [left]
      change (operation.recorded ledger).Listed token ↔ _
      cases operation with
      | whitelist own setting timestamp =>
          refine listed_whitelist_iff.trans (or_congr_right ?_)
          simp [Operation.whitelists?, eq_comm]
      | dewhitelist own =>
          refine listed_dewhitelist_iff.trans ?_
          simp [Operation.whitelists?]
      | putDeposit id =>
          obtain ⟨eras, opened⟩ := ledger.openEra_frame id.token id.key.scheme
          simp only [Operation.recorded, opened, Operation.whitelists?, reduceCtorEq, or_false]
          exact Iff.rfl
      | _ => exact (or_iff_left (by simp [Operation.whitelists?])).symm

/-- After a run, exactly the tokens are listed that were or that it whitelists. -/
theorem listed_run_iff (operations : List Operation) :
    (ledger.run operations).Listed token ↔
      ledger.Listed token ∨ ∃ operation ∈ operations, operation.whitelists? = some token := by
  induction operations generalizing ledger with
  | nil => simp
  | cons operation operations ih =>
      rw [run_cons, ih, listed_perform_iff, or_assoc]
      simp only [List.exists_mem_cons_iff]

end Ledger

end DepositYield
