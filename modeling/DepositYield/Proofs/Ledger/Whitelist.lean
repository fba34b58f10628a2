import DepositYield.Proofs.Ledger.Phases
import DepositYield.Proofs.Ledger.Run

/-!
# The whitelist names each token once

Only whitelisting and dewhitelisting change the whitelist.  Whitelisting appends a token
that is not listed yet, so no token is listed twice, and dewhitelisting takes a token off
for good and leaves the order of the others.
-/

namespace DepositYield

namespace Ledger

/-- No token is whitelisted twice. -/
def ListsOnce (ledger : Ledger) : Prop :=
  ledger.whitelistedTokens.Nodup

theorem listsOnce_empty (v31Period : Option Int) : (Ledger.empty v31Period).ListsOnce :=
  List.nodup_nil

namespace ListsOnce

variable {ledger : Ledger}

theorem whitelist (once : ledger.ListsOnce) (token : Token) (setting : TokenSetting)
    (timestamp : Int) : (ledger.whitelist token setting timestamp).ListsOnce := by
  change List.Nodup (if token ∈ ledger.whitelistedTokens then ledger.whitelistedTokens
    else ledger.whitelistedTokens ++ [token])
  split
  · exact once
  · next absent =>
      exact List.Nodup.append once (List.nodup_singleton token)
        (List.disjoint_singleton.mpr absent)

/-- Dewhitelisting takes a token off the whitelist and leaves the others in their order. -/
theorem whitelistedTokens_dewhitelist (once : ledger.ListsOnce) (token : Token) :
    (ledger.dewhitelist token).whitelistedTokens =
      ledger.whitelistedTokens.filter (· ≠ token) := by
  unfold Ledger.dewhitelist
  split
  · refine (List.Nodup.erase_eq_filter once token).trans (List.filter_congr fun other _ => ?_)
    by_cases same : other = token <;> simp [same]
  · next absent =>
      refine (List.filter_eq_self.mpr fun other inside => ?_).symm
      rw [decide_eq_true_eq]
      rintro rfl
      exact absent inside

theorem dewhitelist (once : ledger.ListsOnce) (token : Token) :
    (ledger.dewhitelist token).ListsOnce := by
  unfold ListsOnce
  rw [once.whitelistedTokens_dewhitelist]
  exact List.Nodup.filter _ once

theorem recorded (once : ledger.ListsOnce) (operation : Operation) :
    (operation.recorded ledger).ListsOnce := by
  cases operation with
  | whitelist token setting timestamp => exact once.whitelist token setting timestamp
  | dewhitelist token => exact once.dewhitelist token
  | putDeposit id =>
      obtain ⟨eras, opened⟩ := ledger.openEra_frame id.token id.key.scheme
      simp only [Operation.recorded, opened]
      exact once
  | _ => exact once

/-- An operation changes the whitelist while it is recorded or not at all. -/
theorem perform (once : ledger.ListsOnce) (operation : Operation) :
    (operation.perform ledger).ledger.ListsOnce := by
  cases admission : operation.admission ledger with
  | error failure =>
      rw [Operation.perform_of_rejected admission]
      exact once
  | ok _ =>
      obtain ⟨_, _, _, _, left⟩ := Operation.perform_frame_of_admitted admission
      rw [left]
      exact once.recorded operation

/-- No token is whitelisted twice in a reachable ledger. -/
theorem run (once : ledger.ListsOnce) (operations : List Operation) :
    (ledger.run operations).ListsOnce :=
  run_preserves ListsOnce (fun _ => ListsOnce.perform) once operations

end ListsOnce

end Ledger

end DepositYield
