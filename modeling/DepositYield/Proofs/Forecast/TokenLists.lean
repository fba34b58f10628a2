import DepositYield.Proofs.Event.Calls
import DepositYield.Proofs.Export.Family
import DepositYield.Proofs.Forecast.Selection
import DepositYield.Proofs.Forecast.Store
import DepositYield.Proofs.Ledger.TokenLists

/-!
# Listed tokens and the keys of their yields

Tokens are listed and taken off by events and by hand, in any order.  The lists stay apart and
lose no token.  As a whitelist names no token twice, the yields that are simulated for it have
keys of their own, so none of them replaces another in a store.
-/

namespace DepositYield

/-- The token that a call whitelists. -/
def FollowerCall.whitelists? : FollowerCall → Option Token
  | .event applied => applied.operation.whitelists?
  | .operation performed => performed.whitelists?

namespace ChainFollower

variable {follower : ChainFollower} {token : Token}

/-- Events that whitelist a token have no place in an order, so they are never late. -/
theorem lateness?_of_whitelists? {event : Event}
    (whitelists : event.operation.whitelists? = some token) : follower.lateness? event = none := by
  rcases event with ⟨position, action⟩
  cases action with
  | whitelist => rfl
  | _ => contradiction

theorem whitelists?_operationsOf (call : FollowerCall) :
    (∃ operation ∈ follower.operationsOf call, operation.whitelists? = some token) ↔
      call.whitelists? = some token := by
  cases call with
  | operation operation => simp [operationsOf, FollowerCall.whitelists?]
  | event event =>
      simp only [operationsOf, FollowerCall.whitelists?, List.exists_mem_cons_iff]
      constructor
      · rintro (moves | ⟨operation, inside, whitelists⟩)
        · contradiction
        · split at inside
          · obtain rfl := List.mem_singleton.mp inside
            exact whitelists
          · contradiction
      · intro whitelists
        rw [if_pos (lateness?_of_whitelists? whitelists)]
        exact .inr ⟨event.operation, .head _, whitelists⟩

theorem whitelists?_operationsOfAll (calls : List FollowerCall) :
    (∃ operation ∈ follower.operationsOfAll calls, operation.whitelists? = some token) ↔
      ∃ call ∈ calls, call.whitelists? = some token := by
  induction calls generalizing follower with
  | nil => simp [operationsOfAll]
  | cons call calls ih =>
      simp only [operationsOfAll, List.mem_append, or_and_right, exists_or,
        List.exists_mem_cons_iff, ih, whitelists?_operationsOf]

end ChainFollower

namespace Forecast

/-- Yields of tokens that are told apart have keys that are told apart. -/
theorem nodup_key_of_tokenYields {settings : Settings} {snapshot : Snapshot}
    {period window : Int} {rate : Decimal} {tokens : List Token} {createdAt : Int}
    {yields : List TokenYield}
    (returned : tokenYields settings snapshot period window rate tokens createdAt = .ok yields)
    (distinct : tokens.Nodup) : (yields.map TokenYield.key).Nodup := by
  have named := (tokenYields_filter (fun _ => true) (fun _ _ => rfl) returned).1
  refine List.Nodup.of_map TokenKey.token ?_
  rw [List.map_map]
  change (yields.map TokenYield.token).Nodup
  rw [named]
  exact distinct

/-- After every mix of events and operations, refused ones included, the whitelist and the
dewhitelist name no token twice and have none in common, all tokens on them are registered, and
they are the tokens that some call whitelisted.  So the yields that are simulated for the
whitelist of the snapshot have different keys. -/
theorem lists_apart_and_keys_distinct (v31Period : Option Int) (calls : List FollowerCall) :
    let ledger := ((ChainFollower.ofLedger (.empty v31Period)).answerAll calls).ledger
    ledger.whitelistedTokens.Nodup ∧ ledger.dewhitelistedTokens.Nodup ∧
      ledger.whitelistedTokens.Disjoint ledger.dewhitelistedTokens ∧
      (∀ token, token ∈ ledger.whitelistedTokens ∨ token ∈ ledger.dewhitelistedTokens →
        (ledger.settings.get? token).isSome) ∧
      (∀ token, token ∈ ledger.whitelistedTokens ∨ token ∈ ledger.dewhitelistedTokens ↔
        ∃ call ∈ calls, call.whitelists? = some token) ∧
      ∀ settings period window rate createdAt yields,
        tokenYields settings ledger.snapshot period window rate ledger.snapshot.whitelistedTokens
            createdAt = .ok yields →
          (yields.map TokenYield.key).Nodup := by
  intro ledger
  have isRun : ledger = (Ledger.empty v31Period).run
      ((ChainFollower.ofLedger (.empty v31Period)).operationsOfAll calls) :=
    ChainFollower.ledger_answerAll _ _
  have apart : ledger.ListsApart := by
    rw [isRun]
    exact (Ledger.listsApart_empty v31Period).run _
  refine ⟨apart.once, apart.dewhitelisted, apart.disjoint, apart.registered, ?_, ?_⟩
  · intro token
    have unlisted : ¬(Ledger.empty v31Period).Listed token := by simp [Ledger.Listed, Ledger.empty]
    change ledger.Listed token ↔ _
    rw [isRun, Ledger.listed_run_iff, or_iff_right unlisted]
    exact ChainFollower.whitelists?_operationsOfAll calls
  · intro settings period window rate createdAt yields returned
    exact nodup_key_of_tokenYields returned apart.once

/-- One token is dewhitelisted twice and whitelisted again, another one comes by an event and
goes, and a third one is configured without ever being listed. -/
theorem relisted_tokens_have_distinct_keys :
    let whitelisting : Event := ⟨⟨2, 1⟩, .whitelist "0xu" 1 1 none none false⟩
    let calls : List FollowerCall := threeWhitelisted.map .operation ++
      [.operation (.dewhitelist "0xt"), .operation (.dewhitelist "0xt"), .event whitelisting,
        .operation (.configureGauge "0xv" none none "identity" 2),
        .operation (.setStalkPerSeason "0xv" 2 1 2),
        .operation (.whitelist "0xt" { TokenSetting.unregistered with
          stalkEarnedPerSeason := 2000000 } 3),
        .event ⟨⟨1, 1⟩, .dewhitelist "0xu"⟩]
    let ledger := ((ChainFollower.ofLedger (.empty none)).answerAll calls).ledger
    ledger.whitelistedTokens = [Settings.standard.reference, "0xlp", "0xt"] ∧
      ledger.dewhitelistedTokens = ["0xu"] ∧ (ledger.settings.get? "0xu").isSome ∧
      ∃ yields, tokenYields threeSeasons ledger.snapshot 19628 24 .hundred
          ledger.snapshot.whitelistedTokens 0 = .ok yields ∧
        yields.length = 3 ∧ (yields.map TokenYield.key).Nodup := by
  intro whitelisting calls ledger
  have whitelisted : ledger.whitelistedTokens =
      [Settings.standard.reference, "0xlp", "0xt"] := by decide +kernel
  have dewhitelisted : ledger.dewhitelistedTokens = ["0xu"] := by decide +kernel
  have settled : (tokenYields threeSeasons ledger.snapshot 19628 24 .hundred
      ledger.snapshot.whitelistedTokens 0).isOk := by decide +kernel
  obtain ⟨yields, result⟩ := exists_ok_of_isOk settled
  obtain ⟨-, -, -, registered, -, distinct⟩ := lists_apart_and_keys_distinct none calls
  have named := (tokenYields_filter (fun _ => true) (fun _ _ => rfl) result).1
  have three : yields.length = 3 := by
    have count := congrArg List.length (named.trans whitelisted)
    rwa [List.length_map] at count
  refine ⟨whitelisted, dewhitelisted, registered "0xu" (.inr ?_), yields, result, three,
    distinct threeSeasons 19628 24 .hundred 0 yields result⟩
  change "0xu" ∈ ledger.dewhitelistedTokens
  rw [dewhitelisted]
  exact .head _

end Forecast

end DepositYield
