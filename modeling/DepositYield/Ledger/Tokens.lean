import DepositYield.Ledger.Basic

/-!
# Tokens, germination and time

Tokens are whitelisted and dewhitelisted; a dewhitelisted token keeps its
settings and its deposits.  Value germinates in one of two buckets, by the
parity of the period in which it began to.  The period never moves back.
-/

namespace DepositYield.Ledger

/-- Write the settings of a token. -/
def writeSetting (ledger : Ledger) (token : Token) (setting : TokenSetting) : Ledger :=
  { ledger with settings := ledger.settings.set token setting }

/-- Register a token or replace its settings, and whitelist it. -/
def whitelist (ledger : Ledger) (token : Token) (setting : TokenSetting) (timestamp : Int) :
    Ledger :=
  let registered := ledger.writeSetting token { setting with updatedAt := timestamp }
  { registered with
    dewhitelistedTokens := ledger.dewhitelistedTokens.erase token
    whitelistedTokens :=
      if token ∈ ledger.whitelistedTokens then ledger.whitelistedTokens
      else ledger.whitelistedTokens ++ [token] }

/-- Move a token from the whitelist to the dewhitelist. -/
def dewhitelist (ledger : Ledger) (token : Token) : Ledger :=
  if token ∈ ledger.whitelistedTokens then
    { ledger with
      whitelistedTokens := ledger.whitelistedTokens.erase token
      dewhitelistedTokens := ledger.dewhitelistedTokens ++ [token] }
  else
    ledger

/-- Set the stalk that a token earns per season, from a season on. -/
def setStalkPerSeason (ledger : Ledger) (token : Token) (season stalkEarnedPerSeason : Int)
    (timestamp : Int) : Ledger :=
  ledger.writeSetting token
    { ledger.setting token with
      milestoneSeason := season
      stalkEarnedPerSeason
      updatedAt := timestamp }

/-- Set the gauge settings of a token, or remove them when there are no gauge
points. -/
def configureGauge (ledger : Ledger) (token : Token) (gaugePoints optimalPercent : Option Int)
    (pointRule : String) (timestamp : Int) : Ledger :=
  ledger.writeSetting token
    { ledger.setting token with
      gaugePoints
      optimalPercent := if gaugePoints.isSome then optimalPercent else none
      pointRule
      updatedAt := timestamp }

/-- Set the ratio of the gauge points of beans to the largest ones of liquidity
tokens. -/
def setPointRatio (ledger : Ledger) (ratio : Int) : Ledger :=
  { ledger with pointRatio := ratio }

/-- The germinating value of a token. -/
def germination (ledger : Ledger) (token : Token) : Germination :=
  ledger.germinating.getD token .none

/-- Add to the germinating value of a token. -/
def germinate (ledger : Ledger) (token : Token) (period value : Int) : Ledger :=
  let held := ledger.germination token
  let grown := held.setBucket period (held.bucket period + value)
  { ledger with germinating := ledger.germinating.set token grown }

/-- Empty a bucket of a token.  The result is the value that has germinated. -/
def finishGermination (ledger : Ledger) (token : Token) (period : Int) : Int × Ledger :=
  let held := ledger.germination token
  (held.bucket period,
    { ledger with germinating := ledger.germinating.set token (held.setBucket period 0) })

/-- Move on to a period. -/
def advanceTo (ledger : Ledger) (period : Int) : Outcome Unit :=
  if period < ledger.period then
    { result := .error (.periodRegression period ledger.period), ledger }
  else
    { result := .ok (), ledger := { ledger with period } }

end DepositYield.Ledger
