import DepositYield.Decimal.Text
import DepositYield.Document.Json
import DepositYield.Settings.Basic
import DepositYield.Text.Sha256

/-!
# Writing settings

Settings are written as a document that reads back to them.  The fingerprint
tells settings apart: it is the beginning of the digest of that document, with
the fields of every object sorted by name.
-/

namespace DepositYield

namespace Document

/-- Insert a field before the first one whose name comes after it. -/
def insertField (field : String × Document) :
    List (String × Document) → List (String × Document)
  | [] => [field]
  | first :: rest =>
      if field.1 < first.1 then field :: first :: rest else first :: insertField field rest

mutual

/-- The document with the fields of every object sorted by name. -/
def sortFields : Document → Document
  | .list items => .list (sortItems items)
  | .object fields => .object (sortedFields fields)
  | document => document

/-- The items of a list with the fields of every object sorted. -/
def sortItems : List Document → List Document
  | [] => []
  | item :: items => sortFields item :: sortItems items

/-- The sorted fields of an object, each with its value sorted. -/
def sortedFields : List (String × Document) → List (String × Document)
  | [] => []
  | (name, value) :: fields => insertField (name, sortFields value) (sortedFields fields)

end

end Document

namespace Settings

/-- The settings as a document. -/
def toDocument (settings : Settings) : Document :=
  .object [
    ("ema", .object [
      ("origin_period", .int settings.rates.originPeriod),
      ("windows", .list (settings.rates.windows.map .int))]),
    ("simulation", .object [
      ("horizon", .int settings.simulation.horizon),
      ("decimal_precision", .int settings.simulation.decimalPrecision),
      ("seed_precision", .int settings.simulation.seedPrecision)]),
    ("gauge", .object [
      ("activation_period", .int settings.gauge.activationPeriod),
      ("catch_up_rate", .int settings.gauge.catchUpRate),
      ("delta_r", .text settings.gauge.ratioDrift.toText),
      ("ratio_precision", .int settings.gauge.ratioPrecision),
      ("gauge_point_function", .text settings.gauge.pointRule)]),
    ("fertilizer", .object [
      ("default_humidity", .int settings.fertilizer.defaultHumidity),
      ("humidity_precision", .int settings.fertilizer.humidityPrecision)]),
    ("tokens", .object [("reference", .text settings.reference)])]

/-- The number of hexadecimal digits of a fingerprint. -/
def fingerprintLength : Nat := 16

/-- The beginning of the digest of settings. -/
def digest (settings : Settings) : String :=
  let whole := Text.Sha256.hexDigest (settings.toDocument.sortFields.render .line)
  String.ofList (whole.toList.take fingerprintLength)

/-- The fingerprint of settings, unless they cannot be written. -/
def fingerprint (settings : Settings) : Except Text.Unwritable String :=
  Text.written settings.toDocument.wholes settings.digest

end Settings

end DepositYield
