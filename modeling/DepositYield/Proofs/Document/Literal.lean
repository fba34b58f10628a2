import DepositYield.Document.Json
import DepositYield.Proofs.Decimal.Numeral
import DepositYield.Proofs.Text.Surrogate

/-!
# Literals read from JSON

A string literal is read as units of UTF-16, which are then joined to code points.  A text is
read as it is written unless it has a lone first half of a surrogate pair directly before a
lone second half: the two are read as the character of the pair.  A whole number is read as it
is written if no other digit follows it.
-/

namespace DepositYield.Json

open Text.Surrogate

/-! ## The reader of texts -/

/-- The value of a hexadecimal digit. -/
def hexDigit? (character : Char) : Option Nat :=
  if character.isDigit then some (character.toNat - 48)
  else if 'a' ≤ character ∧ character ≤ 'f' then some (character.toNat - 87)
  else if 'A' ≤ character ∧ character ≤ 'F' then some (character.toNat - 55)
  else none

/-- The unit of four hexadecimal digits. -/
def hexUnit? (first second third fourth : Char) : Option Nat := do
  return 0x1000 * (← hexDigit? first) + 0x100 * (← hexDigit? second) +
    0x10 * (← hexDigit? third) + (← hexDigit? fourth)

/-- The unit of the escape that a letter names. -/
def namedUnit? (letter : Char) : Option Nat :=
  if letter = '"' ∨ letter = '\\' ∨ letter = '/' then some letter.toNat
  else if letter = 'n' then some 0x0a
  else if letter = 'r' then some 0x0d
  else if letter = 't' then some 0x09
  else if letter = 'b' then some 0x08
  else if letter = 'f' then some 0x0c
  else none

/-- What was read, with a unit before it. -/
def consUnit (unit : Nat) : Option (List Nat × List Char) → Option (List Nat × List Char) :=
  Option.map fun read => (unit :: read.1, read.2)

/-- The units of a string literal after its first quotation mark, and what follows it. -/
def units? : List Char → Option (List Nat × List Char)
  | [] => none
  | '"' :: rest => some ([], rest)
  | '\\' :: 'u' :: first :: second :: third :: fourth :: rest => do
      let unit ← hexUnit? first second third fourth
      consUnit unit (units? rest)
  | '\\' :: letter :: rest => do
      let unit ← namedUnit? letter
      consUnit unit (units? rest)
  | character :: rest =>
      if character = '\\' ∨ character.toNat < 0x20 then none
      else consUnit (code character) (units? rest)

/-- The text of units. -/
def textOfUnits (units : List Nat) : String :=
  String.ofList ((join units).map ofCode)

/-- A text after its first quotation mark, and what follows it. -/
def text? (text : List Char) : Option (String × List Char) := do
  let (units, rest) ← units? text
  return (textOfUnits units, rest)

/-! ## Escapes -/

theorem hexDigit?_digitChar {digit : Nat} (small : digit < 16) :
    hexDigit? digit.digitChar = some digit := by
  have all : ∀ digit < 16, hexDigit? digit.digitChar = some digit := by decide
  exact all digit small

/-- The hexadecimal digits of a number, with zeros before them up to a width. -/
def padded (width value : Nat) : List Char :=
  List.replicate (width - (Nat.toDigits 16 value).length) '0' ++ Nat.toDigits 16 value

theorem padded_succ {width : Nat} (present : 0 < width) (value : Nat) :
    padded (width + 1) value = padded width (value / 16) ++ [(value % 16).digitChar] := by
  unfold padded
  by_cases small : value < 16
  · have zero : value / 16 = 0 := by omega
    have last : value % 16 = value := by omega
    obtain ⟨width, rfl⟩ := Nat.exists_eq_add_one.mpr present
    rw [zero, last, Nat.toDigits_of_lt_base small, Nat.toDigits_of_lt_base (by decide)]
    change List.replicate (width + 1) '0' ++ _ = (List.replicate width '0' ++ ['0']) ++ _
    rw [List.replicate_succ']
  · have digits := Nat.toDigits_of_base_le (by decide) (Nat.le_of_not_lt small)
    rw [digits, List.length_append, List.length_singleton, Nat.add_sub_add_right,
      List.append_assoc]

theorem ascii_of_mem_padded (width value : Nat) :
    ∀ character ∈ padded width value, character.toNat < 128 := by
  have digitAscii : ∀ digit < 16, digit.digitChar.toNat < 128 := by decide
  have digitsAscii : ∀ value, ∀ character ∈ Nat.toDigits 16 value, character.toNat < 128 := by
    intro value
    induction value using Nat.strongRecOn with
    | ind value ih =>
        by_cases small : value < 16
        · rw [Nat.toDigits_of_lt_base small]
          exact List.forall_mem_singleton.mpr (digitAscii value small)
        · rw [Nat.toDigits_of_base_le (by decide) (Nat.le_of_not_lt small)]
          exact List.forall_mem_append.mpr ⟨ih _ (by omega),
            List.forall_mem_singleton.mpr (digitAscii _ (Nat.mod_lt _ (by decide)))⟩
  refine List.forall_mem_append.mpr ⟨fun character zero => ?_, digitsAscii value⟩
  rw [List.eq_of_mem_replicate zero]
  decide

theorem toList_hexUnit {unit : Nat} (valid : unit < 0x10000) :
    (Document.hexUnit unit).toList =
      [(unit / 16 / 16 / 16).digitChar, (unit / 16 / 16 % 16).digitChar,
        (unit / 16 % 16).digitChar, (unit % 16).digitChar] := by
  have first : padded 1 (unit / 16 / 16 / 16) = [(unit / 16 / 16 / 16).digitChar] := by
    have small : unit / 16 / 16 / 16 < 16 := by omega
    unfold padded
    rw [Nat.toDigits_of_lt_base small]
    rfl
  unfold Document.hexUnit
  rw [String.toList_ofList]
  change padded 4 unit = _
  rw [padded_succ (by decide), padded_succ (by decide), padded_succ (by decide), first]
  rfl

theorem units?_unitEscape {unit : Nat} (valid : unit < 0x10000) (rest : List Char) :
    units? ((Document.unitEscape unit).toList ++ rest) = consUnit unit (units? rest) := by
  have digits : hexUnit? (unit / 16 / 16 / 16).digitChar (unit / 16 / 16 % 16).digitChar
      (unit / 16 % 16).digitChar (unit % 16).digitChar = some unit := by
    unfold hexUnit?
    rw [hexDigit?_digitChar (by omega), hexDigit?_digitChar (by omega),
      hexDigit?_digitChar (by omega), hexDigit?_digitChar (by omega)]
    change some _ = some unit
    congr 1
    omega
  unfold Document.unitEscape
  rw [String.toList_append, toList_hexUnit valid]
  change (do
    let unit ← hexUnit? _ _ _ _
    consUnit unit (units? rest)) = _
  rw [digits]
  rfl

theorem units?_named {letter : Char} {unit : Nat} (named : namedUnit? letter = some unit)
    (rest : List Char) : units? ('\\' :: letter :: rest) = consUnit unit (units? rest) := by
  have notHex : letter ≠ 'u' := by
    rintro rfl
    cases named
  rw [units?, named]
  · rfl
  · exact fun _ _ _ _ _ marked _ => notHex marked

theorem units?_plain {character : Char} (shown : 0x20 ≤ character.toNat)
    (notQuote : character ≠ '"') (notEscape : character ≠ '\\') (rest : List Char) :
    units? (character :: rest) = consUnit (code character) (units? rest) := by
  rw [units?, if_neg]
  · rintro (escape | control)
    · exact notEscape escape
    · omega
  · exact notQuote
  · exact fun _ _ _ _ _ escape _ => notEscape escape
  · exact fun _ _ escape _ => notEscape escape

/-- What was read, with units before it. -/
def appendUnits (units : List Nat) : Option (List Nat × List Char) → Option (List Nat × List Char) :=
  Option.map fun read => (units ++ read.1, read.2)

/-- A character of a string literal is read as its units. -/
theorem units?_escapeCharacter (character : Char) (rest : List Char) :
    units? ((Document.escapeCharacter character).toList ++ rest) =
      appendUnits (units (code character)) (units? rest) := by
  have single : code character < 0x10000 →
      appendUnits (units (code character)) (units? rest) =
        consUnit (code character) (units? rest) := by
    intro small
    unfold units
    rw [if_pos small]
    rfl
  have named : ∀ {letter : Char} {unit : Nat}, namedUnit? letter = some unit →
      code character = unit → unit < 0x10000 → units? ('\\' :: letter :: rest) =
        appendUnits (units (code character)) (units? rest) := by
    rintro letter unit letterNames rfl small
    rw [single small]
    exact units?_named letterNames rest
  unfold Document.escapeCharacter
  simp only
  -- The cases are those of the escapes, in their order.
  split_ifs with quote escape lineFeed carriageReturn tab backspace formFeed shown small
  · exact named rfl (congrArg code quote) (by decide)
  · exact named rfl (congrArg code escape) (by decide)
  · exact named rfl lineFeed (by decide)
  · exact named rfl carriageReturn (by decide)
  · exact named rfl tab (by decide)
  · exact named rfl backspace (by decide)
  · exact named rfl formFeed (by decide)
  · have own : code character = character.toNat := by
      rw [code_eq, if_neg]
      intro standsIn
      rw [code_eq, if_pos standsIn] at shown
      unfold firstUnit at shown
      omega
    rw [single (by omega), String.toList_singleton, List.singleton_append]
    exact units?_plain (own ▸ shown.1) quote escape rest
  · rw [single small, units?_unitEscape small]
  · have valid := code_lt character
    rw [String.toList_append, List.append_assoc, units?_unitEscape (by omega),
      units?_unitEscape (by omega)]
    unfold units
    rw [if_neg small]
    cases units? rest <;> rfl

/-! ## Texts -/

/-- The characters of a string literal between its quotation marks. -/
def literalBody (value : String) : List Char :=
  value.toList.flatMap fun character => (Document.escapeCharacter character).toList

theorem toList_stringLiteral (value : String) :
    (Document.stringLiteral value).toList = '"' :: (literalBody value ++ ['"']) := by
  have gathered : ∀ (characters : List Char) (start : String),
      (characters.foldl (fun literal character =>
          literal ++ Document.escapeCharacter character) start).toList =
        start.toList ++
          characters.flatMap fun character => (Document.escapeCharacter character).toList := by
    intro characters
    induction characters with
    | nil => exact fun start => (List.append_nil _).symm
    | cons character rest ih =>
        intro start
        rw [List.foldl_cons, ih, String.toList_append, List.flatMap_cons, List.append_assoc]
  unfold Document.stringLiteral literalBody
  rw [String.toList_append, String.toList_append, String.foldl_eq_foldl_toList, gathered]
  rfl

theorem units?_literalBody (value : String) (rest : List Char) :
    units? (literalBody value ++ '"' :: rest) = some ((codes value).flatMap units, rest) := by
  unfold literalBody codes
  induction value.toList with
  | nil => rfl
  | cons character characters ih =>
      rw [List.flatMap_cons, List.append_assoc, units?_escapeCharacter, ih]
      rfl

theorem text?_literalBody {value : String} (kept : KeepsPairs (codes value)) (rest : List Char) :
    text? (literalBody value ++ '"' :: rest) = some (value, rest) := by
  have valid : ∀ unit ∈ codes value, unit < 0x110000 :=
    List.forall_mem_map.mpr fun character _ => code_lt character
  unfold text?
  rw [units?_literalBody]
  change some (textOfUnits ((codes value).flatMap units), rest) = _
  unfold textOfUnits
  rw [join_flatMap_units valid kept, ofCode_codes]

/-! ## Numbers -/

/-- A number without a sign, and what follows it. -/
def natural? (text : List Char) : Option (Nat × List Char) :=
  if text.takeWhile Char.isDigit = [] then none
  else (Decimal.wholeNumber? (text.takeWhile Char.isDigit)).map fun value =>
    (value, text.dropWhile Char.isDigit)

/-- A whole number, and what follows it. -/
def int? : List Char → Option (Int × List Char)
  | '-' :: text => (natural? text).map fun read => (-(read.1 : Int), read.2)
  | text => (natural? text).map fun read => ((read.1 : Int), read.2)

/-- What follows a number does not begin with a digit. -/
def Delimits (rest : List Char) : Prop :=
  ∀ first ∈ rest.head?, first.isDigit = false

theorem toList_toString_nat (value : Nat) :
    ∃ first rest, (toString value).toList = first :: rest ∧ first.isDigit := by
  rw [Decimal.toList_toString]
  cases digits : Nat.toDigits 10 value with
  | nil => exact absurd digits Nat.toDigits_ne_nil
  | cons first rest =>
      exact ⟨first, rest, rfl, Decimal.areDigits_toDigits value first (digits ▸ .head _)⟩

theorem natural?_toString (value : Nat) {rest : List Char} (delimits : Delimits rest) :
    natural? ((toString value).toList ++ rest) = some (value, rest) := by
  obtain ⟨digits, after⟩ :=
    Decimal.takeWhile_digits (Decimal.areDigits_toDigits value) delimits
  unfold natural?
  rw [Decimal.toList_toString, digits, after, if_neg Nat.toDigits_ne_nil,
    Decimal.wholeNumber?_toDigits]
  rfl

theorem int?_toString (value : Int) {rest : List Char} (delimits : Delimits rest) :
    int? ((toString value).toList ++ rest) = some (value, rest) := by
  cases value with
  | ofNat value =>
      change int? ((toString value).toList ++ rest) = _
      rw [int?, natural?_toString value delimits]
      · rfl
      · intro text negative
        obtain ⟨first, digits, spelled, isDigit⟩ := toList_toString_nat value
        rw [spelled, List.cons_append, List.cons.injEq] at negative
        rw [negative.1] at isDigit
        cases isDigit
  | negSucc value =>
      change int? (("-" ++ toString (value + 1)).toList ++ rest) = _
      rw [String.toList_append]
      change int? ('-' :: ((toString (value + 1)).toList ++ rest)) = _
      rw [int?, natural?_toString _ delimits]
      rfl

/-- A number begins with a sign or a digit. -/
theorem toList_toString_int (value : Int) :
    ∃ first rest, (toString value).toList = first :: rest ∧ (first = '-' ∨ first.isDigit) := by
  cases value with
  | ofNat value =>
      obtain ⟨first, digits, spelled, isDigit⟩ := toList_toString_nat value
      exact ⟨first, digits, spelled, .inr isDigit⟩
  | negSucc value =>
      refine ⟨'-', (toString (value + 1)).toList, ?_, .inl rfl⟩
      change ("-" ++ toString (value + 1)).toList = _
      rw [String.toList_append]
      rfl

end DepositYield.Json
