import DepositYield.Decimal.Text
import DepositYield.Proofs.Lists
import Mathlib.Data.List.TakeWhile

/-!
# Numerals read back

The numeral of a decimal is read back as that decimal: its sign, every digit of its
coefficient, its exponent, and the sign and payload of a NaN.  This holds of all decimals
whose exponents are in the range of numerals, and nothing else is ever read.

The numeral is followed part by part.  Its characters are plain already, apart from the case
of letters; the digits around the point are those of the coefficient, perhaps after zeros;
and the exponent of scientific notation is the adjusted one.
-/

namespace DepositYield.Decimal

open DepositYield.Text

/-- The exponents of the decimal are in the range of numerals; special values have none. -/
def InRange : Decimal → Prop
  | .finite _ coefficient exponent =>
      exponent + digitCount coefficient - 1 ≤ maxNumeralExponent ∧ minNumeralExponent ≤ exponent
  | _ => True

instance : DecidablePred InRange
  | .finite _ _ _ => inferInstanceAs (Decidable (_ ∧ _))
  | .infinite _ => .isTrue trivial
  | .nan _ _ _ => .isTrue trivial

/-! ## Digits -/

theorem toNat_bounds_of_isDigit {character : Char} (digit : character.isDigit) :
    48 ≤ character.toNat ∧ character.toNat ≤ 57 := by
  simp only [Char.isDigit, Bool.and_eq_true, decide_eq_true_eq] at digit
  exact ⟨digit.1, digit.2⟩

/-- A run of digits denotes the number that its characters are the digits of. -/
theorem wholeNumber?_eq {digits : List Char} (areDigits : ∀ digit ∈ digits, digit.isDigit) :
    wholeNumber? digits = some (Nat.ofDigitChars 10 digits 0) := by
  have mapped : digits.mapM asciiDigit? = some (digits.map fun digit => digit.toNat - 48) := by
    induction digits with
    | nil => rfl
    | cons digit rest ih =>
        obtain ⟨isDigit, restDigits⟩ := List.forall_mem_cons.mp areDigits
        simp [asciiDigit?, isDigit, ih restDigits]
  unfold wholeNumber? positional
  rw [mapped, Option.map_some, List.foldl_map, Nat.ofDigitChars_eq_foldl]
  rfl

theorem wholeNumber?_toDigits (value : Nat) :
    wholeNumber? (Nat.toDigits 10 value) = some value := by
  rw [wholeNumber?_eq fun _ => Nat.isDigit_of_mem_toDigits (by decide) (by decide),
    Nat.ofDigitChars_ten_toDigits]

theorem toList_toString (value : Nat) : (toString value).toList = Nat.toDigits 10 value := by
  rw [Nat.toString_eq_ofList_toDigits, String.toList_ofList]

/-! ## Plain characters -/

/-- A character of ASCII that stands for itself in a numeral, apart from its case. -/
def IsPlain (character : Char) : Prop :=
  character.toNat < 128 ∧ isBlank character = false ∧ character ≠ '_'

instance : DecidablePred IsPlain :=
  fun _ => inferInstanceAs (Decidable (_ ∧ _))

theorem isPlain_of_isDigit {character : Char} (digit : character.isDigit) :
    IsPlain character := by
  obtain ⟨lower, upper⟩ := toNat_bounds_of_isDigit digit
  refine ⟨by omega, ?_, ?_⟩
  · simp only [isBlank, isWhiteSpace, Bool.or_eq_false_iff, Bool.and_eq_false_imp,
      decide_eq_true_eq, decide_eq_false_iff_not, beq_eq_false_iff_ne]
    omega
  · rintro rfl
    contradiction

theorem toLower_of_isDigit {character : Char} (digit : character.isDigit) :
    character.toLower = character := by
  obtain ⟨lower, upper⟩ := toNat_bounds_of_isDigit digit
  unfold Char.toLower
  rw [dif_neg]
  rintro ⟨above, -⟩
  have above : 65 ≤ character.toNat := above
  omega

theorem trimBlanks_eq_self {characters : List Char}
    (shown : ∀ character ∈ characters, isBlank character = false) :
    trimBlanks characters = characters := by
  have kept : ∀ {list : List Char}, (∀ character ∈ list, isBlank character = false) →
      list.dropWhile isBlank = list := by
    intro list shown
    refine List.dropWhile_eq_self_iff.mpr fun present => ?_
    simp [shown _ (List.getElem_mem present)]
  unfold trimBlanks trimWhere
  rw [kept shown, kept (by simpa using shown), List.reverse_reverse]

theorem plainCharacters?_eq {text : String}
    (plain : ∀ character ∈ text.toList, IsPlain character) :
    plainCharacters? text = some (text.toList.map Char.toLower) := by
  have mapped : ∀ characters : List Char, (∀ character ∈ characters, IsPlain character) →
      characters.mapM plainCharacter? = some (characters.map Char.toLower) := by
    intro characters plain
    induction characters with
    | nil => rfl
    | cons character rest ih =>
        obtain ⟨isPlain, restPlain⟩ := List.forall_mem_cons.mp plain
        simp [plainCharacter?, isPlain.1, ih restPlain]
  have kept : text.toList.filter (· != '_') = text.toList := by
    rw [List.filter_eq_self]
    intro character inside
    simpa using (plain character inside).2.2
  unfold plainCharacters?
  rw [trimBlanks_eq_self fun character inside => (plain character inside).2.1, kept,
    mapped _ plain]

/-! ## Magnitudes -/

/-- What follows the digits of a numeral: nothing or an exponent. -/
def IsExponentPart (characters : List Char) : Prop :=
  characters = [] ∨ ∃ rest, characters = 'e' :: rest

theorem takeWhile_digits {digits rest : List Char} (areDigits : ∀ digit ∈ digits, digit.isDigit)
    (ends : ∀ character ∈ rest.head?, character.isDigit = false) :
    (digits ++ rest).takeWhile Char.isDigit = digits ∧
      (digits ++ rest).dropWhile Char.isDigit = rest := by
  rw [List.takeWhile_append_of_pos areDigits, List.dropWhile_append_of_pos areDigits]
  cases rest with
  | nil => simp
  | cons character rest =>
      have isEnd := ends character rfl
      simp [isEnd]

theorem IsExponentPart.head {characters : List Char} (isExponent : IsExponentPart characters) :
    ∀ character ∈ characters.head?, character.isDigit = false := by
  rcases isExponent with rfl | ⟨rest, rfl⟩
  · simp
  · simp

/-- The magnitude of digits without a point. -/
theorem magnitude?_whole {whole rest : List Char} (present : whole ≠ [])
    (areDigits : ∀ digit ∈ whole, digit.isDigit) (isExponent : IsExponentPart rest) :
    magnitude? (whole ++ rest) =
      (exponentPart? rest).map fun exponent => (Nat.ofDigitChars 10 whole 0, exponent) := by
  obtain ⟨taken, dropped⟩ := takeWhile_digits areDigits isExponent.head
  unfold magnitude?
  rw [taken, dropped]
  rcases isExponent with rfl | ⟨rest, rfl⟩
  · simp [present, wholeNumber?_eq areDigits, exponentPart?]
  · simp [present, wholeNumber?_eq areDigits]
    cases exponentPart? ('e' :: rest) <;> rfl

/-- The magnitude of digits on both sides of a point. -/
theorem magnitude?_pointed {whole fraction rest : List Char} (present : whole ≠ [])
    (wholeDigits : ∀ digit ∈ whole, digit.isDigit)
    (fractionDigits : ∀ digit ∈ fraction, digit.isDigit) (isExponent : IsExponentPart rest) :
    magnitude? (whole ++ '.' :: (fraction ++ rest)) =
      (exponentPart? rest).map fun exponent : Int =>
        (Nat.ofDigitChars 10 (whole ++ fraction) 0, exponent - fraction.length) := by
  have ends : ∀ character ∈ ('.' :: (fraction ++ rest)).head?, character.isDigit = false := by
    simp
  obtain ⟨taken, dropped⟩ := takeWhile_digits wholeDigits ends
  obtain ⟨fractionTaken, fractionDropped⟩ := takeWhile_digits fractionDigits isExponent.head
  have number : wholeNumber? (whole ++ fraction) =
      some (Nat.ofDigitChars 10 (whole ++ fraction) 0) := by
    refine wholeNumber?_eq fun digit inside => ?_
    rcases List.mem_append.mp inside with among | among
    · exact wholeDigits digit among
    · exact fractionDigits digit among
  unfold magnitude?
  rw [taken, dropped]
  simp only [fractionTaken, fractionDropped, number, List.isEmpty_eq_false_iff.mpr present,
    Bool.false_and, Bool.false_eq_true, if_false]
  cases exponentPart? rest <;> rfl

/-- The coefficient and the exponent of digits with a point before the last `places` of
them. -/
theorem magnitude?_toList_pointed {digits rest : List Char} (present : digits ≠ [])
    (areDigits : ∀ digit ∈ digits, digit.isDigit) (places : Nat)
    (isExponent : IsExponentPart rest) :
    magnitude? ((pointed digits places).toList ++ rest) =
      (exponentPart? rest).map fun exponent : Int =>
        (Nat.ofDigitChars 10 digits 0, exponent - places) := by
  have length : 0 < digits.length := List.length_pos_iff.mpr present
  unfold pointed
  split
  · next isZero =>
      rw [String.toList_ofList, magnitude?_whole present areDigits isExponent, isZero]
      simp
  split
  · next within =>
      have taken : ∀ digit ∈ digits.take (digits.length - places), digit.isDigit :=
        fun digit inside => areDigits digit (List.mem_of_mem_take inside)
      have dropped : ∀ digit ∈ digits.drop (digits.length - places), digit.isDigit :=
        fun digit inside => areDigits digit (List.mem_of_mem_drop inside)
      have some : digits.take (digits.length - places) ≠ [] := by
        rw [← List.length_pos_iff, List.length_take]
        omega
      have count : (digits.drop (digits.length - places)).length = places := by
        rw [List.length_drop]
        omega
      dsimp only
      rw [String.toList_ofList, List.append_assoc, List.cons_append,
        magnitude?_pointed some taken dropped isExponent, List.take_append_drop, count]
  · next beyond =>
      have filled : ∀ digit ∈ List.replicate (places - digits.length) '0' ++ digits,
          digit.isDigit := by
        intro digit inside
        rcases List.mem_append.mp inside with zeros | among
        · rw [List.eq_of_mem_replicate zeros]
          decide
        · exact areDigits digit among
      have count : (List.replicate (places - digits.length) '0' ++ digits).length = places := by
        rw [List.length_append, List.length_replicate]
        omega
      have zeros := magnitude?_pointed (List.cons_ne_nil '0' []) (by simp) filled isExponent
      rw [count] at zeros
      rw [String.toList_ofList]
      refine Eq.trans ?_ (zeros.trans ?_)
      · simp
      · simp [Nat.ofDigitChars_append, Nat.ofDigitChars_cons, Nat.ofDigitChars_replicate_zero]

/-- A numeral starts with a digit, and goes on with digits and a point. -/
theorem toList_pointed {digits : List Char} (present : digits ≠ [])
    (areDigits : ∀ digit ∈ digits, digit.isDigit) (places : Nat) :
    (∃ first rest, (pointed digits places).toList = first :: rest ∧ first.isDigit) ∧
      ∀ character ∈ (pointed digits places).toList, character.isDigit ∨ character = '.' := by
  obtain ⟨first, rest, rfl⟩ := List.exists_cons_of_ne_nil present
  have length : (first :: rest).length = rest.length + 1 := rfl
  unfold pointed
  split
  · rw [String.toList_ofList]
    exact ⟨⟨first, rest, rfl, areDigits first (.head _)⟩, fun digit inside =>
      .inl (areDigits digit inside)⟩
  split
  · next within =>
      obtain ⟨kept, isKept⟩ : ∃ kept, (first :: rest).length - places = kept + 1 :=
        ⟨rest.length - places, by omega⟩
      dsimp only
      rw [String.toList_ofList, isKept, List.take_succ_cons]
      refine ⟨⟨first, _, rfl, areDigits first (.head _)⟩, fun character inside => ?_⟩
      simp only [List.cons_append, List.mem_cons, List.mem_append] at inside
      rcases inside with rfl | taken | rfl | dropped
      · exact .inl (areDigits _ (.head _))
      · exact .inl (areDigits _ (.tail _ (List.mem_of_mem_take taken)))
      · exact .inr rfl
      · exact .inl (areDigits _ (.tail _ (List.mem_of_mem_drop dropped)))
  · rw [String.toList_ofList]
    refine ⟨⟨'0', _, rfl, rfl⟩, fun character inside => ?_⟩
    simp only [List.mem_cons, List.mem_append] at inside
    rcases inside with rfl | rfl | zeros | among
    · exact .inl rfl
    · exact .inr rfl
    · exact .inl (List.eq_of_mem_replicate zeros ▸ rfl)
    · exact .inl (areDigits _ (List.mem_cons.mpr among))

/-! ## Exponents -/

theorem toList_exponentText (exponent : Int) :
    (exponentText exponent).toList =
      'E' :: (if exponent < 0 then '-' else '+') :: Nat.toDigits 10 exponent.natAbs := by
  unfold exponentText
  rw [String.toList_append, String.toList_append, toList_toString]
  split <;> rfl

theorem map_toLower_digits {digits : List Char} (areDigits : ∀ digit ∈ digits, digit.isDigit) :
    digits.map Char.toLower = digits := by
  refine (List.map_congr_left fun digit inside => ?_).trans (List.map_id digits)
  exact toLower_of_isDigit (areDigits digit inside)

theorem areDigits_toDigits (value : Nat) :
    ∀ digit ∈ Nat.toDigits 10 value, digit.isDigit :=
  fun _ => Nat.isDigit_of_mem_toDigits (by decide) (by decide)

theorem exponentPart?_exponentText (exponent : Int) :
    exponentPart? ((exponentText exponent).toList.map Char.toLower) = some exponent := by
  have present : (Nat.toDigits 10 exponent.natAbs).isEmpty = false := by
    simp [Nat.toDigits_ne_nil]
  rw [toList_exponentText, List.map_cons, List.map_cons,
    map_toLower_digits (areDigits_toDigits _)]
  split
  · next negative =>
      change (if _ then none else _) = some exponent
      rw [present, if_neg Bool.false_ne_true, wholeNumber?_toDigits]
      have value : -(exponent.natAbs : Int) = exponent := by omega
      exact congrArg some value
  · next natural =>
      change (if _ then none else _) = some exponent
      rw [present, if_neg Bool.false_ne_true, wholeNumber?_toDigits]
      have value : (exponent.natAbs : Int) = exponent := by omega
      exact congrArg some value

/-! ## Finite decimals -/

section Magnitude

variable (coefficient : Nat) (exponent : Int)

/-- A numeral is the digits around a point with nothing or an exponent after them. -/
theorem toList_magnitudeText :
    ∃ (places : Nat) (written : List Char),
      (magnitudeText coefficient exponent).toList =
        (pointed (Nat.toDigits 10 coefficient) places).toList ++ written ∧
      ((written = [] ∧ exponent = -(places : Int)) ∨
        ∃ adjusted : Int, written = (exponentText adjusted).toList ∧
          exponent = adjusted - places) := by
  have length : 0 < (Nat.toDigits 10 coefficient).length := Nat.length_toDigits_pos
  unfold magnitudeText
  rw [toList_toString]
  dsimp only
  split
  · next plain =>
      exact ⟨(-exponent).toNat, [], by simp, .inl ⟨rfl, by omega⟩⟩
  · exact ⟨_, _, String.toList_append, .inr ⟨_, rfl, by omega⟩⟩

theorem toList_magnitudeText_head :
    ∃ first rest, (magnitudeText coefficient exponent).toList = first :: rest ∧
      first.isDigit := by
  obtain ⟨places, written, text, -⟩ := toList_magnitudeText coefficient exponent
  obtain ⟨⟨first, rest, starts, isDigit⟩, -⟩ :=
    toList_pointed Nat.toDigits_ne_nil (areDigits_toDigits coefficient) places
  exact ⟨first, rest ++ written, by rw [text, starts, List.cons_append], isDigit⟩

theorem isPlain_of_mem_exponentText :
    ∀ character ∈ (exponentText exponent).toList, IsPlain character := by
  intro character inside
  rw [toList_exponentText] at inside
  simp only [List.mem_cons] at inside
  rcases inside with rfl | rfl | digit
  · decide
  · split <;> decide
  · exact isPlain_of_isDigit (areDigits_toDigits _ _ digit)

theorem isPlain_of_mem_magnitudeText :
    ∀ character ∈ (magnitudeText coefficient exponent).toList, IsPlain character := by
  intro character inside
  obtain ⟨places, written, text, ends⟩ := toList_magnitudeText coefficient exponent
  rw [text, List.mem_append] at inside
  rcases inside with among | after
  · rcases (toList_pointed Nat.toDigits_ne_nil (areDigits_toDigits coefficient) places).2
      character among with digit | rfl
    · exact isPlain_of_isDigit digit
    · decide
  · rcases ends with ⟨rfl, -⟩ | ⟨adjusted, rfl, -⟩
    · contradiction
    · exact isPlain_of_mem_exponentText adjusted character after

theorem magnitude?_magnitudeText :
    magnitude? ((magnitudeText coefficient exponent).toList.map Char.toLower) =
      some (coefficient, exponent) := by
  obtain ⟨places, written, text, ends⟩ := toList_magnitudeText coefficient exponent
  have kept : (pointed (Nat.toDigits 10 coefficient) places).toList.map Char.toLower =
      (pointed (Nat.toDigits 10 coefficient) places).toList := by
    refine (List.map_congr_left fun character inside => ?_).trans (List.map_id _)
    rcases (toList_pointed Nat.toDigits_ne_nil (areDigits_toDigits coefficient) places).2
      character inside with digit | rfl
    · exact toLower_of_isDigit digit
    · rfl
  have isExponent : IsExponentPart (written.map Char.toLower) := by
    rcases ends with ⟨rfl, -⟩ | ⟨adjusted, rfl, -⟩
    · exact .inl rfl
    · exact .inr ⟨_, by rw [toList_exponentText]; rfl⟩
  rw [text, List.map_append, kept, magnitude?_toList_pointed Nat.toDigits_ne_nil
    (areDigits_toDigits coefficient) places isExponent, Nat.ofDigitChars_ten_toDigits]
  rcases ends with ⟨rfl, exponentIs⟩ | ⟨adjusted, rfl, exponentIs⟩
  · simp [exponentPart?, exponentIs]
  · rw [exponentPart?_exponentText, exponentIs]
    rfl

end Magnitude

/-! ## Whole numerals -/

/-- What is read of the characters after the sign. -/
def ofBody (negative : Bool) (body : List Char) : Except Signal Decimal :=
  match body with
  | ['i', 'n', 'f'] => .ok (.infinite negative)
  | ['i', 'n', 'f', 'i', 'n', 'i', 't', 'y'] => .ok (.infinite negative)
  | 'n' :: 'a' :: 'n' :: payload =>
      match wholeNumber? payload with
      | some value => .ok (.nan negative false value)
      | none => .error .conversionSyntax
  | 's' :: 'n' :: 'a' :: 'n' :: payload =>
      match wholeNumber? payload with
      | some value => .ok (.nan negative true value)
      | none => .error .conversionSyntax
  | body =>
      match magnitude? body with
      | some (coefficient, exponent) => inRange? negative coefficient exponent
      | none => .error .conversionSyntax

theorem ofText_eq {text : String} (plain : ∀ character ∈ text.toList, IsPlain character) :
    ofText text = ofBody (splitSign (text.toList.map Char.toLower)).1
      (splitSign (text.toList.map Char.toLower)).2 := by
  unfold ofText
  rw [plainCharacters?_eq plain]
  rfl

theorem toList_signText_append (negative : Bool) (numeral : String) :
    (signText negative ++ numeral).toList =
      (if negative then ['-'] else []) ++ numeral.toList := by
  rw [String.toList_append]
  cases negative <;> rfl

theorem isPlain_of_mem_signText_append {negative : Bool} {numeral : String}
    (plain : ∀ character ∈ numeral.toList, IsPlain character) :
    ∀ character ∈ (signText negative ++ numeral).toList, IsPlain character := by
  intro character inside
  rw [toList_signText_append, List.mem_append] at inside
  rcases inside with sign | among
  · cases negative with
    | false => contradiction
    | true =>
        rw [List.mem_singleton.mp sign]
        decide
  · exact plain character among

/-- The sign is taken off before the rest is read. -/
theorem ofText_signText {negative : Bool} {numeral : String} {first : Char} {rest : List Char}
    (plain : ∀ character ∈ numeral.toList, IsPlain character)
    (lowered : numeral.toList.map Char.toLower = first :: rest)
    (unsigned : first ≠ '-' ∧ first ≠ '+') :
    ofText (signText negative ++ numeral) = ofBody negative (first :: rest) := by
  rw [ofText_eq (isPlain_of_mem_signText_append plain), toList_signText_append, List.map_append,
    lowered]
  cases negative with
  | true => rfl
  | false =>
      have split : splitSign (first :: rest) = (false, first :: rest) := by
        unfold splitSign
        split
        · next isMinus => exact absurd (List.cons.inj isMinus).1 unsigned.1
        · next isPlus => exact absurd (List.cons.inj isPlus).1 unsigned.2
        · rfl
      change ofBody (splitSign (first :: rest)).1 (splitSign (first :: rest)).2 = _
      rw [split]

theorem ofBody_digit (negative : Bool) {first : Char} (rest : List Char)
    (digit : first.isDigit) :
    ofBody negative (first :: rest) =
      match magnitude? (first :: rest) with
      | some (coefficient, exponent) => inRange? negative coefficient exponent
      | none => .error .conversionSyntax := by
  have distinct : ∀ letter, letter.isDigit = false → first ≠ letter := by
    rintro letter isLetter rfl
    simp [isLetter] at digit
  unfold ofBody
  split
  · next starts => exact absurd (List.cons.inj starts).1 (distinct 'i' rfl)
  · next starts => exact absurd (List.cons.inj starts).1 (distinct 'i' rfl)
  · next starts => exact absurd (List.cons.inj starts).1 (distinct 'n' rfl)
  · next starts => exact absurd (List.cons.inj starts).1 (distinct 's' rfl)
  · rfl

theorem ofBody_nan (negative signaling : Bool) (payload : List Char) :
    ofBody negative ((if signaling then ['s', 'n', 'a', 'n'] else ['n', 'a', 'n']) ++ payload) =
      match wholeNumber? payload with
      | some value => .ok (.nan negative signaling value)
      | none => .error .conversionSyntax := by
  cases signaling <;> rfl

/-- The payload of a NaN is its digits, none for the payload zero. -/
theorem payloadText_read (payload : Nat) :
    (∀ digit ∈ (payloadText payload).toList, digit.isDigit) ∧
      wholeNumber? (payloadText payload).toList = some payload := by
  unfold payloadText
  split
  · next isZero => exact ⟨by simp, by rw [isZero]; rfl⟩
  · rw [toList_toString]
    exact ⟨areDigits_toDigits payload, wholeNumber?_toDigits payload⟩

theorem isPlain_of_mem_infinity : ∀ character ∈ "Infinity".toList, IsPlain character :=
  forall_mem_of_all (by decide)

theorem isPlain_of_mem_nan (signaling : Bool) (payload : Nat) :
    ∀ character ∈ ((if signaling then "sNaN" else "NaN") ++ payloadText payload).toList,
      IsPlain character := by
  intro character inside
  rw [String.toList_append, List.mem_append] at inside
  rcases inside with letter | digit
  · have plain : ∀ letter ∈ (if signaling then "sNaN" else "NaN").toList, IsPlain letter := by
      cases signaling <;> exact forall_mem_of_all (by decide)
    exact plain character letter
  · exact isPlain_of_isDigit ((payloadText_read payload).1 character digit)

/-- The numeral of a NaN is its sign with the rest after it. -/
theorem toText_nan (negative signaling : Bool) (payload : Nat) :
    toText (.nan negative signaling payload) =
      signText negative ++ ((if signaling then "sNaN" else "NaN") ++ payloadText payload) :=
  String.append_assoc

theorem isPlain_of_mem_toText (decimal : Decimal) :
    ∀ character ∈ decimal.toText.toList, IsPlain character := by
  match decimal with
  | .finite negative coefficient exponent =>
      exact isPlain_of_mem_signText_append (isPlain_of_mem_magnitudeText coefficient exponent)
  | .infinite negative => exact isPlain_of_mem_signText_append isPlain_of_mem_infinity
  | .nan negative signaling payload =>
      rw [toText_nan]
      exact isPlain_of_mem_signText_append (isPlain_of_mem_nan signaling payload)

/-- Every decimal in range is read back from its numeral. -/
theorem ofText_toText {decimal : Decimal} (inRange : decimal.InRange) :
    ofText decimal.toText = .ok decimal := by
  match decimal with
  | .finite negative coefficient exponent =>
      obtain ⟨first, rest, text, digit⟩ := toList_magnitudeText_head coefficient exponent
      have read := magnitude?_magnitudeText coefficient exponent
      have lowered : (magnitudeText coefficient exponent).toList.map Char.toLower =
          first :: rest.map Char.toLower := by
        rw [text, List.map_cons, toLower_of_isDigit digit]
      have unsigned : first ≠ '-' ∧ first ≠ '+' := by
        constructor <;> rintro rfl <;> contradiction
      rw [lowered] at read
      calc ofText (toText (.finite negative coefficient exponent))
          = ofBody negative (first :: rest.map Char.toLower) :=
            ofText_signText (isPlain_of_mem_magnitudeText coefficient exponent) lowered unsigned
        _ = inRange? negative coefficient exponent := by rw [ofBody_digit _ _ digit, read]
        _ = .ok (.finite negative coefficient exponent) := if_pos inRange
  | .infinite negative => exact ofText_signText isPlain_of_mem_infinity rfl (by decide)
  | .nan negative signaling payload =>
      obtain ⟨areDigits, read⟩ := payloadText_read payload
      have plain := isPlain_of_mem_nan signaling payload
      have lowered : ((if signaling then "sNaN" else "NaN") ++ payloadText payload).toList.map
          Char.toLower =
            (if signaling then ['s', 'n', 'a', 'n'] else ['n', 'a', 'n']) ++
              (payloadText payload).toList := by
        rw [String.toList_append, List.map_append, map_toLower_digits areDigits]
        cases signaling <;> rfl
      have body : ofBody negative ((if signaling then ['s', 'n', 'a', 'n'] else ['n', 'a', 'n']) ++
          (payloadText payload).toList) = .ok (.nan negative signaling payload) := by
        rw [ofBody_nan, read]
      rw [toText_nan]
      cases signaling with
      | false => exact (ofText_signText plain lowered (by decide)).trans body
      | true => exact (ofText_signText plain lowered (by decide)).trans body

theorem inRange_of_inRange? {negative : Bool} {coefficient : Nat} {exponent : Int}
    {decimal : Decimal} (read : inRange? negative coefficient exponent = .ok decimal) :
    decimal.InRange := by
  unfold inRange? at read
  split at read
  · next inRange =>
      cases read
      exact inRange
  · contradiction

/-- Nothing but decimals in range is ever read. -/
theorem inRange_of_ofText {text : String} {decimal : Decimal}
    (read : ofText text = .ok decimal) : decimal.InRange := by
  unfold ofText at read
  dsimp only at read
  split at read
  · contradiction
  split at read
  · cases read
    trivial
  · cases read
    trivial
  · split at read
    · cases read
      trivial
    · contradiction
  · split at read
    · cases read
      trivial
    · contradiction
  · split at read
    · exact inRange_of_inRange? read
    · contradiction

end DepositYield.Decimal
