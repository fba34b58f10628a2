import DepositYield.Proofs.Settings.Normal

/-!
# Spellings of settings

Documents that differ only in the order of the windows and in the case of the letters of an
address of ASCII are read as the same settings.  Those settings are read again from the
document that they are written as, so the fingerprint neither depends on the spelling nor
changes when settings are written and read.
-/

namespace DepositYield

/-! ## Documents that differ in spelling -/

namespace Document

/-- Values are found under the same names, and those of each name are alike. -/
def FieldsAlike (alike : String → Document → Document → Prop)
    (left right : List (String × Document)) : Prop :=
  ∀ name, Option.Rel (alike name) (left.lookup name) (right.lookup name)

/-- Values are the same, but those of one name are only alike. -/
def SameBut (special : String) (alike : Document → Document → Prop) (name : String)
    (left right : Document) : Prop :=
  if name = special then alike left right else left = right

/-- The fields of a section, whichever kind of mapping it is. -/
def fieldsOf? : Document → Option (List (String × Document))
  | .object fields => some fields
  | .mapping entries => some (textFields entries)
  | _ => none

/-- Sections whose fields are the same, but those of one name are only alike. -/
def SectionsAlike (special : String) (alike : Document → Document → Prop)
    (left right : Document) : Prop :=
  left = right ∨ ∃ fields others, fieldsOf? left = some fields ∧ fieldsOf? right = some others ∧
    FieldsAlike (SameBut special alike) fields others

/-- Lists or sets of the same items in any order. -/
def Reordered (left right : Document) : Prop :=
  left = right ∨ ∃ items others, Settings.itemsOf? left = some items ∧
    Settings.itemsOf? right = some others ∧ items.Perm others

/-- Texts of ASCII, or bytes that encode such texts, that agree up to the case of letters. -/
def Recased (left right : Document) : Prop :=
  left = right ∨ ∃ text other, Settings.textOf [] left = .ok text ∧
    Settings.textOf [] right = .ok other ∧ Text.IsAscii text ∧ Text.IsAscii other ∧
    text.toList.map Char.toLower = other.toList.map Char.toLower

/-- The sections on rates differ in the order of the windows and the sections on tokens in
the case of the address of the bean, if at all. -/
def RootsAlike (name : String) (left right : Document) : Prop :=
  if name = "ema" then SectionsAlike "windows" Reordered left right
  else if name = "tokens" then SectionsAlike "reference" Recased left right
  else left = right

/-- Documents that differ only in the order of the windows and in the case of the address of
the bean. -/
def Respelled (left right : Document) : Prop :=
  ∃ fields others, left = .object fields ∧ right = .object others ∧
    FieldsAlike RootsAlike fields others

end Document

namespace Document

theorem fieldsAlike_nil {alike : String → Document → Document → Prop} : FieldsAlike alike [] [] :=
  fun _ => .none

theorem FieldsAlike.cons {alike : String → Document → Document → Prop}
    {fields others : List (String × Document)} {name : String} {left right : Document}
    (first : alike name left right) (rest : FieldsAlike alike fields others) :
    FieldsAlike alike ((name, left) :: fields) ((name, right) :: others) := by
  intro wanted
  by_cases isName : wanted = name
  · simpa [List.lookup_cons, isName] using Option.Rel.some first
  · have different : (wanted == name) = false := by simpa using isName
    simp only [List.lookup_cons, different]
    exact rest wanted

section Fields

variable {special : String} {alike : Document → Document → Prop}
  {fields others : List (String × Document)}

theorem fieldsAlike_refl (refl : ∀ value, alike value value)
    (fields : List (String × Document)) : FieldsAlike (SameBut special alike) fields fields := by
  intro name
  cases fields.lookup name with
  | none => exact .none
  | some value =>
      refine .some ?_
      unfold SameBut
      split
      · exact refl value
      · rfl

theorem eq_none_of_rel_none {right : Option Document} (related : Option.Rel alike none right) :
    right = none := by
  cases related
  rfl

theorem exists_of_rel_some {left : Document} {right : Option Document}
    (related : Option.Rel alike (some left) right) :
    ∃ value, right = some value ∧ alike left value := by
  cases related with
  | some isAlike => exact ⟨_, rfl, isAlike⟩

theorem eq_of_rel_eq {left right : Option Document} (same : Option.Rel Eq left right) :
    left = right := by
  cases same with
  | none => rfl
  | some same => exact congrArg some same

theorem FieldsAlike.rel_special (fieldsAlike : FieldsAlike (SameBut special alike) fields others) :
    Option.Rel alike (fields.lookup special) (others.lookup special) := by
  have related := fieldsAlike special
  unfold SameBut at related
  simpa only [if_true] using related

theorem FieldsAlike.lookup_other (fieldsAlike : FieldsAlike (SameBut special alike) fields others)
    {name : String} (different : name ≠ special) : fields.lookup name = others.lookup name := by
  have related := fieldsAlike name
  unfold SameBut at related
  simp only [different, if_false] at related
  exact eq_of_rel_eq related

end Fields

section Roots

variable {root other : List (String × Document)} (rootsAlike : FieldsAlike RootsAlike root other)

include rootsAlike

theorem FieldsAlike.rel_rates :
    Option.Rel (SectionsAlike "windows" Reordered) (root.lookup "ema") (other.lookup "ema") :=
  rootsAlike "ema"

theorem FieldsAlike.rel_tokens :
    Option.Rel (SectionsAlike "reference" Recased) (root.lookup "tokens")
      (other.lookup "tokens") :=
  rootsAlike "tokens"

theorem FieldsAlike.lookup_root {name : String} (notRates : name ≠ "ema")
    (notTokens : name ≠ "tokens") : root.lookup name = other.lookup name := by
  have related := rootsAlike name
  unfold RootsAlike at related
  simp only [notRates, notTokens, if_false] at related
  exact eq_of_rel_eq related

end Roots

end Document

namespace Settings

open Document

/-! ## Reading either spelling -/

theorem section?_eq_ok_iff {root fields : List (String × Document)} {name typeName : String} :
    (section? root name typeName = .ok fields) ↔
      root.lookup name = none ∧ fields = [] ∨
        ∃ document, root.lookup name = some document ∧ fieldsOf? document = some fields := by
  unfold section?
  cases root.lookup name with
  | none => simp [eq_comm]
  | some document => cases document <;> simp [fieldsOf?, Checked.issue]

section Sections

variable {special : String} {alike : Document → Document → Prop}
  {root other fields : List (String × Document)} {name typeName : String}

theorem exists_section?_of_alike (refl : ∀ value, alike value value)
    (related : Option.Rel (SectionsAlike special alike) (root.lookup name) (other.lookup name))
    (found : section? root name typeName = .ok fields) :
    ∃ others, section? other name typeName = .ok others ∧
      FieldsAlike (SameBut special alike) fields others := by
  rcases section?_eq_ok_iff.mp found with ⟨absent, rfl⟩ | ⟨document, present, holds⟩
  · rw [absent] at related
    exact ⟨[], section?_eq_ok_iff.mpr (.inl ⟨eq_none_of_rel_none related, rfl⟩),
      fieldsAlike_refl refl []⟩
  · rw [present] at related
    obtain ⟨otherDocument, isOther, same | ⟨itsFields, others, holdsToo, otherHolds, fieldsAlike⟩⟩ :=
      exists_of_rel_some related
    · exact ⟨fields, section?_eq_ok_iff.mpr (.inr ⟨otherDocument, isOther, same ▸ holds⟩),
        fieldsAlike_refl refl fields⟩
    · obtain rfl : itsFields = fields := Option.some.inj (holdsToo.symm.trans holds)
      exact ⟨others, section?_eq_ok_iff.mpr (.inr ⟨_, isOther, otherHolds⟩), fieldsAlike⟩

end Sections

theorem windowsOf_reordered {location : List Step} {left right : Document} {sorted : List Int}
    (reordered : Reordered left right) (read : windowsOf location left = .ok sorted) :
    windowsOf location right = .ok sorted := by
  rcases reordered with rfl | ⟨items, others, isItems, isOthers, permuted⟩
  · exact read
  · obtain ⟨held, windows, holds, eachRead, ascends, valid⟩ := windowsOf_eq_ok_iff.mp read
    obtain rfl : held = items := Option.some.inj (holds.symm.trans isItems)
    obtain ⟨otherWindows, otherRead, alsoPermuted⟩ :=
      List.perm_comp_forall₂ permuted.symm eachRead
    exact windowsOf_eq_ok_iff.mpr
      ⟨others, otherWindows, isOthers, otherRead, alsoPermuted.trans ascends, valid⟩

theorem textOf_eq_ok_iff {location : List Step} {value : Document} {text : String} :
    textOf location value = .ok text ↔ textOf [] value = .ok text := by
  unfold textOf
  split
  · rfl
  · split
    · rfl
    · simp [Checked.issue]
  · simp [Checked.issue]

theorem lowerCase_recased {location : List Step} {left right : Document} {text : String}
    (recased : Recased left right) (read : textOf location left = .ok text) :
    ∃ other, textOf location right = .ok other ∧ Text.lowerCase other = Text.lowerCase text := by
  rcases recased with rfl | ⟨first, other, firstRead, otherRead, firstAscii, otherAscii, same⟩
  · exact ⟨text, read, rfl⟩
  · obtain rfl : text = first :=
      Except.ok.inj ((textOf_eq_ok_iff.mp read).symm.trans firstRead)
    refine ⟨other, textOf_eq_ok_iff.mpr otherRead, ?_⟩
    rw [Text.lowerCase_ascii firstAscii, Text.lowerCase_ascii otherAscii, same]

section Roots

variable {root other : List (String × Document)} (rootsAlike : FieldsAlike RootsAlike root other)

include rootsAlike

theorem readRates_of_alike {rates : RateSettings} (read : readRates root = .ok rates) :
    readRates other = .ok rates := by
  obtain ⟨fields, found, originRead, windowsRead⟩ := readRates_eq_ok_iff.mp read
  obtain ⟨others, otherFound, fieldsAlike⟩ :=
    exists_section?_of_alike (fun _ => .inl rfl) rootsAlike.rel_rates found
  refine readRates_eq_ok_iff.mpr ⟨others, otherFound, ?_, ?_⟩
  · unfold fieldOr at originRead ⊢
    rwa [← fieldsAlike.lookup_other (by decide)]
  · have related := fieldsAlike.rel_special
    unfold fieldOr at windowsRead ⊢
    cases held : fields.lookup "windows" with
    | none =>
        rw [held] at related windowsRead
        rw [eq_none_of_rel_none related]
        exact windowsRead
    | some value =>
        rw [held] at related windowsRead
        obtain ⟨otherValue, isOther, reordered⟩ := exists_of_rel_some related
        rw [isOther]
        exact windowsOf_reordered reordered windowsRead

theorem readReference_of_alike {reference : String} (read : readReference root = .ok reference) :
    readReference other = .ok reference := by
  obtain ⟨fields, value, text, present, found, held, textRead, lowered⟩ :=
    readReference_eq_ok_iff.mp read
  obtain ⟨others, otherFound, fieldsAlike⟩ :=
    exists_section?_of_alike (fun _ => .inl rfl) rootsAlike.rel_tokens found
  have otherPresent : (other.lookup "tokens").isSome := by
    obtain ⟨document, isDocument⟩ := Option.isSome_iff_exists.mp present
    have related := rootsAlike.rel_tokens
    rw [isDocument] at related
    obtain ⟨otherDocument, isOther, -⟩ := exists_of_rel_some related
    rw [isOther]
    rfl
  have related := fieldsAlike.rel_special
  rw [held] at related
  obtain ⟨otherValue, otherHeld, recased⟩ := exists_of_rel_some related
  obtain ⟨otherText, otherRead, sameLowered⟩ := lowerCase_recased recased textRead
  exact readReference_eq_ok_iff.mpr ⟨others, otherValue, otherText, otherPresent, otherFound,
    otherHeld, otherRead, sameLowered.trans lowered⟩

theorem ofFields_of_alike {settings : Settings} (read : ofFields root = .ok settings) :
    ofFields other = .ok settings := by
  obtain ⟨ratesRead, simulationRead, gaugeRead, fertilizerRead, referenceRead, activation⟩ :=
    ofFields_eq_ok_iff.mp read
  have sameSection : ∀ {name : String} (typeName : String), name ≠ "ema" → name ≠ "tokens" →
      (section? root name typeName = section? other name typeName) := by
    intro name typeName notRates notTokens
    unfold section?
    rw [rootsAlike.lookup_root notRates notTokens]
  refine ofFields_eq_ok_iff.mpr ⟨readRates_of_alike rootsAlike ratesRead, ?_, ?_, ?_,
    readReference_of_alike rootsAlike referenceRead, activation⟩
  · unfold readSimulation at simulationRead ⊢
    rwa [← sameSection _ (by decide) (by decide)]
  · unfold readGauge at gaugeRead ⊢
    rwa [← sameSection _ (by decide) (by decide)]
  · unfold readFertilizer at fertilizerRead ⊢
    rwa [← sameSection _ (by decide) (by decide)]

end Roots

/-- Settings that are read are read again, unchanged, from the document that they are written
as, and from every respelling of the document that they were read from.  So neither the
document nor the fingerprint changes. -/
theorem rereading_and_respelling_agree {document : Document} {settings : Settings}
    (read : ofDocument document = .ok settings) :
    (∃ again, ofDocument settings.toDocument = .ok again ∧ again = settings ∧
        again.toDocument = settings.toDocument ∧ again.fingerprint = settings.fingerprint) ∧
      ∀ other, Respelled document other →
        ∃ same, ofDocument other = .ok same ∧ same = settings ∧
          same.fingerprint = settings.fingerprint := by
  refine ⟨⟨settings, ofDocument_toDocument (normal_of_ofDocument read), rfl, rfl, rfl⟩, ?_⟩
  rintro other ⟨fields, others, rfl, rfl, rootsAlike⟩
  exact ⟨settings, ofFields_of_alike rootsAlike read, rfl, rfl⟩

/-- A document with the given windows, a drift of trailing zeros and the given address. -/
def spelledOut (windows : List Document) (reference : Document) : Document :=
  .object [
    ("gauge", .object [("delta_r", .text " -1_0.00e-3 ")]),
    ("tokens", .object [("reference", reference)]),
    ("ema", .object [("windows", .list windows)])]

theorem spelledOut_respelled {windows others : List Document} {reference other : Document}
    (permuted : windows.Perm others) (recased : Recased reference other) :
    Respelled (spelledOut windows reference) (spelledOut others other) := by
  refine ⟨_, _, rfl, rfl, .cons rfl (.cons (.inr ⟨_, _, rfl, rfl, ?_⟩)
    (.cons (.inr ⟨_, _, rfl, rfl, ?_⟩) fieldsAlike_nil))⟩
  · exact .cons recased fieldsAlike_nil
  · exact .cons (.inr ⟨_, _, rfl, rfl, permuted⟩) fieldsAlike_nil

theorem spelledOut_agree :
    ∃ settings : Settings,
      settings.rates.windows = [1, 24, 720] ∧ settings.reference = "0xbea" ∧
        settings.gauge.ratioDrift = .finite true 1000 (-5) ∧
      ofDocument settings.toDocument = .ok settings ∧
      ofDocument (spelledOut [.bool true, .int 720, .text "+24"] (.bytes [48, 120, 98, 69, 97])) =
        .ok settings := by
  have read : ofDocument (spelledOut [.int 720, .text "+24", .bool true] (.text "0xBeA")) =
      .ok { Settings.standard with
        rates := { RateSettings.standard with windows := [1, 24, 720] }
        gauge := { GaugeSettings.standard with ratioDrift := .finite true 1000 (-5) }
        reference := "0xbea" } := by
    refine ofFields_eq_ok_iff.mpr ⟨?_, ?_, ?_, ?_, ?_, ?_⟩
    · have valid : WindowsValid [1, 24, 720] := by constructor <;> decide
      have windowsRead : windowsOf [.field "ema", .field "windows"]
          (.list [.int 720, .text "+24", .bool true]) = .ok [1, 24, 720] :=
        windowsOf_eq_ok_iff.mpr ⟨_, [720, 24, 1], rfl,
          .cons rfl (.cons (by decide) (.cons rfl .nil)), by decide, valid⟩
      exact readRates_eq_ok_iff.mpr ⟨_, rfl, rfl, windowsRead⟩
    · decide
    · decide +kernel
    · decide
    · decide
    · decide
  have recased : Recased (.text "0xBeA") (.bytes [48, 120, 98, 69, 97]) :=
    .inr ⟨"0xBeA", "0xbEa", rfl, by decide, by decide, by decide, by decide⟩
  have permuted : ([.int 720, .text "+24"] ++ [.bool true] : List Document).Perm
      ([.bool true] ++ [.int 720, .text "+24"]) := List.perm_append_comm
  obtain ⟨⟨_, again, rfl, -, -⟩, respelled⟩ := rereading_and_respelling_agree read
  obtain ⟨_, same, rfl, -⟩ := respelled _ (spelledOut_respelled permuted recased)
  exact ⟨_, rfl, rfl, rfl, again, same⟩

end Settings

end DepositYield
