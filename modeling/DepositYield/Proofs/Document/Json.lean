import DepositYield.Proofs.Document.Literal

/-!
# Documents read from JSON

What a document is written as is read as the document again, in every layout.  The document
may hold no numbers in floating point and nothing that JSON does not have, the names of an
object must differ, and its texts must be read as they are written.

The reader goes by recursive descent.  Its fuel bounds how deep values are nested and how many
of them a list has, so the length of the text is fuel enough.
-/

namespace DepositYield.Json

open Text.Surrogate

/-! ## The reader -/

/-- The characters that may stand between the parts of a document. -/
def isBlank (character : Char) : Bool :=
  character = ' ' || character = '\n' || character = '\r' || character = '\t'

/-- The text without the blanks at its beginning. -/
def skipBlanks (text : List Char) : List Char :=
  text.dropWhile isBlank

/-- A value that is a word, and what follows it. -/
def word? : List Char → Option (Document × List Char)
  | 'n' :: 'u' :: 'l' :: 'l' :: rest => some (.null, rest)
  | 't' :: 'r' :: 'u' :: 'e' :: rest => some (.bool true, rest)
  | 'f' :: 'a' :: 'l' :: 's' :: 'e' :: rest => some (.bool false, rest)
  | _ => none

/-- Items that are set apart by commas, up to a closing mark. -/
def items? {Item : Type} (item? : List Char → Option (Item × List Char)) (closing : Char) :
    Nat → List Char → Option (List Item × List Char)
  | 0, _ => none
  | fuel + 1, text => do
      let (item, rest) ← item? text
      match skipBlanks rest with
      | [] => none
      | mark :: rest =>
          if mark = closing then some ([item], rest)
          else if mark = ',' then
            (items? item? closing fuel rest).map fun read => (item :: read.1, read.2)
          else none

/-- The items after an opening mark; there may be none. -/
def enclosed? {Item : Type} (item? : List Char → Option (Item × List Char)) (closing : Char)
    (fuel : Nat) (text : List Char) : Option (List Item × List Char) :=
  match skipBlanks text with
  | [] => none
  | mark :: rest => if mark = closing then some ([], rest) else items? item? closing fuel text

/-- A name with its value. -/
def field? (value? : List Char → Option (Document × List Char)) (text : List Char) :
    Option ((String × Document) × List Char) :=
  match skipBlanks text with
  | '"' :: rest => do
      let (name, rest) ← text? rest
      match skipBlanks rest with
      | ':' :: rest => (value? rest).map fun read => ((name, read.1), read.2)
      | _ => none
  | _ => none

/-- A value by its first character, and what follows it. -/
def valueFrom? (value? : List Char → Option (Document × List Char)) (fuel : Nat) (first : Char)
    (rest : List Char) : Option (Document × List Char) :=
  if first = '"' then
    (text? rest).map fun read => (.text read.1, read.2)
  else if first = '[' then
    (enclosed? value? ']' fuel rest).map fun read => (.list read.1, read.2)
  else if first = '\x7b' then
    (enclosed? (field? value?) '\x7d' fuel rest).map fun read => (.ofFields read.1, read.2)
  else if first = '-' ∨ first.isDigit then
    (int? (first :: rest)).map fun read => (.int read.1, read.2)
  else
    word? (first :: rest)

/-- A value, and what follows it. -/
def value? : Nat → List Char → Option (Document × List Char)
  | 0, _ => none
  | fuel + 1, text =>
      match skipBlanks text with
      | [] => none
      | first :: rest => valueFrom? (value? fuel) fuel first rest

/-- The document that a text denotes. -/
def read? (text : String) : Option Document := do
  let (document, rest) ← value? text.toList.length text.toList
  guard (skipBlanks rest = [])
  return document

/-! ## Items -/

/-- All characters are blank. -/
def AreBlank (blanks : List Char) : Prop :=
  ∀ character ∈ blanks, isBlank character = true

theorem skipBlanks_of_shown {first : Char} (shown : isBlank first = false) (rest : List Char) :
    skipBlanks (first :: rest) = first :: rest :=
  List.dropWhile_cons_of_neg (by simp [shown])

theorem skipBlanks_append {blanks : List Char} (areBlank : AreBlank blanks) {first : Char}
    (shown : isBlank first = false) (rest : List Char) :
    skipBlanks (blanks ++ first :: rest) = first :: rest := by
  unfold skipBlanks
  rw [List.dropWhile_append_of_pos areBlank]
  exact skipBlanks_of_shown shown rest

theorem isDigit_of_isBlank {character : Char} (blank : isBlank character = true) :
    character.isDigit = false := by
  simp only [isBlank, Bool.or_eq_true, decide_eq_true_eq] at blank
  rcases blank with ((rfl | rfl) | rfl) | rfl <;> rfl

theorem delimits_of_areBlank {blanks : List Char} (areBlank : AreBlank blanks) {mark : Char}
    (notDigit : mark.isDigit = false) (rest : List Char) : Delimits (blanks ++ mark :: rest) := by
  cases blanks with
  | nil =>
      rintro first ⟨⟩
      exact notDigit
  | cons blank blanks =>
      rintro first ⟨⟩
      exact isDigit_of_isBlank (areBlank blank (.head _))

section Items

variable {Item : Type} {item? : List Char → Option (Item × List Char)} {write : Item → List Char}

/-- An item is read after blanks, whatever follows it. -/
def ReadsBack (item? : List Char → Option (Item × List Char)) (write : Item → List Char)
    (item : Item) : Prop :=
  ∀ {before rest : List Char}, AreBlank before → Delimits rest →
    item? (before ++ (write item ++ rest)) = some (item, rest)

/-- A mark that may stand after the last item. -/
structure Closes (closing : Char) : Prop where
  shown : isBlank closing = false
  notDigit : closing.isDigit = false
  notComma : closing ≠ ','

variable {closing : Char} {fuel : Nat} {text : List Char} {item : Item}

theorem items?_last (closes : Closes closing) {blanks rest : List Char}
    (areBlank : AreBlank blanks) (read : item? text = some (item, blanks ++ closing :: rest)) :
    items? item? closing (fuel + 1) text = some ([item], rest) := by
  rw [items?, read]
  simp only [Option.bind_eq_bind, Option.bind_some, skipBlanks_append areBlank closes.shown,
    if_true]

theorem items?_more (closes : Closes closing) {rest : List Char}
    (read : item? text = some (item, ',' :: rest)) :
    items? item? closing (fuel + 1) text =
      (items? item? closing fuel rest).map fun read => (item :: read.1, read.2) := by
  have comma : skipBlanks (',' :: rest) = ',' :: rest := rfl
  rw [items?, read]
  simp only [Option.bind_eq_bind, Option.bind_some, comma, if_neg closes.notComma.symm, if_true]

/-- Items that are written with commas between them are read one after the other. -/
theorem items?_intercalate (closes : Closes closing) {between after : List Char}
    (blankBetween : AreBlank between) (blankAfter : AreBlank after)
    {items : List Item} (present : items ≠ [])
    (each : ∀ item ∈ items, ReadsBack item? write item)
    (enough : items.length ≤ fuel) {before : List Char} (blankBefore : AreBlank before)
    (rest : List Char) :
    items? item? closing fuel (before ++
        ((',' :: between).intercalate (items.map write) ++ (after ++ closing :: rest))) =
      some (items, rest) := by
  induction items generalizing fuel before with
  | nil => exact absurd rfl present
  | cons item items ih =>
      obtain ⟨fuel, rfl⟩ := Nat.exists_eq_add_one.mpr (Nat.lt_of_lt_of_le (Nat.succ_pos _) enough)
      obtain ⟨first, others⟩ := List.forall_mem_cons.mp each
      cases items with
      | nil =>
          rw [List.map_singleton, List.intercalate_singleton]
          exact items?_last closes blankAfter
            (first blankBefore (delimits_of_areBlank blankAfter closes.notDigit rest))
      | cons next items =>
          -- The blanks after the comma are those before the next item.
          have comma : Delimits (',' :: (between ++
              ((',' :: between).intercalate ((next :: items).map write) ++
                (after ++ closing :: rest)))) := by
            rintro mark ⟨⟩
            rfl
          have read := first blankBefore comma
          rw [List.map_cons, List.map_cons, List.intercalate_cons_cons, List.append_assoc,
            List.append_assoc, List.cons_append, ← List.map_cons]
          rw [items?_more closes read,
            ih (List.cons_ne_nil _ _) others (Nat.le_of_succ_le_succ enough) blankBetween]
          rfl

/-- A text begins with a character that is neither blank nor the closing mark. -/
def Opens (closing : Char) (text : List Char) : Prop :=
  ∃ first rest, text = first :: rest ∧ isBlank first = false ∧ first ≠ closing

theorem enclosed?_intercalate (closes : Closes closing) {start between after : List Char}
    (blankStart : AreBlank start) (blankBetween : AreBlank between) (blankAfter : AreBlank after)
    {items : List Item} (present : items ≠ [])
    (each : ∀ item ∈ items, ReadsBack item? write item)
    (opens : ∀ item ∈ items, Opens closing (write item)) (enough : items.length ≤ fuel)
    (rest : List Char) :
    enclosed? item? closing fuel (start ++
        ((',' :: between).intercalate (items.map write) ++ (after ++ closing :: rest))) =
      some (items, rest) := by
  have whole := items?_intercalate closes blankBetween blankAfter present each enough blankStart rest
  cases items with
  | nil => exact absurd rfl present
  | cons item items =>
      obtain ⟨first, more, starts, shown, notClosing⟩ := opens item (.head _)
      obtain ⟨tail, begins⟩ : ∃ tail,
          (',' :: between).intercalate ((item :: items).map write) = first :: tail := by
        cases items with
        | nil =>
            rw [List.map_singleton, List.intercalate_singleton]
            exact ⟨more, starts⟩
        | cons next items =>
            rw [List.map_cons, List.map_cons, List.intercalate_cons_cons, starts, List.append_assoc]
            exact ⟨_, List.cons_append⟩
      rw [begins, List.cons_append] at whole ⊢
      unfold enclosed?
      rw [skipBlanks_append blankStart shown]
      exact (if_neg notClosing).trans whole

end Items

/-! ## Layouts -/

/-- A layout that has nothing but blanks besides a comma or a colon. -/
structure Separates (layout : Document.Layout) : Prop where
  separator : ∃ blanks, AreBlank blanks ∧ layout.separator.toList = ',' :: blanks
  colon : ∃ blanks, AreBlank blanks ∧ layout.colon.toList = ':' :: blanks

theorem separates_indented : Separates .indented where
  separator := ⟨[], List.forall_mem_nil _, rfl⟩
  colon := ⟨[' '], List.forall_mem_singleton.mpr rfl, rfl⟩

variable {layout : Document.Layout}

theorem areBlank_lineBreak (layout : Document.Layout) (level : Nat) :
    AreBlank (layout.lineBreak level).toList := by
  unfold Document.Layout.lineBreak
  cases layout.indent with
  | none => exact fun _ inside => nomatch inside
  | some columns =>
      simp only [String.toList_append, String.toList_ofList]
      intro character inside
      rcases List.mem_append.mp inside with newline | column
      · rw [List.mem_singleton.mp newline]
        rfl
      · rw [List.eq_of_mem_replicate column]
        rfl

/-- The characters of items after the opening mark. -/
def enclosedText (layout : Document.Layout) (level : Nat) (closing : Char)
    (items : List (List Char)) : List Char :=
  if items = [] then [closing]
  else
    (layout.lineBreak (level + 1)).toList ++
      ((layout.separator.toList ++ (layout.lineBreak (level + 1)).toList).intercalate items ++
        ((layout.lineBreak level).toList ++ [closing]))

theorem toList_enclose (layout : Document.Layout) (level : Nat) (opening closing : Char)
    (items : List String) :
    (layout.enclose level (String.singleton opening) (String.singleton closing) items).toList =
      opening :: enclosedText layout level closing (items.map String.toList) := by
  unfold Document.Layout.enclose enclosedText
  cases items with
  | nil => simp
  | cons item items =>
      rw [if_neg (by simp), if_neg (by simp)]
      simp only [String.toList_append, String.toList_intercalate, String.toList_singleton,
        List.append_assoc, List.cons_append, List.nil_append]

theorem length_le_intercalate (separator : List Char) (parts : List (List Char)) :
    ∀ part ∈ parts, part.length ≤ (separator.intercalate parts).length := by
  induction parts with
  | nil => exact fun _ inside => nomatch inside
  | cons first rest ih =>
      cases rest with
      | nil => simp
      | cons second rest =>
          rw [List.intercalate_cons_cons]
          refine List.forall_mem_cons.mpr ⟨?_, fun part inside => ?_⟩
          · simp
          · have within := ih part inside
            rw [List.length_append]
            omega

theorem length_parts_le (separator : List Char) (present : separator ≠ [])
    (parts : List (List Char)) : parts.length ≤ (separator.intercalate parts).length + 1 := by
  induction parts with
  | nil => simp
  | cons first rest ih =>
      cases rest with
      | nil => simp
      | cons second rest =>
          have positive := List.length_pos_iff.mpr present
          rw [List.intercalate_cons_cons, List.length_append, List.length_append]
          rw [List.length_cons]
          omega

theorem length_le_enclosedText (separates : Separates layout) (level : Nat) (closing : Char)
    (items : List (List Char)) :
    items.length ≤ (enclosedText layout level closing items).length ∧
      ∀ item ∈ items, item.length ≤ (enclosedText layout level closing items).length := by
  obtain ⟨blanks, -, separator⟩ := separates.separator
  unfold enclosedText
  split
  · next none => simp [none]
  · have counted := length_parts_le
      (layout.separator.toList ++ (layout.lineBreak (level + 1)).toList) (by simp [separator]) items
    have each := length_le_intercalate
      (layout.separator.toList ++ (layout.lineBreak (level + 1)).toList) items
    simp only [List.length_append, List.length_singleton]
    refine ⟨by omega, fun item inside => ?_⟩
    have within := each item inside
    omega

theorem enclosed?_enclosedText {Item : Type} {item? : List Char → Option (Item × List Char)}
    {write : Item → List Char} {closing : Char} {fuel : Nat} (separates : Separates layout)
    (closes : Closes closing) {items : List Item}
    (each : ∀ item ∈ items, ReadsBack item? write item)
    (opens : ∀ item ∈ items, Opens closing (write item)) (enough : items.length ≤ fuel)
    (level : Nat) (rest : List Char) :
    enclosed? item? closing fuel (enclosedText layout level closing (items.map write) ++ rest) =
      some (items, rest) := by
  unfold enclosedText
  cases items with
  | nil =>
      have first : skipBlanks (closing :: rest) = closing :: rest :=
        skipBlanks_of_shown closes.shown rest
      rw [List.map_nil, if_pos rfl, List.singleton_append]
      unfold enclosed?
      rw [first]
      exact if_pos rfl
  | cons item items =>
      obtain ⟨blanks, areBlank, separator⟩ := separates.separator
      have between : AreBlank (blanks ++ (layout.lineBreak (level + 1)).toList) := by
        intro character inside
        exact (List.mem_append.mp inside).elim (areBlank character)
          (areBlank_lineBreak layout _ character)
      rw [if_neg (by simp), separator]
      simp only [List.append_assoc, List.cons_append, List.nil_append]
      exact enclosed?_intercalate closes (areBlank_lineBreak layout _) between
        (areBlank_lineBreak layout _) (List.cons_ne_nil _ _) each opens enough rest

/-! ## Documents -/

/-- A document of what JSON can write but for numbers in floating point, whose texts and whole
numbers all have a property. -/
inductive Consists (isText : String → Prop) (isWhole : Int → Prop) : Document → Prop
  | null : Consists isText isWhole .null
  | bool (value : Bool) : Consists isText isWhole (.bool value)
  | int {value : Int} (whole : isWhole value) : Consists isText isWhole (.int value)
  | text {value : String} (text : isText value) : Consists isText isWhole (.text value)
  | list {items : List Document} (each : ∀ item ∈ items, Consists isText isWhole item) :
      Consists isText isWhole (.list items)
  | object {fields : List (String × Document)} (distinct : (fields.map Prod.fst).Nodup)
      (names : ∀ field ∈ fields, isText field.1)
      (each : ∀ field ∈ fields, Consists isText isWhole field.2) :
      Consists isText isWhole (.object fields)

/-- A text that is read as it is written: it has no lone first half of a surrogate pair
directly before a lone second half. -/
def IsReadable (text : String) : Prop :=
  KeepsPairs (codes text)

instance : DecidablePred IsReadable :=
  fun text => inferInstanceAs (Decidable (KeepsPairs (codes text)))

theorem ofFields_of_nodup {fields : List (String × Document)}
    (distinct : (fields.map Prod.fst).Nodup) : Document.ofFields fields = .object fields := by
  have putNew : ∀ (seen : List (String × Document)) (name : String) (value : Document),
      name ∉ seen.map Prod.fst → Document.putField seen name value = seen ++ [(name, value)] := by
    intro seen name value absent
    induction seen with
    | nil => rfl
    | cons first seen ih =>
        rw [List.map_cons, List.mem_cons, not_or] at absent
        rw [Document.putField, if_neg fun same => absent.1 same.symm, ih absent.2]
        rfl
  have put : ∀ (fields seen : List (String × Document)),
      ((seen ++ fields).map Prod.fst).Nodup →
        fields.foldl (fun seen field => Document.putField seen field.1 field.2) seen =
          seen ++ fields := by
    intro fields
    induction fields with
    | nil => exact fun seen _ => (List.append_nil seen).symm
    | cons field fields ih =>
        intro seen distinct
        have absent : field.1 ∉ seen.map Prod.fst := by
          intro again
          rw [List.map_append, List.nodup_append] at distinct
          exact distinct.2.2 _ again _ (.head _) rfl
        rw [List.foldl_cons, putNew seen field.1 field.2 absent, ih]
        · rw [List.append_assoc]
          rfl
        · rwa [List.append_assoc]
  exact congrArg Document.object (put fields [] distinct)

theorem renderItems_eq_map (layout : Document.Layout) (level : Nat) (items : List Document) :
    Document.renderItems layout level items = items.map (Document.renderAt layout level) := by
  induction items with
  | nil => rfl
  | cons item items ih => exact congrArg (Document.renderAt layout level item :: ·) ih

/-- A field as it is written. -/
def fieldText (layout : Document.Layout) (level : Nat) (field : String × Document) : String :=
  Document.stringLiteral field.1 ++ layout.colon ++ Document.renderAt layout level field.2

theorem renderFields_eq_map (layout : Document.Layout) (level : Nat)
    (fields : List (String × Document)) :
    Document.renderFields layout level fields = fields.map (fieldText layout level) := by
  induction fields with
  | nil => rfl
  | cons field fields ih => exact congrArg (fieldText layout level field :: ·) ih

theorem value?_eq {blanks : List Char} (areBlank : AreBlank blanks) {first : Char}
    (shown : isBlank first = false) (fuel : Nat) (rest : List Char) :
    value? (fuel + 1) (blanks ++ first :: rest) = valueFrom? (value? fuel) fuel first rest := by
  rw [value?, skipBlanks_append areBlank shown]

theorem closes_bracket : Closes ']' where
  shown := rfl
  notDigit := rfl
  notComma := by decide

theorem closes_brace : Closes '\x7d' where
  shown := rfl
  notDigit := rfl
  notComma := by decide

theorem isBlank_of_begins {first : Char} (begins : first = '-' ∨ first.isDigit) :
    isBlank first = false := by
  rcases begins with rfl | isDigit
  · rfl
  · by_contra blank
    rw [isDigit_of_isBlank (Bool.not_eq_false _ ▸ blank)] at isDigit
    cases isDigit

theorem valueFrom?_number {value? : List Char → Option (Document × List Char)} {fuel : Nat}
    {first : Char} (begins : first = '-' ∨ first.isDigit) (rest : List Char) :
    valueFrom? value? fuel first rest =
      (int? (first :: rest)).map fun read => (.int read.1, read.2) := by
  have others : ∀ mark ∈ ['"', '[', '\x7b'], first ≠ mark := by
    rintro mark inside rfl
    simp only [List.mem_cons, List.not_mem_nil, or_false] at inside
    revert begins
    rcases inside with rfl | rfl | rfl <;> decide
  unfold valueFrom?
  rw [if_neg (others '"' (by simp)), if_neg (others '[' (by simp)),
    if_neg (others '\x7b' (by simp)), if_pos begins]

section Characters

variable (layout : Document.Layout) (level : Nat)

/-- The characters of a value. -/
def valueText (document : Document) : List Char :=
  (Document.renderAt layout level document).toList

theorem valueText_null : valueText layout level .null = ['n', 'u', 'l', 'l'] := by
  change "null".toList = _
  rfl

theorem valueText_true : valueText layout level (.bool true) = ['t', 'r', 'u', 'e'] := by
  change "true".toList = _
  rfl

theorem valueText_false : valueText layout level (.bool false) = ['f', 'a', 'l', 's', 'e'] := by
  change "false".toList = _
  rfl

theorem valueText_int (value : Int) :
    valueText layout level (.int value) = (toString value).toList :=
  rfl

theorem valueText_text (value : String) :
    valueText layout level (.text value) = '"' :: (literalBody value ++ ['"']) :=
  toList_stringLiteral value

theorem valueText_list (items : List Document) :
    valueText layout level (.list items) =
      '[' :: enclosedText layout level ']' (items.map (valueText layout (level + 1))) := by
  refine (toList_enclose layout level '[' ']' _).trans ?_
  rw [renderItems_eq_map, List.map_map]
  rfl

theorem valueText_object (fields : List (String × Document)) :
    valueText layout level (.object fields) =
      '\x7b' :: enclosedText layout level '\x7d'
        (fields.map fun field => (fieldText layout (level + 1) field).toList) := by
  refine (toList_enclose layout level '\x7b' '\x7d' _).trans ?_
  rw [renderFields_eq_map, List.map_map]
  rfl

/-- No value begins like the end of a list. -/
theorem opens_valueText {isText : String → Prop} {isWhole : Int → Prop} {document : Document}
    (consists : Consists isText isWhole document) :
    Opens ']' (valueText layout level document) := by
  cases consists with
  | null => exact ⟨'n', _, valueText_null layout level, by decide⟩
  | bool value =>
      cases value with
      | true => exact ⟨'t', _, valueText_true layout level, by decide⟩
      | false => exact ⟨'f', _, valueText_false layout level, by decide⟩
  | @int value whole =>
      obtain ⟨first, rest, spelled, begins⟩ := toList_toString_int value
      refine ⟨first, rest, (valueText_int layout level value).trans spelled, ?_, ?_⟩
      · exact isBlank_of_begins begins
      · rintro rfl
        revert begins
        decide
  | @text value text => exact ⟨'"', _, valueText_text layout level value, by decide⟩
  | @list items each => exact ⟨'[', _, valueText_list layout level items, by decide⟩
  | @object fields distinct names each =>
      exact ⟨'\x7b', _, valueText_object layout level fields, by decide⟩

end Characters

/-- It is enough to read what follows the first character of a value. -/
theorem readsBack_of_valueFrom {document : Document} {level fuel : Nat} {first : Char}
    {more : List Char} (spelled : valueText layout level document = first :: more)
    (shown : isBlank first = false)
    (enough : (valueText layout level document).length ≤ fuel)
    (step : ∀ {fuel : Nat} {rest : List Char}, more.length ≤ fuel → Delimits rest →
      valueFrom? (value? fuel) fuel first (more ++ rest) = some (document, rest)) :
    ReadsBack (value? fuel) (valueText layout level) document := by
  intro before rest areBlank delimits
  rw [spelled] at enough ⊢
  obtain ⟨fuel, rfl⟩ := Nat.exists_eq_add_one.mpr (Nat.lt_of_lt_of_le (Nat.succ_pos _) enough)
  rw [List.cons_append, value?_eq areBlank shown]
  exact step (Nat.le_of_succ_le_succ enough) delimits

/-- A field is read as it is written if its value is. -/
theorem readsBack_field {value? : List Char → Option (Document × List Char)} {level : Nat}
    (separates : Separates layout) {field : String × Document}
    (name : IsReadable field.1) (readsBack : ReadsBack value? (valueText layout level) field.2) :
    ReadsBack (field? value?) (fun field => (fieldText layout level field).toList) field := by
  intro before rest areBlank delimits
  obtain ⟨blanks, blanksAreBlank, colon⟩ := separates.colon
  have spelled : (fieldText layout level field).toList ++ rest =
      '"' :: (literalBody field.1 ++
        '"' :: ':' :: (blanks ++ (valueText layout level field.2 ++ rest))) := by
    unfold fieldText valueText
    simp only [String.toList_append, toList_stringLiteral, colon, List.append_assoc,
      List.cons_append, List.nil_append]
  beta_reduce
  rw [spelled]
  unfold field?
  rw [skipBlanks_append areBlank (by decide)]
  simp only [text?_literalBody name, Option.bind_eq_bind, Option.bind_some]
  rw [skipBlanks_of_shown (by decide)]
  simp only [readsBack blanksAreBlank delimits, Option.map_some]

/-- A document is read as it is written, at every level, with fuel for its length. -/
def IsRead (layout : Document.Layout) (document : Document) : Prop :=
  ∀ {level fuel : Nat}, (valueText layout level document).length ≤ fuel →
    ReadsBack (value? fuel) (valueText layout level) document

theorem isRead_list (separates : Separates layout) {items : List Document}
    (nested : ∀ item ∈ items, IsRead layout item)
    (opens : ∀ item ∈ items, ∀ level, Opens ']' (valueText layout level item)) :
    IsRead layout (.list items) := by
  intro level fuel enough
  refine readsBack_of_valueFrom (valueText_list layout level items) (by decide) enough
    fun {fuel rest} within _ => ?_
  obtain ⟨counted, short⟩ := length_le_enclosedText separates level ']'
    (items.map (valueText layout (level + 1)))
  rw [List.length_map] at counted
  have each : ∀ item ∈ items, ReadsBack (value? fuel) (valueText layout (level + 1)) item :=
    fun item inside => nested item inside ((short _ (List.mem_map_of_mem inside)).trans within)
  change (enclosed? (value? fuel) ']' fuel _).map _ = _
  rw [enclosed?_enclosedText separates closes_bracket each
    (fun item inside => opens item inside (level + 1)) (counted.trans within)]
  rfl

theorem isRead_object (separates : Separates layout) {fields : List (String × Document)}
    (distinct : (fields.map Prod.fst).Nodup) (names : ∀ field ∈ fields, IsReadable field.1)
    (nested : ∀ field ∈ fields, IsRead layout field.2) : IsRead layout (.object fields) := by
  intro level fuel enough
  refine readsBack_of_valueFrom (valueText_object layout level fields) (by decide) enough
    fun {fuel rest} within _ => ?_
  obtain ⟨counted, short⟩ := length_le_enclosedText separates level '\x7d'
    (fields.map fun field => (fieldText layout (level + 1) field).toList)
  rw [List.length_map] at counted
  have each : ∀ field ∈ fields, ReadsBack (field? (value? fuel))
      (fun field => (fieldText layout (level + 1) field).toList) field := by
    intro field inside
    refine readsBack_field separates (names field inside) (nested field inside ?_)
    have whole := (short _ (List.mem_map_of_mem inside)).trans within
    unfold fieldText at whole
    rw [String.toList_append, List.length_append] at whole
    exact Nat.le_of_add_left_le whole
  have opens : ∀ field ∈ fields, Opens '\x7d' (fieldText layout (level + 1) field).toList := by
    intro field _
    unfold fieldText
    rw [String.toList_append, String.toList_append, toList_stringLiteral]
    exact ⟨'"', _, rfl, by decide⟩
  change (enclosed? (field? (value? fuel)) '\x7d' fuel _).map _ = _
  rw [enclosed?_enclosedText separates closes_brace each opens (counted.trans within)]
  change some (Document.ofFields fields, rest) = _
  rw [ofFields_of_nodup distinct]

/-- A document whose texts are read as they are written is. -/
theorem isRead_of_readable {isWhole : Int → Prop} {document : Document}
    (readable : Consists IsReadable isWhole document) (separates : Separates layout) :
    IsRead layout document := by
  -- The level and the fuel differ from value to nested value, so they come after the induction.
  induction readable with
  | null =>
      intro level fuel enough
      exact readsBack_of_valueFrom (valueText_null layout level) (by decide) enough fun _ _ => rfl
  | bool value =>
      intro level fuel enough
      cases value with
      | true =>
          exact readsBack_of_valueFrom (valueText_true layout level) (by decide) enough
            fun _ _ => rfl
      | false =>
          exact readsBack_of_valueFrom (valueText_false layout level) (by decide) enough
            fun _ _ => rfl
  | @int value whole =>
      intro level fuel enough
      obtain ⟨first, more, spelled, begins⟩ := toList_toString_int value
      refine readsBack_of_valueFrom ((valueText_int layout level value).trans spelled)
        (isBlank_of_begins begins) enough fun {fuel rest} _ delimits => ?_
      rw [valueFrom?_number begins, ← List.cons_append, ← spelled, int?_toString value delimits]
      rfl
  | @text value text =>
      intro level fuel enough
      refine readsBack_of_valueFrom (valueText_text layout level value) (by decide) enough
        fun {fuel rest} _ _ => ?_
      rw [List.append_assoc]
      change (text? (literalBody value ++ '"' :: rest)).map _ = _
      rw [text?_literalBody text]
      rfl
  | list each ih =>
      exact isRead_list separates ih fun item inside level =>
        opens_valueText layout level (each item inside)
  | object distinct names each ih => exact isRead_object separates distinct names ih

/-- The text of a document denotes the document. -/
theorem read?_render {isWhole : Int → Prop} {document : Document}
    (readable : Consists IsReadable isWhole document) (separates : Separates layout) :
    read? (document.render layout) = some document := by
  have nothing : Delimits [] := fun _ inside => nomatch inside
  have whole : value? (valueText layout 0 document).length
      ([] ++ (valueText layout 0 document ++ [])) = some (document, []) :=
    isRead_of_readable readable separates (Nat.le_refl _) (List.forall_mem_nil _) nothing
  rw [List.nil_append, List.append_nil] at whole
  unfold read? Document.render
  change (value? (valueText layout 0 document).length (valueText layout 0 document)).bind _ = _
  rw [whole]
  rfl

/-- The whole numbers of a document are those that it consists of. -/
theorem isWhole_of_mem_wholes {isText : String → Prop} {isWhole : Int → Prop}
    {document : Document} (consists : Consists isText isWhole document) :
    ∀ value ∈ document.wholes, isWhole value := by
  have list : ∀ {items : List Document}, (∀ item ∈ items, ∀ value ∈ item.wholes, isWhole value) →
      ∀ value ∈ Document.wholesOfItems items, isWhole value := by
    intro items each
    induction items with
    | nil => simp [Document.wholesOfItems]
    | cons item items ih =>
        obtain ⟨first, others⟩ := List.forall_mem_cons.mp each
        rw [Document.wholesOfItems]
        exact List.forall_mem_append.mpr ⟨first, ih others⟩
  have object : ∀ {fields : List (String × Document)},
      (∀ field ∈ fields, ∀ value ∈ field.2.wholes, isWhole value) →
      ∀ value ∈ Document.wholesOfFields fields, isWhole value := by
    intro fields each
    induction fields with
    | nil => simp [Document.wholesOfFields]
    | cons field fields ih =>
        obtain ⟨first, others⟩ := List.forall_mem_cons.mp each
        rw [Document.wholesOfFields]
        exact List.forall_mem_append.mpr ⟨first, ih others⟩
  induction consists with
  | null => simp [Document.wholes]
  | bool value => simp [Document.wholes]
  | int whole => simpa [Document.wholes] using whole
  | text text => simp [Document.wholes]
  | list each ih =>
      rw [Document.wholes]
      exact list ih
  | object distinct names each ih =>
      rw [Document.wholes]
      exact object ih

/-- A document whose whole numbers can be written can be written. -/
theorem isWritable_of_consists {isText : String → Prop} {document : Document}
    (consists : Consists isText (fun value => Text.isWritable value = true) document) :
    document.isWritable = true :=
  List.all_eq_true.mpr (isWhole_of_mem_wholes consists)

end DepositYield.Json
