import ParserCombinators.Lexical.Classes
import ParserCombinators.Lexical.Integer
import ParserCombinators.Lexical.QuotedString
import ParserCombinators.Proofs.ClassSources
import ParserCombinators.Proofs.Numerals

/-!
The patterns inside the supplied parsers. Each of them compiles, so that none of these parsers
stands broken in a grammar, and all of them but that of floats are a class, or a greedy loop over
one; here it is said which code points are its members. Beside the patterns of strings stand their
marks, and the chunks that they are joined from.
-/

namespace ParserCombinators.Lexical

open ParserCombinators.Parser ParserCombinators.Regex

variable {ν : Type}

theorem ofExcept_regex {source : Text} {flags : Flags} {pattern : Pattern}
    (h : Pattern.compile source flags = .ok pattern) :
    Parser.ofExcept (Parser.regex source flags) = (ofPattern pattern : Parser ν) := by
  rw [Parser.regex, h]
  rfl

section Sets

/-- ASCII decimal digits. -/
def digitSet : CharSet := ⟨[.range 48 57], false, .exact⟩

theorem has_digitSet (c : Nat) : digitSet.has c = Digit.isDecimal c := by
  simp [digitSet, CharSet.has, SetItem.has, Fold.variants, Digit.isDecimal]

/-- White space within a line. -/
def isBlank (c : Nat) : Bool := [32, 9, 12, 11].contains c

def blankSet : CharSet := ⟨[.range 32 32, .range 9 9, .range 12 12, .range 11 11], false, .exact⟩

theorem has_blankSet (c : Nat) : blankSet.has c = isBlank c :=
  (has_membersSet false [32, 9, 12, 11] c).trans (Bool.bne_false _)

def hexadecimalSet : CharSet := ⟨[.range 48 57, .range 97 102, .range 65 70], false, .exact⟩

theorem has_hexadecimalSet (c : Nat) : hexadecimalSet.has c = Digit.isHexadecimal c := by
  rw [Bool.eq_iff_iff]
  simp only [hexadecimalSet, CharSet.has, SetItem.has, Fold.variants, List.any_cons, List.any_nil,
    Bool.or_false, Bool.bne_false, Bool.or_eq_true, Bool.and_eq_true, decide_eq_true_eq,
    Digit.isHexadecimal, Digit.isDecimal]
  omega

end Sets

section CodeUnits

/-- Four hexadecimal digits. -/
def codeUnitPattern : Pattern where
  source := Text.ofString "[0-9a-fA-F]\x7b4\x7d"
  flags := { unicode := true }
  root := .loop 4 (some 4) .greedy (.one hexadecimalSet)

theorem compile_codeUnitPattern :
    Pattern.compile codeUnitPattern.source .none = .ok codeUnitPattern :=
  eq_ok_of_toOption (by decide +kernel)

/-- The parser of a code unit, up to the wording of its failure. -/
theorem exists_codeUnit_eq : ∃ wording : Option Text → Nat → Text,
    (codeUnit : Parser ν) = .map (.mapError (ofPattern codeUnitPattern) wording) characterOf := by
  have hpattern : Parser.ofExcept (Parser.regex (Text.ofString "[0-9a-fA-F]\x7b4\x7d") .none) =
      (ofPattern codeUnitPattern : Parser ν) := ofExcept_regex compile_codeUnitPattern
  rw [codeUnit, hpattern]
  exact ⟨_, rfl⟩

variable {digits : Text}

theorem number_le_of_four (h : Numeral.AreDigits 16 digits) (hlength : digits.length = 4) :
    Digit.number 16 digits ≤ 0xFFFF := by
  match digits, hlength with
  | [a, b, c, d], _ =>
      have ha := (h a (by simp)).2
      have hb := (h b (by simp)).2
      have hc := (h c (by simp)).2
      have hd := (h d (by simp)).2
      simp only [Digit.number, List.foldl_cons, List.foldl_nil]
      omega

/-- The conversion is defined on four hexadecimal digits, since they write no number beyond the
last code point. -/
theorem characterOf_digits (h : ∀ c ∈ digits, Digit.isHexadecimal c = true)
    (hlength : digits.length = 4) :
    characterOf (.text digits) = .ok (.text [Digit.number 16 digits]) := by
  have hdigits := Numeral.areDigits_of_isHexadecimal h
  have hnonempty : digits ≠ [] := by
    rintro rfl
    cases hlength
  have hread : Numeral.read 16 digits = .ok (Digit.number 16 digits) := by
    rw [Numeral.read_digits hnonempty hdigits]
    rfl
  have hbound := number_le_of_four hdigits hlength
  simp only [characterOf, hread]
  rw [if_pos (by omega)]
  rfl

end CodeUnits

section Strings

/-- Any code point, line breaks included. -/
def anyPattern : Pattern where
  source := Text.ofString "."
  flags := { dotAll := true, unicode := true }
  root := .one (.dot true)

theorem compile_anyPattern :
    Pattern.compile anyPattern.source { dotAll := true } = .ok anyPattern :=
  eq_ok_of_toOption (by decide +kernel)

theorem exists_anyCharacter_eq (quoting : Quoting ν) : ∃ wording : Option Text → Nat → Text,
    quoting.anyCharacter = .mapError (ofPattern anyPattern) wording := by
  have hpattern : Parser.ofExcept (Parser.regex (Text.ofString ".") { dotAll := true }) =
      (ofPattern anyPattern : Parser ν) := ofExcept_regex compile_anyPattern
  rw [Quoting.anyCharacter, hpattern]
  exact ⟨_, rfl⟩

theorem join_nil : ∀ texts : List Text, Text.join [] texts = texts.flatten
  | [] => rfl
  | [text] => by simp [Text.join]
  | first :: second :: texts => congrArg (first ++ ·) (join_nil (second :: texts))

/-- A list that holds nothing but texts is joined. -/
theorem joinTexts_texts (texts : List Text) :
    Parser.joinTexts (.list (texts.map .text)) = .ok (.text texts.flatten) := by
  have htexts : (texts.map Value.text).mapM Value.text? = some texts := by
    induction texts with
    | nil => rfl
    | cons text texts ih => simp [List.mapM_cons, Value.text?, ih]
  have hjoin : (Value.list (texts.map .text)).join? [] = some (.text (Text.join [] texts)) := by
    simp [Value.join?, Value.items?, htexts]
  rw [Parser.joinTexts, hjoin, join_nil]

/-- A list that holds anything else is not. -/
theorem joinTexts_of_not_text {items : List Value} {value : Value} (hvalue : value ∈ items)
    (hnone : value.text? = none) : Parser.joinTexts (.list items) = .error .notText := by
  have htexts : items.mapM Value.text? = none := by
    induction items with
    | nil => cases hvalue
    | cons item items ih =>
        rcases List.mem_cons.mp hvalue with rfl | hlater
        · simp [List.mapM_cons, hnone]
        · cases hitem : item.text? <;> simp [List.mapM_cons, hitem, ih hlater]
  have hjoin : (Value.list items).join? [] = none := by
    simp [Value.join?, Value.items?, htexts]
  rw [Parser.joinTexts, hjoin]

/-- A string ends with the text of its chunks. -/
theorem step_closed (quoting : Quoting ν) (texts : List Text) :
    quoting.step (.closed (texts.map .text)) = .finish (.text texts.reverse.flatten) := by
  have hjoined := joinTexts_texts texts.reverse
  rw [List.map_reverse] at hjoined
  simp only [Quoting.step, hjoined]

theorem step_closed_raises (quoting : Quoting ν) {chunks : List Value} {value : Value}
    (hvalue : value ∈ chunks) (hnone : value.text? = none) :
    quoting.step (.closed chunks) = .raise .notText := by
  have hjoined := joinTexts_of_not_text (List.mem_reverse.mpr hvalue) hnone
  simp only [Quoting.step, hjoined]

theorem plainSource_eq (quoting : Quoting ν) (quote : Text) :
    quoting.plainSource quote = classSource true (quote ++ quoting.escape) := by
  simp [Quoting.plainSource, classSource, Regex.escape]

/-- Whatever the quote and the escape are, the pattern between them is the class of all other code
points. -/
theorem plainRun_eq (quoting : Quoting ν) {quote : Text} (h : quote ++ quoting.escape ≠ []) :
    quoting.plainRun quote = .optional (ofPattern (classOf true (quote ++ quoting.escape))) := by
  rw [Quoting.plainRun, Quoting.plainText, plainSource_eq,
    ofExcept_regex (compile_classOf h true)]

theorem literalOf_eq {text : Text} (h : text ≠ []) :
    Parser.literalOf text true = .ok (.literal text true : Parser ν) := by
  have hempty : ¬ text.isEmpty := by simpa using h
  rw [Parser.literalOf, if_neg hempty]

theorem ofExcept_literalOf {text : Text} (h : text ≠ []) :
    Parser.ofExcept (Parser.literalOf text true) = (.literal text true : Parser ν) := by
  rw [literalOf_eq h]
  rfl

theorem anyQuote_eq (quoting : Quoting ν) (hnonempty : quoting.quotes ≠ [])
    (hquotes : ∀ quote ∈ quoting.quotes, quote ≠ []) :
    quoting.anyQuote = .choice (quoting.quotes.map fun quote => .literal quote true) := by
  have hliterals (quotes : List Text) (h : ∀ quote ∈ quotes, quote ≠ []) :
      (quotes.mapM fun quote => Parser.literalOf quote true) =
        .ok (quotes.map fun quote => (.literal quote true : Parser ν)) := by
    induction quotes with
    | nil => rfl
    | cons quote quotes ih =>
        rw [List.mapM_cons, literalOf_eq (h quote List.mem_cons_self),
          ih fun other hother => h other (List.mem_cons_of_mem _ hother)]
        rfl
  rw [Quoting.anyQuote, hliterals _ hquotes]
  cases hall : quoting.quotes with
  | nil => exact absurd hall hnonempty
  | cons quote quotes => rfl

end Strings

section Integers

theorem radix_run_eq (radix : Radix) :
    (radix.run : Parser ν) = ofPattern (classOf false (Text.ofString radix.digits)) := by
  have hordered : (Text.ofString radix.digits).mergeSort = Text.ofString radix.digits :=
    List.mergeSort_of_pairwise (by cases radix <;> decide)
  have hsource : digitRunSource (Text.ofString radix.digits) =
      classSource false (Text.ofString radix.digits) := by
    rw [digitRunSource, hordered]
    cases radix <;> decide
  have hmembers : Text.ofString radix.digits ≠ [] := by cases radix <;> decide
  rw [Radix.run, digitRun, hsource, ofExcept_regex (compile_classOf hmembers false)]

/-- The digits of a radix are a longest run of the class, as the wording of its failure changes no
success. -/
theorem radix_body_cases (radix : Radix) : (radix.body : Parser ν) = radix.run ∨
    ∃ wording, (radix.body : Parser ν) = .mapError radix.run wording := by
  cases radix
  · exact Or.inr ⟨_, rfl⟩
  · exact Or.inr ⟨_, rfl⟩
  · exact Or.inl rfl
  · exact Or.inr ⟨_, rfl⟩

/-- An ASCII digit of the radix, in either case. -/
def Radix.isDigit (radix : Radix) (c : Nat) : Bool :=
  Digit.isHexadecimal c && Digit.value c < radix.base

theorem areDigits_iff {radix : Radix} {digits : Text} :
    Numeral.AreDigits radix.base digits ↔ ∀ c ∈ digits, radix.isDigit c = true := by
  simp only [Numeral.AreDigits, Radix.isDigit, Bool.and_eq_true, decide_eq_true_eq]

theorem isDigit_decimal (c : Nat) : Radix.decimal.isDigit c = Digit.isDecimal c := by
  have hdigit : Numeral.AreDigits Radix.decimal.base [c] ↔ _ := Numeral.areDigits_ten_iff
  rw [areDigits_iff, List.forall_mem_singleton, List.forall_mem_singleton] at hdigit
  exact Bool.eq_iff_iff.mpr hdigit

theorem has_radixSet (radix : Radix) (c : Nat) :
    (membersSet false (Text.ofString radix.digits)).has c = radix.isDigit c := by
  have hdigits : ∀ c ∈ Text.ofString radix.digits, radix.isDigit c = true := by
    cases radix <;> decide
  have hall : ∀ c < 128, radix.isDigit c = true → c ∈ Text.ofString radix.digits := by
    cases radix <;> decide
  rw [has_membersSet, Bool.bne_false, Bool.eq_iff_iff, List.contains_iff_mem]
  refine ⟨hdigits c, fun hdigit => hall c (Numeral.lt_of_isHexadecimal ?_) hdigit⟩
  rw [Radix.isDigit, Bool.and_eq_true] at hdigit
  exact hdigit.1

end Integers

end ParserCombinators.Lexical
