import ParserCombinators.Proofs.CaselessLiterals
import ParserCombinators.Proofs.FailurePlaces
import ParserCombinators.Proofs.LexicalPatterns

/-!
The grammar of integers, and the number that is read. What a text begins with settles the sign, the
radix and the digits: a minus or none, a mark or none, and then the longest run of digits. The
parser reads the number that these digits write, or fails where the first of them is missing.
-/

namespace ParserCombinators.Lexical

open ParserCombinators.Parser ParserCombinators.Regex

section Spellings

namespace Radix

/-- The marks that may stand before digits of the radix. Decimal ones have none. -/
def marks : Radix → List Text
  | binary => [Text.ofString "0b"]
  | octal => [Text.ofString "0o"]
  | decimal => [[]]
  | hexadecimal => [Text.ofString "0x", Text.ofString "0X"]

def markLength : Radix → Nat
  | decimal => 0
  | _ => 2

/-- The radix of the mark at the beginning of the text, decimal where there is none. -/
def ahead (text : Text) : Radix :=
  if Text.ofString "0b" <+: text then binary
  else if Text.ofString "0o" <+: text then octal
  else if Text.ofString "0x" <+: text ∨ Text.ofString "0X" <+: text then hexadecimal
  else decimal

end Radix

/-- An integer as it is written, up to the spelling of its mark. -/
structure Spelling where
  negative : Bool
  radix : Radix
  digits : Text

namespace Spelling

def sign (spelling : Spelling) : Text := if spelling.negative then [45] else []

def value (spelling : Spelling) : Int :=
  if spelling.negative then -(Digit.number spelling.radix.base spelling.digits : Int)
  else Digit.number spelling.radix.base spelling.digits

/-- How much stands before the digits. -/
def before (spelling : Spelling) : Nat := spelling.negative.toNat + spelling.radix.markLength

/-- There are digits, and decimal ones are not too many. -/
structure Readable (spelling : Spelling) : Prop where
  nonempty : spelling.digits ≠ []
  few : spelling.radix = .decimal → spelling.digits.length ≤ Numeral.digitLimit

/-- The spelling at the beginning of a text, with as many digits as there are. -/
def ahead (text : Text) : Spelling :=
  let negative := text.head? == some 45
  let unsigned := text.drop negative.toNat
  let radix := Radix.ahead unsigned
  ⟨negative, radix, (unsigned.drop radix.markLength).takeWhile radix.isDigit⟩

/-- The text does not go on with the spelling. After a single decimal zero it is not the letter of a
mark that comes next. -/
structure Ends (spelling : Spelling) (tail : Text) : Prop where
  digit : ∀ c ∈ tail.head?, spelling.radix.isDigit c = false
  mark : spelling.radix = .decimal → spelling.digits = [48] →
    ∀ c ∈ tail.head?, c ∉ Text.ofString "boxX"

/-- The state that the parser returns, where it started from the other and has read the spelling. -/
structure ReadInto (spelling : Spelling) (state next : State) : Prop where
  success : next.failed = false
  pos : next.pos = state.pos + spelling.before + spelling.digits.length
  result : next.result = .int spelling.value

end Spelling

end Spellings

section Numerals

variable {radix : Radix} {digits : Text}

/-- The digit of a value, with a small letter. -/
def digitOf (value : Nat) : Nat := if value < 10 then 48 + value else 87 + value

theorem isDigit_digitOf {value : Nat} (h : value < radix.base) :
    radix.isDigit (digitOf value) = true ∧ Digit.value (digitOf value) = value := by
  have hall : ∀ value < radix.base,
      radix.isDigit (digitOf value) = true ∧ Digit.value (digitOf value) = value := by
    cases radix <;> decide
  exact hall value h

/-- Every number is written by digits of the radix. The last one is its remainder. -/
theorem exists_digits (radix : Radix) (n : Nat) :
    ∃ digits, digits ≠ [] ∧ (∀ c ∈ digits, radix.isDigit c = true) ∧
      Digit.number radix.base digits = n := by
  have hbase : 1 < radix.base := by cases radix <;> decide
  induction n using Nat.strong_induction_on with
  | _ n ih =>
      obtain ⟨hdigit, hvalue⟩ :=
        isDigit_digitOf (Nat.mod_lt n (Nat.lt_trans Nat.zero_lt_one hbase))
      by_cases hsmall : n < radix.base
      · refine ⟨[digitOf (n % radix.base)], List.cons_ne_nil _ _, by simpa using hdigit, ?_⟩
        change 0 * radix.base + Digit.value _ = n
        rw [hvalue, Nat.mod_eq_of_lt hsmall, Nat.zero_mul, Nat.zero_add]
      · have hless : n / radix.base < n := Nat.div_lt_self (by omega) hbase
        obtain ⟨digits, -, hdigits, hnumber⟩ := ih (n / radix.base) hless
        refine ⟨digits ++ [digitOf (n % radix.base)], by simp, ?_, ?_⟩
        · intro c hc
          rcases List.mem_append.mp hc with hc | hc
          · exact hdigits c hc
          · rw [List.mem_singleton.mp hc]
            exact hdigit
        · rw [Numeral.number_append, hnumber, hvalue, Nat.mul_comm]
          exact Nat.div_add_mod n radix.base

/-- Every integer is written in every radix, with any number of zeros in front. -/
theorem exists_spelling (n : Int) (radix : Radix) (zeros : Nat) :
    ∃ spelling : Spelling, spelling.radix = radix ∧ spelling.digits ≠ [] ∧
      (∀ c ∈ spelling.digits, radix.isDigit c = true) ∧
      List.replicate zeros 48 <+: spelling.digits ∧ spelling.value = n := by
  obtain ⟨digits, hnonempty, hdigits, hnumber⟩ := exists_digits radix n.natAbs
  have hzero : radix.isDigit 48 = true := by cases radix <;> rfl
  refine ⟨⟨n < 0, radix, List.replicate zeros 48 ++ digits⟩, rfl, by simp [hnonempty], ?_,
    List.prefix_append _ _, ?_⟩
  · intro c hc
    rcases List.mem_append.mp hc with hc | hc
    · rw [List.eq_of_mem_replicate hc]
      exact hzero
    · exact hdigits c hc
  · simp only [Spelling.value, Numeral.number_zeros, hnumber, decide_eq_true_eq]
    split <;> omega

end Numerals

section Front

variable {radix : Radix} {mark digits tail text : Text}

theorem length_of_mem_marks (h : mark ∈ radix.marks) : mark.length = radix.markLength := by
  have hall : ∀ mark ∈ radix.marks, mark.length = radix.markLength := by cases radix <;> decide
  exact hall mark h

/-- Decimal digits are no mark, as no letter is one of them. -/
theorem ahead_decimal (hdigits : ∀ c ∈ digits, Radix.decimal.isDigit c = true)
    (hnonempty : digits ≠ [])
    (htail : digits = [48] → ∀ c ∈ tail.head?, c ∉ Text.ofString "boxX") :
    Radix.ahead (digits ++ tail) = .decimal := by
  have hletters : ∀ letter ∈ Text.ofString "boxX", Radix.decimal.isDigit letter = false := by
    decide
  have hmark (letter : Nat) (hletter : letter ∈ Text.ofString "boxX") :
      ¬ [48, letter] <+: digits ++ tail := by
    rintro ⟨after, hafter⟩
    match digits with
    | [] => exact hnonempty rfl
    | [c] =>
        obtain ⟨rfl, rfl⟩ := List.cons.inj hafter
        exact htail rfl letter rfl hletter
    | c :: d :: digits =>
        obtain ⟨rfl, hrest⟩ := List.cons.inj hafter
        obtain ⟨rfl, -⟩ := List.cons.inj hrest
        have hdigit := hdigits letter (by simp)
        rw [hletters letter hletter] at hdigit
        cases hdigit
  have hbinary : ¬ Text.ofString "0b" <+: digits ++ tail := hmark 98 (by decide)
  have hoctal : ¬ Text.ofString "0o" <+: digits ++ tail := hmark 111 (by decide)
  have hsmall : ¬ Text.ofString "0x" <+: digits ++ tail := hmark 120 (by decide)
  have hcapital : ¬ Text.ofString "0X" <+: digits ++ tail := hmark 88 (by decide)
  rw [Radix.ahead, if_neg hbinary, if_neg hoctal, if_neg (not_or.mpr ⟨hsmall, hcapital⟩)]

/-- A mark stands for its radix. -/
theorem ahead_marked (hradix : radix ≠ .decimal) (hmark : mark ∈ radix.marks) :
    Radix.ahead (mark ++ text) = radix := by
  have hbinary : Radix.ahead (Text.ofString "0b" ++ text) = .binary := by
    simp [Radix.ahead]
  have hoctal : Radix.ahead (Text.ofString "0o" ++ text) = .octal := by
    simp [Radix.ahead, Text.ofString]
  have hsmall : Radix.ahead (Text.ofString "0x" ++ text) = .hexadecimal := by
    simp [Radix.ahead, Text.ofString]
  have hcapital : Radix.ahead (Text.ofString "0X" ++ text) = .hexadecimal := by
    simp [Radix.ahead, Text.ofString]
  cases radix with
  | binary => rwa [List.mem_singleton.mp hmark]
  | octal => rwa [List.mem_singleton.mp hmark]
  | decimal => exact absurd rfl hradix
  | hexadecimal =>
      rcases List.mem_pair.mp hmark with rfl | rfl
      · exact hsmall
      · exact hcapital

/-- Neither a mark nor a digit is a minus. -/
theorem head_ne_minus (hmark : mark ∈ radix.marks)
    (hdigits : ∀ c ∈ digits, radix.isDigit c = true) (hnonempty : digits ≠ []) :
    (mark ++ (digits ++ tail)).head? ≠ some 45 := by
  have hminus : radix.isDigit 45 = false := by cases radix <;> rfl
  have hmarks : ∀ mark ∈ radix.marks, 45 ∉ mark := by cases radix <;> decide
  rw [← List.append_assoc, List.head?_append_of_ne_nil _ (by simp [hnonempty])]
  intro hhead
  rcases List.mem_append.mp (List.mem_of_head? hhead) with hmem | hmem
  · exact hmarks mark hmark hmem
  · exact absurd (hminus.symm.trans (hdigits 45 hmem)) Bool.false_ne_true

theorem ahead_written {spelling : Spelling} (hmark : mark ∈ spelling.radix.marks)
    (hdigits : ∀ c ∈ spelling.digits, spelling.radix.isDigit c = true)
    (hnonempty : spelling.digits ≠ []) (hends : spelling.Ends tail) :
    Spelling.ahead (spelling.sign ++ (mark ++ (spelling.digits ++ tail))) = spelling := by
  obtain ⟨negative, radix, digits⟩ := spelling
  have hradix : Radix.ahead (mark ++ (digits ++ tail)) = radix := by
    by_cases hdecimal : radix = .decimal
    · subst hdecimal
      rw [List.mem_singleton.mp hmark, List.nil_append]
      exact ahead_decimal hdigits hnonempty (hends.mark rfl)
    · exact ahead_marked hdecimal hmark
  have hrun : (digits ++ tail).takeWhile radix.isDigit = digits := by
    rw [List.takeWhile_append_of_pos hdigits]
    cases tail with
    | nil => simp
    | cons c tail => simp [hends.digit c rfl]
  have hspelled (negative : Bool) (text : Text) (hnegative : (text.head? == some 45) = negative)
      (hrest : text.drop negative.toNat = mark ++ (digits ++ tail)) :
      Spelling.ahead text = ⟨negative, radix, digits⟩ := by
    simp only [Spelling.ahead, hnegative, hrest, hradix]
    rw [← length_of_mem_marks hmark, List.drop_left, hrun]
  cases negative with
  | true => exact hspelled true _ rfl rfl
  | false =>
      have hminus : (mark ++ (digits ++ tail)).head? ≠ some 45 :=
        head_ne_minus hmark hdigits hnonempty
      exact hspelled false _ (beq_false_of_ne hminus) rfl

end Front

section Parsing

variable {ν : Type} [DecidableEq ν] {grammar : Grammar ν} {t digits tail : Text} {i : Nat}
  {radix : Radix} {spelling : Spelling}

/-- The machine of integers. -/
def integerMachine : Machine ν Integer.Stage := ⟨.sign, Integer.resume, Integer.step⟩

theorem answers_sign (t : Text) (i : Nat) : ∃ result,
    Answers grammar t Integer.sign i
      (.yields (i + ((t.drop i).head? == some 45).toNat) result) ∧
    (!result.isNull) = ((t.drop i).head? == some 45) := by
  by_cases hminus : (t.drop i).head? = some 45
  · obtain ⟨rest, hrest⟩ := List.head?_eq_some_iff.mp hminus
    rw [hminus]
    exact ⟨_, .optional (.literal_ahead hrest (by decide)), rfl⟩
  · rw [beq_false_of_ne hminus]
    refine ⟨_, .optional_none (.literal_other ?_), rfl⟩
    rintro c hc rfl
    exact hminus hc

/-- The lower case of two characters is the hexadecimal mark where they are one. -/
theorem lower_take_eq_iff {text : Text} :
    Text.lower (text.take 2) = Text.lower (Text.ofString "0x") ↔
      Text.ofString "0x" <+: text ∨ Text.ofString "0X" <+: text := by
  have hlower : Text.lower (Text.ofString "0x") = [48, 120] := by decide +kernel
  rw [hlower, Text.lower_eq_mark_iff, List.prefix_iff_eq_take, List.prefix_iff_eq_take]
  exact or_congr eq_comm eq_comm

theorem answers_mark (t : Text) (i : Nat) : ∃ result,
    Answers grammar t Integer.mark i
      (.yields (i + (Radix.ahead (t.drop i)).markLength) result) ∧
    Radix.ofMark result = Radix.ahead (t.drop i) := by
  unfold Radix.ahead
  split
  next hbinary =>
    obtain ⟨after, hafter⟩ := hbinary
    exact ⟨_, .optional (.choice_first (.literal_ahead hafter.symm (by decide))), rfl⟩
  next hbinary =>
    split
    next hoctal =>
      obtain ⟨after, hafter⟩ := hoctal
      exact ⟨_, .optional (.choice_next (.literal_absent hbinary)
        (.choice_first (.literal_ahead hafter.symm (by decide)))), rfl⟩
    next hoctal =>
      split
      next hhexadecimal =>
        have hcaseless : Answers grammar t (.literal (Text.ofString "0x") false) i _ :=
          .caseless (by decide) (lower_take_eq_iff.mpr hhexadecimal)
        exact ⟨_, .optional (.choice_next (.literal_absent hbinary)
          (.choice_next (.literal_absent hoctal) (.choice_first hcaseless))), rfl⟩
      next hhexadecimal =>
        have hcaseless : Answers grammar t (.literal (Text.ofString "0x") false) i .fails :=
          .caseless_differs fun hlower => hhexadecimal (lower_take_eq_iff.mp hlower)
        have hnone : Answers grammar t (.choice []) i .fails := answers_of_derives (.choice_nil i)
        exact ⟨_, .optional_none (.choice_next (.literal_absent hbinary)
          (.choice_next (.literal_absent hoctal) (.choice_next hcaseless hnone))), rfl⟩

/-- The sign and the mark settle the first two parts of the spelling. -/
theorem exists_front (hahead : Spelling.ahead (t.drop i) = spelling) : ∃ sign mark,
    Answers grammar t Integer.sign i (.yields (i + spelling.negative.toNat) sign) ∧
    (!sign.isNull) = spelling.negative ∧
    Answers grammar t Integer.mark (i + spelling.negative.toNat)
      (.yields (i + spelling.before) mark) ∧
    Radix.ofMark mark = spelling.radix := by
  subst hahead
  obtain ⟨sign, hsign, hnegative⟩ := @answers_sign ν _ grammar t i
  obtain ⟨mark, hmark, hradix⟩ := @answers_mark ν _ grammar t
    (i + ((t.drop i).head? == some 45).toNat)
  rw [← List.drop_drop, Nat.add_assoc] at hmark
  rw [← List.drop_drop] at hradix
  exact ⟨sign, mark, hsign, hnegative, hmark, hradix⟩

/-- The digits stand after the sign and the mark, and no other digit follows them. -/
theorem exists_tail (hahead : Spelling.ahead (t.drop i) = spelling) : ∃ tail,
    t.drop (i + spelling.before) = spelling.digits ++ tail ∧
      (∀ c ∈ spelling.digits, spelling.radix.isDigit c = true) ∧
      ∀ c ∈ tail.head?, spelling.radix.isDigit c = false := by
  subst hahead
  have hsplit (isDigit : Nat → Bool) (text : Text) : ∃ tail,
      text = text.takeWhile isDigit ++ tail ∧
        (∀ c ∈ text.takeWhile isDigit, isDigit c = true) ∧
        ∀ c ∈ tail.head?, isDigit c = false := by
    refine ⟨text.dropWhile isDigit, List.takeWhile_append_dropWhile.symm,
      fun c => List.mem_takeWhile_imp, fun c hc => ?_⟩
    have hfirst := List.head?_dropWhile_not isDigit text
    rwa [hc] at hfirst
  rw [Spelling.before, ← Nat.add_assoc, ← List.drop_drop, ← List.drop_drop]
  exact hsplit _ _

theorem answers_digits (hahead : Spelling.ahead (t.drop i) = spelling)
    (hnonempty : spelling.digits ≠ []) :
    Answers grammar t spelling.radix.body (i + spelling.before)
      (.yields (i + spelling.before + spelling.digits.length) (.text spelling.digits)) := by
  obtain ⟨tail, hrest, hdigits, htail⟩ := exists_tail hahead
  have hrun : Answers grammar t spelling.radix.run (i + spelling.before)
      (.yields (i + spelling.before + spelling.digits.length) (.text spelling.digits)) := by
    rw [radix_run_eq]
    exact .class_run rfl hrest (fun c hc => (has_radixSet _ c).trans (hdigits c hc)) hnonempty
      (List.length_pos_iff.mpr hnonempty) fun c hc => (has_radixSet _ c).trans (htail c hc)
  rcases @radix_body_cases ν spelling.radix with heq | ⟨wording, heq⟩ <;> rw [heq]
  · exact hrun
  · exact hrun.mapError wording

theorem stops_digits (hahead : Spelling.ahead (t.drop i) = spelling)
    (hnone : spelling.digits = []) :
    Stops grammar t spelling.radix.body (i + spelling.before) (i + spelling.before)
      (if t.drop (i + spelling.before) = [] then .endOfInput else .noMatch) := by
  obtain ⟨tail, hrest, -, htail⟩ := exists_tail hahead
  rw [hnone, List.nil_append] at hrest
  have hrun : Stops grammar t spelling.radix.run (i + spelling.before) (i + spelling.before)
      (if t.drop (i + spelling.before) = [] then .endOfInput else .noMatch) := by
    rw [radix_run_eq]
    refine .pattern_none ?_
    have hempty : (membersSet false (Text.ofString spelling.radix.digits)).run none
        (t.drop (i + spelling.before)) = [] := by
      rw [hrest, ← List.nil_append tail]
      exact CharSet.run_append (by simp) fun c hc => (has_radixSet _ c).trans (htail c hc)
    rw [Pattern.matchAt?_class rfl (by simp), hempty]
    rfl
  rcases @radix_body_cases ν spelling.radix with heq | ⟨wording, heq⟩ <;> rw [heq]
  · exact hrun
  · exact hrun.mapError wording

omit [DecidableEq ν] in
/-- Digits that are not too many are read as the number that they write. -/
theorem step_read (hreadable : spelling.Readable)
    (hdigits : ∀ c ∈ spelling.digits, spelling.radix.isDigit c = true) :
    Integer.step (.read spelling.negative spelling.radix (.text spelling.digits)) =
      (.finish (.int spelling.value) : Step ν) := by
  have hlimit : (Numeral.isLimited spelling.radix.base &&
      Numeral.digitLimit < spelling.digits.length) = false := by
    rw [Bool.and_eq_false_iff, decide_eq_false_iff_not, Nat.not_lt]
    cases hradix : spelling.radix with
    | decimal => exact .inr (hreadable.few hradix)
    | _ => exact .inl rfl
  have hread := Numeral.read_digits hreadable.nonempty (areDigits_iff.mpr hdigits)
  rw [hlimit, if_neg Bool.false_ne_true] at hread
  simp only [Integer.step, Integer.value, hread, Except.map, Spelling.value]

/-- The sign and the mark bring the machine to the digits. -/
theorem reaches_digits {post : State → Prop} (hahead : Spelling.ahead (t.drop i) = spelling)
    (h : integerMachine.Reaches grammar t (.digits spelling.negative spelling.radix)
      (i + spelling.before) post) : integerMachine.Reaches grammar t .sign i post := by
  obtain ⟨sign, mark, hsign, hnegative, hmark, hradix⟩ := @exists_front ν _ grammar _ _ _ hahead
  rw [← hnegative, ← hradix] at h
  exact .run rfl hsign (.run rfl hmark h)

/-- Digits that no number is read from end the run. -/
theorem raises_integer {fault : Fault} (hahead : Spelling.ahead (t.drop i) = spelling)
    (hnonempty : spelling.digits ≠ [])
    (hread : Integer.step (.read spelling.negative spelling.radix (.text spelling.digits)) =
      (.raise fault : Step ν)) : integerMachine.Raises grammar t .sign i fault := by
  obtain ⟨sign, mark, hsign, hnegative, hmark, hradix⟩ := @exists_front ν _ grammar _ _ _ hahead
  have hraises : integerMachine.Raises grammar t (.digits spelling.negative spelling.radix)
      (i + spelling.before) fault := .run rfl (answers_digits hahead hnonempty) (.raise hread)
  rw [← hnegative, ← hradix] at hraises
  exact .run rfl hsign (.run rfl hmark hraises)

theorem answers_integer (hahead : Spelling.ahead (t.drop i) = spelling)
    (hreadable : spelling.Readable) :
    Answers grammar t integer i
      (.yields (i + spelling.before + spelling.digits.length) (.int spelling.value)) := by
  obtain ⟨-, -, hdigits, -⟩ := exists_tail hahead
  have hread : integerMachine.Answers grammar t (.digits spelling.negative spelling.radix)
      (i + spelling.before)
      (.yields (i + spelling.before + spelling.digits.length) (.int spelling.value)) :=
    .run rfl (answers_digits hahead hreadable.nonempty) (.finish (step_read hreadable hdigits))
  exact Machine.Answers.of_start (reaches_digits hahead hread) "integer_number"

/-- Without digits there is no number, not even that of the zero in a mark. -/
theorem stops_integer (hahead : Spelling.ahead (t.drop i) = spelling)
    (hnone : spelling.digits = []) :
    Stops grammar t integer i (i + spelling.before)
      (if t.drop (i + spelling.before) = [] then .endOfInput else .noMatch) :=
  (reaches_digits hahead (.stop rfl (stops_digits hahead hnone))).stops "integer_number"

/-- An integer is read just where its digits are, with as many of them as there are, unless they are
too many decimal ones. So every integer that is written, in whichever radix and with whatever zeros
in front, is read back. -/
theorem integer_exact {state : State} (hstate : state.failed = false) :
    ((Spelling.ahead state.rest).Readable →
      ∃ next, Returns grammar integer state next ∧
        (Spelling.ahead state.rest).ReadInto state next) ∧
    ((Spelling.ahead state.rest).digits = [] →
      ∃ next, Returns grammar integer state next ∧ next.failed = true ∧
        next.pos = state.pos + (Spelling.ahead state.rest).before) ∧
    (∀ (spelling : Spelling) (mark tail : Text), mark ∈ spelling.radix.marks →
      (∀ c ∈ spelling.digits, spelling.radix.isDigit c = true) → spelling.Readable →
      spelling.Ends tail →
      state.rest = spelling.sign ++ (mark ++ (spelling.digits ++ tail)) →
      ∃ next, Returns grammar integer state next ∧ spelling.ReadInto state next) ∧
    ∀ (n : Int) (radix : Radix) (zeros : Nat), ∃ spelling : Spelling, spelling.radix = radix ∧
      spelling.digits ≠ [] ∧ (∀ c ∈ spelling.digits, radix.isDigit c = true) ∧
      List.replicate zeros 48 <+: spelling.digits ∧ spelling.value = n := by
  have hreads (spelling : Spelling) (hahead : Spelling.ahead state.rest = spelling)
      (hreadable : spelling.Readable) :
      ∃ next, Returns grammar integer state next ∧ spelling.ReadInto state next := by
    have hanswers : Answers grammar state.input integer state.pos _ :=
      answers_integer hahead hreadable
    obtain ⟨next, hnext, -, hsuccess, hpos, hresult⟩ := hanswers.yields state hstate rfl rfl
    exact ⟨next, hnext, hsuccess, hpos, hresult⟩
  refine ⟨hreads _ rfl, fun hnone => ?_, ?_, exists_spelling⟩
  · have hstops : Stops grammar state.input integer state.pos _ _ := stops_integer rfl hnone
    obtain ⟨next, hnext, hfailed⟩ := hstops state hstate rfl rfl
    exact ⟨next, hnext, hfailed.failed, hfailed.pos⟩
  · intro spelling mark tail hmark hdigits hreadable hends hrest
    refine hreads spelling ?_ hreadable
    rw [hrest]
    exact ahead_written hmark hdigits hreadable.nonempty hends

/-- A grammar of one integer. -/
def integers : Grammar Unit := fun _ => .ok integer

/-- A negative number after other text, with a capital mark, two zeros and digits of both cases, and
a mark without a digit of its radix. -/
theorem integer_marked :
    (∃ next, Returns integers integer
        { State.start (Text.ofString "a=-0X00fFz") false with pos := 2 } next ∧
      next.failed = false ∧ next.pos = 9 ∧ next.result = .int (-255)) ∧
    ∃ next, Returns integers integer (State.start (Text.ofString "0b2") false) next ∧
      next.failed = true ∧ next.pos = 2 := by
  constructor
  · obtain ⟨-, -, hwritten, -⟩ := @integer_exact Unit _ integers
      { State.start (Text.ofString "a=-0X00fFz") false with pos := 2 } rfl
    have hreadable : Spelling.Readable ⟨true, .hexadecimal, Text.ofString "00fF"⟩ :=
      ⟨by decide, by rintro ⟨⟩⟩
    have hends : Spelling.Ends ⟨true, .hexadecimal, Text.ofString "00fF"⟩ (Text.ofString "z") :=
      ⟨by decide, by rintro ⟨⟩⟩
    obtain ⟨next, hnext, hread⟩ := hwritten ⟨true, .hexadecimal, Text.ofString "00fF"⟩
      (Text.ofString "0X") (Text.ofString "z") (by decide) (by decide) hreadable hends rfl
    exact ⟨next, hnext, hread.success, hread.pos, hread.result⟩
  · obtain ⟨-, hmissing, -⟩ := @integer_exact Unit _ integers
      (State.start (Text.ofString "0b2") false) rfl
    exact hmissing (by decide)

end Parsing

end ParserCombinators.Lexical
