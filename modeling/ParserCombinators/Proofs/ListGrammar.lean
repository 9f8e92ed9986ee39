import ParserCombinators.Proofs.LexicalPatterns
import ParserCombinators.Proofs.WholeRuns

/-!
A grammar of nested lists of natural numbers, and the texts that it reads. A tree may be written in
many ways: with blanks after the commas, and with a comma after the last item of a list. Every way
to write it is read back as the tree, and what follows it is left.

The value and the list refer to each other, so a text of either kind is followed at once, by
induction on how it is written.
-/

namespace ParserCombinators.Lexical

open ParserCombinators.Parser ParserCombinators.Regex

/-- The integer that a text writes. -/
def integerOf : Value → Except Fault Value
  | .text text =>
    match Numeral.readGrouped 10 text with
    | .ok n => .ok (.int n)
    | .error error => .error (.numeral error)
  | _ => .error .notText

/-- A number, or a list of values. -/
def treeValue : Parser Unit := .ref ()

def treeSeparator : Parser Unit :=
  .sequence [.literal (Text.ofString ",") true, .optional whitespace]

def treeItems : Parser Unit := .separated treeSeparator treeValue

def treeList : Parser Unit :=
  .between (.literal (Text.ofString "[") true) (.literal (Text.ofString "]") true) treeItems

def treeGrammar : Grammar Unit := fun _ => .ok (.choice [.map digits integerOf, treeList])

/-- The two kinds of texts: a value, and the items of a list between its brackets. -/
inductive Place where
  | value
  | items

/-- The texts that write a tree of numbers and lists. A comma may be the last thing in a list, as
the items after it may be none. -/
inductive Writes : Place → Text → Value → Prop
  | number {digits : Text} : digits ≠ [] → (∀ c ∈ digits, Digit.isDecimal c = true) →
      digits.length ≤ Numeral.digitLimit → Writes .value digits (.int (Digit.number 10 digits))
  | list {inside : Text} {values : List Value} : Writes .items inside (.list values) →
      Writes .value (91 :: (inside ++ [93])) (.list values)
  | none : Writes .items [] (.list [])
  | last {text : Text} {value : Value} : Writes .value text value →
      Writes .items text (.list [value])
  | more {text blanks others : Text} {value : Value} {values : List Value} :
      Writes .value text value → (∀ c ∈ blanks, c ∈ [32, 9, 12, 11]) →
      Writes .items others (.list values) →
      Writes .items (text ++ 44 :: (blanks ++ others)) (.list (value :: values))

/-- How values begin. -/
theorem Writes.head {place : Place} {text : Text} {value : Value} (h : Writes place text value) :
    (∀ c ∈ text.head?, Digit.isDecimal c = true ∨ c = 91) ∧ (place = .value → text ≠ []) := by
  induction h with
  | @number digits hnonempty hdigits =>
      refine ⟨fun c hc => Or.inl (hdigits c (List.mem_of_mem_head? hc)), fun _ => hnonempty⟩
  | list _ _ => exact ⟨by simp, by simp⟩
  | none => exact ⟨by simp, by simp⟩
  | last _ ih => exact ⟨ih.1, by simp⟩
  | @more text blanks others value values _ _ _ ih _ =>
      obtain ⟨c, text, rfl⟩ := List.exists_cons_of_ne_nil (ih.2 rfl)
      exact ⟨by simpa using ih.1, by simp⟩

section Reading

variable {t tail : Text} {i : Nat}

theorem integerOf_digits {text : Text} (hnonempty : text ≠ [])
    (h : ∀ c ∈ text, Digit.isDecimal c = true) (hlength : text.length ≤ Numeral.digitLimit) :
    integerOf (.text text) = .ok (.int (Digit.number 10 text)) := by
  have hdigits := Numeral.areDigits_ten_iff.mpr h
  have hlimit : ¬ Numeral.digitLimit < text.length := Nat.not_lt.mpr hlength
  simp only [integerOf, Numeral.readGrouped_digits hnonempty hdigits,
    Numeral.read_digits hnonempty hdigits, hlimit, decide_false, Bool.and_false,
    Bool.false_eq_true, if_false]

theorem answers_number {text : Text} (hnonempty : text ≠ [])
    (h : ∀ c ∈ text, Digit.isDecimal c = true) (hlength : text.length ≤ Numeral.digitLimit)
    (hahead : t.drop i = text ++ tail) (htail : ∀ c ∈ tail.head?, Digit.isDecimal c = false) :
    Answers treeGrammar t treeValue i
      (.yields (i + text.length) (.int (Digit.number 10 text))) := by
  have hrun : Answers treeGrammar t digits i (.yields (i + text.length) (.text text)) :=
    .class_run rfl hahead (fun c hc => (has_digitSet c).trans (h c hc)) hnonempty
      (List.length_pos_iff.mpr hnonempty) fun c hc => (has_digitSet c).trans (htail c hc)
  exact .ref rfl (.choice_first (hrun.map (integerOf_digits hnonempty h hlength)))

theorem answers_number_fails (h : ∀ c ∈ (t.drop i).head?, Digit.isDecimal c = false) :
    Answers treeGrammar t (.map digits integerOf) i .fails :=
  .map_fails (.class_run_fails rfl Nat.one_pos fun c hc => (has_digitSet c).trans (h c hc))

/-- At a closing bracket there is neither a number nor a list. -/
theorem answers_value_fails (hahead : t.drop i = 93 :: tail) :
    Answers treeGrammar t treeValue i .fails := by
  have hnumber : Answers treeGrammar t (.map digits integerOf) i .fails :=
    answers_number_fails (by rw [hahead]; rintro c ⟨⟩; rfl)
  have hopen : Answers treeGrammar t (.literal (Text.ofString "[") true) i .fails :=
    .literal_other (by rw [hahead]; rintro c ⟨⟩; decide)
  have hlist : Answers treeGrammar t treeList i .fails := .map_fails hopen.sequence_head_fails
  refine .ref rfl (.choice_next hnumber (.choice_next hlist ?_))
  exact answers_of_derives (.choice_nil i)

/-- A comma is taken with all blanks after it. -/
theorem answers_separator {blanks : Text} (hblanks : ∀ c ∈ blanks, c ∈ [32, 9, 12, 11])
    (hahead : t.drop i = 44 :: (blanks ++ tail))
    (htail : ∀ c ∈ tail.head?, blankSet.has c = false) :
    ∃ between, Answers treeGrammar t treeSeparator i
      (.yields (i + 1 + blanks.length) between) := by
  have hcomma : Answers treeGrammar t (.literal (Text.ofString ",") true) i
      (.yields (i + 1) (.text (Text.ofString ","))) := .literal_ahead hahead (by decide)
  have hrest : t.drop (i + 1) = blanks ++ tail := drop_after_cons hahead
  obtain ⟨skipped, hskipped⟩ : ∃ skipped, Answers treeGrammar t (.optional whitespace) (i + 1)
      (.yields (i + 1 + blanks.length) skipped) := by
    by_cases hempty : blanks = []
    · subst hempty
      have hnone : Answers treeGrammar t whitespace (i + 1) .fails :=
        .class_run_fails rfl Nat.one_pos (by rw [hrest]; exact htail)
      exact ⟨_, hnone.optional_none⟩
    · have hrun : Answers treeGrammar t whitespace (i + 1)
          (.yields (i + 1 + blanks.length) (.text blanks)) :=
        .class_run rfl hrest
          (fun c hc => (has_blankSet c).trans (List.contains_iff_mem.mpr (hblanks c hc))) hempty
          (List.length_pos_iff.mpr hempty) htail
      exact ⟨_, hrun.optional⟩
  exact ⟨_, hcomma.sequence_cons (hskipped.sequence_cons (.sequence_nil _))⟩

/-- What a text of a kind is read as, wherever it stands in another one. A number must not go on,
and the items of a list end with its bracket. -/
def IsRead : Place → Text → Value → Prop
  | .value, text, v => ∀ t i tail, t.drop i = text ++ tail →
      (∀ c ∈ tail.head?, Digit.isDecimal c = false) →
      Answers treeGrammar t treeValue i (.yields (i + text.length) v)
  | .items, text, v => ∀ t i tail, t.drop i = text ++ 93 :: tail →
      Answers treeGrammar t treeItems i (.yields (i + text.length) v)

/-- The induction is on how the text is written. -/
theorem Writes.isRead {place : Place} {text : Text} {value : Value}
    (h : Writes place text value) : IsRead place text value := by
  induction h with
  | number hnonempty hdigits hlength =>
      intro t i tail hahead htail
      exact answers_number hnonempty hdigits hlength hahead htail
  | @list inside values _ ih =>
      intro t i tail hahead _
      have hbody : t.drop (i + 1) = inside ++ 93 :: tail := by
        rw [← List.singleton_append, ← List.append_assoc]
        exact drop_after_cons hahead
      have hend : t.drop (i + 1 + inside.length) = 93 :: tail := drop_after_append hbody
      have hopen : Answers treeGrammar t (.literal (Text.ofString "[") true) i
          (.yields (i + 1) (.text (Text.ofString "["))) := .literal_ahead hahead (by decide)
      have hclose : Answers treeGrammar t (.literal (Text.ofString "]") true)
          (i + 1 + inside.length)
          (.yields (i + 1 + inside.length + 1) (.text (Text.ofString "]"))) :=
        .literal_ahead hend (by decide)
      have hnumber : Answers treeGrammar t (.map digits integerOf) i .fails :=
        answers_number_fails (by rw [hahead]; rintro c ⟨⟩; rfl)
      have hlist : Answers treeGrammar t treeList i
          (.yields (i + 1 + inside.length + 1) (.list values)) :=
        hopen.enclosed (ih t (i + 1) tail hbody) hclose
      have hlength : i + (91 :: (inside ++ [93])).length = i + 1 + inside.length + 1 := by
        simp only [List.length_cons, List.length_append, List.length_nil]
        omega
      rw [hlength]
      exact .ref rfl (.choice_next hnumber hlist.choice_first)
  | none =>
      intro t i tail hahead
      exact .separated_nil (answers_value_fails hahead)
  | @last text value _ ih =>
      intro t i tail hahead
      have hitem : Answers treeGrammar t treeValue i (.yields (i + text.length) value) :=
        ih t i (93 :: tail) hahead (by rintro c ⟨⟩; rfl)
      have hend : t.drop (i + text.length) = 93 :: tail := drop_after_append hahead
      have hcomma : Answers treeGrammar t (.literal (Text.ofString ",") true) (i + text.length)
          .fails := .literal_other (by rw [hend]; rintro c ⟨⟩; decide)
      exact hitem.separated_last hcomma.sequence_head_fails
  | @more text blanks others value values _ hblanks hothers ihValue ihOthers =>
      intro t i tail hahead
      have hafter : t.drop i = text ++ 44 :: (blanks ++ (others ++ 93 :: tail)) := by
        simpa using hahead
      have hitem : Answers treeGrammar t treeValue i (.yields (i + text.length) value) :=
        ihValue t i _ hafter (by rintro c ⟨⟩; rfl)
      have hseparator : t.drop (i + text.length) = 44 :: (blanks ++ (others ++ 93 :: tail)) :=
        drop_after_append hafter
      have hrest : t.drop (i + text.length + 1 + blanks.length) = others ++ 93 :: tail :=
        drop_after_append (drop_after_cons hseparator)
      -- No item begins with a blank, so the separator takes no more than its own.
      have hstop : ∀ c ∈ (others ++ 93 :: tail).head?, blankSet.has c = false := by
        have hfirst := hothers.head.1
        cases others with
        | nil => rintro c ⟨⟩; rfl
        | cons d others =>
            rintro c ⟨⟩
            rcases hfirst d rfl with hdigit | rfl
            · simp only [Digit.isDecimal, Bool.and_eq_true, decide_eq_true_eq] at hdigit
              rw [has_blankSet]
              simp [isBlank]
              omega
            · rfl
      obtain ⟨between, hbetween⟩ := answers_separator hblanks hseparator hstop
      have hmoves : i + text.length + 1 + blanks.length ≠ i := by omega
      have hlength : i + (text ++ 44 :: (blanks ++ others)).length =
          i + text.length + 1 + blanks.length + others.length := by
        simp only [List.length_cons, List.length_append]
        omega
      rw [hlength]
      exact hitem.separated_cons hbetween hmoves (ihOthers t _ tail hrest)

end Reading

/-- Every way to write a tree is read back as the tree, up to its end, whatever follows it. -/
theorem treeValue_reads_back {text rest : Text} {value : Value} (h : Writes .value text value)
    (hrest : ∀ c ∈ rest.head?, Digit.isDecimal c = false) :
    Parses treeGrammar treeValue (text ++ rest) text.length value := by
  have hread := h.isRead (text ++ rest) 0 rest rfl hrest
  rw [Nat.zero_add] at hread
  exact hread.parses

/-- Zeros in front, blanks after commas, commas at the ends of lists, and an empty list. -/
theorem treeValue_reads_back_nested :
    Parses treeGrammar treeValue (Text.ofString "[007,\t [], [12,], ]x") 19
      (.list [.int 7, .list [], .list [.int 12]]) := by
  have hseven : Writes .value (Text.ofString "007") (.int 7) :=
    .number (by decide) (by decide) (by decide)
  have htwelve : Writes .value (Text.ofString "12") (.int 12) :=
    .number (by decide) (by decide) (by decide)
  have hinner : Writes .value (Text.ofString "[12,]") (.list [.int 12]) :=
    .list (@Writes.more _ [] _ _ _ htwelve (by decide) .none)
  have hitems : Writes .items (Text.ofString "007,\t [], [12,], ")
      (.list [.int 7, .list [], .list [.int 12]]) :=
    @Writes.more _ [9, 32] _ _ _ hseven (by decide)
      (@Writes.more _ [32] _ _ _ Writes.none.list (by decide)
        (@Writes.more _ [32] _ _ _ hinner (by decide) .none))
  exact @treeValue_reads_back _ (Text.ofString "x") _ hitems.list (by decide)

end ParserCombinators.Lexical
