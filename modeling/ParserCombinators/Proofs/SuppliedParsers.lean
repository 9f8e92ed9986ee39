import ParserCombinators.Proofs.FloatTexts
import ParserCombinators.Proofs.Integers
import ParserCombinators.Proofs.LexicalBounds
import ParserCombinators.Proofs.Settling

/-!
The supplied parsers of characters, numbers and strings, and what is built over them, end on every
input. Their conversions are partial functions, so it has to be seen for each of them that its
domain holds every text that the pattern before it matches, however long, and of a string that it is
joined from nothing but texts. One domain falls short: a decimal integer may have more digits than
are read. That is the only fault there is.
-/

namespace ParserCombinators.Lexical

open ParserCombinators.Parser ParserCombinators.Regex

variable {ν : Type} [DecidableEq ν] {grammar : Grammar ν} {accepted : Fault → Prop} {t : Text}

omit [DecidableEq ν] in
theorem own_of_bounded {parser : Parser ν} (h : Bounded grammar parser) : Own grammar parser :=
  h.mono fun _ hform => advances_movement.handWritten hform

section Results

variable {state next : State} {name expected text : Text} {compiled : Pattern}

/-- The result of a pattern is a text that it matches at the position. -/
theorem returns_pattern_success (h : Returns grammar (.pattern name compiled expected) state next)
    (hstate : state.failed = false) (hnext : next.failed = false) :
    ∃ found, compiled.matchAt? state.input state.pos = some found ∧ next.result = .text found := by
  cases h.acts hstate with
  | pattern _ =>
      rcases matchPattern_cases name compiled expected state with
        ⟨-, heq⟩ | ⟨found, -, hfound, heq⟩ | ⟨-, -, heq⟩ <;> rw [heq] at hnext ⊢
      · cases hnext
      · exact ⟨found, hfound, rfl⟩
      · cases hnext

theorem returns_literal_success {caseSensitive : Bool}
    (h : Returns grammar (.literal text caseSensitive) state next)
    (hstate : state.failed = false) (hnext : next.failed = false) :
    state.pos < state.input.length ∧
      next = state.moveTo (state.pos + text.length) (.text text) := by
  cases h.acts hstate with
  | literal _ =>
      rcases matchLiteral_cases text caseSensitive state with
        ⟨-, heq⟩ | ⟨hleft, -, heq⟩ | ⟨-, -, heq⟩ <;> rw [heq] at hnext ⊢
      · cases hnext
      · exact ⟨hleft, rfl⟩
      · cases hnext

theorem returns_mapError_success {source : Parser ν} {f : Option Text → Nat → Text}
    (h : Returns grammar (.mapError source f) state next) (hnext : next.failed = false) :
    Returns grammar source state next := by
  cases h.acts_passing rfl with
  | mapError hsource _ => exact hsource
  | mapError_failed _ hfailed => simp [hfailed] at hnext

/-- Where the parser succeeds, its result is a text. -/
def YieldsText (grammar : Grammar ν) (parser : Parser ν) : Prop :=
  ∀ state next, Returns grammar parser state next → state.failed = false → next.failed = false →
    ∃ text, next.result = .text text

theorem yieldsText_pattern : YieldsText grammar (.pattern name compiled expected) := by
  intro state next h hstate hnext
  obtain ⟨found, -, hresult⟩ := returns_pattern_success h hstate hnext
  exact ⟨found, hresult⟩

theorem YieldsText.mapError {source : Parser ν} (h : YieldsText grammar source)
    (f : Option Text → Nat → Text) : YieldsText grammar (.mapError source f) :=
  fun _ _ hreturns hstate hnext => h _ _ (returns_mapError_success hreturns hnext) hstate hnext

theorem YieldsText.optional {item : Parser ν} (h : YieldsText grammar item)
    (hreturns : Returns grammar (.optional item) state next) (hstate : state.failed = false) :
    next.result = .null ∨ ∃ text, next.result = .text text := by
  cases hreturns.acts hstate with
  | optional_none _ _ _ => exact Or.inl rfl
  | optional _ hitem hnext => exact Or.inr (h _ _ hitem hstate hnext)

end Results

section Characters

/-- What is made of a numeral is a text, whatever the numeral is. -/
theorem yieldsText_codeUnit : YieldsText grammar codeUnit := by
  intro state next h hstate hnext
  cases h.acts_passing rfl with
  | map_failed _ hfailed => simp [hfailed] at hnext
  | map _ _ hvalue =>
      unfold characterOf at hvalue
      split at hvalue
      next =>
        split at hvalue
        next =>
          split at hvalue
          · exact ⟨_, (Except.ok.inj hvalue).symm⟩
          · cases hvalue
        next => cases hvalue
      next => cases hvalue

/-- Four hexadecimal digits write a code point. -/
theorem settlesOn_codeUnit : SettlesOn grammar accepted t codeUnit := by
  obtain ⟨wording, heq⟩ := @exists_codeUnit_eq ν
  rw [heq]
  refine ((settlesOn_pattern _ _ _).mapError wording).map ?_
  intro state next fault hstate _ hreturns hnext hfault
  obtain ⟨found, hmatch, hresult⟩ :=
    returns_pattern_success (returns_mapError_success hreturns hnext) hstate hnext
  obtain ⟨hdigits, hleast, hmost⟩ :=
    Loop.mem_language_one (Pattern.mem_language_of_matchAt? hmatch).1
  have hlength : found.length = 4 := Nat.le_antisymm (hmost 4 rfl) hleast
  have hvalue := characterOf_digits (fun c hc => (has_hexadecimalSet c).symm.trans (hdigits c hc))
    hlength
  rw [hresult, hvalue] at hfault
  cases hfault

theorem settlesOn_codeUnitEscape : SettlesOn grammar accepted t codeUnitEscape := by
  refine (settlesOn_sequence ?_).map_ok _
  simp only [List.forall_mem_cons, List.not_mem_nil, false_implies, implies_true, and_true]
  exact ⟨settlesOn_literal _ true, settlesOn_codeUnit⟩

theorem settlesOn_lexeme {parser : Parser ν} (h : SettlesOn grammar accepted t parser) :
    SettlesOn grammar accepted t (lexeme parser) := by
  have hblanks : SettlesOn grammar accepted t (.optional whitespace) :=
    (settlesOn_pattern _ _ _).optional
  refine (settlesOn_sequence ?_).map_ok _
  simp only [List.forall_mem_cons, List.not_mem_nil, false_implies, implies_true, and_true]
  exact ⟨hblanks, h, hblanks⟩

end Characters

section Numbers

theorem settlesOn_float : SettlesOn grammar accepted t float := by
  rw [float_eq]
  refine (settlesOn_pattern _ _ _).map ?_
  intro state next fault hstate _ hreturns hnext hfault
  obtain ⟨found, hmatch, hresult⟩ := returns_pattern_success hreturns hstate hnext
  obtain ⟨value, hvalue⟩ := exists_floatOf hmatch
  rw [hresult, hvalue] at hfault
  cases hfault

theorem settlesOn_radix_body (radix : Radix) : SettlesOn grammar accepted t radix.body := by
  have hrun : SettlesOn grammar accepted t radix.run := by
    rw [radix_run_eq]
    exact settlesOn_pattern _ _ _
  rcases @radix_body_cases ν radix with heq | ⟨wording, heq⟩ <;> rw [heq]
  · exact hrun
  · exact hrun.mapError wording

/-- The text is a numeral of the input in the radix. -/
structure IsNumeral (t : Text) (radix : Radix) (digits : Text) : Prop where
  nonempty : digits ≠ []
  areDigits : Numeral.AreDigits radix.base digits
  occurs : digits <:+: t

theorem returns_radix_body {radix : Radix} {state next : State}
    (h : Returns grammar radix.body state next) (hstate : state.failed = false)
    (hnext : next.failed = false) :
    ∃ digits, next.result = .text digits ∧ IsNumeral state.input radix digits := by
  have hrun : Returns grammar radix.run state next := by
    rcases @radix_body_cases ν radix with heq | ⟨wording, heq⟩ <;> rw [heq] at h
    · exact h
    · exact returns_mapError_success h hnext
  rw [radix_run_eq] at hrun
  obtain ⟨digits, hmatch, hresult⟩ := returns_pattern_success hrun hstate hnext
  obtain ⟨hword, hahead⟩ := Pattern.mem_language_of_matchAt? hmatch
  obtain ⟨hmembers, hleast, -⟩ := Loop.mem_language_one hword
  have hdigits : ∀ c ∈ digits, radix.isDigit c = true :=
    fun c hc => (has_radixSet radix c).symm.trans (hmembers c hc)
  exact ⟨digits, hresult, List.length_pos_iff.mp hleast, areDigits_iff.mpr hdigits,
    hahead.isInfix.trans (List.drop_suffix _ _).isInfix⟩

/-- The fault says that the input has a numeral of more decimal digits than are read. -/
def OverLong (t : Text) (fault : Fault) : Prop :=
  ∃ digits, digits <:+: t ∧ (∀ c ∈ digits, Digit.isDecimal c = true) ∧
    Numeral.digitLimit < digits.length ∧ fault = .numeral (.tooManyDigits digits.length)

/-- The only base that limits the digits is ten. -/
theorem IsNumeral.overLong_of_value {radix : Radix} {digits : Text} {negative : Bool}
    {error : NumeralError} (h : IsNumeral t radix digits)
    (hvalue : Integer.value negative radix (.text digits) = .error error) :
    OverLong t (.numeral error) := by
  have hread := Numeral.read_digits h.nonempty h.areDigits
  by_cases hlong : (Numeral.isLimited radix.base && Numeral.digitLimit < digits.length) = true
  · rw [if_pos hlong] at hread
    simp only [Integer.value, hread, Except.map, Except.error.injEq] at hvalue
    rw [Bool.and_eq_true, decide_eq_true_eq] at hlong
    obtain rfl : radix = .decimal := by
      cases radix
      · cases hlong.1
      · cases hlong.1
      · rfl
      · cases hlong.1
    exact ⟨digits, h.occurs, Numeral.areDigits_ten_iff.mp h.areDigits, hlong.2, hvalue ▸ rfl⟩
  · rw [if_neg hlong] at hread
    simp only [Integer.value, hread, Except.map, reduceCtorEq] at hvalue

namespace Integer

/-- At the last stage a numeral of the input has been read. -/
def Good (t : Text) : Stage → Prop
  | .read _ radix digits => ∃ text, digits = .text text ∧ IsNumeral t radix text
  | _ => True

def rank : Stage → Nat
  | .sign => 3
  | .mark _ => 2
  | .digits _ _ => 1
  | .read _ _ _ => 0

end Integer

theorem settlesOn_integer (haccepted : ∀ fault, OverLong t fault → accepted fault) :
    SettlesOn grammar accepted t integer := by
  have hstages (stage : Integer.Stage) (hgood : Integer.Good t stage) :
      Machine.Descends grammar accepted t ⟨.sign, Integer.resume, Integer.step⟩ (Integer.Good t)
        (fun stage _ => Integer.rank stage) stage := by
    cases stage with
    | sign =>
        refine .run rfl (settlesOn_literal _ true).optional ?_
        intro state next _ _ _ _ _
        exact ⟨trivial, Nat.lt_succ_self _⟩
    | mark negative =>
        refine .run rfl (SettlesOn.optional (settlesOn_choice ?_)) ?_
        · simp only [List.forall_mem_cons, List.not_mem_nil, false_implies, implies_true, and_true]
          exact ⟨settlesOn_literal _ true, settlesOn_literal _ true, settlesOn_literal _ false⟩
        · intro state next _ _ _ _ _
          exact ⟨trivial, Nat.lt_succ_self _⟩
    | digits negative radix =>
        refine .run rfl (settlesOn_radix_body radix) ?_
        rintro state next hstate rfl hreturns hnext _
        exact ⟨returns_radix_body hreturns hstate hnext, Nat.lt_succ_self _⟩
    | read negative radix digits =>
        obtain ⟨text, rfl, hnumeral⟩ := hgood
        cases hvalue : Integer.value negative radix (.text text) with
        | ok n => exact .finish (by simp only [Integer.step, hvalue]; rfl)
        | error error =>
            exact .raise (by simp only [Integer.step, hvalue])
              (haccepted _ (hnumeral.overLong_of_value hvalue))
  exact Machine.settlesOn _ (own_of_bounded bounded_integer) trivial hstages

end Numbers

section TooManyDigits

variable {digits tail : Text}

/-- A numeral of too many digits ends the run, whatever follows it. -/
theorem integer_tooManyDigits (hdigits : ∀ c ∈ digits, Digit.isDecimal c = true)
    (hlong : Numeral.digitLimit < digits.length)
    (htail : ∀ c ∈ tail.head?, Digit.isDecimal c = false) (debug : Bool) :
    RunsInto grammar integer (digits ++ tail) debug (.numeral (.tooManyDigits digits.length)) := by
  have hmany : 1 < digits.length := Nat.lt_trans (by decide) hlong
  have hnonempty : digits ≠ [] := List.ne_nil_of_length_pos (Nat.lt_of_succ_lt hmany)
  have hmembers : ∀ c ∈ digits, Radix.decimal.isDigit c = true :=
    fun c hc => (isDigit_decimal c).trans (hdigits c hc)
  have hends : Spelling.Ends ⟨false, .decimal, digits⟩ tail := by
    refine ⟨fun c hc => (isDigit_decimal c).trans (htail c hc), ?_⟩
    rintro - rfl
    exact absurd hmany (Nat.lt_irrefl 1)
  have hahead : Spelling.ahead ((digits ++ tail).drop 0) = ⟨false, .decimal, digits⟩ :=
    ahead_written (List.mem_singleton.mpr rfl) hmembers hnonempty hends
  have hread : Integer.step (.read false .decimal (.text digits)) =
      (.raise (.numeral (.tooManyDigits digits.length)) : Step ν) := by
    have hvalue := Numeral.read_digits hnonempty (Numeral.areDigits_ten_iff.mpr hdigits)
    have hlimit : (Numeral.isLimited 10 && Numeral.digitLimit < digits.length) = true := by
      rw [Bool.and_eq_true, decide_eq_true_eq]
      exact ⟨rfl, hlong⟩
    rw [if_pos hlimit] at hvalue
    simp only [Integer.step, Integer.value, Radix.base, hvalue, Except.map]
  have hraises := @raises_integer ν _ grammar _ _ _ _ hahead hnonempty hread
  exact (hraises.of_start "integer_number" rfl rfl rfl).runsInto

/-- One digit more than the limit, and the run returns no state. -/
theorem integer_nines :
    RunsInto (fun _ => .ok .endOfInput : Grammar Unit) integer (List.replicate 4301 57) false
      (.numeral (.tooManyDigits 4301)) ∧
    ¬ ∃ final, RunsTo (fun _ => .ok .endOfInput : Grammar Unit) integer (List.replicate 4301 57)
      false final := by
  have hdigits : ∀ c ∈ List.replicate 4301 57, Digit.isDecimal c = true := by
    intro c hc
    rw [List.eq_of_mem_replicate hc]
    rfl
  have hlength : (List.replicate 4301 57).length = 4301 := List.length_replicate
  have hlong : Numeral.digitLimit < (List.replicate 4301 57).length := by
    rw [hlength]
    decide
  have hraises := @integer_tooManyDigits Unit _ (fun _ => .ok .endOfInput) _ [] hdigits hlong
    (by simp) false
  rw [List.append_nil, hlength] at hraises
  exact ⟨hraises, fun ⟨_, hruns⟩ => hraises.not_runsTo hruns⟩

end TooManyDigits

section Strings

namespace Quoting

def EscapeStage.rank : EscapeStage → Nat
  | .character => 2
  | .selected _ => 1
  | .decoded _ => 0

/-- What is known of a sequence after an escape is that it gives a text. -/
def EscapeStage.Good : EscapeStage → Prop
  | .decoded result => ∃ text, result = .text text
  | .character | .selected _ => True

/-- The quote that a string began with is kept up to its end, and the chunks are texts. -/
def Stage.Good : Stage → Prop
  | .opening => True
  | .unreadable => False
  | .plain quote chunks | .escape quote chunks | .escaped quote chunks | .closing quote chunks =>
    quote ≠ [] ∧ ∃ texts : List Text, chunks = texts.map .text
  | .closed chunks => ∃ texts : List Text, chunks = texts.map .text

/-- The stages of a string go round, but an escape has taken something of the input before they
do. -/
def Stage.rank : Stage → Nat → Nat
  | .opening, left | .escaped _ _, left => 3 * left + 4
  | .plain _ _, left => 3 * left + 3
  | .escape _ _, left => 3 * left + 2
  | .closing _ _, left => 3 * left + 1
  | .closed _, left | .unreadable, left => 3 * left

end Quoting

variable {quoting : Quoting ν}

theorem settlesOn_anyCharacter : SettlesOn grammar accepted t quoting.anyCharacter := by
  obtain ⟨wording, heq⟩ := exists_anyCharacter_eq quoting
  rw [heq]
  exact (settlesOn_pattern _ _ _).mapError wording

theorem yieldsText_anyCharacter : YieldsText grammar quoting.anyCharacter := by
  obtain ⟨wording, heq⟩ := exists_anyCharacter_eq quoting
  rw [heq]
  exact yieldsText_pattern.mapError wording

/-- If every sequence after an escape gives a text, what follows an escape does. -/
theorem yieldsText_escaped (hsequences : ∀ entry ∈ quoting.sequences, YieldsText grammar entry.2) :
    YieldsText grammar quoting.escaped := by
  intro state next h hstate hnext
  have hkept (stage : Quoting.EscapeStage) (parser : Parser ν) (_ : stage.Good)
      (hstep : quoting.stepEscape stage = .run parser) (before after : State)
      (hbefore : before.failed = false) (hparser : Returns grammar parser before after)
      (hafter : after.failed = false) : (Quoting.resumeEscape stage after.result).Good := by
    cases stage with
    | character =>
        obtain rfl := Step.run.inj hstep
        obtain ⟨c, hresult⟩ := yieldsText_anyCharacter _ _ hparser hbefore hafter
        rw [hresult]
        trivial
    | selected c =>
        simp only [Quoting.stepEscape] at hstep
        split at hstep
        next => cases hstep
        next =>
          split at hstep
          next sequence hlookup =>
            obtain rfl := Step.run.inj hstep
            exact hsequences (c, sequence) (mem_of_lookup hlookup) _ _ hparser hbefore hafter
          next => cases hstep
    | decoded result => cases hstep
  change Returns grammar (Machine.parser ⟨.character, Quoting.resumeEscape, quoting.stepEscape⟩
    "escaped") state next at h
  obtain ⟨stage, hgood, hfinish⟩ := Machine.exists_finish trivial hkept h hstate hnext
  cases stage with
  | character => cases hfinish
  | selected c =>
      simp only [Quoting.stepEscape] at hfinish
      split at hfinish
      next => exact ⟨_, (Step.finish.inj hfinish).symm⟩
      next =>
        split at hfinish
        next => cases hfinish
        next => exact ⟨_, (Step.finish.inj hfinish).symm⟩
  | decoded result =>
      obtain rfl := Step.finish.inj hfinish
      exact hgood

/-- What is asked of the parser of a sequence: it ends on the text, and gives a text. -/
structure DecodesOn (grammar : Grammar ν) (accepted : Fault → Prop) (t : Text)
    (parser : Parser ν) : Prop where
  bounded : Bounded grammar parser
  settles : SettlesOn grammar accepted t parser
  text : YieldsText grammar parser

/-- A sequence after an escape has to settle, and replacements do. -/
theorem settlesOn_escaped
    (hsequences : ∀ entry ∈ quoting.sequences, DecodesOn grammar accepted t entry.2) :
    SettlesOn grammar accepted t quoting.escaped := by
  have hstages (stage : Quoting.EscapeStage) (_ : True) :
      Machine.Descends grammar accepted t
        ⟨.character, Quoting.resumeEscape, quoting.stepEscape⟩ (fun _ => True)
        (fun stage _ => stage.rank) stage := by
    cases stage with
    | character =>
        refine .run rfl settlesOn_anyCharacter fun state next _ _ _ _ _ => ⟨trivial, ?_⟩
        cases next.result <;> simp [Quoting.resumeEscape, Quoting.EscapeStage.rank]
    | selected c =>
        cases hreplacement : quoting.replacements.lookup c with
        | some replacement =>
            exact .finish (by simp only [Quoting.stepEscape, hreplacement]; rfl)
        | none =>
            cases hsequence : quoting.sequences.lookup c with
            | none =>
                exact .finish (by simp only [Quoting.stepEscape, hreplacement, hsequence]; rfl)
            | some parser =>
                have hparser := (hsequences (c, parser) (mem_of_lookup hsequence)).settles
                refine .run (by simp only [Quoting.stepEscape, hreplacement, hsequence]) hparser ?_
                intro state next _ _ _ _ _
                exact ⟨trivial, Nat.zero_lt_one⟩
    | decoded result => exact .finish rfl
  have hbounded : Bounded grammar quoting.escaped :=
    bounded_escaped quoting fun entry hentry => (hsequences entry hentry).bounded
  exact Machine.settlesOn _ (own_of_bounded hbounded) trivial hstages

/-- The result is one of the quotes. -/
theorem returns_anyQuote {quotes : List Text} {state next : State}
    (h : Returns grammar (.choice (quotes.map fun quote => .literal quote true)) state next)
    (hstate : state.failed = false) (hnext : next.failed = false) :
    ∃ quote ∈ quotes, next.result = .text quote := by
  generalize hall : quotes.map (fun quote => (.literal quote true : Parser ν)) = literals at h
  cases h.acts hstate with
  | choice_none _ _ => cases hnext
  | choice _ _ hquote _ =>
      obtain ⟨quote, hmem, rfl⟩ := List.mem_map.mp
        (hall.symm ▸ List.mem_append_right _ List.mem_cons_self)
      obtain ⟨-, rfl⟩ := returns_literal_success hquote hstate hnext
      exact ⟨quote, hmem, rfl⟩

theorem settlesOn_anyQuote (hquotes : quoting.quotes ≠ [])
    (hnonempty : ∀ quote ∈ quoting.quotes, quote ≠ []) :
    SettlesOn grammar accepted t quoting.anyQuote := by
  rw [anyQuote_eq quoting hquotes hnonempty]
  refine settlesOn_choice fun alternative hmem => ?_
  obtain ⟨quote, -, rfl⟩ := List.mem_map.mp hmem
  exact settlesOn_literal quote true

section Marks

variable {quote : Text} {state next : State}

/-- A run of plain characters is a text, and null if it is empty. -/
theorem returns_plainRun (hquote : quote ≠ [])
    (h : Returns grammar (quoting.plainRun quote) state next) (hstate : state.failed = false) :
    next.result = .null ∨ ∃ text, next.result = .text text := by
  rw [plainRun_eq quoting (List.append_ne_nil_of_left_ne_nil hquote quoting.escape)] at h
  exact yieldsText_pattern.optional h hstate

theorem settlesOn_plainRun (hquote : quote ≠ []) :
    SettlesOn grammar accepted t (quoting.plainRun quote) := by
  rw [plainRun_eq quoting (List.append_ne_nil_of_left_ne_nil hquote quoting.escape)]
  exact (settlesOn_pattern _ _ _).optional

/-- An escape that is there takes something of the input. -/
theorem returns_escape (hescape : quoting.escape ≠ [])
    (h : Returns grammar (.optional (.ofExcept (Parser.literalOf quoting.escape true))) state next)
    (hstate : state.failed = false) :
    next.result = .null ∨
      ∃ found, next.result = .text found ∧ Machine.left next < Machine.left state := by
  rw [ofExcept_literalOf hescape] at h
  cases h.acts hstate with
  | optional_none _ _ _ => exact Or.inl rfl
  | optional _ hliteral hnext =>
      obtain ⟨hleft, rfl⟩ := returns_literal_success hliteral hstate hnext
      have hlength := List.length_pos_iff.mpr hescape
      refine Or.inr ⟨quoting.escape, rfl, ?_⟩
      simp only [Machine.left, State.moveTo]
      omega

theorem settlesOn_escape (hescape : quoting.escape ≠ []) :
    SettlesOn grammar accepted t
      (.optional (.ofExcept (Parser.literalOf quoting.escape true))) := by
  rw [ofExcept_literalOf hescape]
  exact (settlesOn_literal _ true).optional

theorem settlesOn_closingQuote (hquote : quote ≠ []) :
    SettlesOn grammar accepted t (Quoting.closingQuote quote) := by
  rw [Quoting.closingQuote, ofExcept_literalOf hquote]
  exact (settlesOn_literal quote true).mapError _

end Marks

theorem settlesOn_quotedString (hquotes : quoting.quotes ≠ [])
    (hnonempty : ∀ quote ∈ quoting.quotes, quote ≠ []) (hescape : quoting.escape ≠ [])
    (hsequences : ∀ entry ∈ quoting.sequences, DecodesOn grammar accepted t entry.2) :
    SettlesOn grammar accepted t (quotedString quoting) := by
  have hstages (stage : Quoting.Stage) (hgood : stage.Good) :
      Machine.Descends grammar accepted t ⟨.opening, Quoting.resume, quoting.step⟩
        Quoting.Stage.Good Quoting.Stage.rank stage := by
    cases stage with
    | opening =>
        refine .run rfl (settlesOn_anyQuote hquotes hnonempty)
          fun state next hstate _ hreturns hnext hleft => ?_
        rw [anyQuote_eq quoting hquotes hnonempty] at hreturns
        obtain ⟨quote, hmem, hresult⟩ := returns_anyQuote hreturns hstate hnext
        rw [hresult]
        refine ⟨⟨hnonempty quote hmem, [], rfl⟩, ?_⟩
        simp only [Quoting.resume, Quoting.Stage.rank]
        omega
    | unreadable => cases hgood
    | plain quote chunks =>
        obtain ⟨hquote, texts, rfl⟩ := hgood
        refine .run rfl (settlesOn_plainRun hquote)
          fun state next hstate _ hreturns _ hleft => ?_
        rcases returns_plainRun hquote hreturns hstate with hresult | ⟨text, hresult⟩
        · rw [hresult]
          refine ⟨⟨hquote, texts, rfl⟩, ?_⟩
          simp only [Quoting.resume, Quoting.Stage.rank]
          omega
        · rw [hresult]
          refine ⟨⟨hquote, text :: texts, rfl⟩, ?_⟩
          simp only [Quoting.resume, Quoting.Stage.rank]
          omega
    | escape quote chunks =>
        refine .run rfl (settlesOn_escape hescape) fun state next hstate _ hreturns _ hleft => ?_
        rcases returns_escape hescape hreturns hstate with hresult | ⟨found, hresult, hless⟩ <;>
          rw [hresult] <;> refine ⟨hgood, ?_⟩ <;>
          simp only [Quoting.resume, Quoting.Stage.rank] <;> omega
    | escaped quote chunks =>
        obtain ⟨hquote, texts, rfl⟩ := hgood
        refine .run rfl (settlesOn_escaped hsequences)
          fun state next hstate _ hreturns hnext hleft => ?_
        have htexts : ∀ entry ∈ quoting.sequences, YieldsText grammar entry.2 :=
          fun entry hentry => (hsequences entry hentry).text
        obtain ⟨text, hresult⟩ := yieldsText_escaped htexts state next hreturns hstate hnext
        rw [hresult]
        refine ⟨⟨hquote, text :: texts, rfl⟩, ?_⟩
        simp only [Quoting.resume, Quoting.Stage.rank]
        omega
    | closing quote chunks =>
        refine .run rfl (settlesOn_closingQuote hgood.1)
          fun state next _ _ _ _ hleft => ⟨hgood.2, ?_⟩
        simp only [Quoting.resume, Quoting.Stage.rank]
        omega
    | closed chunks =>
        obtain ⟨texts, rfl⟩ := hgood
        exact .finish (step_closed quoting texts)
  have hbounded : Bounded grammar (quotedString quoting) :=
    bounded_quotedString quoting fun entry hentry => (hsequences entry hentry).bounded
  exact Machine.settlesOn _ (own_of_bounded hbounded) trivial hstages

theorem settlesOn_quotedString_standard :
    SettlesOn grammar accepted t (quotedString .standard) := by
  refine settlesOn_quotedString (List.cons_ne_nil _ _) (by simp [Quoting.standard])
    (List.cons_ne_nil _ _) fun entry hentry => ?_
  obtain rfl := List.mem_singleton.mp hentry
  exact ⟨bounded_codeUnit, settlesOn_codeUnit, yieldsText_codeUnit⟩

end Strings

/-- The supplied parsers and what is built over them, with literals and patterns beside them. The
flag says whether integers may be among them. -/
inductive Supplied (integers : Bool) : Parser ν → Prop
  | literal (text : Text) (caseSensitive : Bool) : Supplied integers (.literal text caseSensitive)
  | pattern (name : Text) (compiled : Pattern) (expected : Text) :
      Supplied integers (.pattern name compiled expected)
  | codeUnit : Supplied integers codeUnit
  | codeUnitEscape : Supplied integers codeUnitEscape
  | quotedString : Supplied integers (quotedString .standard)
  | float : Supplied integers float
  | integer : integers = true → Supplied integers integer
  | lexeme {item : Parser ν} : Supplied integers item → Supplied integers (lexeme item)
  | many {item : Parser ν} : Supplied integers item → Supplied integers (.many item)
  | many1 {item : Parser ν} : Supplied integers item → Supplied integers (.many1 item)
  | separated {separator item : Parser ν} : Supplied integers separator →
      Supplied integers item → Supplied integers (.separated separator item)
  | separated1 {separator item : Parser ν} : Supplied integers separator →
      Supplied integers item → Supplied integers (.separated1 separator item)
  | optional {item : Parser ν} : Supplied integers item → Supplied integers (.optional item)
  | choice {alternatives : List (Parser ν)} :
      (∀ alternative ∈ alternatives, Supplied integers alternative) →
      Supplied integers (.choice alternatives)

theorem Supplied.settlesOn {integers : Bool} {parser : Parser ν} (h : Supplied integers parser)
    (t : Text) :
    SettlesOn grammar (fun fault => integers = true ∧ OverLong t fault) t parser := by
  induction h with
  | literal text caseSensitive => exact settlesOn_literal text caseSensitive
  | pattern name compiled expected => exact settlesOn_pattern name compiled expected
  | codeUnit => exact settlesOn_codeUnit
  | codeUnitEscape => exact settlesOn_codeUnitEscape
  | quotedString => exact settlesOn_quotedString_standard
  | float => exact settlesOn_float
  | integer hintegers => exact settlesOn_integer fun fault hlong => ⟨hintegers, hlong⟩
  | lexeme _ ih => exact settlesOn_lexeme ih
  | many _ ih => exact ih.many
  | many1 _ ih => exact ih.many1
  | separated _ _ ihSeparator ihItem => exact ihSeparator.separated ihItem
  | separated1 _ _ ihSeparator ihItem => exact ihSeparator.separated1 ihItem
  | optional _ ih => exact ih.optional
  | choice _ ih => exact settlesOn_choice ih

/-- Runs of the supplied parsers, and of what is built over them, end with a state on every input.
The one exception are integers, and then the input has a numeral that is too long. -/
theorem supplied_run {integers : Bool} {parser : Parser ν} (h : Supplied integers parser)
    (t : Text) (debug : Bool) :
    (∃ final, RunsTo grammar parser t debug final) ∨
      ∃ fault, (integers = true ∧ OverLong t fault) ∧ RunsInto grammar parser t debug fault :=
  (h.settlesOn t).run_ends debug

/-- Two strings and a float between commas. The last string is not closed. -/
theorem supplied_run_strings : ∃ final, RunsTo (fun _ => .ok .endOfInput : Grammar Unit)
    (.separated (.literal (Text.ofString ",") true)
      (lexeme (.choice [quotedString .standard, float])))
    (Text.ofString "\"a\\u00e9\" , 1.5e300 , 'b") true final := by
  have halternatives : ∀ alternative ∈ ([quotedString .standard, float] : List (Parser Unit)),
      Supplied false alternative := by
    simp only [List.forall_mem_cons, List.not_mem_nil, false_implies, implies_true, and_true]
    exact ⟨.quotedString, .float⟩
  have hsupplied := Supplied.separated (.literal (Text.ofString ",") true)
    (Supplied.choice halternatives).lexeme
  refine (supplied_run hsupplied _ true).resolve_right ?_
  rintro ⟨fault, ⟨hintegers, -⟩, -⟩
  cases hintegers

end ParserCombinators.Lexical
