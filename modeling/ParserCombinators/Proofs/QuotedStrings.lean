import ParserCombinators.Proofs.LexicalPatterns
import ParserCombinators.Proofs.Machines
import ParserCombinators.Proofs.WholeRuns

/-!
Quoted strings are read back as they were written. A text is written piece by piece: a character by
itself, or an escape with what stands for a character or for a longer text. Whatever the quote, the
escape and the maps of a quoting are, the parser decodes every way to write every text, and stops
after the quote that closes it. A sequence that stands for no text ends the run instead.

The parser takes plain characters in runs, so the pieces of one run are not seen one by one: the
induction is on the pieces, with the part of the run that comes before them.
-/

namespace ParserCombinators.Lexical

open ParserCombinators.Parser ParserCombinators.Regex

variable {ν : Type}

/-- One piece of a written text: a plain character, an escaped one that stands for itself, an
escaped one that is replaced, or four digits of a code unit. -/
inductive Piece where
  | plain (c : Nat)
  | itself (c : Nat)
  | replaced (c : Nat)
  | codeUnit (digits : Text)

namespace Piece

def written (escape : Nat) : Piece → Text
  | plain c => [c]
  | itself c => [escape, c]
  | replaced c => [escape, c]
  | codeUnit digits => escape :: 'u'.toNat :: digits

def meaning (quoting : Quoting ν) : Piece → Text
  | plain c => [c]
  | itself c => [c]
  | replaced c => (quoting.replacements.lookup [c]).getD []
  | codeUnit digits => [Digit.number 16 digits]

/-- What a quoting lets a piece stand for between two marks. -/
def Admits (quoting : Quoting ν) (quote escape : Nat) : Piece → Prop
  | plain c => c ≠ quote ∧ c ≠ escape
  | itself c => quoting.replacements.lookup [c] = none ∧ quoting.sequences.lookup [c] = none
  | replaced c => (quoting.replacements.lookup [c]).isSome = true
  | codeUnit digits =>
    quoting.replacements.lookup (Text.ofString "u") = none ∧
      quoting.sequences.lookup (Text.ofString "u") = some Lexical.codeUnit ∧
      digits.length = 4 ∧ ∀ c ∈ digits, Digit.isHexadecimal c = true

end Piece

/-- A piece is plain, or begins with the escape. -/
theorem Piece.plain_or_escaped (escape : Nat) (piece : Piece) :
    (∃ c, piece = .plain c) ∨
      ∃ after, (∀ c, piece ≠ .plain c) ∧ piece.written escape = escape :: after := by
  cases piece with
  | plain c => exact Or.inl ⟨c, rfl⟩
  | itself c => exact Or.inr ⟨[c], by simp, rfl⟩
  | replaced c => exact Or.inr ⟨[c], by simp, rfl⟩
  | codeUnit digits => exact Or.inr ⟨_, by simp, rfl⟩

variable [DecidableEq ν] {grammar : Grammar ν} {quoting : Quoting ν} {t tail : Text} {i : Nat}

theorem answers_codeUnit {digits : Text} (hahead : t.drop i = digits ++ tail)
    (hdigits : ∀ c ∈ digits, Digit.isHexadecimal c = true) (hlength : digits.length = 4) :
    Answers grammar t codeUnit i (.yields (i + 4) (.text [Digit.number 16 digits])) := by
  have hnonempty : digits ≠ [] := by
    rintro rfl
    cases hlength
  have hpattern : Answers grammar t (ofPattern codeUnitPattern) i
      (.yields (i + digits.length) (.text digits)) :=
    .class_exactly rfl hahead (fun c hc => (has_hexadecimalSet c).trans (hdigits c hc)) hnonempty
      hlength
  obtain ⟨wording, hcodeUnit⟩ := exists_codeUnit_eq (ν := ν)
  rw [hlength] at hpattern
  rw [hcodeUnit]
  exact (hpattern.mapError wording).map (characterOf_digits hdigits hlength)

/-- The machine of what follows an escape. -/
def escapedMachine (quoting : Quoting ν) : Machine ν Quoting.EscapeStage :=
  ⟨.character, Quoting.resumeEscape, quoting.stepEscape⟩

theorem answers_anyCharacter {c : Nat} (hahead : t.drop i = c :: tail) :
    Answers grammar t quoting.anyCharacter i (.yields (i + 1) (.text [c])) := by
  have hpattern : Answers grammar t (ofPattern anyPattern) i (.yields (i + 1) (.text [c])) :=
    .class_one rfl hahead rfl
  obtain ⟨wording, hany⟩ := exists_anyCharacter_eq quoting
  rw [hany]
  exact hpattern.mapError wording

/-- The character after an escape decides what follows it. -/
theorem answers_escaped {c : Nat} {v : Verdict} (hahead : t.drop i = c :: tail)
    (h : (escapedMachine quoting).Answers grammar t (.selected [c]) (i + 1) v) :
    Answers grammar t quoting.escaped i v :=
  Machine.Answers.of_start (.run rfl (answers_anyCharacter hahead) h) "escaped"

/-- Every piece but a plain one is read as its meaning after the escape. -/
theorem answers_escaped_piece {quote escape : Nat} {piece : Piece} {after : Text}
    (hadmits : piece.Admits quoting quote escape)
    (hwritten : piece.written escape = escape :: after) (hplain : ∀ c, piece ≠ .plain c)
    (hahead : t.drop i = after ++ tail) :
    Answers grammar t quoting.escaped i
      (.yields (i + after.length) (.text (piece.meaning quoting))) := by
  cases piece with
  | plain c => exact absurd rfl (hplain c)
  | itself c =>
      obtain rfl : [c] = after := (List.cons.inj hwritten).2
      obtain ⟨hreplacement, hsequence⟩ := hadmits
      refine answers_escaped hahead (.finish ?_)
      simp only [escapedMachine, Quoting.stepEscape, hreplacement, hsequence, Piece.meaning]
  | replaced c =>
      obtain rfl : [c] = after := (List.cons.inj hwritten).2
      obtain ⟨text, htext⟩ := Option.isSome_iff_exists.mp hadmits
      refine answers_escaped hahead (.finish ?_)
      simp only [escapedMachine, Quoting.stepEscape, htext, Piece.meaning, Option.getD_some]
  | codeUnit digits =>
      obtain rfl : 'u'.toNat :: digits = after := (List.cons.inj hwritten).2
      obtain ⟨hreplacement, hsequence, hlength, hdigits⟩ := hadmits
      have hrest : t.drop (i + 1) = digits ++ tail := drop_after_cons hahead
      have hunit : Answers grammar t Lexical.codeUnit (i + 1)
          (.yields (i + 1 + 4) (.text [Digit.number 16 digits])) :=
        answers_codeUnit hrest hdigits hlength
      have hend : i + ('u'.toNat :: digits).length = i + 1 + 4 := by
        rw [List.length_cons, hlength]
      have hkey : ['u'.toNat] = Text.ofString "u" := rfl
      rw [hend]
      refine answers_escaped hahead (.run ?_ hunit (.finish rfl))
      simp only [escapedMachine, Quoting.stepEscape, hkey, hreplacement, hsequence]

/-- The machine of a string in quotes. -/
def quotedMachine (quoting : Quoting ν) : Machine ν Quoting.Stage :=
  ⟨.opening, Quoting.resume, quoting.step⟩

/-- The chunks with a run of plain characters after them, which is no chunk if it is empty. -/
def pushRun (run : Text) (chunks : List Text) : List Text :=
  if run = [] then chunks else run :: chunks

theorem flatten_pushRun (run : Text) (chunks : List Text) :
    (pushRun run chunks).reverse.flatten = chunks.reverse.flatten ++ run := by
  unfold pushRun
  split
  · simp_all
  · simp

theorem map_pushRun (run : Text) (chunks : List Text) :
    (pushRun run chunks).map Value.text =
      if run = [] then chunks.map .text else .text run :: chunks.map .text := by
  unfold pushRun
  split <;> rfl

section LongMarks

variable {quote run : Text} {escape : Nat} {chunks : List Text} {post : State → Prop}

/-- A run of plain characters goes up to a character of the quote, or to the escape, or to the
end. An empty run is no chunk. -/
theorem answers_plainRun (hescape : quoting.escape = [escape]) (hahead : t.drop i = run ++ tail)
    (hrun : ∀ c ∈ run, c ∉ quote ∧ c ≠ escape)
    (htail : ∀ mark ∈ tail.head?, mark ∈ quote ∨ mark = escape) :
    ∃ result, Answers grammar t (quoting.plainRun quote) i (.yields (i + run.length) result) ∧
      ∀ found, Quoting.resume (.plain quote found) result =
        .escape quote (if run = [] then found else .text run :: found) := by
  rw [plainRun_eq quoting (by simp [hescape]), hescape]
  have hhas (c : Nat) : (membersSet true (quote ++ [escape])).has c = true ↔
      c ∉ quote ∧ c ≠ escape := by
    simp [has_membersSet]
  have hend : ∀ mark ∈ tail.head?, (membersSet true (quote ++ [escape])).has mark = false := by
    intro mark hmark
    rw [Bool.eq_false_iff]
    intro hmember
    obtain ⟨hquote, hother⟩ := (hhas mark).mp hmember
    exact (htail mark hmark).elim hquote hother
  cases run with
  | nil =>
      have hfails : Answers grammar t (ofPattern (classOf true (quote ++ [escape]))) i .fails :=
        .class_run_fails rfl Nat.one_pos (by rw [hahead]; exact hend)
      exact ⟨.null, .optional_none hfails, fun found => rfl⟩
  | cons c run =>
      have hfound : Answers grammar t (ofPattern (classOf true (quote ++ [escape]))) i
          (.yields (i + (c :: run).length) (.text (c :: run))) :=
        .class_run rfl hahead (fun c hc => (hhas c).mpr (hrun c hc)) (by simp) (by simp) hend
      exact ⟨.text (c :: run), .optional hfound, fun found => rfl⟩

theorem reaches_plain_run (hescape : quoting.escape = [escape]) (hahead : t.drop i = run ++ tail)
    (hrun : ∀ c ∈ run, c ∉ quote ∧ c ≠ escape)
    (htail : ∀ mark ∈ tail.head?, mark ∈ quote ∨ mark = escape)
    (h : (quotedMachine quoting).Reaches grammar t
      (.escape quote ((pushRun run chunks).map .text)) (i + run.length) post) :
    (quotedMachine quoting).Reaches grammar t (.plain quote (chunks.map .text)) i post := by
  obtain ⟨result, hresult, hresume⟩ := answers_plainRun hescape hahead hrun htail
  refine .run rfl hresult ?_
  change (quotedMachine quoting).Reaches grammar t
    (Quoting.resume (.plain quote (chunks.map .text)) result) _ post
  rw [hresume, ← map_pushRun]
  exact h

omit [DecidableEq ν] in
theorem step_escape {found : List Value} (hescape : quoting.escape = [escape]) :
    (quotedMachine quoting).step (.escape quote found) =
      .run (.optional (.literal [escape] true)) := by
  change Step.run (.optional (.ofExcept (Parser.literalOf quoting.escape true))) = _
  rw [hescape, ofExcept_literalOf (by simp)]

section Closing

variable (hescape : quoting.escape = [escape]) (hquote : quote ≠ []) (hne : escape ∉ quote)
  (hahead : t.drop i = quote ++ tail)

include hquote hahead

include hne in
theorem answers_no_escape :
    Answers grammar t (.optional (.literal [escape] true)) i (.yields i .null) := by
  refine .optional_none (.literal_other fun c hc => ?_)
  rw [hahead, List.head?_append_of_ne_nil _ hquote] at hc
  exact ne_of_mem_of_not_mem (List.mem_of_mem_head? hc) hne

theorem answers_closingQuote :
    Answers grammar t (Quoting.closingQuote quote) i (.yields (i + quote.length) (.text quote)) := by
  unfold Quoting.closingQuote
  rw [ofExcept_literalOf hquote]
  exact Answers.mapError (.literal_ahead hahead hquote) _

include hescape hne

/-- Where the quote is ahead and no escape, the string ends. -/
theorem answers_closing_quote :
    (quotedMachine quoting).Answers grammar t (.escape quote (chunks.map .text)) i
      (.yields (i + quote.length) (.text chunks.reverse.flatten)) :=
  .run (step_escape hescape) (answers_no_escape hquote hne hahead)
    (.run rfl (answers_closingQuote hquote hahead) (.finish (step_closed quoting chunks)))

/-- If one of the chunks is no text, the run ends there with a fault. -/
theorem raises_closing_quote {found : List Value} {value : Value} (hvalue : value ∈ found)
    (hnone : value.text? = none) :
    (quotedMachine quoting).Raises grammar t (.escape quote found) i .notText :=
  .run (step_escape hescape) (answers_no_escape hquote hne hahead)
    (.run rfl (answers_closingQuote hquote hahead) (.raise (step_closed_raises quoting hvalue hnone)))

end Closing

end LongMarks

section Marks

variable {quote escape : Nat} {run : Text} {chunks : List Text} {post : State → Prop}

/-- A run of plain characters goes up to the quote or the escape that comes first, or to the end. -/
theorem reaches_plain_stage (hescape : quoting.escape = [escape])
    (hahead : t.drop i = run ++ tail) (hrun : ∀ c ∈ run, c ≠ quote ∧ c ≠ escape)
    (htail : ∀ mark ∈ tail.head?, mark = quote ∨ mark = escape)
    (h : (quotedMachine quoting).Reaches grammar t
      (.escape [quote] ((pushRun run chunks).map .text)) (i + run.length) post) :
    (quotedMachine quoting).Reaches grammar t (.plain [quote] (chunks.map .text)) i post :=
  reaches_plain_run hescape hahead (by simpa using hrun) (by simpa using htail) h

/-- Where the quote is ahead and no escape, the string ends. -/
theorem answers_closing (hescape : quoting.escape = [escape]) (hne : quote ≠ escape)
    (hahead : t.drop i = quote :: tail) :
    (quotedMachine quoting).Answers grammar t (.escape [quote] (chunks.map .text)) i
      (.yields (i + 1) (.text chunks.reverse.flatten)) :=
  answers_closing_quote hescape (by simp) (by simpa using hne.symm) hahead

/-- After an escape the parser of its sequence runs. -/
theorem reaches_escape_stage {found : List Value} (hescape : quoting.escape = [escape])
    (hahead : t.drop i = escape :: tail)
    (h : (quotedMachine quoting).Reaches grammar t (.escaped [quote] found) (i + 1) post) :
    (quotedMachine quoting).Reaches grammar t (.escape [quote] found) i post := by
  have hliteral : Answers grammar t (.literal [escape] true) i (.yields (i + 1) (.text [escape])) :=
    .literal_ahead hahead (by simp)
  exact .run (step_escape hescape) (.optional hliteral) h

/-- The pieces are decoded up to a quote or an escape that is none of them, or to the end, whatever
run of plain characters comes before them. The induction is on the pieces: a plain one makes that
run longer, and any other ends it. -/
theorem reaches_after_pieces {pieces : List Piece} (hescape : quoting.escape = [escape])
    (hadmits : ∀ piece ∈ pieces, piece.Admits quoting quote escape)
    (hrun : ∀ c ∈ run, c ≠ quote ∧ c ≠ escape)
    (hahead : t.drop i = run ++ (pieces.flatMap (Piece.written escape) ++ tail))
    (htail : ∀ mark ∈ tail.head?, mark = quote ∨ mark = escape)
    (h : ∀ found : List Text, found.reverse.flatten =
        chunks.reverse.flatten ++ run ++ pieces.flatMap (Piece.meaning quoting) →
      (quotedMachine quoting).Reaches grammar t (.escape [quote] (found.map .text))
        (i + run.length + (pieces.flatMap (Piece.written escape)).length) post) :
    (quotedMachine quoting).Reaches grammar t (.plain [quote] (chunks.map .text)) i post := by
  induction pieces generalizing run chunks i with
  | nil =>
      refine reaches_plain_stage hescape hahead hrun htail (h _ ?_)
      rw [flatten_pushRun, List.flatMap_nil, List.append_nil]
  | cons piece pieces ih =>
      have hrest : ∀ other ∈ pieces, other.Admits quoting quote escape :=
        fun other hother => hadmits other (List.mem_cons_of_mem piece hother)
      have hpiece := hadmits piece List.mem_cons_self
      rw [List.flatMap_cons, List.append_assoc] at hahead
      rw [List.flatMap_cons, List.flatMap_cons, List.length_append] at h
      generalize hothers : pieces.flatMap (Piece.written escape) = others at hahead ih h
      rcases piece.plain_or_escaped escape with ⟨c, rfl⟩ | ⟨after, hplain, hwritten⟩
      · have hlonger : ∀ d ∈ run ++ [c], d ≠ quote ∧ d ≠ escape := by
          intro d hd
          rcases List.mem_append.mp hd with hd | hd
          · exact hrun d hd
          · rw [List.mem_singleton.mp hd]
            exact hpiece
        have hagain : t.drop i = (run ++ [c]) ++ (others ++ tail) := by
          rw [hahead, List.append_assoc]
          rfl
        have hlength : i + run.length + (((Piece.plain c).written escape).length + others.length) =
            i + (run ++ [c]).length + others.length := by
          simp only [Piece.written, List.length_append, List.length_singleton]
          omega
        refine ih hrest hlonger hagain fun found hfound => ?_
        rw [← hlength]
        refine h found ?_
        rw [hfound]
        simp [Piece.meaning]
      · have hmark : t.drop i = run ++ escape :: (after ++ (others ++ tail)) := by
          rw [hahead, hwritten]
          rfl
        have hescapeAhead : t.drop (i + run.length) = escape :: (after ++ (others ++ tail)) :=
          drop_after_append hmark
        have hafter : t.drop (i + run.length + 1) = after ++ (others ++ tail) :=
          drop_after_cons hescapeAhead
        have hothersAhead : t.drop (i + run.length + 1 + after.length) =
            [] ++ (others ++ tail) := drop_after_append hafter
        have hescaped : Answers grammar t quoting.escaped (i + run.length + 1)
            (.yields (i + run.length + 1 + after.length) (.text (piece.meaning quoting))) :=
          answers_escaped_piece hpiece hwritten hplain hafter
        refine reaches_plain_stage hescape hmark hrun (by rintro mark ⟨⟩; exact Or.inr rfl) ?_
        refine reaches_escape_stage hescape hescapeAhead (.run rfl hescaped ?_)
        change (quotedMachine quoting).Reaches grammar t
          (.plain [quote] ((piece.meaning quoting :: pushRun run chunks).map .text)) _ post
        refine ih hrest (by simp) hothersAhead fun found hfound => ?_
        have hlength : i + run.length + ((piece.written escape).length + others.length) =
            i + run.length + 1 + after.length + ([] : Text).length + others.length := by
          simp only [hwritten, List.length_cons, List.length_nil]
          omega
        rw [← hlength]
        refine h found ?_
        rw [hfound, List.reverse_cons, List.flatten_append, flatten_pushRun]
        simp

/-- The pieces up to the closing quote are decoded. -/
theorem answers_pieces {pieces : List Piece} (hescape : quoting.escape = [escape])
    (hne : quote ≠ escape) (hadmits : ∀ piece ∈ pieces, piece.Admits quoting quote escape)
    (hahead : t.drop i = pieces.flatMap (Piece.written escape) ++ quote :: tail) :
    (quotedMachine quoting).Answers grammar t (.plain [quote] []) i
      (.yields (i + (pieces.flatMap (Piece.written escape)).length + 1)
        (.text (pieces.flatMap (Piece.meaning quoting)))) := by
  have hquote : t.drop (i + (pieces.flatMap (Piece.written escape)).length) = quote :: tail :=
    drop_after_append hahead
  have hnone : ∀ c ∈ ([] : Text), c ≠ quote ∧ c ≠ escape := by simp
  have hmark : ∀ mark ∈ (quote :: tail).head?, mark = quote ∨ mark = escape := by
    rintro mark ⟨⟩
    exact Or.inl rfl
  change (quotedMachine quoting).Answers grammar t (.plain [quote] (([] : List Text).map .text)) i _
  refine reaches_after_pieces hescape hadmits hnone hahead hmark fun found hfound => ?_
  have hclosing : (quotedMachine quoting).Answers grammar t (.escape [quote] (found.map .text))
      (i + (pieces.flatMap (Piece.written escape)).length)
      (.yields (i + (pieces.flatMap (Piece.written escape)).length + 1)
        (.text found.reverse.flatten)) := answers_closing hescape hne hquote
  rw [hfound] at hclosing
  exact hclosing

end Marks

section Strings

variable {quote escape : Nat}

/-- The first quote of a quoting that is ahead opens the string. -/
theorem answers_anyQuote (hquotes : ∀ mark ∈ quoting.quotes, mark.length = 1)
    (hquote : [quote] ∈ quoting.quotes) (hahead : t.drop i = quote :: tail) :
    Answers grammar t quoting.anyQuote i (.yields (i + 1) (.text [quote])) := by
  have hchoice (marks : List Text) (hmarks : ∀ mark ∈ marks, mark.length = 1)
      (hmember : [quote] ∈ marks) :
      Answers grammar t (.choice (marks.map fun mark => .literal mark true)) i
        (.yields (i + 1) (.text [quote])) := by
    induction marks with
    | nil => cases hmember
    | cons mark marks ih =>
        obtain ⟨c, rfl⟩ := List.length_eq_one_iff.mp (hmarks mark List.mem_cons_self)
        by_cases hsame : c = quote
        · subst hsame
          exact .choice_first (.literal_ahead hahead (by simp))
        · have hother : Answers grammar t (.literal [c] true) i .fails :=
            .literal_other (by rw [hahead]; rintro d ⟨⟩; exact Ne.symm hsame)
          have hlater : [quote] ∈ marks := by
            rcases List.mem_cons.mp hmember with heq | hlater
            · exact absurd (List.cons.inj heq).1.symm hsame
            · exact hlater
          exact .choice_next hother
            (ih (fun mark hmark => hmarks mark (List.mem_cons_of_mem _ hmark)) hlater)
  have hnonempty : ∀ mark ∈ quoting.quotes, mark ≠ [] := by
    rintro mark hmark rfl
    cases hquotes [] hmark
  rw [anyQuote_eq quoting (List.ne_nil_of_mem hquote) hnonempty]
  exact hchoice quoting.quotes hquotes hquote

/-- A string is decoded wherever it stands in a text. -/
theorem answers_quotedString {pieces : List Piece}
    (hquotes : ∀ mark ∈ quoting.quotes, mark.length = 1) (hescape : quoting.escape = [escape])
    (hquote : [quote] ∈ quoting.quotes) (hne : quote ≠ escape)
    (hadmits : ∀ piece ∈ pieces, piece.Admits quoting quote escape)
    (hahead : t.drop i = quote :: (pieces.flatMap (Piece.written escape) ++ quote :: tail)) :
    Answers grammar t (quotedString quoting) i
      (.yields (i + (pieces.flatMap (Piece.written escape)).length + 2)
        (.text (pieces.flatMap (Piece.meaning quoting)))) := by
  have hbody : t.drop (i + 1) = pieces.flatMap (Piece.written escape) ++ quote :: tail :=
    drop_after_cons hahead
  have hpieces : (quotedMachine quoting).Answers grammar t (.plain [quote] []) (i + 1)
      (.yields (i + 1 + (pieces.flatMap (Piece.written escape)).length + 1)
        (.text (pieces.flatMap (Piece.meaning quoting)))) :=
    answers_pieces hescape hne hadmits hbody
  have hlength : i + (pieces.flatMap (Piece.written escape)).length + 2 =
      i + 1 + (pieces.flatMap (Piece.written escape)).length + 1 := by omega
  rw [hlength]
  exact Machine.Answers.of_start
    (Machine.Answers.run rfl (answers_anyQuote hquotes hquote hahead) hpieces) "quoted"

/-- The parser of a sequence may give anything. Where it gives no text, the string is read on up to
its closing quote, but its chunks cannot be joined, and the run ends with a fault. -/
theorem raises_quotedString {before after rest : Text} {c j : Nat} {parser : Parser ν}
    {value : Value} {state : State} (hquotes : ∀ mark ∈ quoting.quotes, mark.length = 1)
    (hescape : quoting.escape = [escape]) (hquote : [quote] ∈ quoting.quotes)
    (hne : quote ≠ escape) (hreplacement : quoting.replacements.lookup [c] = none)
    (hsequence : quoting.sequences.lookup [c] = some parser)
    (hbefore : ∀ d ∈ before, d ≠ quote ∧ d ≠ escape)
    (hahead : t.drop i = quote :: (before ++ escape :: c :: rest))
    (hparser : Answers grammar t parser (i + 1 + before.length + 1 + 1) (.yields j value))
    (hnone : value.text? = none) (hafter : ∀ d ∈ after, d ≠ quote ∧ d ≠ escape)
    (hclosing : t.drop j = after ++ quote :: tail) (hstate : state.failed = false)
    (hinput : state.input = t) (hpos : state.pos = i) :
    Raises grammar (quotedString quoting) state .notText := by
  have hbody : t.drop (i + 1) = before ++ escape :: c :: rest := drop_after_cons hahead
  have hescapeAhead : t.drop (i + 1 + before.length) = escape :: c :: rest :=
    drop_after_append hbody
  have hletter : t.drop (i + 1 + before.length + 1) = c :: rest := drop_after_cons hescapeAhead
  have hend : t.drop (j + after.length) = [quote] ++ tail := drop_after_append hclosing
  have hescapeMark : Answers grammar t (.literal [escape] true) (i + 1 + before.length)
      (.yields (i + 1 + before.length + 1) (.text [escape])) :=
    .literal_ahead hescapeAhead (by simp)
  have hescaped : Answers grammar t quoting.escaped (i + 1 + before.length + 1)
      (.yields j value) := by
    refine answers_escaped hletter (.run ?_ hparser (.finish rfl))
    simp only [escapedMachine, Quoting.stepEscape, hreplacement, hsequence]
  obtain ⟨last, hlast, hresumeLast⟩ := @answers_plainRun ν _ grammar quoting t _ j [quote] after
    escape hescape hclosing (by simpa using hafter) (by simp)
  have hrest (found : List Value) :
      (quotedMachine quoting).Raises grammar t (.plain [quote] (value :: found)) j .notText := by
    refine .run rfl hlast ?_
    change (quotedMachine quoting).Raises grammar t
      (Quoting.resume (.plain [quote] (value :: found)) last) _ .notText
    rw [hresumeLast]
    exact raises_closing_quote hescape (by simp) (by simpa using hne.symm) hend
      (by split <;> simp) hnone
  obtain ⟨first, hfirst, hresumeFirst⟩ := @answers_plainRun ν _ grammar quoting t _ (i + 1) [quote]
    before escape hescape hbody (by simpa using hbefore) (by simp)
  have hstring : (quotedMachine quoting).Raises grammar t (.plain [quote] []) (i + 1) .notText := by
    refine .run rfl hfirst ?_
    change (quotedMachine quoting).Raises grammar t (Quoting.resume (.plain [quote] []) first) _
      .notText
    rw [hresumeFirst]
    exact .run (step_escape hescape) (.optional hescapeMark) (.run rfl hescaped (hrest _))
  have hraises : (quotedMachine quoting).Raises grammar t .opening i .notText :=
    .run rfl (answers_anyQuote hquotes hquote hahead) hstring
  exact hraises.of_start "quoted" hstate hinput hpos

/-- A way to write any text: the two marks are escaped, and nothing else. -/
def spell (quote escape : Nat) (text : Text) : List Piece :=
  text.map fun c => if c = quote ∨ c = escape then .itself c else .plain c

omit [DecidableEq ν] in
theorem admits_spell {text : Text} {piece : Piece}
    (hmarks : ∀ c ∈ [quote, escape],
      quoting.replacements.lookup [c] = none ∧ quoting.sequences.lookup [c] = none)
    (h : piece ∈ spell quote escape text) : piece.Admits quoting quote escape := by
  obtain ⟨c, -, rfl⟩ := List.mem_map.mp h
  by_cases hmark : c = quote ∨ c = escape
  · rw [if_pos hmark]
    exact hmarks c (by simpa using hmark)
  · rw [if_neg hmark]
    exact not_or.mp hmark

omit [DecidableEq ν] in
theorem meaning_spell (text : Text) :
    (spell quote escape text).flatMap (Piece.meaning quoting) = text := by
  induction text with
  | nil => rfl
  | cons c text ih =>
      have hone : (if c = quote ∨ c = escape then Piece.itself c else .plain c).meaning quoting =
          [c] := by
        split <;> rfl
      rw [spell, List.map_cons, List.flatMap_cons, hone, ← spell, ih]
      rfl

/-- Where all quotes and the escape are single characters, whichever they are, every way to write a
text between two quotes is read back as that text, and whatever follows the second quote is left.
If neither mark is replaced or begins a sequence, every text can be written. -/
theorem quotedString_decodes (hquotes : ∀ mark ∈ quoting.quotes, mark.length = 1)
    (hescape : quoting.escape = [escape]) (hquote : [quote] ∈ quoting.quotes)
    (hne : quote ≠ escape) :
    (∀ (pieces : List Piece) (rest : Text),
      (∀ piece ∈ pieces, piece.Admits quoting quote escape) →
      Parses grammar (quotedString quoting)
        (quote :: (pieces.flatMap (Piece.written escape) ++ quote :: rest))
        ((pieces.flatMap (Piece.written escape)).length + 2)
        (.text (pieces.flatMap (Piece.meaning quoting)))) ∧
    ((∀ c ∈ [quote, escape],
        quoting.replacements.lookup [c] = none ∧ quoting.sequences.lookup [c] = none) →
      ∀ text rest : Text, Parses grammar (quotedString quoting)
        (quote :: ((spell quote escape text).flatMap (Piece.written escape) ++ quote :: rest))
        (((spell quote escape text).flatMap (Piece.written escape)).length + 2) (.text text)) := by
  have hdecodes (pieces : List Piece) (rest : Text)
      (hadmits : ∀ piece ∈ pieces, piece.Admits quoting quote escape) :
      Parses grammar (quotedString quoting)
        (quote :: (pieces.flatMap (Piece.written escape) ++ quote :: rest))
        ((pieces.flatMap (Piece.written escape)).length + 2)
        (.text (pieces.flatMap (Piece.meaning quoting))) := by
    have hstart := @answers_quotedString ν _ grammar quoting
      (quote :: (pieces.flatMap (Piece.written escape) ++ quote :: rest)) rest 0 quote escape pieces
      hquotes hescape hquote hne hadmits rfl
    rw [Nat.zero_add] at hstart
    exact hstart.parses
  refine ⟨hdecodes, fun hmarks text rest => ?_⟩
  have hspelled := hdecodes (spell quote escape text) rest fun piece => admits_spell hmarks
  rwa [meaning_spell] at hspelled

/-- Strings between brackets or carets, with a hyphen for the escape. -/
def bracketQuoting : Quoting Unit where
  quotes := [Text.ofString "^", Text.ofString "]"]
  escape := Text.ofString "-"
  replacements := [(Text.ofString "n", [10]), (Text.ofString "^", Text.ofString "up")]
  sequences := [(Text.ofString "u", codeUnit)]

def bracketStrings : Grammar Unit := fun _ => .ok (quotedString bracketQuoting)

/-- Pieces of all four kinds between closing brackets, and a text of the two marks. -/
theorem bracketQuoting_decodes :
    Parses bracketStrings (quotedString bracketQuoting) (Text.ofString "]a^-]-n-^-u00e9b--]]") 19
      (.text [97, 94, 93, 10, 117, 112, 233, 98, 45]) ∧
    Parses bracketStrings (quotedString bracketQuoting) (Text.ofString "]x-]--]y") 7
      (.text (Text.ofString "x]-")) := by
  have hdecodes := @quotedString_decodes Unit _ bracketStrings bracketQuoting 93 45 (by decide) rfl
    (by decide) (by decide)
  refine ⟨hdecodes.1 [.plain 97, .plain 94, .itself 93, .replaced 110, .replaced 94,
    .codeUnit (Text.ofString "00e9"), .plain 98, .itself 45] [93] ?_, hdecodes.2 ?_
    (Text.ofString "x]-") (Text.ofString "y")⟩
  · intro piece hpiece
    simp only [List.mem_cons, List.not_mem_nil, or_false] at hpiece
    rcases hpiece with rfl | rfl | rfl | rfl | rfl | rfl | rfl | rfl
    · exact ⟨by decide, by decide⟩
    · exact ⟨by decide, by decide⟩
    · exact ⟨rfl, rfl⟩
    · rfl
    · rfl
    · exact ⟨rfl, rfl, rfl, by decide⟩
    · exact ⟨by decide, by decide⟩
    · exact ⟨rfl, rfl⟩
  · intro c hc
    simp only [List.mem_cons, List.not_mem_nil, or_false] at hc
    rcases hc with rfl | rfl <;> exact ⟨rfl, rfl⟩

end Strings

end ParserCombinators.Lexical
