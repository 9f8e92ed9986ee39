import ParserCombinators.Lexical.Float
import ParserCombinators.Lexical.Integer
import ParserCombinators.Lexical.QuotedString
import ParserCombinators.Proofs.CursorBounds

/-!
The parsers of words, numbers and quoted strings are made of forms that keep the position in the
input, so they can stand in any parser that does.
-/

namespace ParserCombinators.Lexical

variable {ν : Type} {grammar : Grammar ν}

/-- Every part keeps the position in the input. -/
abbrev Bounded (grammar : Grammar ν) (parser : Parser ν) : Prop :=
  Parser.Everywhere grammar (fun part => part.boundsCursor = true) parser

open ParserCombinators.Parser

section Results

variable {ε α β : Type}

private theorem exists_of_bind_eq_ok {x : Except ε α} {f : α → Except ε β} {result : β}
    (h : x >>= f = .ok result) : ∃ value, x = .ok value ∧ f value = .ok result := by
  cases x with
  | ok value => exact ⟨value, rfl, h⟩
  | error error => cases h

private theorem exists_of_mem_mapM {f : α → Except ε β} {xs : List α} {ys : List β} {y : β}
    (h : xs.mapM f = .ok ys) (hmem : y ∈ ys) : ∃ x ∈ xs, f x = .ok y := by
  induction xs generalizing ys with
  | nil =>
      obtain rfl := Except.ok.inj h
      cases hmem
  | cons x xs ih =>
      rw [List.mapM_cons] at h
      obtain ⟨first, hfirst, h⟩ := exists_of_bind_eq_ok h
      obtain ⟨rest, hrest, h⟩ := exists_of_bind_eq_ok h
      obtain rfl := Except.ok.inj h
      rcases List.mem_cons.mp hmem with rfl | hmem
      · exact ⟨x, List.mem_cons_self, hfirst⟩
      · obtain ⟨other, hother, heq⟩ := ih hrest hmem
        exact ⟨other, List.mem_cons_of_mem _ hother, heq⟩

end Results

section Forms

variable {item source : Parser ν}

theorem bounded_optional (h : Bounded grammar item) : Bounded grammar (.optional item) :=
  .intro rfl fun _ hpart => by
    cases hpart
    exact h

theorem bounded_map {f : Value → Except Fault Value} (h : Bounded grammar source) :
    Bounded grammar (.map source f) :=
  .intro rfl fun _ hpart => by
    cases hpart
    exact h

theorem bounded_mapError {f : Option Text → Nat → Text} (h : Bounded grammar source) :
    Bounded grammar (.mapError source f) :=
  .intro rfl fun _ hpart => by
    cases hpart
    exact h

theorem bounded_sequence {parts : List (Parser ν)} (h : ∀ part ∈ parts, Bounded grammar part) :
    Bounded grammar (.sequence parts) :=
  .intro rfl fun _ hpart => by
    cases hpart with
    | sequence hmem => exact h _ hmem

theorem bounded_choice {alternatives : List (Parser ν)}
    (h : ∀ alternative ∈ alternatives, Bounded grammar alternative) :
    Bounded grammar (.choice alternatives) :=
  .intro rfl fun _ hpart => by
    cases hpart with
    | choice hmem => exact h _ hmem

theorem bounded_literal (text : Text) : Bounded grammar (.literal text true) :=
  .intro rfl nofun

theorem bounded_pattern (name : Text) (compiled : Regex.Pattern) (expected : Text) :
    Bounded grammar (.pattern name compiled expected) := .intro rfl nofun

theorem bounded_ofExcept {built : Except Fault (Parser ν)}
    (h : ∀ parser, built = .ok parser → Bounded grammar parser) :
    Bounded grammar (.ofExcept built) := by
  cases built with
  | ok parser => exact h parser rfl
  | error fault => exact .intro rfl nofun

theorem bounded_regex (source : Text) (flags : Regex.Flags) :
    Bounded grammar (.ofExcept (Parser.regex source flags)) := by
  refine bounded_ofExcept fun parser h => ?_
  unfold Parser.regex at h
  split at h
  next => exact Except.ok.inj h ▸ bounded_pattern _ _ _
  next => cases h

theorem bounded_literalOf (text : Text) : Bounded grammar (.ofExcept (literalOf text true)) := by
  refine bounded_ofExcept fun parser h => ?_
  unfold literalOf at h
  split at h
  next => cases h
  next => exact Except.ok.inj h ▸ bounded_literal text

/-- A routine is bounded if every parser that one of its stages runs is. -/
theorem bounded_machine {σ : Type} {machine : Machine ν σ} (name : String)
    (h : ∀ stage parser, machine.step stage = .run parser → Bounded grammar parser) :
    Bounded grammar (machine.parser name) :=
  .intro rfl fun _ hpart => by
    cases hpart with
    | routine hrun => exact h _ _ hrun

end Forms

theorem bounded_lexeme {parser : Parser ν} (h : Bounded grammar parser) :
    Bounded grammar (lexeme parser) := by
  have hwhitespace : Bounded grammar (.optional whitespace) :=
    bounded_optional (bounded_pattern _ _ _)
  refine bounded_map (bounded_sequence ?_)
  simp only [List.forall_mem_cons, List.not_mem_nil, false_implies, implies_true, and_true]
  exact ⟨hwhitespace, h, hwhitespace⟩

theorem bounded_float : Bounded grammar float := bounded_map (bounded_regex _ _)

theorem bounded_codeUnit : Bounded grammar codeUnit :=
  bounded_map (bounded_mapError (bounded_regex _ _))

theorem bounded_codeUnitEscape : Bounded grammar codeUnitEscape := by
  refine bounded_map (bounded_sequence ?_)
  simp only [List.forall_mem_cons, List.not_mem_nil, false_implies, implies_true, and_true]
  exact ⟨bounded_literal _, bounded_codeUnit⟩

theorem bounded_radix_body (radix : Radix) : Bounded grammar radix.body := by
  unfold Radix.body Radix.run
  split
  next => exact bounded_mapError (bounded_regex _ _)
  next => exact bounded_regex _ _

theorem bounded_integer : Bounded grammar integer := by
  refine bounded_machine _ fun stage parser h => ?_
  cases stage with
  | sign =>
      obtain rfl := Step.run.inj h
      exact bounded_optional (bounded_literal _)
  | mark negative =>
      obtain rfl := Step.run.inj h
      refine bounded_optional (bounded_choice ?_)
      simp only [List.forall_mem_cons, List.not_mem_nil, false_implies, implies_true, and_true]
      exact ⟨bounded_literal _, bounded_literal _, .intro rfl nofun⟩
  | digits negative radix =>
      obtain rfl := Step.run.inj h
      exact bounded_radix_body radix
  | read negative radix digits =>
      simp only [Integer.step] at h
      split at h <;> cases h

theorem mem_of_lookup {entries : List (Text × Parser ν)} {c : Text} {parser : Parser ν}
    (h : entries.lookup c = some parser) : (c, parser) ∈ entries := by
  obtain ⟨before, after, hentries, -⟩ := List.lookup_eq_some_iff.mp h
  rw [hentries]
  exact List.mem_append_right _ List.mem_cons_self

section Quoting

variable (quoting : Quoting ν)

theorem bounded_anyQuote : Bounded grammar quoting.anyQuote := by
  refine bounded_ofExcept fun parser h => ?_
  obtain ⟨literals, hliterals, hchoice⟩ := exists_of_bind_eq_ok h
  unfold choiceOf at hchoice
  split at hchoice
  next => cases hchoice
  next =>
    obtain rfl := Except.ok.inj hchoice
    refine bounded_choice fun alternative hmem => ?_
    obtain ⟨quote, -, hquote⟩ := exists_of_mem_mapM hliterals hmem
    have hbounded : Bounded grammar (.ofExcept (literalOf quote true)) := bounded_literalOf quote
    rwa [hquote] at hbounded

theorem bounded_escaped
    (hsequences : ∀ entry ∈ quoting.sequences, Bounded grammar entry.2) :
    Bounded grammar quoting.escaped := by
  refine bounded_machine _ fun stage parser h => ?_
  cases stage with
  | character =>
      obtain rfl := Step.run.inj h
      exact bounded_mapError (bounded_regex _ _)
  | selected c =>
      simp only [Quoting.stepEscape] at h
      split at h
      next => cases h
      next =>
        split at h
        next sequence hlookup =>
          obtain rfl := Step.run.inj h
          exact hsequences (c, sequence) (mem_of_lookup hlookup)
        next => cases h
  | decoded result => cases h

theorem bounded_quotedString
    (hsequences : ∀ entry ∈ quoting.sequences, Bounded grammar entry.2) :
    Bounded grammar (quotedString quoting) := by
  refine bounded_machine _ fun stage parser h => ?_
  cases stage with
  | opening =>
      obtain rfl := Step.run.inj h
      exact bounded_anyQuote quoting
  | plain quote chunks =>
      obtain rfl := Step.run.inj h
      exact bounded_optional (bounded_regex _ _)
  | escape quote chunks =>
      obtain rfl := Step.run.inj h
      exact bounded_optional (bounded_literalOf _)
  | escaped quote chunks =>
      obtain rfl := Step.run.inj h
      exact bounded_escaped quoting hsequences
  | closing quote chunks =>
      obtain rfl := Step.run.inj h
      exact bounded_mapError (bounded_literalOf _)
  | unreadable => cases h
  | closed chunks =>
      simp only [Quoting.step] at h
      split at h <;> cases h

end Quoting

theorem bounded_quotedString_standard : Bounded grammar (quotedString Quoting.standard) := by
  refine bounded_quotedString _ fun entry hentry => ?_
  obtain rfl := List.mem_singleton.mp hentry
  exact bounded_codeUnit

end ParserCombinators.Lexical
