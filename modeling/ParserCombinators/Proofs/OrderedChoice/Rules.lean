import ParserCombinators.Proofs.Moves

/-!
Grammars without computed parsers, read as grammars of ordered choice. The reference semantics
derives what an expression does to a text at a position: it yields a value and the position after
it, or it fails. No state, session or fuel occurs in it. The main statement is that applying an
expression to a state that has not failed does what is derivable, and nothing else.

The semantics speaks of expressions with case-sensitive literals only, and without chains,
routines, traces and messages of the grammar's own.
-/

namespace ParserCombinators.Parser

variable {ν : Type} {grammar : Grammar ν}

/-- What an expression does at a position. -/
inductive Verdict where
  | yields (pos : Nat) (value : Value)
  | fails

/-- What an expression does to the text `t` at a position. A choice takes the first alternative
that yields, from the same position. A repetition takes an item without width once and ends with
it. A separated repetition keeps a separator after its last item, unless it leads back to where
that item began. -/
inductive Derives (grammar : Grammar ν) (t : Text) : Parser ν → Nat → Verdict → Prop
  | literal {text : Text} {i : Nat} : i < t.length → text <+: t.drop i →
      Derives grammar t (.literal text true) i (.yields (i + text.length) (.text text))
  | literal_differs {text : Text} {i : Nat} : i < t.length → ¬ text <+: t.drop i →
      Derives grammar t (.literal text true) i .fails
  | literal_at_end {text : Text} {i : Nat} : t.length ≤ i →
      Derives grammar t (.literal text true) i .fails
  | pattern {name expected found : Text} {compiled : Regex.Pattern} {i : Nat} :
      i < t.length → compiled.matchAt? t i = some found →
      Derives grammar t (.pattern name compiled expected) i
        (.yields (i + found.length) (.text found))
  | pattern_differs {name expected : Text} {compiled : Regex.Pattern} {i : Nat} :
      i < t.length → compiled.matchAt? t i = none →
      Derives grammar t (.pattern name compiled expected) i .fails
  | pattern_at_end {name expected : Text} {compiled : Regex.Pattern} {i : Nat} :
      t.length ≤ i → Derives grammar t (.pattern name compiled expected) i .fails
  | endOfInput {i : Nat} : t.length ≤ i → Derives grammar t .endOfInput i (.yields i .null)
  | endOfInput_left {i : Nat} : i < t.length → Derives grammar t .endOfInput i .fails
  | succeed (value : Value) (i : Nat) : Derives grammar t (.succeed value) i (.yields i value)
  | fail (message : Text) (i : Nat) : Derives grammar t (.fail message) i .fails
  | map {source : Parser ν} {f : Value → Except Fault Value} {i j : Nat} {value image : Value} :
      Derives grammar t source i (.yields j value) → f value = .ok image →
      Derives grammar t (.map source f) i (.yields j image)
  | map_fails {source : Parser ν} {f : Value → Except Fault Value} {i : Nat} :
      Derives grammar t source i .fails → Derives grammar t (.map source f) i .fails
  | sequence_nil (i : Nat) : Derives grammar t (.sequence []) i (.yields i (.list []))
  | sequence_cons {part : Parser ν} {parts : List (Parser ν)} {i j k : Nat} {value : Value}
      {values : List Value} :
      Derives grammar t part i (.yields j value) →
      Derives grammar t (.sequence parts) j (.yields k (.list values)) →
      Derives grammar t (.sequence (part :: parts)) i (.yields k (.list (value :: values)))
  | sequence_head_fails {part : Parser ν} {parts : List (Parser ν)} {i : Nat} :
      Derives grammar t part i .fails → Derives grammar t (.sequence (part :: parts)) i .fails
  | sequence_tail_fails {part : Parser ν} {parts : List (Parser ν)} {i j : Nat} {value : Value} :
      Derives grammar t part i (.yields j value) → Derives grammar t (.sequence parts) j .fails →
      Derives grammar t (.sequence (part :: parts)) i .fails
  | choice_nil (i : Nat) : Derives grammar t (.choice []) i .fails
  | choice_first {alternative : Parser ν} {alternatives : List (Parser ν)} {i j : Nat}
      {value : Value} :
      Derives grammar t alternative i (.yields j value) →
      Derives grammar t (.choice (alternative :: alternatives)) i (.yields j value)
  | choice_next {alternative : Parser ν} {alternatives : List (Parser ν)} {i : Nat}
      {verdict : Verdict} :
      Derives grammar t alternative i .fails →
      Derives grammar t (.choice alternatives) i verdict →
      Derives grammar t (.choice (alternative :: alternatives)) i verdict
  | optional {item : Parser ν} {i j : Nat} {value : Value} :
      Derives grammar t item i (.yields j value) →
      Derives grammar t (.optional item) i (.yields j value)
  | optional_none {item : Parser ν} {i : Nat} : Derives grammar t item i .fails →
      Derives grammar t (.optional item) i (.yields i .null)
  | many_nil {item : Parser ν} {i : Nat} : Derives grammar t item i .fails →
      Derives grammar t (.many item) i (.yields i (.list []))
  | many_still {item : Parser ν} {i : Nat} {value : Value} :
      Derives grammar t item i (.yields i value) →
      Derives grammar t (.many item) i (.yields i (.list [value]))
  | many_cons {item : Parser ν} {i j k : Nat} {value : Value} {values : List Value} :
      Derives grammar t item i (.yields j value) → j ≠ i →
      Derives grammar t (.many item) j (.yields k (.list values)) →
      Derives grammar t (.many item) i (.yields k (.list (value :: values)))
  | many1 {item : Parser ν} {i j : Nat} {value : Value} {values : List Value} :
      Derives grammar t (.many item) i (.yields j (.list (value :: values))) →
      Derives grammar t (.many1 item) i (.yields j (.list (value :: values)))
  | many1_fails {item : Parser ν} {i : Nat} : Derives grammar t item i .fails →
      Derives grammar t (.many1 item) i .fails
  | separated_nil {separator item : Parser ν} {i : Nat} : Derives grammar t item i .fails →
      Derives grammar t (.separated separator item) i (.yields i (.list []))
  | separated_last {separator item : Parser ν} {i j : Nat} {value : Value} :
      Derives grammar t item i (.yields j value) → Derives grammar t separator j .fails →
      Derives grammar t (.separated separator item) i (.yields j (.list [value]))
  | separated_still {separator item : Parser ν} {i j : Nat} {value between : Value} :
      Derives grammar t item i (.yields j value) →
      Derives grammar t separator j (.yields i between) →
      Derives grammar t (.separated separator item) i (.yields j (.list [value]))
  | separated_cons {separator item : Parser ν} {i j k l : Nat} {value between : Value}
      {values : List Value} :
      Derives grammar t item i (.yields j value) →
      Derives grammar t separator j (.yields k between) → k ≠ i →
      Derives grammar t (.separated separator item) k (.yields l (.list values)) →
      Derives grammar t (.separated separator item) i (.yields l (.list (value :: values)))
  | separated1 {separator item : Parser ν} {i j : Nat} {value : Value} {values : List Value} :
      Derives grammar t (.separated separator item) i (.yields j (.list (value :: values))) →
      Derives grammar t (.separated1 separator item) i (.yields j (.list (value :: values)))
  | separated1_fails {separator item : Parser ν} {i : Nat} : Derives grammar t item i .fails →
      Derives grammar t (.separated1 separator item) i .fails
  | lazy {body : Parser ν} {i : Nat} {verdict : Verdict} : Derives grammar t body i verdict →
      Derives grammar t (.lazy body) i verdict
  | ref {name : ν} {body : Parser ν} {i : Nat} {verdict : Verdict} :
      grammar name = .ok body → Derives grammar t body i verdict →
      Derives grammar t (.ref name) i verdict

/-- The forms of expressions that the semantics speaks of. -/
def isOrderedChoice : Parser ν → Bool
  | literal _ caseSensitive => caseSensitive
  | pattern _ _ _ | endOfInput | sequence _ | choice _ | many _ | many1 _ | separated _ _ => true
  | separated1 _ _ | optional _ | lazy _ | ref _ | fail _ | succeed _ | map _ _ => true
  | chain _ _ | mapError _ _ | routine _ _ | trace _ _ | transform _ _ | broken _ => false

/-- The verdict that a returned state amounts to. -/
def verdict (state : State) : Verdict :=
  if state.failed then .fails else .yields state.pos state.result

theorem verdict_of_failed {state : State} (h : state.failed = true) : verdict state = .fails := by
  simp [verdict, h]

theorem verdict_of_success {state : State} (h : state.failed = false) :
    verdict state = .yields state.pos state.result := by
  simp [verdict, h]

theorem verdict_withResult {state : State} (h : state.failed = false) (value : Value) :
    verdict (state.withResult value) = .yields state.pos value := verdict_of_success h

theorem verdict_moveTo {state : State} (h : state.failed = false) (pos : Nat) (value : Value) :
    verdict (state.moveTo pos value) = .yields pos value := verdict_of_success h

theorem verdict_eq_fails_iff {state : State} : verdict state = .fails ↔ state.failed = true := by
  cases h : state.failed <;> simp [verdict, h]

theorem verdict_eq_yields_iff {state : State} {pos : Nat} {value : Value} :
    verdict state = .yields pos value ↔
      state.failed = false ∧ state.pos = pos ∧ state.result = value := by
  cases h : state.failed <;> simp [verdict, h]

theorem reads_ahead_iff {text : Text} {state : State} :
    Reads text true (state.ahead text.length) ↔ text <+: state.input.drop state.pos := by
  simp only [Reads, if_true, State.ahead, Text.slice, Nat.add_sub_cancel_left]
  rw [List.prefix_iff_eq_take, eq_comm]

section Between

variable {t : Text} {i : Nat}

theorem derives_sequence_yields_iff {part : Parser ν} {parts : List (Parser ν)} {k : Nat}
    {result : Value} :
    Derives grammar t (.sequence (part :: parts)) i (.yields k result) ↔
      ∃ j value values, Derives grammar t part i (.yields j value) ∧
        Derives grammar t (.sequence parts) j (.yields k (.list values)) ∧
        result = .list (value :: values) := by
  constructor
  · intro h
    cases h with
    | sequence_cons hpart hparts => exact ⟨_, _, _, hpart, hparts, rfl⟩
  · rintro ⟨j, value, values, hpart, hparts, rfl⟩
    exact .sequence_cons hpart hparts

theorem derives_sequence_fails_iff {part : Parser ν} {parts : List (Parser ν)} :
    Derives grammar t (.sequence (part :: parts)) i .fails ↔
      Derives grammar t part i .fails ∨
      ∃ j value, Derives grammar t part i (.yields j value) ∧
        Derives grammar t (.sequence parts) j .fails := by
  constructor
  · intro h
    cases h with
    | sequence_head_fails hpart => exact Or.inl hpart
    | sequence_tail_fails hpart hparts => exact Or.inr ⟨_, _, hpart, hparts⟩
  · rintro (hpart | ⟨j, value, hpart, hparts⟩)
    · exact .sequence_head_fails hpart
    · exact .sequence_tail_fails hpart hparts

theorem derives_sequence_nil_iff {v : Verdict} :
    Derives grammar t (.sequence []) i v ↔ v = .yields i (.list []) := by
  constructor
  · intro h
    cases h with
    | sequence_nil => rfl
  · rintro rfl
    exact .sequence_nil i

variable {left right content : Parser ν}

/-- What stands between two other expressions yields its own value, after the last of them. -/
theorem derives_between_yields_iff {l : Nat} {value : Value} :
    Derives grammar t (between left right content) i (.yields l value) ↔
      ∃ j k before after, Derives grammar t left i (.yields j before) ∧
        Derives grammar t content j (.yields k value) ∧
        Derives grammar t right k (.yields l after) := by
  constructor
  · intro h
    obtain ⟨results, hparts, hvalue⟩ : ∃ results,
        Derives grammar t (.sequence [left, content, right]) i (.yields l results) ∧
          results.item 1 = value := by
      cases h with
      | map hparts hvalue => exact ⟨_, hparts, Except.ok.inj hvalue⟩
    obtain ⟨j, before, _, hleft, hrest, rfl⟩ := derives_sequence_yields_iff.mp hparts
    obtain ⟨k, found, _, hcontent, hlast, heq⟩ := derives_sequence_yields_iff.mp hrest
    obtain ⟨_, after, _, hright, hend, -⟩ := derives_sequence_yields_iff.mp hlast
    obtain rfl := Value.list.inj heq
    obtain ⟨rfl, -⟩ := Verdict.yields.inj (derives_sequence_nil_iff.mp hend)
    obtain rfl : found = value := hvalue
    exact ⟨j, k, before, after, hleft, hcontent, hright⟩
  · rintro ⟨j, k, before, after, hleft, hcontent, hright⟩
    exact .map (.sequence_cons hleft (.sequence_cons hcontent (.sequence_cons hright
      (.sequence_nil l)))) rfl

theorem derives_between_fails_iff :
    Derives grammar t (between left right content) i .fails ↔
      Derives grammar t left i .fails ∨
      ∃ j before, Derives grammar t left i (.yields j before) ∧
        (Derives grammar t content j .fails ∨
          ∃ k value, Derives grammar t content j (.yields k value) ∧
            Derives grammar t right k .fails) := by
  have hmap : Derives grammar t (between left right content) i .fails ↔
      Derives grammar t (.sequence [left, content, right]) i .fails := by
    constructor
    · intro h
      cases h with
      | map_fails hparts => exact hparts
    · exact .map_fails
  simp only [hmap, derives_sequence_fails_iff, derives_sequence_nil_iff, reduceCtorEq, and_false,
    exists_false, or_false]

end Between

end ParserCombinators.Parser
