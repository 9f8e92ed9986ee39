import ParserCombinators.Proofs.Agreement

/-!
Chains. What a chain does is told by its source and by the parser that is computed from the result:
one after the other, up to the first that fails or ends with a fault. Mapping a result is a chain
into a parser that succeeds with the value, and a sequence is a chain nested as deep as it is long.
-/

namespace ParserCombinators.Parser

variable {ν : Type} [DecidableEq ν] {grammar : Grammar ν}

section Laws

variable {source : Parser ν} {f : Value → Parser ν} {value : Value} {state next : State}
  {fault other : Fault}

theorem returns_succeed_iff (hstate : state.failed = false) :
    Returns grammar (.succeed value) state next ↔ next = state.withResult value := by
  constructor
  · intro h
    cases h.acts hstate with
    | succeed _ => rfl
  · rintro rfl
    exact Returns.succeed hstate

theorem not_raises_succeed : ¬ Raises grammar (.succeed value) state fault := by
  intro h
  rcases raises_iff_call.mp h with hself | ⟨part, middle, hcall, -⟩
  · cases hself
  · cases hcall

theorem not_raises_pattern {name expected : Text} {compiled : Regex.Pattern} :
    ¬ Raises grammar (.pattern name compiled expected) state fault := by
  intro h
  rcases raises_iff_call.mp h with hself | ⟨part, middle, hcall, -⟩
  · cases hself
  · cases hcall

theorem not_returns_broken : ¬ Returns grammar (.broken fault) state next := by
  intro h
  cases h.acts_passing rfl

theorem raises_broken_iff : Raises grammar (.broken fault) state other ↔ other = fault := by
  constructor
  · intro h
    rcases raises_iff_call.mp h with hself | ⟨part, middle, hcall, -⟩
    · cases hself
      rfl
    · cases hcall
  · rintro rfl
    exact (Faults.broken other state).raises

theorem returns_chain_iff :
    Returns grammar (.chain source f) state next ↔
      (∃ middle, Returns grammar source state middle ∧ middle.failed = false ∧
        Returns grammar (f middle.result) middle next) ∨
      (Returns grammar source state next ∧ next.failed = true) := by
  constructor
  · intro h
    cases h.acts_passing rfl with
    | chain hsource hmiddle hnext => exact Or.inl ⟨_, hsource, hmiddle, hnext⟩
    | chain_failed hsource hfailed => exact Or.inr ⟨hsource, hfailed⟩
  · rintro (⟨middle, hsource, hmiddle, hnext⟩ | ⟨hsource, hfailed⟩)
    · exact Returns.chain hsource hmiddle hnext
    · exact Returns.chain_failed hsource hfailed

theorem raises_chain_iff :
    Raises grammar (.chain source f) state fault ↔ Raises grammar source state fault ∨
      ∃ middle, Returns grammar source state middle ∧ middle.failed = false ∧
        Raises grammar (f middle.result) middle fault := by
  constructor
  · intro h
    rcases raises_iff_call.mp h with hself | ⟨part, middle, hcall, hraises⟩
    · cases hself
    · cases hcall with
      | chain_source => exact Or.inl hraises
      | chain_next hsource hmiddle => exact Or.inr ⟨middle, hsource, hmiddle, hraises⟩
  · rintro (hsource | ⟨middle, hsource, hmiddle, hraises⟩)
    · exact (Calls.chain_source source f state).raises hsource
    · exact (Calls.chain_next hsource hmiddle).raises hraises

end Laws

section Map

variable {source : Parser ν} {f : Value → Except Fault Value} {state next : State} {fault : Fault}

/-- The parser that succeeds with the value of the function, or raises its fault. -/
def yielding (f : Value → Except Fault Value) (result : Value) : Parser ν :=
  .ofExcept ((f result).map .succeed)

theorem returns_map_iff_chain :
    Returns grammar (.map source f) state next ↔
      Returns grammar (.chain source (yielding f)) state next := by
  rw [returns_chain_iff]
  constructor
  · intro h
    cases h.acts_passing rfl with
    | map hsource hmiddle hvalue =>
        refine Or.inl ⟨_, hsource, hmiddle, ?_⟩
        rw [yielding, hvalue]
        exact (returns_succeed_iff hmiddle).mpr rfl
    | map_failed hsource hfailed => exact Or.inr ⟨hsource, hfailed⟩
  · rintro (⟨middle, hsource, hmiddle, hnext⟩ | ⟨hsource, hfailed⟩)
    · cases hvalue : f middle.result with
      | ok value =>
          rw [yielding, hvalue] at hnext
          rw [(returns_succeed_iff hmiddle).mp hnext]
          exact Returns.map hsource hmiddle hvalue
      | error raised =>
          rw [yielding, hvalue] at hnext
          exact absurd hnext not_returns_broken
    · exact Returns.map_failed hsource hfailed

theorem raises_map_iff_chain :
    Raises grammar (.map source f) state fault ↔
      Raises grammar (.chain source (yielding f)) state fault := by
  rw [raises_chain_iff]
  constructor
  · intro h
    rcases raises_iff_call.mp h with hself | ⟨part, middle, hcall, hraises⟩
    · cases hself with
      | map hsource hmiddle hvalue =>
          refine Or.inr ⟨_, hsource, hmiddle, ?_⟩
          rw [yielding, hvalue]
          exact raises_broken_iff.mpr rfl
    · cases hcall with
      | map => exact Or.inl hraises
  · rintro (hsource | ⟨middle, hsource, hmiddle, hraises⟩)
    · exact (Calls.map source f state).raises hsource
    · cases hvalue : f middle.result with
      | ok value =>
          rw [yielding, hvalue] at hraises
          exact absurd hraises not_raises_succeed
      | error raised =>
          rw [yielding, hvalue] at hraises
          rw [raises_broken_iff.mp hraises]
          exact (Faults.map hsource hmiddle hvalue).raises

end Map

section Sequence

/-- The parts chained one after the other, into a parser that succeeds with the list of all results.
`found` holds the results so far, the latest first. -/
def chained : List (Parser ν) → List Value → Parser ν
  | [], found => .succeed (.list found.reverse)
  | part :: parts, found => .chain part fun value => chained parts (value :: found)

variable {parts : List (Parser ν)} {found : List Value} {state next : State} {fault : Fault}

theorem returns_chained_iff (hstate : state.failed = false) :
    Returns grammar (chained parts found) state next ↔
      (∃ values last, Through (Returns grammar) parts state values last ∧
        next = last.withResult (.list (found.reverse ++ values))) ∨
      (∃ before part after values middle, parts = before ++ part :: after ∧
        Through (Returns grammar) before state values middle ∧ Returns grammar part middle next ∧
        next.failed = true) := by
  induction parts generalizing found state with
  | nil =>
      rw [chained, returns_succeed_iff hstate]
      constructor
      · rintro rfl
        exact Or.inl ⟨[], state, .nil state, by rw [List.append_nil]⟩
      · rintro (⟨values, last, hthrough, rfl⟩ | ⟨before, part, after, values, middle, hparts, -⟩)
        · cases hthrough
          rw [List.append_nil]
        · simp at hparts
  | cons part parts ih =>
      rw [chained, returns_chain_iff]
      constructor
      · rintro (⟨middle, hpart, hmiddle, hnext⟩ | ⟨hpart, hfailed⟩)
        · rcases (ih hmiddle).mp hnext with ⟨values, last, hthrough, rfl⟩ |
            ⟨before, stop, after, values, last, rfl, hthrough, hstop, hfailed⟩
          · refine Or.inl ⟨_, last, .cons hpart hmiddle hthrough, ?_⟩
            simp
          · exact Or.inr ⟨part :: before, stop, after, _, last, rfl,
              .cons hpart hmiddle hthrough, hstop, hfailed⟩
        · exact Or.inr ⟨[], part, parts, [], state, rfl, .nil state, hpart, hfailed⟩
      · rintro (⟨values, last, hthrough, rfl⟩ |
          ⟨before, stop, after, values, last, hparts, hthrough, hstop, hfailed⟩)
        · cases hthrough with
          | cons hpart hmiddle hrest =>
              refine Or.inl ⟨_, hpart, hmiddle, (ih hmiddle).mpr (Or.inl ⟨_, last, hrest, ?_⟩)⟩
              simp
        · cases hthrough with
          | nil =>
              cases hparts
              exact Or.inr ⟨hstop, hfailed⟩
          | cons hpart hmiddle hrest =>
              cases hparts
              exact Or.inl ⟨_, hpart, hmiddle,
                (ih hmiddle).mpr (Or.inr ⟨_, stop, after, _, last, rfl, hrest, hstop, hfailed⟩)⟩

theorem raises_chained_iff :
    Raises grammar (chained parts found) state fault ↔
      ∃ before part after values middle, parts = before ++ part :: after ∧
        Through (Returns grammar) before state values middle ∧
        Raises grammar part middle fault := by
  induction parts generalizing found state with
  | nil =>
      rw [chained]
      constructor
      · intro h
        exact absurd h not_raises_succeed
      · rintro ⟨before, part, after, values, middle, hparts, -⟩
        simp at hparts
  | cons part parts ih =>
      rw [chained, raises_chain_iff]
      constructor
      · rintro (hpart | ⟨middle, hpart, hmiddle, hraises⟩)
        · exact ⟨[], part, parts, [], state, rfl, .nil state, hpart⟩
        · obtain ⟨before, stop, after, values, last, rfl, hthrough, hstop⟩ := ih.mp hraises
          exact ⟨part :: before, stop, after, _, last, rfl, .cons hpart hmiddle hthrough, hstop⟩
      · rintro ⟨before, stop, after, values, last, hparts, hthrough, hstop⟩
        cases hthrough with
        | nil =>
            cases hparts
            exact Or.inl hstop
        | cons hpart hmiddle hrest =>
            cases hparts
            exact Or.inr ⟨_, hpart, hmiddle, ih.mpr ⟨_, stop, after, _, last, rfl, hrest, hstop⟩⟩

theorem returns_sequence_iff_chained (hstate : state.failed = false) :
    Returns grammar (.sequence parts) state next ↔
      Returns grammar (chained parts []) state next := by
  rw [returns_chained_iff hstate]
  constructor
  · intro h
    cases h.acts hstate with
    | sequence _ hthrough => exact Or.inl ⟨_, _, hthrough, rfl⟩
    | sequence_stop _ hthrough hpart hfailed =>
        exact Or.inr ⟨_, _, _, _, _, rfl, hthrough, hpart, hfailed⟩
  · rintro (⟨values, last, hthrough, rfl⟩ |
      ⟨before, part, after, values, middle, rfl, hthrough, hpart, hfailed⟩)
    · exact Returns.sequence hstate hthrough
    · exact Returns.sequence_stop hstate hthrough hpart hfailed

theorem raises_sequence_iff_chained (hstate : state.failed = false) :
    Raises grammar (.sequence parts) state fault ↔
      Raises grammar (chained parts []) state fault := by
  rw [raises_chained_iff]
  constructor
  · intro h
    rcases raises_iff_call.mp h with hself | ⟨part, middle, hcall, hraises⟩
    · cases hself
    · cases hcall with
      | sequence _ hthrough => exact ⟨_, part, _, _, middle, rfl, hthrough, hraises⟩
  · rintro ⟨before, part, after, values, middle, rfl, hthrough, hraises⟩
    exact (Calls.sequence hstate hthrough).raises hraises

end Sequence

end ParserCombinators.Parser
