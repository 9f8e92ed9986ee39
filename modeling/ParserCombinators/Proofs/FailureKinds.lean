import ParserCombinators.Proofs.Moves

/-!
What the failure fields of a finished run say. A success has neither message nor kind, a failure
has both, and the kind is true of the position: the input ends there, or a repetition that needs
one item, or a parser that always fails, was applied there.

A failure is written in one place, but it is discarded, passed on and reworded in many. So the
invariant is about every application in a run whose state has no trace of a failure, and says of a
failure that it is one of this application.
-/

namespace ParserCombinators

/-- No field of the state tells of a failure. -/
def State.Clean (state : State) : Prop :=
  state.failed = false ∧ state.error = none ∧ state.kind = none

namespace Parser

variable {ν : Type} [DecidableEq ν] {grammar : Grammar ν}

/-- Whether the parser fails when it collects nothing. -/
def needsItem : Parser ν → Bool
  | many1 _ | separated1 _ _ => true
  | _ => false

def isFail : Parser ν → Bool
  | fail _ => true
  | _ => false

/-- A parser of a form is applied to a state at the position, somewhere in the application of the
first parser to its state. -/
def AppliedAt (grammar : Grammar ν) (parser : Parser ν) (state : State)
    (form : Parser ν → Bool) (pos : Nat) : Prop :=
  ∃ part middle, Applied grammar parser state part middle ∧ form part = true ∧
    middle.failed = false ∧ middle.pos = pos

/-- What the kind of a failure says about where it was met. -/
def Accounts (grammar : Grammar ν) (parser : Parser ν) (state next : State) :
    FailureKind → Prop
  | .endOfInput => next.input.length ≤ next.pos
  | .noMatch => True
  | .exhausted => AppliedAt grammar parser state needsItem next.pos
  | .failed => AppliedAt grammar parser state isFail next.pos

/-- A returned state is clean, or has a message and a kind that accounts for it. -/
def WellFormed (grammar : Grammar ν) (parser : Parser ν) (state next : State) : Prop :=
  next.Clean ∨ next.failed = true ∧ next.error.isSome = true ∧
    ∃ kind, next.kind = some kind ∧ Accounts grammar parser state next kind

section Outcomes

variable {parser part : Parser ν} {state middle next : State}

theorem WellFormed.clean (h : WellFormed grammar parser state next)
    (hnext : next.failed = false) : next.Clean := by
  rcases h with hclean | ⟨hfailed, -, -⟩
  · exact hclean
  · simp [hnext] at hfailed

theorem AppliedAt.of_call {form : Parser ν → Bool} {pos : Nat}
    (hcall : Calls grammar parser state part middle)
    (h : AppliedAt grammar part middle form pos) : AppliedAt grammar parser state form pos := by
  obtain ⟨inner, last, happlied, hinner⟩ := h
  exact ⟨inner, last, happlied.of_call hcall, hinner⟩

/-- What a call returns is well formed for the caller too. -/
theorem WellFormed.of_call (hcall : Calls grammar parser state part middle)
    (h : WellFormed grammar part middle next) : WellFormed grammar parser state next := by
  rcases h with hclean | ⟨hfailed, herror, kind, hkind, haccounts⟩
  · exact Or.inl hclean
  · refine Or.inr ⟨hfailed, herror, kind, hkind, ?_⟩
    cases kind with
    | endOfInput => exact haccounts
    | noMatch => trivial
    | exhausted => exact haccounts.of_call hcall
    | failed => exact haccounts.of_call hcall

theorem WellFormed.of_fail {kind : FailureKind} {message : Text}
    (h : Accounts grammar parser state (state.fail kind message) kind) :
    WellFormed grammar parser state (state.fail kind message) :=
  Or.inr ⟨rfl, rfl, kind, rfl, h⟩

theorem WellFormed.withResult (h : next.Clean) (value : Value) :
    WellFormed grammar parser state (next.withResult value) := Or.inl h

theorem WellFormed.explain (h : WellFormed grammar parser state next) (hnext : next.failed = true)
    (message : Text) :
    WellFormed grammar parser state { next with error := some message } := by
  rcases h with ⟨hfailed, -, -⟩ | ⟨-, -, kind, hkind, haccounts⟩
  · simp [hnext] at hfailed
  · refine Or.inr ⟨hnext, rfl, kind, hkind, ?_⟩
    cases kind <;> exact haccounts

theorem AppliedAt.self {form : Parser ν → Bool} (hform : form parser = true)
    (hstate : state.failed = false) : AppliedAt grammar parser state form state.pos :=
  ⟨parser, state, .self parser state, hform, hstate, rfl⟩

theorem wellFormed_matchLiteral (text : Text) (caseSensitive : Bool) (hstate : state.Clean) :
    WellFormed grammar parser state (matchLiteral text caseSensitive state) := by
  rcases matchLiteral_cases text caseSensitive state with ⟨hend, h⟩ | ⟨-, -, h⟩ | ⟨-, -, h⟩
  · rw [h]
    exact .of_fail hend
  · rw [h]
    exact Or.inl hstate
  · rw [h]
    exact .of_fail trivial

theorem wellFormed_matchPattern (name : Text) (compiled : Regex.Pattern) (expected : Text)
    (hstate : state.Clean) :
    WellFormed grammar parser state (matchPattern name compiled expected state) := by
  rcases matchPattern_cases name compiled expected state with
    ⟨hend, h⟩ | ⟨found, -, -, h⟩ | ⟨-, -, h⟩
  · rw [h]
    exact .of_fail hend
  · rw [h]
    exact Or.inl hstate
  · rw [h]
    exact .of_fail trivial

theorem wellFormed_matchEnd (hstate : state.Clean) :
    WellFormed grammar parser state (matchEnd state) := by
  rcases Nat.lt_or_ge state.pos state.input.length with hleft | hend
  · rw [matchEnd_of_left hleft]
    exact .of_fail trivial
  · rw [matchEnd_at_end hend]
    exact .withResult hstate _

end Outcomes

/-- Every application to a clean state returns a well formed one. -/
theorem Returns.wellFormed {parser : Parser ν} {state next : State}
    (hown : Everywhere grammar (fun part => part.isHandWritten = false) parser)
    (h : Returns grammar parser state next) (hstate : state.Clean) :
    WellFormed grammar parser state next := by
  refine Returns.induction_within (motive := fun parser state next =>
    state.Clean → WellFormed grammar parser state next) ?_ hown h hstate
  clear hown h hstate parser state next
  intro parser state next hown hlayer hstate
  let R : Parser ν → State → State → Prop := fun part middle last =>
    Calls grammar parser state part middle ∧ Returns grammar part middle last ∧
      (middle.Clean → WellFormed grammar part middle last)
  -- Every part is applied to a clean state: what came before it on the way has succeeded.
  have hpart (part : Parser ν) (middle last : State) (h : R part middle last)
      (hmiddle : middle.Clean) : WellFormed grammar parser state last :=
    (h.2.2 hmiddle).of_call h.1
  have hkeeps (part : Parser ν) (middle last : State) (h : R part middle last)
      (hlast : last.failed = false) (hmiddle : middle.Clean) : last.Clean :=
    (hpart part middle last h hmiddle).clean hlast
  cases hlayer.of_succeeded hstate.1 with
  | literal _ => exact wellFormed_matchLiteral _ _ hstate
  | pattern _ => exact wellFormed_matchPattern _ _ _ hstate
  | endOfInput _ => exact wellFormed_matchEnd hstate
  | sequence _ hthrough => exact .withResult (hthrough.preserves hkeeps hstate) _
  | sequence_stop _ hthrough hlast _ => exact hpart _ _ _ hlast (hthrough.preserves hkeeps hstate)
  | choice _ _ halternative _ => exact hpart _ _ _ halternative hstate
  | choice_none _ _ => exact .of_fail trivial
  | many _ hcollects => exact .withResult (hcollects.preserves (hkeeps _) hstate) _
  | many1 _ hcollects _ => exact .withResult (hcollects.preserves (hkeeps _) hstate) _
  | many1_none _ _ => exact .of_fail (.self rfl hstate.1)
  | separated _ hcollects =>
      exact .withResult (hcollects.preserves (hkeeps _) (hkeeps _) hstate) _
  | separated1 _ hcollects _ =>
      exact .withResult (hcollects.preserves (hkeeps _) (hkeeps _) hstate) _
  | separated1_none _ _ => exact .of_fail (.self rfl hstate.1)
  | optional _ hitem _ => exact hpart _ _ _ hitem hstate
  | optional_none _ _ _ => exact .withResult hstate _
  | lazy hbody => exact hpart _ _ _ hbody hstate
  | ref _ hbody => exact hpart _ _ _ hbody hstate
  | fail _ => exact .of_fail (.self rfl hstate.1)
  | succeed _ => exact .withResult hstate _
  | map hsource hnext _ => exact .withResult (hkeeps _ _ _ hsource hnext hstate) _
  | map_failed hsource _ => exact hpart _ _ _ hsource hstate
  | chain hsource hmiddle hnext => exact hpart _ _ _ hnext (hkeeps _ _ _ hsource hmiddle hstate)
  | chain_failed hsource _ => exact hpart _ _ _ hsource hstate
  | mapError hsource _ => exact hpart _ _ _ hsource hstate
  | mapError_failed hsource hnext => exact (hpart _ _ _ hsource hstate).explain hnext _
  | routine _ hdriven _ => exact .withResult (hdriven.preserves hkeeps hstate) _
  | routine_stop _ hdriven _ hparser _ =>
      exact hpart _ _ _ hparser (hdriven.preserves hkeeps hstate)
  | trace hbody => exact hpart _ _ _ hbody hstate
  | transform => exact absurd hown.self (by simp [isHandWritten])

/-- What the fields of the final state of a run say. A failure for want of an item, or one that
the grammar asked for, is met where such a parser was applied in this run. -/
theorem run_outcome {parser : Parser ν} {input : Text} {debug : Bool} {fuel : Nat}
    {session after : Session ν} {final : State}
    (hown : Everywhere grammar (fun part => part.isHandWritten = false) parser)
    (hsession : session.Coherent grammar)
    (h : run grammar fuel parser input debug session = (.done final, after)) :
    final.input = input ∧ final.debug = debug ∧
    (final.failed = false → final.error = none ∧ final.kind = none) ∧
    (final.failed = true → final.error.isSome = true ∧ final.kind.isSome = true) ∧
    (final.kind = some .endOfInput → input.length ≤ final.pos) ∧
    (final.kind = some .exhausted →
      AppliedAt grammar parser (State.start input debug) needsItem final.pos) ∧
    (final.kind = some .failed →
      AppliedAt grammar parser (State.start input debug) isFail final.pos) := by
  have hreturns := returns_of_run hsession h
  obtain ⟨hinput, hdebug⟩ : final.input = input ∧ final.debug = debug := hreturns.frame hown
  refine ⟨hinput, hdebug, ?_⟩
  rcases hreturns.wellFormed hown ⟨rfl, rfl, rfl⟩ with ⟨hfailed, herror, hkind⟩ |
    ⟨hfailed, herror, kind, hkind, haccounts⟩
  · simp [hfailed, herror, hkind]
  · have haccounts {other : FailureKind} (h : final.kind = some other) :
        Accounts grammar parser (State.start input debug) final other := by
      obtain rfl := Option.some.inj (hkind.symm.trans h)
      exact haccounts
    refine ⟨fun h => ?_, fun _ => ⟨herror, by rw [hkind]; rfl⟩, fun h => ?_, haccounts, haccounts⟩
    · simp [hfailed] at h
    · rw [← hinput]
      exact haccounts h

/-- One or more `a`. -/
def letterRun : Grammar Unit := fun _ => .ok (many1 (literal [97] true))

/-- On `bc` the repetition is applied at the second character, and finds no item there. -/
theorem letterRun_outcome : ∃ final after,
    run letterRun 9 (sequence [literal [98] true, ref ()]) [98, 99] true Session.empty =
      (.done final, after) ∧
    final.error.isSome = true ∧
    AppliedAt letterRun (sequence [literal [98] true, ref ()]) (State.start [98, 99] true)
      needsItem 1 := by
  have hform : Everywhere letterRun (fun part => (!part.isHandWritten) = true)
      (sequence [literal [98] true, ref ()]) := by
    refine .of_consistsOf (fun _ body h => ?_) rfl
    obtain rfl := Except.ok.inj h
    rfl
  obtain ⟨final, after, hrun, hfailed, hkind, hpos⟩ : ∃ final after,
      run letterRun 9 (sequence [literal [98] true, ref ()]) [98, 99] true Session.empty =
        (.done final, after) ∧
      final.failed = true ∧ final.kind = some .exhausted ∧ final.pos = 1 :=
    ⟨_, _, rfl, rfl, rfl, rfl⟩
  have hown := hform.mono fun part h => (Bool.not_eq_true' part.isHandWritten).mp h
  obtain ⟨-, -, -, hfields, -, hexhausted, -⟩ := run_outcome hown Session.empty_coherent hrun
  refine ⟨final, after, hrun, (hfields hfailed).1, ?_⟩
  rw [← hpos]
  exact hexhausted hkind

end Parser

end ParserCombinators
