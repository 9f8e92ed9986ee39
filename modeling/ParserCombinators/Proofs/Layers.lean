import ParserCombinators.Proofs.Sessions

/-!
What a parser does to a state, one layer at a time. A layer says which states a parser can return
when a relation says which states its parts return; it is the whole meaning of each constructor
apart from faults. The loops are told by the rounds they go through, so that what a round
preserves is preserved by the loop.

Nothing here is recursive in the parser. The states that applications return are the least
relation that is closed under layers.
-/

namespace ParserCombinators.Parser

variable {ν : Type}

/-- Parts that succeed one after the other, with their results in order. -/
inductive Through (R : Parser ν → State → State → Prop) :
    List (Parser ν) → State → List Value → State → Prop
  | nil (state : State) : Through R [] state [] state
  | cons {part : Parser ν} {parts : List (Parser ν)} {state next last : State}
      {values : List Value} :
      R part state next → next.failed = false → Through R parts next values last →
      Through R (part :: parts) state (next.result :: values) last

/-- Alternatives that all fail on the state, tried in order. -/
inductive Refuses (R : Parser ν → State → State → Prop) (state : State) :
    List (Parser ν) → Prop
  | nil : Refuses R state []
  | cons {alternative : Parser ν} {alternatives : List (Parser ν)} {next : State} :
      R alternative state next → next.failed = true → Refuses R state alternatives →
      Refuses R state (alternative :: alternatives)

/-- Rounds that follow one another. Each takes a state to the next and gives a value. -/
inductive Rounds (T : State → Value → State → Prop) : State → List Value → State → Prop
  | nil (state : State) : Rounds T state [] state
  | cons {state next last : State} {value : Value} {values : List Value} :
      T state value next → Rounds T next values last → Rounds T state (value :: values) last

/-- The round of a repetition: the item succeeds and moves. -/
def Round (R : State → State → Prop) (state : State) (value : Value) (next : State) : Prop :=
  R state next ∧ next.failed = false ∧ next.pos ≠ state.pos ∧ value = next.result

/-- The round of a separated repetition: the item and then the separator succeed, and the
separator ends at another place than where the item began. -/
def Turn (S R : State → State → Prop) (state : State) (value : Value) (next : State) : Prop :=
  ∃ middle, R state middle ∧ middle.failed = false ∧ value = middle.result ∧
    S middle next ∧ next.failed = false ∧ next.pos ≠ state.pos

/-- What a repetition collects. It ends where the item fails, or after the item has succeeded
without moving. -/
inductive Collects (R : State → State → Prop) (state : State) : List Value → State → Prop
  | refused {values : List Value} {last next : State} :
      Rounds (Round R) state values last → R last next → next.failed = true →
      Collects R state values last
  | still {values : List Value} {last next : State} :
      Rounds (Round R) state values last → R last next → next.failed = false →
      next.pos = last.pos → Collects R state (values ++ [next.result]) next

/-- What a separated repetition collects. It ends where the item fails, which may be after a
separator, or after an item that no separator follows. -/
inductive CollectsSeparated (S R : State → State → Prop) (state : State) :
    List Value → State → Prop
  | refused {values : List Value} {last next : State} :
      Rounds (Turn S R) state values last → R last next → next.failed = true →
      CollectsSeparated S R state values last
  | unseparated {values : List Value} {last next between : State} :
      Rounds (Turn S R) state values last → R last next → next.failed = false →
      S next between → between.failed = true ∨ between.pos = last.pos →
      CollectsSeparated S R state (values ++ [next.result]) next

/-- Steps of a routine that run parsers which succeed, from the results received before them to
those received after them, the latest first. -/
inductive Driven (R : Parser ν → State → State → Prop) (steps : List Value → Step ν) :
    List Value → State → List Value → State → Prop
  | nil (received : List Value) (state : State) : Driven R steps received state received state
  | cons {received all : List Value} {parser : Parser ν} {state next last : State} :
      steps received = .run parser → R parser state next → next.failed = false →
      Driven R steps (next.result :: received) next all last →
      Driven R steps received state all last

/-- Whether a parser looks for a failure before it does anything. The others hand the state to a
part of theirs. -/
def leavesFailure : Parser ν → Bool
  | lazy _ | ref _ | map _ _ | chain _ _ | mapError _ _ | trace _ _ => false
  | transform _ _ | broken _ => false
  | _ => true

/-- What a parser does to a state over parts that take states to states as `R` says. A parser that
looks for a failure first does nothing to a state that has failed. -/
inductive Acts (grammar : Grammar ν) (R : Parser ν → State → State → Prop) :
    Parser ν → State → State → Prop
  | literal {text : Text} {caseSensitive : Bool} {state : State} : state.failed = false →
      Acts grammar R (.literal text caseSensitive) state (matchLiteral text caseSensitive state)
  | pattern {name : Text} {compiled : Regex.Pattern} {expected : Text} {state : State} :
      state.failed = false → Acts grammar R (.pattern name compiled expected) state
        (matchPattern name compiled expected state)
  | endOfInput {state : State} : state.failed = false →
      Acts grammar R .endOfInput state (matchEnd state)
  | sequence {parts : List (Parser ν)} {state last : State} {values : List Value} :
      state.failed = false → Through R parts state values last →
      Acts grammar R (.sequence parts) state (last.withResult (.list values))
  | sequence_stop {before after : List (Parser ν)} {part : Parser ν} {values : List Value}
      {state middle next : State} :
      state.failed = false → Through R before state values middle → R part middle next →
      next.failed = true → Acts grammar R (.sequence (before ++ part :: after)) state next
  | choice {before after : List (Parser ν)} {alternative : Parser ν} {state next : State} :
      state.failed = false → Refuses R state before → R alternative state next →
      next.failed = false → Acts grammar R (.choice (before ++ alternative :: after)) state next
  | choice_none {alternatives : List (Parser ν)} {state : State} :
      state.failed = false → Refuses R state alternatives →
      Acts grammar R (.choice alternatives) state
        (state.fail .noMatch (Wording.noAlternative state))
  | many {item : Parser ν} {state last : State} {values : List Value} : state.failed = false →
      Collects (R item) state values last →
      Acts grammar R (.many item) state (last.withResult (.list values))
  | many1 {item : Parser ν} {state last : State} {values : List Value} : state.failed = false →
      Collects (R item) state values last → values ≠ [] →
      Acts grammar R (.many1 item) state (last.withResult (.list values))
  | many1_none {item : Parser ν} {state last : State} : state.failed = false →
      Collects (R item) state [] last →
      Acts grammar R (.many1 item) state (state.fail .exhausted (Wording.noItem state))
  | separated {separator item : Parser ν} {state last : State} {values : List Value} :
      state.failed = false → CollectsSeparated (R separator) (R item) state values last →
      Acts grammar R (.separated separator item) state (last.withResult (.list values))
  | separated1 {separator item : Parser ν} {state last : State} {values : List Value} :
      state.failed = false → CollectsSeparated (R separator) (R item) state values last →
      values ≠ [] →
      Acts grammar R (.separated1 separator item) state (last.withResult (.list values))
  | separated1_none {separator item : Parser ν} {state last : State} : state.failed = false →
      CollectsSeparated (R separator) (R item) state [] last →
      Acts grammar R (.separated1 separator item) state
        (state.fail .exhausted (Wording.noSeparatedItem state))
  | optional {item : Parser ν} {state next : State} : state.failed = false →
      R item state next → next.failed = false → Acts grammar R (.optional item) state next
  | optional_none {item : Parser ν} {state next : State} : state.failed = false →
      R item state next → next.failed = true →
      Acts grammar R (.optional item) state (state.withResult .null)
  | lazy {body : Parser ν} {state next : State} :
      R body state next → Acts grammar R (.lazy body) state next
  | ref {name : ν} {body : Parser ν} {state next : State} :
      grammar name = .ok body → R body state next → Acts grammar R (.ref name) state next
  | fail {message : Text} {state : State} : state.failed = false →
      Acts grammar R (.fail message) state (state.fail .failed message)
  | succeed {value : Value} {state : State} : state.failed = false →
      Acts grammar R (.succeed value) state (state.withResult value)
  | map {source : Parser ν} {f : Value → Except Fault Value} {value : Value}
      {state next : State} :
      R source state next → next.failed = false → f next.result = .ok value →
      Acts grammar R (.map source f) state (next.withResult value)
  | map_failed {source : Parser ν} {f : Value → Except Fault Value} {state next : State} :
      R source state next → next.failed = true → Acts grammar R (.map source f) state next
  | chain {source : Parser ν} {f : Value → Parser ν} {state middle next : State} :
      R source state middle → middle.failed = false → R (f middle.result) middle next →
      Acts grammar R (.chain source f) state next
  | chain_failed {source : Parser ν} {f : Value → Parser ν} {state next : State} :
      R source state next → next.failed = true → Acts grammar R (.chain source f) state next
  | mapError {source : Parser ν} {f : Option Text → Nat → Text} {state next : State} :
      R source state next → next.failed = false →
      Acts grammar R (.mapError source f) state next
  | mapError_failed {source : Parser ν} {f : Option Text → Nat → Text} {state next : State} :
      R source state next → next.failed = true →
      Acts grammar R (.mapError source f) state
        { next with error := some (f next.error next.pos) }
  | routine {name : Text} {steps : List Value → Step ν} {received : List Value} {value : Value}
      {state last : State} :
      state.failed = false → Driven R steps [] state received last →
      steps received = .finish value →
      Acts grammar R (.routine name steps) state (last.withResult value)
  | routine_stop {name : Text} {steps : List Value → Step ν} {received : List Value}
      {parser : Parser ν} {state middle next : State} :
      state.failed = false → Driven R steps [] state received middle →
      steps received = .run parser → R parser middle next → next.failed = true →
      Acts grammar R (.routine name steps) state next
  | trace {label : Text} {body : Parser ν} {state next : State} :
      R body state next → Acts grammar R (.trace label body) state next
  | transform {name : Text} {f : State → State} {state : State} :
      Acts grammar R (.transform name f) state (f state)

/-- One layer of a parser: a failure is left as it is, or the parser acts on the state. -/
inductive Layer (grammar : Grammar ν) (R : Parser ν → State → State → Prop) :
    Parser ν → State → State → Prop
  | absorb {parser : Parser ν} {state : State} :
      parser.leavesFailure = true → state.failed = true → Layer grammar R parser state state
  | acts {parser : Parser ν} {state next : State} :
      Acts grammar R parser state next → Layer grammar R parser state next

/-- A layer of a parser on a state that has not failed. -/
theorem Layer.of_succeeded {grammar : Grammar ν} {R : Parser ν → State → State → Prop}
    {parser : Parser ν} {state next : State} (h : Layer grammar R parser state next)
    (hstate : state.failed = false) : Acts grammar R parser state next := by
  cases h with
  | absorb _ hfailed => simp [hstate] at hfailed
  | acts hacts => exact hacts

/-- A layer of a parser that hands whatever it is given to a part. -/
theorem Layer.of_passing {grammar : Grammar ν} {R : Parser ν → State → State → Prop}
    {parser : Parser ν} {state next : State} (h : Layer grammar R parser state next)
    (hleaves : parser.leavesFailure = false) : Acts grammar R parser state next := by
  cases h with
  | absorb hguard _ => simp [hleaves] at hguard
  | acts hacts => exact hacts

section Loops

variable {R S : Parser ν → State → State → Prop} {T : State → Value → State → Prop}

/-- What every part that succeeds preserves holds after all of them. -/
theorem Through.preserves {I : State → Prop} {parts : List (Parser ν)} {state last : State}
    {values : List Value} (h : Through R parts state values last)
    (hR : ∀ part middle next, R part middle next → next.failed = false → I middle → I next)
    (hstate : I state) : I last := by
  induction h with
  | nil => exact hstate
  | cons hpart hnext _ ih => exact ih (hR _ _ _ hpart hnext hstate)

theorem Driven.preserves {I : State → Prop} {steps : List Value → Step ν}
    {received all : List Value} {state last : State} (h : Driven R steps received state all last)
    (hR : ∀ part middle next, R part middle next → next.failed = false → I middle → I next)
    (hstate : I state) : I last := by
  induction h with
  | nil => exact hstate
  | cons _ hparser hnext _ ih => exact ih (hR _ _ _ hparser hnext hstate)

theorem Rounds.preserves {I : State → Prop} {state last : State} {values : List Value}
    (h : Rounds T state values last)
    (hT : ∀ middle value next, T middle value next → I middle → I next) (hstate : I state) :
    I last := by
  induction h with
  | nil => exact hstate
  | cons hround _ ih => exact ih (hT _ _ _ hround hstate)

theorem Through.failed_eq {parts : List (Parser ν)} {state last : State} {values : List Value}
    (h : Through R parts state values last) (hstate : state.failed = false) :
    last.failed = false := h.preserves (fun _ _ _ _ hnext _ => hnext) hstate

theorem Rounds.succeeds {state last : State} {values : List Value} {R : State → State → Prop}
    (h : Rounds (Round R) state values last) (hstate : state.failed = false) :
    last.failed = false :=
  h.preserves (I := fun state => state.failed = false) (fun _ _ _ hround _ => hround.2.1) hstate

theorem Rounds.turns_succeed {state last : State} {values : List Value}
    {S R : State → State → Prop} (h : Rounds (Turn S R) state values last)
    (hstate : state.failed = false) : last.failed = false := by
  refine h.preserves (I := fun state => state.failed = false) ?_ hstate
  rintro _ _ _ ⟨_, -, -, -, -, hgoes, -⟩ -
  exact hgoes

/-- A relation that takes over from another for each part, where the parts before it have
succeeded. -/
theorem Through.refine {parts : List (Parser ν)} {state last : State} {values : List Value}
    (h : Through R parts state values last)
    (hpart : ∀ before part after found middle next, parts = before ++ part :: after →
      Through R before state found middle → R part middle next → S part middle next) :
    Through S parts state values last := by
  induction h with
  | nil state => exact .nil state
  | cons hfirst hnext _ ih =>
      refine .cons (hpart [] _ _ [] _ _ rfl (.nil _) hfirst) hnext (ih ?_)
      intro before part after found middle next hparts hbefore
      apply hpart (_ :: before) part after (_ :: found) middle next
      · rw [hparts, List.cons_append]
      · exact .cons hfirst hnext hbefore

theorem Refuses.refine {state : State} {alternatives : List (Parser ν)}
    (h : Refuses R state alternatives)
    (hpart : ∀ before part after next, alternatives = before ++ part :: after →
      Refuses R state before → R part state next → S part state next) :
    Refuses S state alternatives := by
  induction h with
  | nil => exact .nil
  | cons hfirst hfailed _ ih =>
      refine .cons (hpart [] _ _ _ rfl .nil hfirst) hfailed (ih ?_)
      intro before part after next hparts hbefore
      apply hpart (_ :: before) part after next
      · rw [hparts, List.cons_append]
      · exact .cons hfirst hfailed hbefore

theorem Rounds.refine {U : State → Value → State → Prop} {state last : State}
    {values : List Value} (h : Rounds T state values last)
    (hround : ∀ found middle value next, Rounds T state found middle →
      T middle value next → U middle value next) : Rounds U state values last := by
  induction h with
  | nil state => exact .nil state
  | cons hfirst _ ih =>
      refine .cons (hround [] _ _ _ (.nil _) hfirst) (ih ?_)
      intro found middle value next hrounds
      exact hround (_ :: found) middle value next (.cons hfirst hrounds)

theorem Driven.refine {steps : List Value → Step ν} {received all : List Value}
    {state last : State} (h : Driven R steps received state all last)
    (hpart : ∀ found parser middle next, Driven R steps received state found middle →
      steps found = .run parser → R parser middle next → S parser middle next) :
    Driven S steps received state all last := by
  induction h with
  | nil received state => exact .nil received state
  | cons hstep hfirst hnext _ ih =>
      refine .cons hstep (hpart _ _ _ _ (.nil _ _) hstep hfirst) hnext (ih ?_)
      intro found parser middle next hdriven
      exact hpart found parser middle next (.cons hstep hfirst hnext hdriven)

theorem Through.mono {parts : List (Parser ν)} {state last : State} {values : List Value}
    (h : Through R parts state values last)
    (hRS : ∀ part middle next, R part middle next → S part middle next) :
    Through S parts state values last :=
  h.refine fun _ part _ _ middle next _ _ => hRS part middle next

theorem Driven.mono {steps : List Value → Step ν} {received all : List Value}
    {state last : State} (h : Driven R steps received state all last)
    (hRS : ∀ part middle next, R part middle next → S part middle next) :
    Driven S steps received state all last :=
  h.refine fun _ part middle next _ _ => hRS part middle next

theorem Refuses.mono {state : State} {alternatives : List (Parser ν)}
    (h : Refuses R state alternatives)
    (hRS : ∀ part middle next, R part middle next → S part middle next) :
    Refuses S state alternatives :=
  h.refine fun _ part _ next _ _ => hRS part state next

end Loops

section Collections

variable {R S : State → State → Prop} {state next last : State} {value : Value}
  {values : List Value}

/-- A round before what is collected is collected too. -/
theorem Collects.cons (hround : Round R state value next) (h : Collects R next values last) :
    Collects R state (value :: values) last := by
  cases h with
  | refused hrounds hlast hfailed => exact .refused (.cons hround hrounds) hlast hfailed
  | still hrounds hlast hfailed hpos => exact .still (.cons hround hrounds) hlast hfailed hpos

theorem CollectsSeparated.cons (hturn : Turn S R state value next)
    (h : CollectsSeparated S R next values last) :
    CollectsSeparated S R state (value :: values) last := by
  cases h with
  | refused hturns hlast hfailed => exact .refused (.cons hturn hturns) hlast hfailed
  | unseparated hturns hlast hfailed hbetween hends =>
      exact .unseparated (.cons hturn hturns) hlast hfailed hbetween hends

theorem Collects.preserves {I : State → Prop} (h : Collects R state values last)
    (hR : ∀ middle next, R middle next → next.failed = false → I middle → I next)
    (hstate : I state) : I last := by
  have hround : ∀ middle value next, Round R middle value next → I middle → I next :=
    fun middle _ next h => hR middle next h.1 h.2.1
  cases h with
  | refused hrounds _ _ => exact hrounds.preserves hround hstate
  | still hrounds hlast hnext _ => exact hR _ _ hlast hnext (hrounds.preserves hround hstate)

theorem Collects.succeeds (h : Collects R state values last) (hstate : state.failed = false) :
    last.failed = false :=
  h.preserves (I := fun state => state.failed = false) (fun _ _ _ hnext _ => hnext) hstate

theorem CollectsSeparated.preserves {I : State → Prop} (h : CollectsSeparated S R state values last)
    (hS : ∀ middle next, S middle next → next.failed = false → I middle → I next)
    (hR : ∀ middle next, R middle next → next.failed = false → I middle → I next)
    (hstate : I state) : I last := by
  have hturn : ∀ middle value next, Turn S R middle value next → I middle → I next := by
    rintro middle value next ⟨between, hitem, hbetween, -, hseparator, hnext, -⟩ hmiddle
    exact hS _ _ hseparator hnext (hR _ _ hitem hbetween hmiddle)
  cases h with
  | refused hturns _ _ => exact hturns.preserves hturn hstate
  | unseparated hturns hlast hnext _ _ =>
      exact hR _ _ hlast hnext (hturns.preserves hturn hstate)

/-- A repetition that collects nothing has an item that fails at once. -/
theorem Collects.nil_refused (h : Collects R state [] last) :
    ∃ first, R state first ∧ first.failed = true := by
  generalize hvalues : ([] : List Value) = values at h
  cases h with
  | refused hrounds hitem hfailed =>
      subst hvalues
      cases hrounds
      exact ⟨_, hitem, hfailed⟩
  | still _ _ _ _ => simp at hvalues

theorem CollectsSeparated.nil_refused (h : CollectsSeparated S R state [] last) :
    ∃ first, R state first ∧ first.failed = true := by
  generalize hvalues : ([] : List Value) = values at h
  cases h with
  | refused hturns hitem hfailed =>
      subst hvalues
      cases hturns
      exact ⟨_, hitem, hfailed⟩
  | unseparated _ _ _ _ _ => simp at hvalues

theorem Round.mono {S : State → State → Prop} (h : Round R state value next)
    (hRS : R state next → S state next) : Round S state value next :=
  ⟨hRS h.1, h.2⟩

theorem Turn.mono {S' R' : State → State → Prop} (h : Turn S R state value next)
    (hR : ∀ middle, R state middle → R' state middle)
    (hS : ∀ middle, R state middle → middle.failed = false → S middle next → S' middle next) :
    Turn S' R' state value next := by
  obtain ⟨middle, hitem, hmiddle, hvalue, hseparator, hnext⟩ := h
  exact ⟨middle, hR middle hitem, hmiddle, hvalue, hS middle hitem hmiddle hseparator, hnext⟩

theorem Rounds.mono_round {S : State → State → Prop} (h : Rounds (Round R) state values last)
    (hRS : ∀ middle next, R middle next → S middle next) : Rounds (Round S) state values last :=
  h.refine fun _ middle _ next _ hround => hround.mono (hRS middle next)

theorem Rounds.mono_turn {S' R' : State → State → Prop} (h : Rounds (Turn S R) state values last)
    (hS : ∀ middle next, S middle next → S' middle next)
    (hR : ∀ middle next, R middle next → R' middle next) :
    Rounds (Turn S' R') state values last :=
  h.refine fun _ middle _ next _ hturn =>
    hturn.mono (hR middle) fun between _ _ => hS between next

theorem Collects.refine {R' : State → State → Prop} (h : Collects R state values last)
    (hitem : ∀ found middle next, Rounds (Round R) state found middle → R middle next →
      R' middle next) : Collects R' state values last := by
  have hrounds {found : List Value} {middle : State} (h : Rounds (Round R) state found middle) :
      Rounds (Round R') state found middle :=
    h.refine fun before start _ next hbefore hround => hround.mono (hitem before start next hbefore)
  cases h with
  | refused h hlast hfailed => exact .refused (hrounds h) (hitem _ _ _ h hlast) hfailed
  | still h hlast hfailed hpos => exact .still (hrounds h) (hitem _ _ _ h hlast) hfailed hpos

theorem CollectsSeparated.refine {S' R' : State → State → Prop}
    (h : CollectsSeparated S R state values last)
    (hitem : ∀ found middle next, Rounds (Turn S R) state found middle → R middle next →
      R' middle next)
    (hseparator : ∀ found middle next between, Rounds (Turn S R) state found middle →
      R middle next → next.failed = false → S next between → S' next between) :
    CollectsSeparated S' R' state values last := by
  have hturns {found : List Value} {middle : State} (h : Rounds (Turn S R) state found middle) :
      Rounds (Turn S' R') state found middle :=
    h.refine fun before start _ between hbefore hturn => hturn.mono
      (fun next => hitem before start next hbefore)
      (fun next => hseparator before start next between hbefore)
  cases h with
  | refused h hlast hfailed => exact .refused (hturns h) (hitem _ _ _ h hlast) hfailed
  | unseparated h hlast hfailed hbetween hends =>
      exact .unseparated (hturns h) (hitem _ _ _ h hlast) hfailed
        (hseparator _ _ _ _ h hlast hfailed hbetween) hends

end Collections

end ParserCombinators.Parser
