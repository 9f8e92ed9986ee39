import ParserCombinators.Proofs.Layers

/-!
Every application that ends with a state went through one layer of its parser. The loops are
followed round by round, for any step that they repeat; a loop that ends for want of fuel ends
with no state.
-/

namespace ParserCombinators.Parser

variable {ν : Type} [DecidableEq ν] {grammar : Grammar ν}

/-- The loops keep the latest result first. -/
theorem gather_reverse (last : State) (values : List Value) :
    gather (last, values.reverse ++ []) = last.withResult (.list values) := by
  simp [gather]

theorem gatherSome_reverse (start last : State) (message : Text) (values : List Value) :
    gatherSome start message (last, values.reverse ++ []) =
      if values = [] then start.fail .exhausted message else last.withResult (.list values) := by
  simp [gatherSome, gather]

variable {R : Parser ν → State → State → Prop} {step : Parser ν → State → Run ν State}

theorem gives_onSuccess {post : State → Prop} {state : State} {body : Run ν State}
    (hfailed : state.failed = true → post state)
    (hbody : state.failed = false → Run.Gives grammar body post) :
    Run.Gives grammar (state.onSuccess body) post := by
  unfold State.onSuccess
  apply Run.Gives.ite
  · intro h
    exact Run.Gives.pure (hfailed h)
  · intro h
    exact hbody (Bool.eq_false_iff.mpr h)

/-- Parts in order either all succeed, or stop at one that fails after those before it. -/
theorem gives_inOrder (hstep : ∀ part state, Run.Gives grammar (step part state) (R part state))
    (parts : List (Parser ν)) (found : List Value) (state : State) :
    Run.Gives grammar (inOrder step parts found state) fun last =>
      (∃ values middle, Through R parts state values middle ∧
        last = middle.withResult (.list (found.reverse ++ values))) ∨
      (∃ before part after values middle, parts = before ++ part :: after ∧
        Through R before state values middle ∧ R part middle last ∧ last.failed = true) := by
  induction parts generalizing found state with
  | nil =>
      apply Run.Gives.pure
      exact Or.inl ⟨[], state, .nil state, by rw [List.append_nil]⟩
  | cons part parts ih =>
      apply (hstep part state).bind
      intro next hnext
      apply Run.Gives.ite
      · intro hfailed
        apply Run.Gives.pure
        exact Or.inr ⟨[], part, parts, [], state, rfl, .nil state, hnext, hfailed⟩
      · intro hfailed
        rw [Bool.not_eq_true] at hfailed
        apply (ih (next.result :: found) next).mono
        rintro last (⟨values, middle, hthrough, rfl⟩ |
          ⟨before, stop, after, values, middle, rfl, hthrough, hstop, hlast⟩)
        · refine Or.inl ⟨next.result :: values, middle, .cons hnext hfailed hthrough, ?_⟩
          simp
        · exact Or.inr ⟨part :: before, stop, after, next.result :: values, middle, rfl,
            .cons hnext hfailed hthrough, hstop, hlast⟩

/-- The first alternative that succeeds does so after all before it have failed. -/
theorem gives_firstSuccess
    (hstep : ∀ part state, Run.Gives grammar (step part state) (R part state)) (state : State)
    (alternatives : List (Parser ν)) :
    Run.Gives grammar (firstSuccess step state alternatives) fun
      | some next => ∃ before alternative after, alternatives = before ++ alternative :: after ∧
          Refuses R state before ∧ R alternative state next ∧ next.failed = false
      | none => Refuses R state alternatives := by
  induction alternatives with
  | nil => exact Run.Gives.pure .nil
  | cons alternative alternatives ih =>
      apply (hstep alternative state).bind
      intro next hnext
      apply Run.Gives.ite
      · intro hfailed
        apply ih.mono
        rintro (_ | found) hfound
        · exact .cons hnext hfailed hfound
        · obtain ⟨before, chosen, after, rfl, hbefore, hchosen, hsuccess⟩ := hfound
          exact ⟨alternative :: before, chosen, after, rfl, .cons hnext hfailed hbefore, hchosen,
            hsuccess⟩
      · intro hfailed
        apply Run.Gives.pure
        exact ⟨[], alternative, alternatives, rfl, .nil, hnext, Bool.eq_false_iff.mpr hfailed⟩

theorem gives_iterate {R : State → State → Prop} {item : State → Run ν State}
    (hitem : ∀ state, Run.Gives grammar (item state) (R state)) (fuel : Nat)
    (found : List Value) (state : State) :
    Run.Gives grammar (iterate item fuel found state) fun collected =>
      ∃ values, Collects R state values collected.1 ∧
        collected.2 = values.reverse ++ found := by
  induction fuel generalizing found state with
  | zero => exact Run.Gives.outOfFuel
  | succ fuel ih =>
      apply (hitem state).bind
      intro next hnext
      apply Run.Gives.ite
      · intro hfailed
        apply Run.Gives.pure
        exact ⟨[], .refused (.nil state) hnext hfailed, rfl⟩
      · intro hfailed
        rw [Bool.not_eq_true] at hfailed
        apply Run.Gives.ite
        · intro hpos
          apply Run.Gives.pure
          exact ⟨[next.result], .still (.nil state) hnext hfailed hpos, rfl⟩
        · intro hpos
          apply (ih (next.result :: found) next).mono
          rintro ⟨last, all⟩ ⟨values, hcollects, hall⟩
          refine ⟨next.result :: values, hcollects.cons ⟨hnext, hfailed, hpos, rfl⟩, ?_⟩
          simpa using hall

theorem gives_alternate {S R : State → State → Prop} {separator item : State → Run ν State}
    (hseparator : ∀ state, Run.Gives grammar (separator state) (S state))
    (hitem : ∀ state, Run.Gives grammar (item state) (R state)) (fuel : Nat)
    (found : List Value) (state : State) :
    Run.Gives grammar (alternate separator item fuel found state) fun collected =>
      ∃ values, CollectsSeparated S R state values collected.1 ∧
        collected.2 = values.reverse ++ found := by
  induction fuel generalizing found state with
  | zero => exact Run.Gives.outOfFuel
  | succ fuel ih =>
      apply (hitem state).bind
      intro next hnext
      apply Run.Gives.ite
      · intro hfailed
        apply Run.Gives.pure
        exact ⟨[], .refused (.nil state) hnext hfailed, rfl⟩
      · intro hfailed
        rw [Bool.not_eq_true] at hfailed
        apply (hseparator next).bind
        intro between hbetween
        apply Run.Gives.ite
        · intro hends
          rw [Bool.or_eq_true, beq_iff_eq] at hends
          apply Run.Gives.pure
          exact ⟨[next.result], .unseparated (.nil state) hnext hfailed hbetween hends, rfl⟩
        · intro hends
          rw [Bool.or_eq_true, beq_iff_eq, not_or, Bool.not_eq_true] at hends
          apply (ih (next.result :: found) between).mono
          rintro ⟨last, all⟩ ⟨values, hcollects, hall⟩
          have hturn : Turn S R state next.result between :=
            ⟨next, hnext, hfailed, rfl, hbetween, hends.1, hends.2⟩
          refine ⟨next.result :: values, hcollects.cons hturn, ?_⟩
          simpa using hall

/-- A routine either drives its steps up to its end, or stops at a parser that fails. -/
theorem gives_drive (hstep : ∀ part state, Run.Gives grammar (step part state) (R part state))
    (steps : List Value → Step ν) (fuel : Nat) (received : List Value) (state : State) :
    Run.Gives grammar (drive step steps fuel received state) fun last =>
      (∃ all value middle, Driven R steps received state all middle ∧
        steps all = .finish value ∧ last = middle.withResult value) ∨
      (∃ all parser middle, Driven R steps received state all middle ∧
        steps all = .run parser ∧ R parser middle last ∧ last.failed = true) := by
  induction fuel generalizing received state with
  | zero => exact Run.Gives.outOfFuel
  | succ fuel ih =>
      unfold drive
      cases hnow : steps received with
      | finish value =>
          apply Run.Gives.pure
          exact Or.inl ⟨received, value, state, .nil received state, hnow, rfl⟩
      | raise fault => exact Run.Gives.raise
      | offer value => exact Run.Gives.raise
      | run parser =>
          apply (hstep parser state).bind
          intro next hnext
          apply Run.Gives.ite
          · intro hfailed
            apply Run.Gives.pure
            exact Or.inr ⟨received, parser, state, .nil received state, hnow, hnext, hfailed⟩
          · intro hfailed
            rw [Bool.not_eq_true] at hfailed
            apply (ih (next.result :: received) next).mono
            rintro last (⟨all, value, middle, hdriven, hend, rfl⟩ |
              ⟨all, stop, middle, hdriven, hend, hstop, hlast⟩)
            · exact Or.inl ⟨all, value, middle, .cons hnow hnext hfailed hdriven, hend, rfl⟩
            · exact Or.inr ⟨all, stop, middle, .cons hnow hnext hfailed hdriven, hend, hstop,
                hlast⟩

section Forms

variable {fuel : Nat} {state : State}

/-- A parser that looks for a failure first does the rest to a state that has not failed. -/
theorem gives_guarded {parser : Parser ν} {body : Run ν State}
    (hleaves : parser.leavesFailure = true)
    (hbody : state.failed = false → Run.Gives grammar body (Acts grammar R parser state)) :
    Run.Gives grammar (state.onSuccess body) (Layer grammar R parser state) :=
  gives_onSuccess (.absorb hleaves) fun h => (hbody h).mono fun _ => .acts

variable (hparts : ∀ part state, Run.Gives grammar (apply grammar fuel part state) (R part state))

include hparts

theorem gives_sequence (parts : List (Parser ν)) :
    Run.Gives grammar (apply grammar (fuel + 1) (.sequence parts) state)
      (Layer grammar R (.sequence parts) state) := by
  refine gives_guarded rfl fun h => (gives_inOrder hparts parts [] state).mono ?_
  rintro last (⟨values, middle, hthrough, rfl⟩ |
    ⟨before, part, after, values, middle, rfl, hthrough, hpart, hlast⟩)
  · exact .sequence h hthrough
  · exact .sequence_stop h hthrough hpart hlast

theorem gives_choice (alternatives : List (Parser ν)) :
    Run.Gives grammar (apply grammar (fuel + 1) (.choice alternatives) state)
      (Layer grammar R (.choice alternatives) state) := by
  refine gives_guarded rfl fun h => (gives_firstSuccess hparts state alternatives).bind ?_
  rintro (_ | next) hfound
  · exact Run.Gives.pure (.choice_none h hfound)
  · obtain ⟨before, alternative, after, rfl, hbefore, halternative, hnext⟩ := hfound
    exact Run.Gives.pure (.choice h hbefore halternative hnext)

theorem gives_many (item : Parser ν) :
    Run.Gives grammar (apply grammar (fuel + 1) (.many item) state)
      (Layer grammar R (.many item) state) := by
  refine gives_guarded rfl fun h => (gives_iterate (hparts item) fuel [] state).bind ?_
  rintro ⟨last, _⟩ ⟨values, hcollects, rfl⟩
  apply Run.Gives.pure
  rw [gather_reverse]
  exact .many h hcollects

theorem gives_many1 (item : Parser ν) :
    Run.Gives grammar (apply grammar (fuel + 1) (.many1 item) state)
      (Layer grammar R (.many1 item) state) := by
  refine gives_guarded rfl fun h => (gives_iterate (hparts item) fuel [] state).bind ?_
  rintro ⟨last, _⟩ ⟨values, hcollects, rfl⟩
  apply Run.Gives.pure
  rw [gatherSome_reverse]
  split
  next hnone => exact .many1_none h (hnone ▸ hcollects)
  next hsome => exact .many1 h hcollects hsome

theorem gives_separated (separator item : Parser ν) :
    Run.Gives grammar (apply grammar (fuel + 1) (.separated separator item) state)
      (Layer grammar R (.separated separator item) state) := by
  refine gives_guarded rfl fun h =>
    (gives_alternate (hparts separator) (hparts item) fuel [] state).bind ?_
  rintro ⟨last, _⟩ ⟨values, hcollects, rfl⟩
  apply Run.Gives.pure
  rw [gather_reverse]
  exact .separated h hcollects

theorem gives_separated1 (separator item : Parser ν) :
    Run.Gives grammar (apply grammar (fuel + 1) (.separated1 separator item) state)
      (Layer grammar R (.separated1 separator item) state) := by
  refine gives_guarded rfl fun h =>
    (gives_alternate (hparts separator) (hparts item) fuel [] state).bind ?_
  rintro ⟨last, _⟩ ⟨values, hcollects, rfl⟩
  apply Run.Gives.pure
  rw [gatherSome_reverse]
  split
  next hnone => exact .separated1_none h (hnone ▸ hcollects)
  next hsome => exact .separated1 h hcollects hsome

theorem gives_optional (item : Parser ν) :
    Run.Gives grammar (apply grammar (fuel + 1) (.optional item) state)
      (Layer grammar R (.optional item) state) := by
  refine gives_guarded rfl fun h => (hparts item state).bind fun next hnext => ?_
  apply Run.Gives.pure
  split
  next hfailed => exact .optional_none h hnext hfailed
  next hfailed => exact .optional h hnext (Bool.eq_false_iff.mpr hfailed)

theorem gives_routine (name : Text) (steps : List Value → Step ν) :
    Run.Gives grammar (apply grammar (fuel + 1) (.routine name steps) state)
      (Layer grammar R (.routine name steps) state) := by
  refine gives_guarded rfl fun h => (gives_drive hparts steps fuel [] state).mono ?_
  rintro last (⟨all, value, middle, hdriven, hend, rfl⟩ |
    ⟨all, parser, middle, hdriven, hend, hparser, hlast⟩)
  · exact .routine h hdriven hend
  · exact .routine_stop h hdriven hend hparser hlast

theorem gives_ref (name : ν) :
    Run.Gives grammar (apply grammar (fuel + 1) (.ref name) state)
      (Acts grammar R (.ref name) state) := by
  apply (Run.Gives.resolve name).bind
  intro body hbody
  exact (hparts body state).mono fun _ h => .ref hbody h

theorem gives_map (source : Parser ν) (f : Value → Except Fault Value) :
    Run.Gives grammar (apply grammar (fuel + 1) (.map source f) state)
      (Acts grammar R (.map source f) state) := by
  apply (hparts source state).bind
  intro next hnext
  apply Run.Gives.ite
  · intro hfailed
    exact Run.Gives.pure (.map_failed hnext hfailed)
  · intro hfailed
    apply (Run.Gives.ofExcept fun value hvalue => hvalue).bind
    intro value hvalue
    exact Run.Gives.pure (.map hnext (Bool.eq_false_iff.mpr hfailed) hvalue)

theorem gives_chain (source : Parser ν) (f : Value → Parser ν) :
    Run.Gives grammar (apply grammar (fuel + 1) (.chain source f) state)
      (Acts grammar R (.chain source f) state) := by
  apply (hparts source state).bind
  intro next hnext
  apply Run.Gives.ite
  · intro hfailed
    exact Run.Gives.pure (.chain_failed hnext hfailed)
  · intro hfailed
    apply (hparts (f next.result) next).mono
    intro last hlast
    exact .chain hnext (Bool.eq_false_iff.mpr hfailed) hlast

theorem gives_mapError (source : Parser ν) (f : Option Text → Nat → Text) :
    Run.Gives grammar (apply grammar (fuel + 1) (.mapError source f) state)
      (Acts grammar R (.mapError source f) state) := by
  apply (hparts source state).bind
  intro next hnext
  apply Run.Gives.pure
  split
  next hfailed => exact .mapError_failed hnext hfailed
  next hfailed => exact .mapError hnext (Bool.eq_false_iff.mpr hfailed)

theorem gives_trace (label : Text) (body : Parser ν) :
    Run.Gives grammar (apply grammar (fuel + 1) (.trace label body) state)
      (Acts grammar R (.trace label body) state) := by
  apply (Run.Gives.log _ _ _ _).bind
  intro _ _
  apply (hparts body state).bind
  intro next hnext
  apply (Run.Gives.log _ _ _ _).bind
  intro _ _
  exact Run.Gives.pure (.trace hnext)

end Forms

/-- Every application that ends with a state is one layer over the applications of its parts, which
have one unit of fuel less. -/
theorem gives_layer {fuel : Nat}
    (hparts : ∀ part state, Run.Gives grammar (apply grammar fuel part state) (R part state))
    (parser : Parser ν) (state : State) :
    Run.Gives grammar (apply grammar (fuel + 1) parser state) (Layer grammar R parser state) := by
  cases parser with
  | literal text caseSensitive => exact gives_guarded rfl fun h => Run.Gives.pure (.literal h)
  | pattern name compiled expected => exact gives_guarded rfl fun h => Run.Gives.pure (.pattern h)
  | endOfInput => exact gives_guarded rfl fun h => Run.Gives.pure (.endOfInput h)
  | fail message => exact gives_guarded rfl fun h => Run.Gives.pure (.fail h)
  | succeed value => exact gives_guarded rfl fun h => Run.Gives.pure (.succeed h)
  | sequence parts => exact gives_sequence hparts parts
  | choice alternatives => exact gives_choice hparts alternatives
  | many item => exact gives_many hparts item
  | many1 item => exact gives_many1 hparts item
  | separated separator item => exact gives_separated hparts separator item
  | separated1 separator item => exact gives_separated1 hparts separator item
  | optional item => exact gives_optional hparts item
  | routine name steps => exact gives_routine hparts name steps
  | lazy body => exact (hparts body state).mono fun _ h => .acts (.lazy h)
  | ref name => exact (gives_ref hparts name).mono fun _ => .acts
  | map source f => exact (gives_map hparts source f).mono fun _ => .acts
  | chain source f => exact (gives_chain hparts source f).mono fun _ => .acts
  | mapError source f => exact (gives_mapError hparts source f).mono fun _ => .acts
  | trace label body => exact (gives_trace hparts label body).mono fun _ => .acts
  | transform name f => exact Run.Gives.pure (.acts .transform)
  | broken fault => exact Run.Gives.raise

end ParserCombinators.Parser
