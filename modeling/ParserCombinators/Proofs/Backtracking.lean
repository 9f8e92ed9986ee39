import ParserCombinators.Proofs.Agreement

/-!
Attempts that are abandoned. An alternative that fails, an item that does not appear, a separator
that leads nowhere: each has made a state of its own, and none of these states is returned. A
choice and an optional part go back to the state they were given. A repetition returns the last
state of its run, which is the one sequence of successes that begins at the state it was given.

Nothing is assumed of the parts. They may be functions of states that move the position back, drop
a failure, or change the input.
-/

namespace ParserCombinators.Parser

variable {ν : Type}

/-- The successes of a repetition after the state it begins with, each on the one before. The run
ends before an item that fails, or with an item that leaves the position as it was. -/
inductive ItemRun (R : State → State → Prop) : State → List State → Prop
  | refused {state next : State} : R state next → next.failed = true → ItemRun R state []
  | still {state next : State} : R state next → next.failed = false → next.pos = state.pos →
      ItemRun R state [next]
  | moved {state next : State} {states : List State} : R state next → next.failed = false →
      next.pos ≠ state.pos → ItemRun R next states → ItemRun R state (next :: states)

/-- The successes of a separated repetition: an item, a separator, and so on in turn. The run ends
before an item that fails, or with an item whose separator fails or ends where the item began. -/
inductive SeparatedRun (S R : State → State → Prop) : State → List State → Prop
  | refused {state next : State} : R state next → next.failed = true → SeparatedRun S R state []
  | unseparated {state next between : State} : R state next → next.failed = false →
      S next between → between.failed = true ∨ between.pos = state.pos →
      SeparatedRun S R state [next]
  | separated {state next between : State} {states : List State} : R state next →
      next.failed = false → S next between → between.failed = false →
      between.pos ≠ state.pos → SeparatedRun S R between states →
      SeparatedRun S R state (next :: between :: states)

/-- Every other state, from the first on: those after the items of a separated run. -/
def afterItems : List State → List State
  | [] => []
  | [last] => [last]
  | next :: _ :: states => next :: afterItems states

/-- The last state of a run that begins at `state`, with the results of its items. -/
def gathered (state : State) (run items : List State) : State :=
  (run.getLastD state).withResult (.list (items.map State.result))

theorem afterItems_eq_nil_iff {states : List State} : afterItems states = [] ↔ states = [] := by
  rcases states with _ | ⟨next, _ | ⟨between, states⟩⟩ <;> simp [afterItems]

section Runs

variable {S R : State → State → Prop} {state middle last : State} {values : List Value}
  {states others : List State}

theorem ItemRun.unique (hR : ∀ state next other, R state next → R state other → next = other)
    (h : ItemRun R state states) (hothers : ItemRun R state others) : states = others := by
  induction h generalizing others with
  | refused hnext hfailed =>
      cases hothers with
      | refused _ _ => rfl
      | still hother hsuccess _ => simp [hR _ _ _ hnext hother, hsuccess] at hfailed
      | moved hother hsuccess _ _ => simp [hR _ _ _ hnext hother, hsuccess] at hfailed
  | still hnext hsuccess hpos =>
      cases hothers with
      | refused hother hfailed => simp [hR _ _ _ hnext hother, hfailed] at hsuccess
      | still hother _ _ => rw [hR _ _ _ hnext hother]
      | moved hother _ hmoves _ => exact absurd (hR _ _ _ hnext hother ▸ hpos) hmoves
  | moved hnext hsuccess hmoves _ ih =>
      cases hothers with
      | refused hother hfailed => simp [hR _ _ _ hnext hother, hfailed] at hsuccess
      | still hother _ hpos => exact absurd hpos (hR _ _ _ hnext hother ▸ hmoves)
      | moved hother _ _ hrest =>
          obtain rfl := hR _ _ _ hnext hother
          rw [ih hrest]

theorem SeparatedRun.unique (hS : ∀ state next other, S state next → S state other → next = other)
    (hR : ∀ state next other, R state next → R state other → next = other)
    (h : SeparatedRun S R state states) (hothers : SeparatedRun S R state others) :
    states = others := by
  induction h generalizing others with
  | refused hnext hfailed =>
      cases hothers with
      | refused _ _ => rfl
      | unseparated hother hsuccess _ _ => simp [hR _ _ _ hnext hother, hsuccess] at hfailed
      | separated hother hsuccess _ _ _ _ => simp [hR _ _ _ hnext hother, hsuccess] at hfailed
  | unseparated hnext hsuccess hbetween hends =>
      cases hothers with
      | refused hother hfailed => simp [hR _ _ _ hnext hother, hfailed] at hsuccess
      | unseparated hother _ _ _ => rw [hR _ _ _ hnext hother]
      | separated hother _ hagain hgoes hmoves _ =>
          obtain rfl := hR _ _ _ hnext hother
          obtain rfl := hS _ _ _ hbetween hagain
          rcases hends with hfailed | hback
          · simp [hgoes] at hfailed
          · exact absurd hback hmoves
  | separated hnext hsuccess hbetween hgoes hmoves _ ih =>
      cases hothers with
      | refused hother hfailed => simp [hR _ _ _ hnext hother, hfailed] at hsuccess
      | unseparated hother _ hagain hends =>
          obtain rfl := hR _ _ _ hnext hother
          obtain rfl := hS _ _ _ hbetween hagain
          rcases hends with hfailed | hback
          · simp [hgoes] at hfailed
          · exact absurd hback hmoves
      | separated hother _ hagain _ _ hrest =>
          obtain rfl := hR _ _ _ hnext hother
          obtain rfl := hS _ _ _ hbetween hagain
          rw [ih hrest]

/-- Rounds before a run make a longer run. -/
theorem Rounds.itemRun (h : Rounds (Round R) state values middle)
    (hrest : ItemRun R middle states) :
    ∃ run, ItemRun R state run ∧ run.map State.result = values ++ states.map State.result ∧
      run.getLastD state = states.getLastD middle := by
  induction h with
  | nil state => exact ⟨states, hrest, rfl, rfl⟩
  | @cons state next _ _ _ hround _ ih =>
      obtain ⟨hnext, hsuccess, hmoves, rfl⟩ := hround
      obtain ⟨run, hrun, hvalues, hlast⟩ := ih hrest
      refine ⟨next :: run, .moved hnext hsuccess hmoves hrun, ?_, ?_⟩
      · rw [List.map_cons, hvalues, List.cons_append]
      · rw [List.getLastD_cons, hlast]

theorem Rounds.separatedRun (h : Rounds (Turn S R) state values middle)
    (hrest : SeparatedRun S R middle states) :
    ∃ run, SeparatedRun S R state run ∧
      (afterItems run).map State.result = values ++ (afterItems states).map State.result ∧
      run.getLastD state = states.getLastD middle := by
  induction h with
  | nil state => exact ⟨states, hrest, rfl, rfl⟩
  | @cons state between _ _ _ hturn _ ih =>
      obtain ⟨next, hnext, hsuccess, rfl, hbetween, hgoes, hmoves⟩ := hturn
      obtain ⟨run, hrun, hvalues, hlast⟩ := ih hrest
      refine ⟨next :: between :: run,
        .separated hnext hsuccess hbetween hgoes hmoves hrun, ?_, ?_⟩
      · rw [afterItems, List.map_cons, hvalues, List.cons_append]
      · rw [List.getLastD_cons, List.getLastD_cons, hlast]

/-- A repetition collects the results of its run, and ends with its last state. -/
theorem collects_iff_itemRun : Collects R state values last ↔
    ∃ run, ItemRun R state run ∧ values = run.map State.result ∧ last = run.getLastD state := by
  constructor
  · intro h
    cases h with
    | refused hrounds hnext hfailed =>
        obtain ⟨run, hrun, hvalues, hlast⟩ := hrounds.itemRun (.refused hnext hfailed)
        exact ⟨run, hrun, by simp [hvalues], hlast.symm⟩
    | still hrounds hnext hsuccess hpos =>
        obtain ⟨run, hrun, hvalues, hlast⟩ := hrounds.itemRun (.still hnext hsuccess hpos)
        exact ⟨run, hrun, by simp [hvalues], hlast.symm⟩
  · rintro ⟨run, hrun, rfl, rfl⟩
    induction hrun with
    | refused hnext hfailed => exact .refused (.nil _) hnext hfailed
    | still hnext hsuccess hpos => exact .still (.nil _) hnext hsuccess hpos
    | moved hnext hsuccess hmoves _ ih =>
        rw [List.getLastD_cons]
        exact ih.cons ⟨hnext, hsuccess, hmoves, rfl⟩

theorem collectsSeparated_iff_separatedRun : CollectsSeparated S R state values last ↔
    ∃ run, SeparatedRun S R state run ∧ values = (afterItems run).map State.result ∧
      last = run.getLastD state := by
  constructor
  · intro h
    cases h with
    | refused hturns hnext hfailed =>
        obtain ⟨run, hrun, hvalues, hlast⟩ := hturns.separatedRun (.refused hnext hfailed)
        exact ⟨run, hrun, by simp [hvalues, afterItems], hlast.symm⟩
    | unseparated hturns hnext hsuccess hbetween hends =>
        obtain ⟨run, hrun, hvalues, hlast⟩ :=
          hturns.separatedRun (.unseparated hnext hsuccess hbetween hends)
        exact ⟨run, hrun, by simp [hvalues, afterItems], hlast.symm⟩
  · rintro ⟨run, hrun, rfl, rfl⟩
    induction hrun with
    | refused hnext hfailed => exact .refused (.nil _) hnext hfailed
    | unseparated hnext hsuccess hbetween hends =>
        exact .unseparated (.nil _) hnext hsuccess hbetween hends
    | @separated _ next between _ hnext hsuccess hbetween hgoes hmoves _ ih =>
        rw [List.getLastD_cons, List.getLastD_cons]
        exact ih.cons ⟨next, hnext, hsuccess, rfl, hbetween, hgoes, hmoves⟩

end Runs

section Combinators

variable [DecidableEq ν] {grammar : Grammar ν} {item separator : Parser ν}
  {alternatives : List (Parser ν)} {state next : State}

theorem returns_choice_iff (hstate : state.failed = false) :
    Returns grammar (.choice alternatives) state next ↔
      (∃ before alternative after, alternatives = before ++ alternative :: after ∧
        Refuses (Returns grammar) state before ∧ Returns grammar alternative state next ∧
        next.failed = false) ∨
      (Refuses (Returns grammar) state alternatives ∧
        next = state.fail .noMatch (Wording.noAlternative state)) := by
  constructor
  · intro h
    cases h.acts hstate with
    | choice _ hbefore hchosen hsuccess =>
        exact Or.inl ⟨_, _, _, rfl, hbefore, hchosen, hsuccess⟩
    | choice_none _ hnone => exact Or.inr ⟨hnone, rfl⟩
  · rintro (⟨before, alternative, after, rfl, hbefore, hchosen, hsuccess⟩ | ⟨hnone, rfl⟩)
    · exact Returns.choice hstate hbefore hchosen hsuccess
    · exact Returns.choice_none hstate hnone

theorem returns_optional_iff (hstate : state.failed = false) :
    Returns grammar (.optional item) state next ↔ ∃ tried, Returns grammar item state tried ∧
      next = if tried.failed then state.withResult .null else tried := by
  constructor
  · intro h
    cases h.acts hstate with
    | optional _ hitem hsuccess => exact ⟨next, hitem, by simp [hsuccess]⟩
    | optional_none _ hitem hfailed => exact ⟨_, hitem, by simp [hfailed]⟩
  · rintro ⟨tried, hitem, rfl⟩
    split
    next hfailed => exact Returns.optional_none hstate hitem hfailed
    next hsuccess =>
      exact Returns.optional hstate hitem (Bool.eq_false_iff.mpr hsuccess)

theorem returns_many_iff (hstate : state.failed = false) :
    Returns grammar (.many item) state next ↔
      ∃ run, ItemRun (Returns grammar item) state run ∧ next = gathered state run run := by
  constructor
  · intro h
    obtain ⟨values, last, hcollects, rfl⟩ := h.many_collects hstate
    obtain ⟨run, hrun, rfl, rfl⟩ := collects_iff_itemRun.mp hcollects
    exact ⟨run, hrun, rfl⟩
  · rintro ⟨run, hrun, rfl⟩
    exact Returns.many hstate (collects_iff_itemRun.mpr ⟨run, hrun, rfl, rfl⟩)

theorem returns_many1_iff (hstate : state.failed = false) :
    Returns grammar (.many1 item) state next ↔
      ∃ run, ItemRun (Returns grammar item) state run ∧
        next = if run = [] then state.fail .exhausted (Wording.noItem state)
          else gathered state run run := by
  rw [returns_many1_iff_collects hstate]
  constructor
  · rintro ⟨values, last, hcollects, rfl⟩
    obtain ⟨run, hrun, rfl, rfl⟩ := collects_iff_itemRun.mp hcollects
    exact ⟨run, hrun, by simp only [List.map_eq_nil_iff, gathered]⟩
  · rintro ⟨run, hrun, rfl⟩
    have hcollects := collects_iff_itemRun.mpr ⟨run, hrun, rfl, rfl⟩
    exact ⟨_, _, hcollects, by simp only [List.map_eq_nil_iff, gathered]⟩

theorem returns_separated_iff (hstate : state.failed = false) :
    Returns grammar (.separated separator item) state next ↔
      ∃ run, SeparatedRun (Returns grammar separator) (Returns grammar item) state run ∧
        next = gathered state run (afterItems run) := by
  constructor
  · intro h
    obtain ⟨values, last, hcollects, rfl⟩ := h.separated_collects hstate
    obtain ⟨run, hrun, rfl, rfl⟩ := collectsSeparated_iff_separatedRun.mp hcollects
    exact ⟨run, hrun, rfl⟩
  · rintro ⟨run, hrun, rfl⟩
    have hcollects := collectsSeparated_iff_separatedRun.mpr ⟨run, hrun, rfl, rfl⟩
    exact Returns.separated hstate hcollects

theorem returns_separated1_iff (hstate : state.failed = false) :
    Returns grammar (.separated1 separator item) state next ↔
      ∃ run, SeparatedRun (Returns grammar separator) (Returns grammar item) state run ∧
        next = if run = [] then state.fail .exhausted (Wording.noSeparatedItem state)
          else gathered state run (afterItems run) := by
  rw [returns_separated1_iff_collects hstate]
  constructor
  · rintro ⟨values, last, hcollects, rfl⟩
    obtain ⟨run, hrun, rfl, rfl⟩ := collectsSeparated_iff_separatedRun.mp hcollects
    exact ⟨run, hrun, by simp only [List.map_eq_nil_iff, afterItems_eq_nil_iff, gathered]⟩
  · rintro ⟨run, hrun, rfl⟩
    have hcollects := collectsSeparated_iff_separatedRun.mpr ⟨run, hrun, rfl, rfl⟩
    exact ⟨_, _, hcollects, by simp only [List.map_eq_nil_iff, afterItems_eq_nil_iff, gathered]⟩

end Combinators

variable [DecidableEq ν] {grammar : Grammar ν}

/-- A choice returns what its first success returns, or the state it was given, failed. An optional
part returns what it succeeds with, or the state it was given without a result. The repetitions
return the last state of their run, with the results of its items as its result; those that need
an item return the state they were given, failed, if the run is empty. A run is unique. -/
theorem abandoned_attempts_leave_no_trace {session : Session ν}
    (hsession : session.Coherent grammar) {state : State} (hstate : state.failed = false) :
    (∀ alternatives next,
      (∃ fuel, outcome grammar (.choice alternatives) state session fuel = .done next) ↔
        (∃ before alternative after, alternatives = before ++ alternative :: after ∧
          Refuses (Returns grammar) state before ∧ Returns grammar alternative state next ∧
          next.failed = false) ∨
        (Refuses (Returns grammar) state alternatives ∧
          next = state.fail .noMatch (Wording.noAlternative state))) ∧
    (∀ item next, (∃ fuel, outcome grammar (.optional item) state session fuel = .done next) ↔
      ∃ tried, Returns grammar item state tried ∧
        next = if tried.failed then state.withResult .null else tried) ∧
    (∀ item next, (∃ fuel, outcome grammar (.many item) state session fuel = .done next) ↔
      ∃ run, ItemRun (Returns grammar item) state run ∧ next = gathered state run run) ∧
    (∀ item next, (∃ fuel, outcome grammar (.many1 item) state session fuel = .done next) ↔
      ∃ run, ItemRun (Returns grammar item) state run ∧
        next = if run = [] then state.fail .exhausted (Wording.noItem state)
          else gathered state run run) ∧
    (∀ separator item next,
      (∃ fuel, outcome grammar (.separated separator item) state session fuel = .done next) ↔
        ∃ run, SeparatedRun (Returns grammar separator) (Returns grammar item) state run ∧
          next = gathered state run (afterItems run)) ∧
    (∀ separator item next,
      (∃ fuel, outcome grammar (.separated1 separator item) state session fuel = .done next) ↔
        ∃ run, SeparatedRun (Returns grammar separator) (Returns grammar item) state run ∧
          next = if run = [] then state.fail .exhausted (Wording.noSeparatedItem state)
            else gathered state run (afterItems run)) ∧
    (∀ item run other, ItemRun (Returns grammar item) state run →
      ItemRun (Returns grammar item) state other → run = other) ∧
    ∀ separator item run other,
      SeparatedRun (Returns grammar separator) (Returns grammar item) state run →
      SeparatedRun (Returns grammar separator) (Returns grammar item) state other →
      run = other := by
  have hunique (parser : Parser ν) (state next other : State)
      (h : Returns grammar parser state next) (hother : Returns grammar parser state other) :
      next = other := h.unique hother
  simp only [← returns_iff_outcome hsession]
  refine ⟨?_, ?_, ?_, ?_, ?_, ?_, ?_, ?_⟩
  · exact fun alternatives next => returns_choice_iff hstate
  · exact fun item next => returns_optional_iff hstate
  · exact fun item next => returns_many_iff hstate
  · exact fun item next => returns_many1_iff hstate
  · exact fun separator item next => returns_separated_iff hstate
  · exact fun separator item next => returns_separated1_iff hstate
  · exact fun item run other h hother => h.unique (hunique item) hother
  · exact fun separator item run other h hother =>
      h.unique (hunique separator) (hunique item) hother

/-- An item that goes from position 0 to 5, back to 2, and then to the end, where it fails. As long
as it succeeds it drops the error of the state. -/
def hopping : Grammar Unit := fun _ => .ok (transform (Text.ofString "hop") fun state =>
  match state.pos with
  | 0 => { state.moveTo 5 (.int 1) with error := none }
  | 5 => { state.moveTo 2 (.int 2) with error := none }
  | _ => (state.moveTo state.input.length (.int 3)).fail .failed [])

/-- The third item fails far from where the second ended, and nothing of it is left. -/
theorem hopping_leaves_no_trace : ∃ next run,
    outcome hopping (many (ref ())) (State.start [97, 98, 99, 100, 101, 102] false) .empty 9 =
      .done next ∧
    ItemRun (Returns hopping (ref ())) (State.start [97, 98, 99, 100, 101, 102] false) run ∧
    next = gathered (State.start [97, 98, 99, 100, 101, 102] false) run run ∧
    next.pos = 2 ∧ next.failed = false := by
  have hsession : Session.Coherent .empty hopping := Session.empty_coherent
  have hstate : (State.start [97, 98, 99, 100, 101, 102] false).failed = false := rfl
  obtain ⟨-, -, hmany, -⟩ := abandoned_attempts_leave_no_trace hsession hstate
  obtain ⟨next, hnext, hpos, hfailed⟩ : ∃ next,
      outcome hopping (many (ref ())) (State.start [97, 98, 99, 100, 101, 102] false) .empty 9 =
        .done next ∧ next.pos = 2 ∧ next.failed = false := ⟨_, rfl, rfl, rfl⟩
  obtain ⟨run, hrun, hgathered⟩ := (hmany (ref ()) next).mp ⟨9, hnext⟩
  exact ⟨next, run, hnext, hrun, hgathered, hpos, hfailed⟩

end ParserCombinators.Parser
