import Mathlib.Order.Filter.AtTopBot.Basic
import ParserCombinators.Proofs.Inversion

/-!
Which states a parser returns, whatever the session and the fuel. A parser returns a state just
when one layer of it does over the states its parts return. So the relation can be read off the
layers: a parser with given parts is followed forwards through them, and an invariant of all
parsers is proved by looking at one layer.

The step from layers to applications is about fuel. Parts that return do so with every amount of
fuel that is large enough, and a loop over them needs as much, and a unit for every round.
-/

namespace ParserCombinators.Parser

open Filter

variable {ν : Type} [DecidableEq ν] {grammar : Grammar ν}

/-- The parser returns `next` for `state`: from every session of the grammar, with every amount of
fuel that is large enough. -/
def Returns (grammar : Grammar ν) (parser : Parser ν) (state next : State) : Prop :=
  ∀ᶠ fuel in atTop, Run.Delivers grammar (apply grammar fuel parser state) next

/-- The parser returns some state. -/
def Ends (grammar : Grammar ν) (parser : Parser ν) (state : State) : Prop :=
  ∃ next, Returns grammar parser state next

/-- Fuel beyond that for the rounds of a loop leaves one more round to end in. -/
theorem exists_rounds {fuel rounds : Nat} (h : rounds < fuel) :
    ∃ more, fuel = more + 1 + rounds := ⟨fuel - rounds - 1, by omega⟩

section Construction

variable {item separator : Parser ν} {state last : State} {values : List Value}

theorem delivers_onSuccess {state next : State} {body : Run ν State} (h : state.failed = false)
    (hbody : Run.Delivers grammar body next) :
    Run.Delivers grammar (state.onSuccess body) next := by
  simpa [State.onSuccess, h] using hbody

/-- Parts that succeed are run before the rest, whatever follows. -/
theorem eventually_inOrder {parts : List (Parser ν)}
    (h : Through (Returns grammar) parts state values last) :
    ∀ᶠ fuel in atTop, ∀ rest found,
      Run.Leads grammar (inOrder (apply grammar fuel) (parts ++ rest) found state)
        (inOrder (apply grammar fuel) rest (values.reverse ++ found) last) := by
  induction h with
  | nil state => exact Eventually.of_forall fun fuel rest found => .refl _
  | cons hpart hnext _ ih =>
      filter_upwards [hpart, ih] with fuel hpart hparts rest found
      refine (hpart.leads _).trans ?_
      simp only [hnext, Bool.false_eq_true, if_false]
      simpa using hparts rest (_ :: found)

/-- Alternatives that fail are passed over. -/
theorem eventually_firstSuccess {alternatives : List (Parser ν)}
    (h : Refuses (Returns grammar) state alternatives) :
    ∀ᶠ fuel in atTop, ∀ rest,
      Run.Leads grammar (firstSuccess (apply grammar fuel) state (alternatives ++ rest))
        (firstSuccess (apply grammar fuel) state rest) := by
  induction h with
  | nil => exact Eventually.of_forall fun fuel rest => .refl _
  | cons hnext hfailed _ ih =>
      filter_upwards [hnext, ih] with fuel hnext hrest rest
      refine (hnext.leads _).trans ?_
      simp only [hfailed, if_true]
      exact hrest rest

theorem eventually_iterate (h : Rounds (Round (Returns grammar item)) state values last) :
    ∀ᶠ fuel in atTop, ∀ rounds found,
      Run.Leads grammar
        (iterate (apply grammar fuel item) (rounds + values.length) found state)
        (iterate (apply grammar fuel item) rounds (values.reverse ++ found) last) := by
  induction h with
  | nil state => exact Eventually.of_forall fun fuel rounds found => .refl _
  | cons hround _ ih =>
      obtain ⟨hitem, hnext, hpos, rfl⟩ := hround
      filter_upwards [hitem, ih] with fuel hitem hrounds rounds found
      refine (hitem.leads _).trans ?_
      simp only [hnext, Bool.false_eq_true, if_false, hpos]
      simpa using hrounds rounds (_ :: found)

theorem eventually_alternate
    (h : Rounds (Turn (Returns grammar separator) (Returns grammar item)) state values last) :
    ∀ᶠ fuel in atTop, ∀ rounds found,
      Run.Leads grammar
        (alternate (apply grammar fuel separator) (apply grammar fuel item)
          (rounds + values.length) found state)
        (alternate (apply grammar fuel separator) (apply grammar fuel item) rounds
          (values.reverse ++ found) last) := by
  induction h with
  | nil state => exact Eventually.of_forall fun fuel rounds found => .refl _
  | cons hturn _ ih =>
      obtain ⟨middle, hitem, hmiddle, rfl, hseparator, hnext, hpos⟩ := hturn
      filter_upwards [hitem, hseparator, ih] with fuel hitem hseparator hturns rounds found
      refine (hitem.leads _).trans ?_
      simp only [hmiddle, Bool.false_eq_true, if_false]
      refine (hseparator.leads _).trans ?_
      simp only [hnext, Bool.false_or, beq_iff_eq, hpos, if_false]
      simpa using hturns rounds (_ :: found)

/-- A repetition delivers what it collects if it may go on for more rounds than it has. -/
theorem eventually_iterate_collects (h : Collects (Returns grammar item) state values last) :
    ∃ found middle, Rounds (Round (Returns grammar item)) state found middle ∧
      ∀ᶠ fuel in atTop, ∀ limit, found.length < limit → Run.Delivers grammar
        (iterate (apply grammar fuel item) limit [] state) (last, values.reverse ++ []) := by
  cases h with
  | refused hrounds hitem hfailed =>
      refine ⟨values, last, hrounds, ?_⟩
      filter_upwards [eventually_iterate hrounds, hitem] with fuel hrounds hitem limit hlimit
      obtain ⟨rounds, rfl⟩ := exists_rounds hlimit
      apply (hrounds (rounds + 1) []).delivers
      exact hitem.bind (.of_true hfailed (.pure _))
  | @still values middle next hrounds hitem hfailed hpos =>
      refine ⟨values, middle, hrounds, ?_⟩
      filter_upwards [eventually_iterate hrounds, hitem] with fuel hrounds hitem limit hlimit
      obtain ⟨rounds, rfl⟩ := exists_rounds hlimit
      apply (hrounds (rounds + 1) []).delivers
      apply hitem.bind
      simp only [hfailed, Bool.false_eq_true, if_false, hpos, if_true, List.reverse_append,
        List.reverse_singleton, List.append_assoc]
      exact Run.Delivers.pure _

theorem eventually_alternate_collects
    (h : CollectsSeparated (Returns grammar separator) (Returns grammar item) state values last) :
    ∃ found middle,
      Rounds (Turn (Returns grammar separator) (Returns grammar item)) state found middle ∧
      ∀ᶠ fuel in atTop, ∀ limit, found.length < limit → Run.Delivers grammar
        (alternate (apply grammar fuel separator) (apply grammar fuel item) limit [] state)
        (last, values.reverse ++ []) := by
  cases h with
  | refused hturns hitem hfailed =>
      refine ⟨values, last, hturns, ?_⟩
      filter_upwards [eventually_alternate hturns, hitem] with fuel hturns hitem limit hlimit
      obtain ⟨rounds, rfl⟩ := exists_rounds hlimit
      apply (hturns (rounds + 1) []).delivers
      exact hitem.bind (.of_true hfailed (.pure _))
  | @unseparated values middle next between hturns hitem hfailed hseparator hends =>
      have hstop : (between.failed || between.pos == middle.pos) = true := by
        rwa [Bool.or_eq_true, beq_iff_eq]
      refine ⟨values, middle, hturns, ?_⟩
      filter_upwards [eventually_alternate hturns, hitem, hseparator]
        with fuel hturns hitem hseparator limit hlimit
      obtain ⟨rounds, rfl⟩ := exists_rounds hlimit
      apply (hturns (rounds + 1) []).delivers
      apply hitem.bind
      simp only [hfailed, Bool.false_eq_true, if_false]
      apply hseparator.bind
      simp only [hstop, if_true, List.reverse_append, List.reverse_singleton, List.append_assoc]
      exact Run.Delivers.pure _

theorem eventually_collects (h : Collects (Returns grammar item) state values last) :
    ∀ᶠ fuel in atTop, Run.Delivers grammar
      (iterate (apply grammar fuel item) fuel [] state) (last, values.reverse ++ []) := by
  obtain ⟨found, middle, -, hloop⟩ := eventually_iterate_collects h
  filter_upwards [hloop, eventually_gt_atTop found.length] with fuel hloop hfuel
  exact hloop fuel hfuel

theorem eventually_collectsSeparated
    (h : CollectsSeparated (Returns grammar separator) (Returns grammar item) state values last) :
    ∀ᶠ fuel in atTop, Run.Delivers grammar
      (alternate (apply grammar fuel separator) (apply grammar fuel item) fuel [] state)
      (last, values.reverse ++ []) := by
  obtain ⟨found, middle, -, hloop⟩ := eventually_alternate_collects h
  filter_upwards [hloop, eventually_gt_atTop found.length] with fuel hloop hfuel
  exact hloop fuel hfuel

/-- The steps of a routine that have been driven are some number of rounds of its loop. -/
theorem eventually_drive {steps : List Value → Step ν} {received all : List Value}
    (h : Driven (Returns grammar) steps received state all last) :
    ∃ count, ∀ᶠ fuel in atTop, ∀ rounds,
      Run.Leads grammar (drive (apply grammar fuel) steps (rounds + count) received state)
        (drive (apply grammar fuel) steps rounds all last) := by
  induction h with
  | nil received state => exact ⟨0, Eventually.of_forall fun fuel rounds => .refl _⟩
  | cons hstep hparser hnext _ ih =>
      obtain ⟨count, ih⟩ := ih
      refine ⟨count + 1, ?_⟩
      filter_upwards [hparser, ih] with fuel hparser hdriven rounds
      rw [← Nat.add_assoc]
      simp only [drive, hstep]
      refine (hparser.leads _).trans ?_
      simpa only [hnext, Bool.false_eq_true, if_false] using hdriven rounds

/-- It is enough that a parser ends with one unit of fuel more than its parts. -/
theorem eventually_of_succ {holds : Nat → Prop} (h : ∀ᶠ fuel in atTop, holds (fuel + 1)) :
    ∀ᶠ fuel in atTop, holds fuel := by
  obtain ⟨least, hleast⟩ := eventually_atTop.mp h
  apply eventually_atTop.mpr
  refine ⟨least + 1, ?_⟩
  intro fuel hfuel
  obtain ⟨more, rfl⟩ := Nat.exists_eq_add_of_le' hfuel
  exact hleast (more + least) (by omega)

theorem apply_of_failed {parser : Parser ν} {state : State} {fuel : Nat}
    (hguard : parser.leavesFailure = true) (hfailed : state.failed = true) :
    apply grammar (fuel + 1) parser state = pure state := by
  cases parser <;> simp_all [leavesFailure, apply, State.onSuccess]

/-- What an application delivers with one unit of fuel more than its parts is returned. -/
theorem returns_of_delivers {parser : Parser ν} {state next : State}
    (h : ∀ᶠ fuel in atTop, Run.Delivers grammar (apply grammar (fuel + 1) parser state) next) :
    Returns grammar parser state next := eventually_of_succ h

end Construction

/-! One rule for each way in which a parser acts on a state. -/

namespace Returns

section Terminals

variable {state : State}

theorem absorb {parser : Parser ν} (hguard : parser.leavesFailure = true)
    (hfailed : state.failed = true) : Returns grammar parser state state := by
  refine returns_of_delivers (.of_forall fun fuel => ?_)
  rw [apply_of_failed hguard hfailed]
  exact .pure state

theorem literal {text : Text} {caseSensitive : Bool} (hstate : state.failed = false) :
    Returns grammar (.literal text caseSensitive) state
      (matchLiteral text caseSensitive state) :=
  returns_of_delivers (.of_forall fun _ => delivers_onSuccess hstate (.pure _))

theorem pattern {name expected : Text} {compiled : Regex.Pattern}
    (hstate : state.failed = false) :
    Returns grammar (.pattern name compiled expected) state
      (matchPattern name compiled expected state) :=
  returns_of_delivers (.of_forall fun _ => delivers_onSuccess hstate (.pure _))

theorem endOfInput (hstate : state.failed = false) :
    Returns grammar .endOfInput state (matchEnd state) :=
  returns_of_delivers (.of_forall fun _ => delivers_onSuccess hstate (.pure _))

theorem fail {message : Text} (hstate : state.failed = false) :
    Returns grammar (.fail message) state (state.fail .failed message) :=
  returns_of_delivers (.of_forall fun _ => delivers_onSuccess hstate (.pure _))

theorem succeed {value : Value} (hstate : state.failed = false) :
    Returns grammar (.succeed value) state (state.withResult value) :=
  returns_of_delivers (.of_forall fun _ => delivers_onSuccess hstate (.pure _))

theorem transform {name : Text} {f : State → State} :
    Returns grammar (.transform name f) state (f state) :=
  returns_of_delivers (.of_forall fun _ => .pure _)

end Terminals

section Lists

variable {before after parts : List (Parser ν)} {part : Parser ν} {state middle next : State}
  {values : List Value}

theorem sequence (hstate : state.failed = false)
    (hthrough : Through (Returns grammar) parts state values next) :
    Returns grammar (.sequence parts) state (next.withResult (.list values)) := by
  apply returns_of_delivers
  filter_upwards [eventually_inOrder hthrough] with fuel hparts
  apply delivers_onSuccess hstate
  have hend := (hparts [] []).delivers (Run.Delivers.pure _)
  simpa using hend

theorem sequence_stop (hstate : state.failed = false)
    (hthrough : Through (Returns grammar) before state values middle)
    (hpart : Returns grammar part middle next) (hfailed : next.failed = true) :
    Returns grammar (.sequence (before ++ part :: after)) state next := by
  apply returns_of_delivers
  filter_upwards [eventually_inOrder hthrough, hpart] with fuel hparts hpart
  apply delivers_onSuccess hstate
  exact (hparts _ _).delivers (hpart.bind (.of_true hfailed (.pure _)))

theorem choice (hstate : state.failed = false) (hbefore : Refuses (Returns grammar) state before)
    (hpart : Returns grammar part state next) (hnext : next.failed = false) :
    Returns grammar (.choice (before ++ part :: after)) state next := by
  apply returns_of_delivers
  filter_upwards [eventually_firstSuccess hbefore, hpart] with fuel hbefore hpart
  apply delivers_onSuccess hstate
  have hfound : Run.Delivers grammar (firstSuccess (apply grammar fuel) state
      (before ++ part :: after)) (some next) :=
    (hbefore _).delivers (hpart.bind (.of_false hnext (.pure _)))
  exact hfound.bind (Run.Delivers.pure _)

theorem choice_none (hstate : state.failed = false)
    (hnone : Refuses (Returns grammar) state parts) :
    Returns grammar (.choice parts) state
      (state.fail .noMatch (Wording.noAlternative state)) := by
  apply returns_of_delivers
  filter_upwards [eventually_firstSuccess hnone] with fuel hnone
  apply delivers_onSuccess hstate
  have hend := (hnone []).delivers (Run.Delivers.pure none)
  rw [List.append_nil] at hend
  exact hend.bind (Run.Delivers.pure _)

end Lists

section Loops

variable {item separator : Parser ν} {state last : State} {values : List Value}

theorem many (hstate : state.failed = false)
    (hcollects : Collects (Returns grammar item) state values last) :
    Returns grammar (.many item) state (last.withResult (.list values)) := by
  apply returns_of_delivers
  filter_upwards [eventually_collects hcollects] with fuel hloop
  apply delivers_onSuccess hstate
  rw [← gather_reverse]
  exact hloop.bind (Run.Delivers.pure _)

theorem many1 (hstate : state.failed = false)
    (hcollects : Collects (Returns grammar item) state values last) (hsome : values ≠ []) :
    Returns grammar (.many1 item) state (last.withResult (.list values)) := by
  apply returns_of_delivers
  filter_upwards [eventually_collects hcollects] with fuel hloop
  refine delivers_onSuccess hstate (hloop.bind ?_)
  rw [gatherSome_reverse, if_neg hsome]
  exact Run.Delivers.pure _

theorem many1_none (hstate : state.failed = false)
    (hcollects : Collects (Returns grammar item) state [] last) :
    Returns grammar (.many1 item) state (state.fail .exhausted (Wording.noItem state)) := by
  apply returns_of_delivers
  filter_upwards [eventually_collects hcollects] with fuel hloop
  exact delivers_onSuccess hstate (hloop.bind (Run.Delivers.pure _))

theorem separated (hstate : state.failed = false)
    (hcollects : CollectsSeparated (Returns grammar separator) (Returns grammar item) state values
      last) :
    Returns grammar (.separated separator item) state (last.withResult (.list values)) := by
  apply returns_of_delivers
  filter_upwards [eventually_collectsSeparated hcollects] with fuel hloop
  apply delivers_onSuccess hstate
  rw [← gather_reverse]
  exact hloop.bind (Run.Delivers.pure _)

theorem separated1 (hstate : state.failed = false)
    (hcollects : CollectsSeparated (Returns grammar separator) (Returns grammar item) state values
      last) (hsome : values ≠ []) :
    Returns grammar (.separated1 separator item) state (last.withResult (.list values)) := by
  apply returns_of_delivers
  filter_upwards [eventually_collectsSeparated hcollects] with fuel hloop
  refine delivers_onSuccess hstate (hloop.bind ?_)
  rw [gatherSome_reverse, if_neg hsome]
  exact Run.Delivers.pure _

theorem separated1_none (hstate : state.failed = false)
    (hcollects : CollectsSeparated (Returns grammar separator) (Returns grammar item) state []
      last) :
    Returns grammar (.separated1 separator item) state
      (state.fail .exhausted (Wording.noSeparatedItem state)) := by
  apply returns_of_delivers
  filter_upwards [eventually_collectsSeparated hcollects] with fuel hloop
  exact delivers_onSuccess hstate (hloop.bind (Run.Delivers.pure _))

theorem optional {next : State} (hstate : state.failed = false)
    (hitem : Returns grammar item state next) (hnext : next.failed = false) :
    Returns grammar (.optional item) state next := by
  apply returns_of_delivers
  filter_upwards [hitem] with fuel hitem
  refine delivers_onSuccess hstate (hitem.bind ?_)
  rw [if_neg (Bool.eq_false_iff.mp hnext)]
  exact Run.Delivers.pure _

theorem optional_none {next : State} (hstate : state.failed = false)
    (hitem : Returns grammar item state next) (hnext : next.failed = true) :
    Returns grammar (.optional item) state (state.withResult .null) := by
  apply returns_of_delivers
  filter_upwards [hitem] with fuel hitem
  refine delivers_onSuccess hstate (hitem.bind ?_)
  rw [if_pos hnext]
  exact Run.Delivers.pure _

end Loops

section Sources

variable {body source : Parser ν} {state middle next : State}

theorem lazy (hbody : Returns grammar body state next) : Returns grammar (.lazy body) state next :=
  returns_of_delivers hbody

theorem ref {name : ν} (hname : grammar name = .ok body) (hbody : Returns grammar body state next) :
    Returns grammar (.ref name) state next := by
  apply returns_of_delivers
  filter_upwards [hbody] with fuel hbody
  exact (Run.Delivers.resolve hname).bind hbody

theorem map {f : Value → Except Fault Value} {value : Value}
    (hsource : Returns grammar source state next) (hnext : next.failed = false)
    (hvalue : f next.result = .ok value) :
    Returns grammar (.map source f) state (next.withResult value) := by
  apply returns_of_delivers
  filter_upwards [hsource] with fuel hsource
  apply hsource.bind
  simp only [hnext, Bool.false_eq_true, if_false, hvalue]
  exact Run.Delivers.pure _

theorem map_failed {f : Value → Except Fault Value} (hsource : Returns grammar source state next)
    (hnext : next.failed = true) : Returns grammar (.map source f) state next := by
  apply returns_of_delivers
  filter_upwards [hsource] with fuel hsource
  exact hsource.bind (.of_true hnext (.pure _))

theorem chain {f : Value → Parser ν} (hsource : Returns grammar source state middle)
    (hmiddle : middle.failed = false) (hnext : Returns grammar (f middle.result) middle next) :
    Returns grammar (.chain source f) state next := by
  apply returns_of_delivers
  filter_upwards [hsource, hnext] with fuel hsource hnext
  exact hsource.bind (.of_false hmiddle hnext)

theorem chain_failed {f : Value → Parser ν} (hsource : Returns grammar source state next)
    (hnext : next.failed = true) : Returns grammar (.chain source f) state next := by
  apply returns_of_delivers
  filter_upwards [hsource] with fuel hsource
  exact hsource.bind (.of_true hnext (.pure _))

theorem mapError {f : Option Text → Nat → Text} (hsource : Returns grammar source state next)
    (hnext : next.failed = false) : Returns grammar (.mapError source f) state next := by
  apply returns_of_delivers
  filter_upwards [hsource] with fuel hsource
  apply hsource.bind
  rw [if_neg (Bool.eq_false_iff.mp hnext)]
  exact Run.Delivers.pure _

theorem mapError_failed {f : Option Text → Nat → Text}
    (hsource : Returns grammar source state next) (hnext : next.failed = true) :
    Returns grammar (.mapError source f) state
      { next with error := some (f next.error next.pos) } := by
  apply returns_of_delivers
  filter_upwards [hsource] with fuel hsource
  apply hsource.bind
  rw [if_pos hnext]
  exact Run.Delivers.pure _

theorem trace {label : Text} (hbody : Returns grammar body state next) :
    Returns grammar (.trace label body) state next := by
  apply returns_of_delivers
  filter_upwards [hbody] with fuel hbody
  refine (Run.Delivers.log _ _ _ _).bind ?_
  apply hbody.bind
  exact (Run.Delivers.log _ _ _ _).bind (Run.Delivers.pure _)

end Sources

section Routines

variable {name : Text} {steps : List Value → Step ν} {received : List Value}
  {state middle next : State}

theorem routine {value : Value} (hstate : state.failed = false)
    (hdriven : Driven (Returns grammar) steps [] state received next)
    (hend : steps received = .finish value) :
    Returns grammar (.routine name steps) state (next.withResult value) := by
  apply returns_of_delivers
  obtain ⟨count, hdriven⟩ := eventually_drive hdriven
  filter_upwards [hdriven, eventually_gt_atTop count] with fuel hdriven hfuel
  apply delivers_onSuccess hstate
  obtain ⟨rounds, rfl⟩ := exists_rounds hfuel
  apply (hdriven (rounds + 1)).delivers
  simp only [drive, hend]
  exact Run.Delivers.pure _

theorem routine_stop {part : Parser ν} (hstate : state.failed = false)
    (hdriven : Driven (Returns grammar) steps [] state received middle)
    (hend : steps received = .run part) (hpart : Returns grammar part middle next)
    (hfailed : next.failed = true) : Returns grammar (.routine name steps) state next := by
  apply returns_of_delivers
  obtain ⟨count, hdriven⟩ := eventually_drive hdriven
  filter_upwards [hdriven, hpart, eventually_gt_atTop count] with fuel hdriven hpart hfuel
  apply delivers_onSuccess hstate
  obtain ⟨rounds, rfl⟩ := exists_rounds hfuel
  apply (hdriven (rounds + 1)).delivers
  simp only [drive, hend]
  exact hpart.bind (.of_true hfailed (.pure _))

end Routines

end Returns

theorem Acts.returns {parser : Parser ν} {state next : State}
    (h : Acts grammar (Returns grammar) parser state next) :
    Returns grammar parser state next := by
  cases h with
  | literal hstate => exact .literal hstate
  | pattern hstate => exact .pattern hstate
  | endOfInput hstate => exact .endOfInput hstate
  | fail hstate => exact .fail hstate
  | succeed hstate => exact .succeed hstate
  | transform => exact .transform
  | sequence hstate hthrough => exact .sequence hstate hthrough
  | sequence_stop hstate hthrough hpart hfailed =>
      exact .sequence_stop hstate hthrough hpart hfailed
  | choice hstate hbefore halternative hnext => exact .choice hstate hbefore halternative hnext
  | choice_none hstate hnone => exact .choice_none hstate hnone
  | many hstate hcollects => exact .many hstate hcollects
  | many1 hstate hcollects hsome => exact .many1 hstate hcollects hsome
  | many1_none hstate hcollects => exact .many1_none hstate hcollects
  | separated hstate hcollects => exact .separated hstate hcollects
  | separated1 hstate hcollects hsome => exact .separated1 hstate hcollects hsome
  | separated1_none hstate hcollects => exact .separated1_none hstate hcollects
  | optional hstate hitem hnext => exact .optional hstate hitem hnext
  | optional_none hstate hitem hnext => exact .optional_none hstate hitem hnext
  | lazy hbody => exact .lazy hbody
  | ref hname hbody => exact .ref hname hbody
  | map hsource hnext hvalue => exact .map hsource hnext hvalue
  | map_failed hsource hnext => exact .map_failed hsource hnext
  | chain hsource hmiddle hnext => exact .chain hsource hmiddle hnext
  | chain_failed hsource hnext => exact .chain_failed hsource hnext
  | mapError hsource hnext => exact .mapError hsource hnext
  | mapError_failed hsource hnext => exact .mapError_failed hsource hnext
  | routine hstate hdriven hend => exact .routine hstate hdriven hend
  | routine_stop hstate hdriven hend hpart hfailed =>
      exact .routine_stop hstate hdriven hend hpart hfailed
  | trace hbody => exact .trace hbody

/-- A layer over parts that return is returned. -/
theorem Layer.returns {parser : Parser ν} {state next : State}
    (h : Layer grammar (Returns grammar) parser state next) :
    Returns grammar parser state next := by
  cases h with
  | absorb hguard hfailed => exact .absorb hguard hfailed
  | acts hacts => exact hacts.returns

section Laws

variable {parser : Parser ν} {state next : State}

theorem gives_returns (fuel : Nat) (parser : Parser ν) (state : State) :
    Run.Gives grammar (apply grammar fuel parser state) (Returns grammar parser state) := by
  induction fuel generalizing parser state with
  | zero => exact Run.Gives.outOfFuel
  | succ fuel ih => exact (gives_layer ih parser state).mono fun _ h => h.returns

/-- A parser returns a state just when some amount of fuel ends in it, whichever of the grammar's
definitions the session keeps already. -/
theorem returns_iff_apply {session : Session ν} (hsession : session.Coherent grammar) :
    Returns grammar parser state next ↔
      ∃ fuel after, apply grammar fuel parser state session = (.done next, after) := by
  constructor
  · intro h
    obtain ⟨fuel, hfuel⟩ := h.exists
    obtain ⟨after, hafter, -⟩ := hfuel session hsession
    exact ⟨fuel, after, hafter⟩
  · rintro ⟨fuel, after, h⟩
    exact (gives_returns fuel parser state session next after hsession h).1

theorem exists_apply_iff_returns {session : Session ν} (hsession : session.Coherent grammar)
    {post : State → Prop} :
    (∃ fuel next after, apply grammar fuel parser state session = (.done next, after) ∧
      post next) ↔ ∃ next, Returns grammar parser state next ∧ post next := by
  constructor
  · rintro ⟨fuel, next, after, hrun, hpost⟩
    exact ⟨next, (returns_iff_apply hsession).mpr ⟨fuel, after, hrun⟩, hpost⟩
  · rintro ⟨next, hnext, hpost⟩
    obtain ⟨fuel, after, hrun⟩ := (returns_iff_apply hsession).mp hnext
    exact ⟨fuel, next, after, hrun, hpost⟩

/-- A run on an input ends with a state that the parser returns for the start of the input. -/
theorem returns_of_run {fuel : Nat} {input : Text} {debug : Bool} {session after : Session ν}
    {final : State} (hsession : session.Coherent grammar)
    (h : run grammar fuel parser input debug session = (.done final, after)) :
    Returns grammar parser (State.start input debug) final := by
  have hfinish (final : State) (hfinal : Returns grammar parser (State.start input debug) final) :
      Run.Gives grammar (do
          if debug then Run.log .info .finish parser.name final
          return final) (Returns grammar parser (State.start input debug)) :=
    Run.Gives.ite (fun _ => (Run.Gives.log _ _ _ _).bind fun _ _ => Run.Gives.pure hfinal)
      fun _ => Run.Gives.pure hfinal
  have hrest := (gives_returns fuel parser (State.start input debug)).bind hfinish
  have hgives : Run.Gives grammar (run grammar fuel parser input debug)
      (Returns grammar parser (State.start input debug)) :=
    Run.Gives.ite (fun _ => (Run.Gives.log _ _ _ _).bind fun _ _ => hrest) fun _ => hrest
  exact (hgives session final after hsession h).1

/-- A parser returns at most one state. -/
theorem Returns.unique {other : State} (h : Returns grammar parser state next)
    (hother : Returns grammar parser state other) : next = other := by
  obtain ⟨fuel, hfirst, hsecond⟩ := (h.and hother).exists
  obtain ⟨after, hnext, -⟩ := hfirst .empty Session.empty_coherent
  obtain ⟨after', hother, -⟩ := hsecond .empty Session.empty_coherent
  rw [hnext] at hother
  cases hother
  rfl

/-- The states that parsers return are the least relation that is closed under layers. -/
theorem Returns.induction {motive : Parser ν → State → State → Prop}
    (closed : ∀ parser state next,
      Layer grammar (fun part middle last =>
        Returns grammar part middle last ∧ motive part middle last) parser state next →
      motive parser state next)
    (h : Returns grammar parser state next) : motive parser state next := by
  have hgives : ∀ fuel parser state,
      Run.Gives grammar (apply grammar fuel parser state) (motive parser state) := by
    intro fuel
    induction fuel with
    | zero => exact fun parser state => Run.Gives.outOfFuel
    | succ fuel ih =>
        intro parser state
        have hparts : ∀ part middle, Run.Gives grammar (apply grammar fuel part middle)
            fun last => Returns grammar part middle last ∧ motive part middle last :=
          fun part middle => (gives_returns fuel part middle).and (ih part middle)
        exact (gives_layer hparts parser state).mono (closed parser state)
  obtain ⟨fuel, after, hrun⟩ := (returns_iff_apply Session.empty_coherent).mp h
  exact (hgives fuel parser state .empty next after Session.empty_coherent hrun).1

end Laws

end ParserCombinators.Parser
