import ParserCombinators.Proofs.Moves
import ParserCombinators.Proofs.Raises

/-!
What traced parsers write to the log. Each writes a record before its body is applied and one after
it has returned, so the records of a run that returns are nested like brackets, and what is known
of a pair is what is known of the application between the two. A run that ends with a fault leaves
some brackets open: those of the applications that the fault went through.

An application makes its calls one after the other, and what a call writes is nested or cut; so the
log is followed call by call, with the relation of sessions that `passes_layer` asks for.
-/

namespace ParserCombinators

open Filter

variable {level : Level} {spans closes : Text → State → State → Prop}
  {opened : Text → State → Prop} {records later : List Record}

/-- The records are nested pairs of one before and one after an application, all of the level;
`spans` holds of the label of a pair and its two states. -/
inductive Nested (level : Level) (spans : Text → State → State → Prop) : List Record → Prop
  | nil : Nested level spans []
  | pair {label : Text} {state next : State} {inside later : List Record} :
      spans label state next → Nested level spans inside → Nested level spans later →
      Nested level spans
        (⟨level, .before, label, state⟩ :: (inside ++ ⟨level, .after, label, next⟩ :: later))

/-- The records are nested up to where they were cut; of each record that no other has closed,
`opened` holds. -/
inductive Cut (level : Level) (spans : Text → State → State → Prop)
    (opened : Text → State → Prop) : List Record → Prop
  | nested {records : List Record} : Nested level spans records → Cut level spans opened records
  | inside {label : Text} {state : State} {earlier inner : List Record} :
      Nested level spans earlier → opened label state → Cut level spans opened inner →
      Cut level spans opened (earlier ++ ⟨level, .before, label, state⟩ :: inner)

theorem Nested.append (h : Nested level spans records) (hlater : Nested level spans later) :
    Nested level spans (records ++ later) := by
  induction h with
  | nil => exact hlater
  | pair hspans hinside _ _ ih =>
      rw [List.cons_append, List.append_assoc, List.cons_append]
      exact .pair hspans hinside ih

theorem Nested.mono (h : Nested level spans records)
    (himp : ∀ label state next, spans label state next → closes label state next) :
    Nested level closes records := by
  induction h with
  | nil => exact .nil
  | pair hspans _ _ hinside hlater => exact .pair (himp _ _ _ hspans) hinside hlater

/-- A nested log can be read in one way only: the record that closes a bracket is the one after the
nested log that follows. -/
theorem Nested.closing_unique {inside inside' : List Record} {closing closing' : Record}
    {later later' : List Record} (h : Nested level spans inside)
    (h' : Nested level spans inside') (hclosing : closing.moment = .after)
    (hclosing' : closing'.moment = .after)
    (hsame : inside ++ closing :: later = inside' ++ closing' :: later') :
    inside = inside' ∧ closing = closing' ∧ later = later' := by
  induction h generalizing inside' closing closing' later later' with
  | nil =>
      cases h' with
      | nil => simpa using hsame
      | pair _ _ _ =>
          rw [List.nil_append, List.cons_append, List.cons.injEq] at hsame
          rw [hsame.1] at hclosing
          cases hclosing
  | pair _ _ _ ihinside ihlater =>
      cases h' with
      | nil =>
          rw [List.nil_append, List.cons_append, List.cons.injEq] at hsame
          rw [← hsame.1] at hclosing'
          cases hclosing'
      | pair _ hinner hrest =>
          simp only [List.cons_append, List.append_assoc, List.cons.injEq, Record.mk.injEq,
            true_and] at hsame
          obtain ⟨⟨hlabel, hstate⟩, hrecords⟩ := hsame
          obtain ⟨hinside, hpair, htail⟩ := ihinside hinner rfl rfl hrecords
          obtain ⟨hlater, hclose, hend⟩ := ihlater hrest hclosing hclosing' htail
          exact ⟨by rw [hlabel, hstate, hinside, ← hpair, hlabel, hlater], hclose, hend⟩

/-- One record among the later ones closes the bracket, with a nested log before it. -/
def ClosedOnce (level : Level) (spans : Text → State → State → Prop) (opening : Record)
    (later : List Record) : Prop :=
  ∃ inside next rest,
    later = inside ++ ⟨level, .after, opening.subject, next⟩ :: rest ∧
    Nested level spans inside ∧ spans opening.subject opening.state next ∧
    ∀ inside' closing rest', later = inside' ++ closing :: rest' →
      Nested level spans inside' → closing.moment = .after →
      inside' = inside ∧ closing = ⟨level, .after, opening.subject, next⟩ ∧ rest' = rest

theorem Nested.exists_closing {earlier : List Record} {opening : Record}
    (h : Nested level spans records) (hsplit : records = earlier ++ opening :: later)
    (hopening : opening.moment = .before) :
    ∃ inside next rest, later = inside ++ ⟨level, .after, opening.subject, next⟩ :: rest ∧
      Nested level spans inside ∧ spans opening.subject opening.state next := by
  induction h generalizing earlier later with
  | nil => simp at hsplit
  | @pair label state next inside after hspans hinside _ ihinside ihafter =>
      cases earlier with
      | nil =>
          obtain ⟨rfl, rfl⟩ := List.cons.inj hsplit
          exact ⟨inside, next, after, rfl, hinside, hspans⟩
      | cons _ earlier =>
          obtain ⟨-, htail⟩ := List.cons.inj hsplit
          -- The record stands in the pair or after it; it is not the one that closes the pair.
          rcases List.append_eq_append_iff.mp htail with
            ⟨_ | ⟨_, beyond⟩, -, hrest⟩ | ⟨_ | ⟨_, within⟩, hinner, hrest⟩
          · obtain ⟨rfl, -⟩ := List.cons.inj hrest
            cases hopening
          · exact ihafter (List.cons.inj hrest).2
          · obtain ⟨rfl, -⟩ := List.cons.inj hrest
            cases hopening
          · obtain ⟨rfl, rfl⟩ := List.cons.inj hrest
            obtain ⟨inner, last, rest, rfl, hnested, hlast⟩ := ihinside hinner
            exact ⟨inner, last, _, List.append_assoc inner _ _, hnested, hlast⟩

theorem Nested.closedOnce {earlier : List Record} {opening : Record}
    (h : Nested level spans records) (hsplit : records = earlier ++ opening :: later)
    (hopening : opening.moment = .before) : ClosedOnce level spans opening later := by
  obtain ⟨inside, next, rest, hlater, hinside, hspans⟩ := h.exists_closing hsplit hopening
  refine ⟨inside, next, rest, hlater, hinside, hspans, ?_⟩
  intro inside' closing rest' hlater' hinside' hclosing
  exact hinside'.closing_unique hinside hclosing rfl (hlater'.symm.trans hlater)

theorem Cut.append (h : Nested level spans records) (hlater : Cut level spans opened later) :
    Cut level spans opened (records ++ later) := by
  cases hlater with
  | nested hlater => exact .nested (h.append hlater)
  | inside hearlier hopened hinner =>
      rw [← List.append_assoc]
      exact .inside (h.append hearlier) hopened hinner

/-- What holds of all states that applications begin with holds of those before an application. -/
theorem Nested.of_mem {good : State → Prop} (h : Nested level spans records)
    (hspans : ∀ label state next, spans label state next → good state) :
    ∀ record ∈ records, record.level = level ∧ (record.moment = .before → good record.state) := by
  induction h with
  | nil => simp
  | pair hpair _ _ hinside hlater =>
      rw [List.forall_mem_cons, List.forall_mem_append, List.forall_mem_cons]
      exact ⟨⟨rfl, fun _ => hspans _ _ _ hpair⟩, hinside, ⟨rfl, nofun⟩, hlater⟩

theorem Cut.of_mem {good : State → Prop} (h : Cut level spans opened records)
    (hspans : ∀ label state next, spans label state next → good state)
    (hopened : ∀ label state, opened label state → good state) :
    ∀ record ∈ records, record.level = level ∧ (record.moment = .before → good record.state) := by
  induction h with
  | nested h => exact h.of_mem hspans
  | inside hearlier hhere _ ih =>
      rw [List.forall_mem_append, List.forall_mem_cons]
      exact ⟨hearlier.of_mem hspans, ⟨rfl, fun _ => hopened _ _ hhere⟩, ih⟩

/-- A log that was cut is the beginning of a nested one. -/
theorem Cut.exists_nested (h : Cut level spans opened records) : ∃ whole, records <+: whole ∧
    Nested level (fun label state next => spans label state next ∨ opened label state) whole := by
  induction h with
  | nested h => exact ⟨_, List.prefix_rfl, h.mono fun _ _ _ => Or.inl⟩
  | @inside label state earlier inner hearlier hopened _ ih =>
      obtain ⟨whole, ⟨rest, rfl⟩, hwhole⟩ := ih
      refine ⟨earlier ++ ⟨level, .before, label, state⟩ ::
        ((inner ++ rest) ++ [⟨level, .after, label, state⟩]), ⟨rest ++ [_], by simp; rfl⟩, ?_⟩
      exact (hearlier.mono fun _ _ _ => Or.inl).append (.pair (Or.inr hopened) hwhole .nil)

namespace Parser

variable {ν : Type} [DecidableEq ν] {grammar : Grammar ν} {parser part : Parser ν}
  {start state middle : State}

/-- Somewhere in the application a traced parser of the label is applied to the state, which has not
failed, and its body returns the other. -/
def Spans (grammar : Grammar ν) (parser : Parser ν) (start : State) (label : Text)
    (state next : State) : Prop :=
  state.failed = false ∧ ∃ body, Applied grammar parser start (.trace label body) state ∧
    Returns grammar body state next

/-- Somewhere in the application a traced parser of the label is applied to the state, which has not
failed, and its body ends with the fault, if there is one. -/
def Breaks (grammar : Grammar ν) (parser : Parser ν) (start : State) (reason : Option Fault)
    (label : Text) (state : State) : Prop :=
  state.failed = false ∧ ∃ body, Applied grammar parser start (.trace label body) state ∧
    ∀ fault ∈ reason, Raises grammar body state fault

/-- The session has gained nested records. -/
def LogsNested (level : Level) (spans : Text → State → State → Prop)
    (session after : Session ν) : Prop :=
  ∃ records, Nested level spans records ∧ after.records = records.reverse ++ session.records

/-- The session has gained records that were nested when they were cut. -/
def LogsCut (level : Level) (spans : Text → State → State → Prop)
    (opened : Option Fault → Text → State → Prop) (reason : Option Fault)
    (session after : Session ν) : Prop :=
  ∃ records, Cut level spans (opened reason) records ∧
    after.records = records.reverse ++ session.records

omit [DecidableEq ν] in
theorem passage_logs (level : Level) (spans : Text → State → State → Prop)
    (opened : Option Fault → Text → State → Prop) :
    Passage (LogsNested (ν := ν) level spans) (LogsCut level spans opened) where
  silent h := ⟨[], .nil, h⟩
  trans := by
    rintro session middle after ⟨first, hfirst, hmiddle⟩ ⟨second, hsecond, hafter⟩
    refine ⟨first ++ second, hfirst.append hsecond, ?_⟩
    rw [hafter, hmiddle, List.reverse_append, List.append_assoc]
  halt := by
    rintro reason session middle after ⟨first, hfirst, hmiddle⟩ ⟨second, hsecond, hafter⟩
    refine ⟨first ++ second, .append hfirst hsecond, ?_⟩
    rw [hafter, hmiddle, List.reverse_append, List.append_assoc]
  starved session := ⟨[], .nested .nil, rfl⟩

/-- A run between two records: they are a pair if it returns; otherwise the second is missing. -/
theorem passes_pair {opened : Option Fault → Text → State → Prop} {run : Run ν State}
    {label : Text}
    (hrun : Run.Passes grammar (LogsNested level spans) (LogsCut level spans opened) run)
    (hspans : Run.Gives grammar run (spans label state))
    (hopened : Run.Blames grammar run fun fault => opened (some fault) label state)
    (hstarved : opened none label state) :
    Run.Passes grammar (LogsNested level spans) (LogsCut level spans opened) (do
      Run.log level .before label state
      let next ← run
      Run.log level .after label next
      pure next) := by
  intro session hsession
  let opening : Session ν :=
    { session with records := ⟨level, .before, label, state⟩ :: session.records }
  have hopening : opening.Coherent grammar := hsession
  have hinner := hrun opening hopening
  have hcut {reason : Option Fault} {after : Session ν} (hreason : opened reason label state)
      (h : LogsCut level spans opened reason opening after) :
      LogsCut level spans opened reason session after := by
    obtain ⟨records, hrecords, hafter⟩ := h
    exact ⟨_, .inside .nil hreason hrecords, by simp [hafter, opening]⟩
  simp only [Run.bind_apply, Run.log]
  rcases hends : run opening with ⟨next | fault | _, after⟩ <;>
    simp only [opening, hends] at hinner ⊢
  · obtain ⟨records, hrecords, hafter⟩ := hinner
    obtain ⟨hnext, -⟩ := hspans opening next after hopening hends
    exact ⟨_, .pair hnext hrecords .nil, by simp [hafter]⟩
  · exact hcut (hopened opening fault after hopening hends) hinner
  · exact hcut hstarved hinner

/-- Nothing in an application is applied to a failed state, unless the parser was. -/
theorem Applied.failed_eq (h : Applied grammar parser start part middle)
    (hstart : start.failed = false) : middle.failed = false :=
  h.forward (I := fun _ state => state.failed = false) (fun _ _ _ _ hcall => hcall.failed_eq) hstart

/-- Everything in an application is applied within one run, so traces have one level. -/
theorem Applied.traceLevel_eq
    (hown : Everywhere grammar (fun part => part.isHandWritten = false) parser)
    (h : Applied grammar parser start part middle) : traceLevel middle = traceLevel start := by
  obtain ⟨-, hdebug⟩ := h.forward (I := fun part state =>
    Everywhere grammar (fun part => part.isHandWritten = false) part ∧
      state.debug = start.debug) (fun outer state inner next hcall houter =>
    ⟨houter.1.of_part hcall.part, (hcall.frame houter.1).2.trans houter.2⟩) ⟨hown, rfl⟩
  rw [traceLevel, traceLevel, hdebug]

/-- The traces that an application writes are nested if it returns, and otherwise cut where its
fault went through. The induction is on the fuel, within the application of the whole. -/
theorem passes_applied (hown : Everywhere grammar (fun part => part.isHandWritten = false) parser)
    (hstart : start.failed = false) (fuel : Nat)
    (happlied : Applied grammar parser start part middle) :
    Run.Passes grammar (LogsNested (traceLevel start) (Spans grammar parser start))
      (LogsCut (traceLevel start) (Spans grammar parser start) (Breaks grammar parser start))
      (apply grammar fuel part middle) := by
  have passage := passage_logs (ν := ν) (traceLevel start) (Spans grammar parser start)
    (Breaks grammar parser start)
  induction fuel generalizing part middle with
  | zero => exact .outOfFuel passage
  | succ fuel ih =>
      refine passes_layer passage (fun _ _ session => ⟨[], .nested .nil, rfl⟩)
        (fun inner next hcall => ih (happlied.tail hcall)) ?_
      rintro label body rfl
      have hmiddle := happlied.failed_eq hstart
      have hspans : Run.Gives grammar (apply grammar fuel body middle)
          (Spans grammar parser start label middle) :=
        (gives_returns fuel body middle).mono fun next hnext =>
          ⟨hmiddle, body, happlied, hnext⟩
      have hbreaks : Run.Blames grammar (apply grammar fuel body middle) fun fault =>
          Breaks grammar parser start (some fault) label middle :=
        (blames_applied fuel body middle).mono fun fault hfault => by
          refine ⟨hmiddle, body, happlied, ?_⟩
          rintro _ ⟨⟩
          exact raises_iff_applied.mpr hfault
      rw [apply, happlied.traceLevel_eq hown]
      exact passes_pair (ih (happlied.tail (.trace label body middle))) hspans hbreaks
        ⟨hmiddle, body, happlied, by simp⟩

/-- Every application of a traced parser writes to the log. -/
theorem Applied.writes {label : Text} {body : Parser ν}
    (h : Applied grammar parser start (.trace label body) middle) :
    ∀ᶠ fuel in atTop, ∀ session, session.Coherent grammar →
      ⟨traceLevel middle, .before, label, middle⟩ ∈
        (apply grammar fuel parser start session).2.records := by
  refine h.backward (I := fun outer state => ∀ᶠ fuel in atTop, ∀ session,
    session.Coherent grammar → ⟨traceLevel middle, .before, label, middle⟩ ∈
      (apply grammar fuel outer state session).2.records)
    (fun _ _ _ _ hcall => hcall.writes) ?_
  refine eventually_of_succ (Eventually.of_forall fun fuel session _ => ?_)
  have hgrows : Run.Grows (apply grammar fuel body middle >>= fun next => do
      Run.log (traceLevel middle) .after label next
      pure next) :=
    (grows_apply fuel body middle).bind fun next => (grows_log _ _ _ _).bind fun _ => .pure next
  have hafter := hgrows.suffix
    { session with records := ⟨traceLevel middle, .before, label, middle⟩ :: session.records }
  exact hafter.mem List.mem_cons_self

/-- The record of its first or its last state that a run itself writes, in debug mode. -/
def runRecord (debug : Bool) (moment : Moment) (parser : Parser ν) (state : State) : List Record :=
  if debug then [⟨.info, moment, parser.name, state⟩] else []

omit [DecidableEq ν] in
theorem reverse_runRecord (debug : Bool) (moment : Moment) (parser : Parser ν) (state : State) :
    (runRecord debug moment parser state).reverse = runRecord debug moment parser state := by
  cases debug <;> rfl

/-- The session that the application of a run begins with. -/
def runSession (debug : Bool) (parser : Parser ν) (input : Text) (session : Session ν) :
    Session ν :=
  { session with
    records := runRecord debug .start parser (State.start input debug) ++ session.records }

section Runs

variable {session : Session ν}

/-- A run is an application between the records that the run itself writes. -/
theorem run_apply (fuel : Nat) (input : Text) (debug : Bool) :
    run grammar fuel parser input debug session =
      match apply grammar fuel parser (State.start input debug)
        (runSession debug parser input session) with
      | (.done final, after) => (.done final,
          { after with records := runRecord debug .finish parser final ++ after.records })
      | (.raised fault, after) => (.raised fault, after)
      | (.outOfFuel, after) => (.outOfFuel, after) := by
  cases debug
  · change (apply grammar fuel parser (State.start input false) >>= fun final => pure final)
      session = _
    simp only [Run.bind_apply, runSession, runRecord, Bool.false_eq_true, ↓reduceIte,
      List.nil_append]
    rcases apply grammar fuel parser (State.start input false) session with ⟨_ | _ | _, after⟩ <;>
      rfl
  · simp only [run, ↓reduceIte, Run.bind_apply, Run.log, runSession, runRecord,
      List.singleton_append]
    rcases apply grammar fuel parser (State.start input true) _ with ⟨_ | _ | _, after⟩ <;> rfl

/-- The traces of an application that returns: pairs of records inside one another, each around the
application of a body to a state that has not failed, and what the body returns for it. -/
structure NestedTraces (grammar : Grammar ν) (parser : Parser ν) (start : State) (level : Level)
    (traces : List Record) : Prop where
  nested : Nested level (Spans grammar parser start) traces
  sound : ∀ record ∈ traces,
    record.level = level ∧ (record.moment = .before → record.state.failed = false)
  closed : ∀ earlier opening later, traces = earlier ++ opening :: later →
    opening.moment = .before → ClosedOnce level (Spans grammar parser start) opening later

/-- The traces of an application that does not return: the beginning of nested ones, cut where the
fault went through the bodies that were applied last. -/
structure CutTraces (grammar : Grammar ν) (parser : Parser ν) (start : State) (level : Level)
    (reason : Option Fault) (traces : List Record) : Prop where
  cut : Cut level (Spans grammar parser start) (Breaks grammar parser start reason) traces
  sound : ∀ record ∈ traces,
    record.level = level ∧ (record.moment = .before → record.state.failed = false)
  begins : ∃ whole, traces <+: whole ∧ Nested level (fun label state next =>
    Spans grammar parser start label state next ∨ Breaks grammar parser start reason label state)
    whole

theorem NestedTraces.of_nested (h : Nested level (Spans grammar parser start) records) :
    NestedTraces grammar parser start level records where
  nested := h
  sound := h.of_mem fun _ _ _ h => h.1
  closed _ _ _ := h.closedOnce

theorem CutTraces.of_cut {reason : Option Fault}
    (h : Cut level (Spans grammar parser start) (Breaks grammar parser start reason) records) :
    CutTraces grammar parser start level reason records where
  cut := h
  sound := h.of_mem (fun _ _ _ h => h.1) fun _ _ h => h.1
  begins := h.exists_nested

/-- The traces of a run are nested if it returns, and cut if it ends with a fault, or has not ended
yet. No parser in it is applied to a failed state, and every application of a traced parser
writes. -/
theorem run_traces_nested
    (hown : Everywhere grammar (fun part => part.isHandWritten = false) parser)
    (hsession : session.Coherent grammar) (fuel : Nat) (input : Text) (debug : Bool) :
    (∀ part middle, Applied grammar parser (State.start input debug) part middle →
      middle.failed = false) ∧
    (∀ label body middle,
      Applied grammar parser (State.start input debug) (.trace label body) middle →
      ∀ᶠ fuel in atTop, ⟨if debug then .info else .debug, .before, label, middle⟩ ∈
        (run grammar fuel parser input debug session).2.records) ∧
    match run grammar fuel parser input debug session with
    | (.done final, after) => ∃ traces,
        NestedTraces grammar parser (State.start input debug)
          (if debug then .info else .debug) traces ∧
        after.records = (runRecord debug .start parser (State.start input debug) ++ traces ++
          runRecord debug .finish parser final).reverse ++ session.records
    | (.raised fault, after) => ∃ traces,
        CutTraces grammar parser (State.start input debug)
          (if debug then .info else .debug) (some fault) traces ∧
        after.records = (runRecord debug .start parser (State.start input debug) ++
          traces).reverse ++ session.records
    | (.outOfFuel, after) => ∃ traces,
        CutTraces grammar parser (State.start input debug)
          (if debug then .info else .debug) none traces ∧
        after.records = (runRecord debug .start parser (State.start input debug) ++
          traces).reverse ++ session.records := by
  have hstart : (State.start input debug).failed = false := rfl
  have hopening : (runSession debug parser input session).Coherent grammar := hsession
  refine ⟨fun part middle h => h.failed_eq hstart, fun label body middle h => ?_, ?_⟩
  · filter_upwards [h.writes] with fuel hwrites
    have hmem := hwrites _ hopening
    rw [h.traceLevel_eq hown] at hmem
    rw [run_apply]
    rcases hends : apply grammar fuel parser (State.start input debug) _ with
      ⟨final | fault | _, after⟩ <;> rw [hends] at hmem
    · exact List.mem_append_right _ hmem
    · exact hmem
    · exact hmem
  · have hpasses := passes_applied hown hstart fuel (.self parser (State.start input debug)) _
      hopening
    rw [run_apply]
    rcases hends : apply grammar fuel parser (State.start input debug) _ with
      ⟨final | fault | _, after⟩ <;> rw [hends] at hpasses <;>
      obtain ⟨traces, htraces, hafter⟩ := hpasses
    · exact ⟨traces, .of_nested htraces, by simp [hafter, runSession, reverse_runRecord]⟩
    · exact ⟨traces, .of_cut htraces, by simp [hafter, runSession, reverse_runRecord]⟩
    · exact ⟨traces, .of_cut htraces, by simp [hafter, runSession, reverse_runRecord]⟩

end Runs

/-- An `a` and a `b`, or else an `a`, with traces inside one another. -/
def tracedLetters : Grammar Unit := fun _ => .ok (choice
  [trace [120] (sequence [trace [97] (literal [97] true), literal [98] true]),
    trace [121] (literal [97] true)])

/-- Two traces around a parser whose function raises a fault after a third. -/
def tracedFault : Parser Unit :=
  trace [112] (trace [113] (map (ref ()) fun _ => .error (.user [])))

/-- On `a`, the traces of the alternative that is given up stay in the log. The fault leaves the
two traces that it goes through open. -/
theorem letters_traces_nested :
    (∃ traces, NestedTraces tracedLetters (ref ()) (State.start [97] true) .info traces ∧
      traces.map (fun record => (record.moment, record.subject)) =
        [(.before, [120]), (.before, [97]), (.after, [97]), (.after, [120]), (.before, [121]),
          (.after, [121])]) ∧
    ∃ traces, CutTraces tracedLetters tracedFault (State.start [97] false) .debug
        (some (.user [])) traces ∧
      traces.map (fun record => (record.moment, record.subject)) =
        [(.before, [112]), (.before, [113]), (.before, [120]), (.before, [97]), (.after, [97]),
          (.after, [120]), (.before, [121]), (.after, [121])] := by
  have hown {parser : Parser Unit}
      (h : parser.consistsOf (fun part => !part.isHandWritten) = true) :
      Everywhere tracedLetters (fun part => part.isHandWritten = false) parser :=
    .own_of_consistsOf (fun _ _ hbody => Except.ok.inj hbody ▸ rfl) h
  constructor
  · obtain ⟨final, after, hrun, hkeys⟩ : ∃ final after,
        run tracedLetters 9 (ref ()) [97] true .empty = (.done final, after) ∧
        after.records.reverse.tail.dropLast.map (fun record => (record.moment, record.subject)) =
          [(.before, [120]), (.before, [97]), (.after, [97]), (.after, [120]), (.before, [121]),
            (.after, [121])] := ⟨_, _, rfl, rfl⟩
    have hletters := hown (show consistsOf _ (ref ()) = true from rfl)
    have htraces := (run_traces_nested hletters Session.empty_coherent 9 [97] true).2.2
    rw [hrun] at htraces
    obtain ⟨traces, hnested, hafter⟩ := htraces
    rw [hafter] at hkeys
    exact ⟨traces, hnested, by simpa [runRecord, Session.empty] using hkeys⟩
  · obtain ⟨after, hrun, hkeys⟩ : ∃ after,
        run tracedLetters 9 tracedFault [97] false .empty = (.raised (.user []), after) ∧
        after.records.reverse.map (fun record => (record.moment, record.subject)) =
          [(.before, [112]), (.before, [113]), (.before, [120]), (.before, [97]), (.after, [97]),
            (.after, [120]), (.before, [121]), (.after, [121])] := ⟨_, rfl, rfl⟩
    have hfault := hown (show consistsOf _ tracedFault = true from rfl)
    have htraces := (run_traces_nested hfault Session.empty_coherent 9 [97] false).2.2
    rw [hrun] at htraces
    obtain ⟨traces, hcut, hafter⟩ := htraces
    rw [hafter] at hkeys
    exact ⟨traces, hcut, by simpa [runRecord, Session.empty] using hkeys⟩

end Parser

end ParserCombinators
