import ParserCombinators.Proofs.Agreement
import ParserCombinators.Proofs.Lockstep

/-!
Histories of runs. A parser keeps nothing but the definitions it has built, and runs that come
later find them. They do not find anything else: each run ends as it would with nothing built yet.

How often a definition is asked to build itself is seen in a history. One that builds is asked at
the first use and never again. One that raises a fault is not kept, so it is asked by every run
that reaches it, and once, since the fault ends the run. That it was this definition that ended a
run cannot be told from the fault alone; but it can be told from a run over a grammar where this
one definition raises another fault.
-/

namespace ParserCombinators.Parser

variable {ν : Type}

/-- What one run is given. -/
structure Target where
  input : Text
  debug : Bool

variable [DecidableEq ν]

/-- Runs a parser on one target after the other. Every run begins with the session that the one
before has left, however that ended. -/
def runAll (grammar : Grammar ν) (fuel : Nat) (parser : Parser ν) :
    List Target → Session ν → List (Outcome State) × Session ν
  | [], session => ([], session)
  | target :: targets, session =>
    let (ended, next) := run grammar fuel parser target.input target.debug session
    let (rest, last) := runAll grammar fuel parser targets next
    (ended :: rest, last)

/-- Somewhere in the run on the target the definition behind the name is asked for. -/
def Reaches (grammar : Grammar ν) (parser : Parser ν) (name : ν) (target : Target) : Prop :=
  ∃ middle,
    Applied grammar parser (State.start target.input target.debug) (.ref name) middle

/-- The grammar with a fault in the place of one definition. -/
def failingWith (grammar : Grammar ν) (name : ν) (fault : Fault) : Grammar ν :=
  Function.update grammar name (.error fault)

/-- The definition was asked for at most once, and if it was it is kept. -/
structure BuiltOnce (name : ν) (session : Session ν) : Prop where
  count : session.built.count name ≤ 1
  kept : session.definitions.lookup name = none → name ∉ session.built

/-- The definition is not kept, and was asked for as often as `count` says. -/
structure Tried (name : ν) (count : Nat) (session : Session ν) : Prop where
  lookup : session.definitions.lookup name = none
  built : session.built.count name = count

variable {grammar : Grammar ν} {name : ν} {fault : Fault}

section Sessions

/-- Keeping a definition leaves what is kept of the others. -/
theorem lookup_keep_of_ne {other : ν} (h : other ≠ name) (parser : Parser ν)
    (definitions : List (ν × Parser ν)) :
    ((other, parser) :: definitions).lookup name = definitions.lookup name := by
  have hbeq : (name == other) = false := by simp [Ne.symm h]
  rw [List.lookup_cons, hbeq]

/-- Which definitions of the grammar are kept makes no difference. -/
theorem lockstep_coherent : Lockstep grammar grammar
    (fun session session' => session.Coherent grammar ∧ session'.Coherent grammar)
    fun _ _ _ _ => False where
  record := fun _ _ _ h => h
  resolve := by
    rintro name session session' ⟨hsession, hsession'⟩
    cases hname : grammar name with
    | ok body =>
        obtain ⟨after, hrun, hafter⟩ := Run.Delivers.resolve hname session hsession
        obtain ⟨after', hrun', hafter'⟩ := Run.Delivers.resolve hname session' hsession'
        rw [hrun, hrun']
        exact .same ⟨hafter, hafter'⟩
    | error fault =>
        obtain ⟨after, hrun, hafter⟩ := Run.Aborts.resolve hname session hsession
        obtain ⟨after', hrun', hafter'⟩ := Run.Aborts.resolve hname session' hsession'
        rw [hrun, hrun']
        exact .same ⟨hafter, hafter'⟩

/-- A definition that builds is kept when it is first asked for. -/
theorem lockstep_builtOnce {body : Parser ν} (hname : grammar name = .ok body) :
    Lockstep grammar grammar (fun session session' => session = session' ∧ BuiltOnce name session)
      fun _ _ _ _ => False where
  record := by
    rintro session _ record ⟨rfl, hcount, hkept⟩
    exact ⟨rfl, hcount, hkept⟩
  resolve := by
    rintro other session _ ⟨rfl, hcount, hkept⟩
    unfold Run.resolve
    cases hlookup : session.definitions.lookup other with
    | some parser => exact .same ⟨rfl, hcount, hkept⟩
    | none =>
        by_cases hother : other = name
        · subst hother
          simp only [hname]
          have hnew : session.built.count other = 0 := List.count_eq_zero.mpr (hkept hlookup)
          exact .same ⟨rfl, by simp [hnew], by simp⟩
        · have hbuilt : (other :: session.built).count name = session.built.count name :=
            List.count_cons_of_ne hother
          have hmember : name ∈ other :: session.built ↔ name ∈ session.built := by
            simp [Ne.symm hother]
          cases grammar other with
          | ok parser =>
              refine .same ⟨rfl, hbuilt ▸ hcount, fun hnone => ?_⟩
              rw [lookup_keep_of_ne hother] at hnone
              exact fun h => hkept hnone (hmember.mp h)
          | error fault =>
              exact .same ⟨rfl, hbuilt ▸ hcount, fun hnone h => hkept hnone (hmember.mp h)⟩

/-- Where a definition raises one fault in one grammar and another in the other, the runs are the
same up to the first time it is asked for. -/
theorem lockstep_failingWith (hname : grammar name = .error fault) (other : Fault) (count : Nat) :
    Lockstep grammar (failingWith grammar name other)
      (fun session session' => session = session' ∧ Tried name count session)
      fun raised after raised' _ =>
        raised = fault ∧ raised' = other ∧ after.built.count name = count + 1 where
  record := by
    rintro session _ record ⟨rfl, hlookup, hbuilt⟩
    exact ⟨rfl, hlookup, hbuilt⟩
  resolve := by
    rintro asked session _ ⟨rfl, hlookup, hbuilt⟩
    by_cases hasked : asked = name
    · subst hasked
      unfold Run.resolve
      simp only [hlookup, hname, failingWith, Function.update_self]
      exact .parted ⟨rfl, rfl, by simp [hbuilt]⟩
    · have hsame : failingWith grammar name other asked = grammar asked :=
        Function.update_of_ne hasked _ _
      have hcount : (asked :: session.built).count name = count := by
        rw [List.count_cons_of_ne hasked, hbuilt]
      unfold Run.resolve
      rw [hsame]
      cases session.definitions.lookup asked with
      | some parser => exact .same ⟨rfl, hlookup, hbuilt⟩
      | none =>
          cases grammar asked with
          | ok parser =>
              exact .same ⟨rfl, (lookup_keep_of_ne hasked _ _).trans hlookup, hcount⟩
          | error fault => exact .same ⟨rfl, hlookup, hcount⟩

end Sessions

section OtherFaults

variable {parser part : Parser ν} {state middle next : State}

/-- A call needs of the grammar only what it returns and what it builds. -/
theorem Calls.transfer {grammar' : Grammar ν}
    (hreturns : ∀ part middle last, Returns grammar part middle last →
      Returns grammar' part middle last)
    (hbuilds : ∀ name body, grammar name = .ok body → grammar' name = .ok body)
    (h : Calls grammar parser state part middle) : Calls grammar' parser state part middle := by
  cases h with
  | sequence hstate hbefore => exact .sequence hstate (hbefore.mono hreturns)
  | choice hstate hbefore => exact .choice hstate (hbefore.mono hreturns)
  | many hstate hrounds => exact .many hstate (hrounds.mono_round (hreturns _))
  | many1 hstate hrounds => exact .many1 hstate (hrounds.mono_round (hreturns _))
  | separated_item hstate hturns =>
      exact .separated_item hstate (hturns.mono_turn (hreturns _) (hreturns _))
  | separated_separator hstate hturns hitem hnext =>
      exact .separated_separator hstate (hturns.mono_turn (hreturns _) (hreturns _))
        (hreturns _ _ _ hitem) hnext
  | separated1_item hstate hturns =>
      exact .separated1_item hstate (hturns.mono_turn (hreturns _) (hreturns _))
  | separated1_separator hstate hturns hitem hnext =>
      exact .separated1_separator hstate (hturns.mono_turn (hreturns _) (hreturns _))
        (hreturns _ _ _ hitem) hnext
  | optional hstate => exact .optional hstate
  | lazy => exact .lazy _ _
  | ref hname => exact .ref (hbuilds _ _ hname)
  | map => exact .map _ _ _
  | chain_source => exact .chain_source _ _ _
  | chain_next hsource hmiddle => exact .chain_next (hreturns _ _ _ hsource) hmiddle
  | mapError => exact .mapError _ _ _
  | routine hstate hdriven hstep => exact .routine hstate (hdriven.mono hreturns) hstep
  | trace => exact .trace _ _ _

theorem builds_failingWith (hname : grammar name = .error fault) (other : Fault) {asked : ν}
    {body : Parser ν} : failingWith grammar name other asked = .ok body ↔
      grammar asked = .ok body := by
  by_cases hasked : asked = name
  · subst hasked
    simp [failingWith, hname]
  · rw [failingWith, Function.update_of_ne hasked]

/-- A run that ends with a state has not asked for the definition. -/
theorem Returns.failingWith (hname : grammar name = .error fault) (other : Fault)
    (h : Returns grammar parser state next) :
    Returns (failingWith grammar name other) parser state next := by
  obtain ⟨fuel, after, hrun⟩ := (returns_iff_apply Session.empty_coherent).mp h
  have htried : Tried name 0 (.empty : Session ν) := ⟨rfl, rfl⟩
  have hends := (lockstep_failingWith hname other 0).apply fuel parser state .empty .empty
    ⟨rfl, htried⟩
  rw [hrun] at hends
  generalize hsecond : apply (Parser.failingWith grammar name other) fuel parser state .empty =
    second at hends
  cases hends with
  | same _ => exact (returns_iff_apply Session.empty_coherent).mpr ⟨fuel, _, hsecond⟩

theorem Applied.failingWith (hname : grammar name = .error fault) (other : Fault)
    (h : Applied grammar parser state part middle) :
    Applied (failingWith grammar name other) parser state part middle :=
  h.lift id fun _ _ hcall =>
    Calls.transfer (fun _ _ _ hreturns => hreturns.failingWith hname other)
      (fun _ _ hbody => (builds_failingWith hname other).mpr hbody) hcall

/-- Every application that raises a fault by itself still does, but for the one definition. -/
theorem Faults.failingWith {raised : Fault} (hname : grammar name = .error fault) (other : Fault)
    (h : Faults grammar part middle raised) (hpart : part ≠ .ref name) :
    Faults (failingWith grammar name other) part middle raised := by
  have hreturns (part : Parser ν) (middle last : State) (h : Returns grammar part middle last) :
      Returns (Parser.failingWith grammar name other) part middle last :=
    h.failingWith hname other
  cases h with
  | broken => exact .broken _ _
  | @ref asked _ _ hraised =>
      have hasked : asked ≠ name := fun hsame => hpart (hsame ▸ rfl)
      exact .ref ((Function.update_of_ne hasked _ _).trans hraised)
  | map hsource hnext hvalue => exact .map (hreturns _ _ _ hsource) hnext hvalue
  | raise hstate hdriven hstep => exact .raise hstate (hdriven.mono hreturns) hstep
  | offer hstate hdriven hstep => exact .offer hstate (hdriven.mono hreturns) hstep

/-- A definition that raises a fault is asked for just when the application ends with whatever
fault it raises. -/
theorem exists_applied_iff_raises {other : Fault} (hname : grammar name = .error fault)
    (hother : other ≠ fault) :
    (∃ middle, Applied grammar parser state (.ref name) middle) ↔
      Raises grammar parser state fault ∧
        Raises (failingWith grammar name other) parser state other := by
  constructor
  · rintro ⟨middle, happlied⟩
    have hfaults : Faults (failingWith grammar name other) (.ref name) middle other :=
      .ref (Function.update_self _ _ _)
    exact ⟨happlied.raises (Faults.ref hname).raises,
      (happlied.failingWith hname other).raises hfaults.raises⟩
  · rintro ⟨hraises, hraises'⟩
    obtain ⟨part, middle, happlied, hfaults⟩ := raises_iff_applied.mp hraises
    by_cases hpart : part = .ref name
    · exact ⟨middle, hpart ▸ happlied⟩
    · have hagain : Raises (failingWith grammar name other) parser state fault :=
        (happlied.failingWith hname other).raises
          (hfaults.failingWith hname other hpart).raises
      exact absurd (hraises'.unique hagain) hother

end OtherFaults

section Runs

variable {parser : Parser ν} {session : Session ν} {fuel : Nat} {target : Target}
  {targets : List Target}

/-- A run ends as it would with nothing built before it, and keeps only definitions of the
grammar. -/
theorem run_fresh (hsession : session.Coherent grammar) (fuel : Nat) (parser : Parser ν)
    (target : Target) :
    (run grammar fuel parser target.input target.debug session).1 =
        (run grammar fuel parser target.input target.debug .empty).1 ∧
      (run grammar fuel parser target.input target.debug session).2.Coherent grammar := by
  have hends := lockstep_coherent.run fuel parser target.input target.debug session .empty
    ⟨hsession, Session.empty_coherent⟩
  generalize run grammar fuel parser target.input target.debug session = first,
    run grammar fuel parser target.input target.debug .empty = second at hends
  cases hends with
  | same hafter => exact ⟨rfl, hafter.1⟩
  | parted hparted => exact hparted.elim

theorem run_builtOnce {body : Parser ν} (hname : grammar name = .ok body)
    (hsession : BuiltOnce name session) (fuel : Nat) (parser : Parser ν) (target : Target) :
    BuiltOnce name (run grammar fuel parser target.input target.debug session).2 := by
  have hends := (lockstep_builtOnce hname).run fuel parser target.input target.debug session session
    ⟨rfl, hsession⟩
  generalize run grammar fuel parser target.input target.debug session = first at hends
  cases hends with
  | same hafter => exact hafter.2
  | parted hparted => exact hparted.elim

theorem raises_of_run {after : Session ν} (hsession : session.Coherent grammar)
    (h : run grammar fuel parser target.input target.debug session = (.raised fault, after)) :
    Raises grammar parser (State.start target.input target.debug) fault := by
  obtain ⟨started, hstarted, hrun⟩ :=
    exists_run_eq_outcome grammar parser target.input target.debug hsession
  have hraised := (hrun fuel).symm.trans (congrArg Prod.fst h)
  exact (raises_iff_outcome hstarted).mpr ⟨fuel, hraised⟩

theorem exists_other_fault (fault : Fault) : ∃ other, other ≠ fault := by
  by_cases h : fault = .user []
  · exact ⟨.user [0], by simp [h]⟩
  · exact ⟨.user [], Ne.symm h⟩

open Classical in
/-- A run that ends asks for a definition that raises a fault once if it reaches it, and not at all
otherwise. -/
theorem run_tried (hname : grammar name = .error fault) (hsession : session.Coherent grammar)
    (hended : (run grammar fuel parser target.input target.debug session).1 ≠ .outOfFuel) :
    (run grammar fuel parser target.input target.debug session).2.built.count name =
      session.built.count name + if Reaches grammar parser name target then 1 else 0 := by
  obtain ⟨other, hother⟩ := exists_other_fault fault
  have hsession' : session.Coherent (failingWith grammar name other) := fun asked body h =>
    (builds_failingWith hname other).mpr (hsession asked body h)
  have hlookup : session.definitions.lookup name = none := by
    cases hkept : session.definitions.lookup name with
    | none => rfl
    | some body => simp [hsession name body hkept] at hname
  have hreaches : Reaches grammar parser name target ↔
      Raises grammar parser (State.start target.input target.debug) fault ∧
      Raises (failingWith grammar name other) parser
        (State.start target.input target.debug) other :=
    exists_applied_iff_raises hname hother
  -- The run over the other grammar ends alike, or both have asked for the definition and end with
  -- its two faults. In the first case reaching it would have made the ends differ.
  have hends := (lockstep_failingWith hname other (session.built.count name)).run fuel parser
    target.input target.debug session session ⟨rfl, hlookup, rfl⟩
  generalize hfirst : run grammar fuel parser target.input target.debug session = first,
    hsecond : run (failingWith grammar name other) fuel parser target.input target.debug session =
      second at hends hended
  cases hends with
  | @same outcome after _ hafter =>
      have hmisses : ¬ Reaches grammar parser name target := by
        intro hreached
        obtain ⟨hraises, hraises'⟩ := hreaches.mp hreached
        cases outcome with
        | done final => exact hraises.not_returns (returns_of_run hsession hfirst)
        | raised raised =>
            have hsame : fault = raised := hraises.unique (raises_of_run hsession hfirst)
            have hsame' : other = raised := hraises'.unique (raises_of_run hsession' hsecond)
            exact hother (hsame'.trans hsame.symm)
        | outOfFuel => exact hended rfl
      rw [if_neg hmisses, Nat.add_zero]
      exact hafter.2.built
  | parted hparted =>
      obtain ⟨rfl, rfl, hcount⟩ := hparted
      have hreached : Reaches grammar parser name target :=
        hreaches.mpr ⟨raises_of_run hsession hfirst, raises_of_run hsession' hsecond⟩
      rw [if_pos hreached]
      exact hcount

end Runs

section Histories

variable {parser : Parser ν} {session : Session ν} {fuel : Nat}

theorem runAll_cons (grammar : Grammar ν) (fuel : Nat) (parser : Parser ν) (target : Target)
    (targets : List Target) (session : Session ν) :
    runAll grammar fuel parser (target :: targets) session =
      ((run grammar fuel parser target.input target.debug session).1 ::
        (runAll grammar fuel parser targets
          (run grammar fuel parser target.input target.debug session).2).1,
      (runAll grammar fuel parser targets
        (run grammar fuel parser target.input target.debug session).2).2) := rfl

theorem runAll_fresh (hsession : session.Coherent grammar) (fuel : Nat) (parser : Parser ν)
    (targets : List Target) :
    (runAll grammar fuel parser targets session).1 = targets.map fun target =>
      (run grammar fuel parser target.input target.debug .empty).1 := by
  induction targets generalizing session with
  | nil => rfl
  | cons target targets ih =>
      obtain ⟨hended, hafter⟩ := run_fresh hsession fuel parser target
      rw [runAll_cons, List.map_cons, hended, ih hafter]

theorem runAll_builtOnce {body : Parser ν} (hname : grammar name = .ok body)
    (hsession : BuiltOnce name session) (fuel : Nat) (parser : Parser ν) (targets : List Target) :
    BuiltOnce name (runAll grammar fuel parser targets session).2 := by
  induction targets generalizing session with
  | nil => exact hsession
  | cons target targets ih => exact ih (run_builtOnce hname hsession fuel parser target)

open Classical in
theorem runAll_tried (hname : grammar name = .error fault) (hsession : session.Coherent grammar)
    {targets : List Target}
    (hended : ∀ ended ∈ (runAll grammar fuel parser targets session).1, ended ≠ .outOfFuel) :
    (runAll grammar fuel parser targets session).2.built.count name =
      session.built.count name +
        targets.countP fun target => Reaches grammar parser name target := by
  induction targets generalizing session with
  | nil => rfl
  | cons target targets ih =>
      rw [runAll_cons] at hended ⊢
      obtain ⟨hfirst, hrest⟩ := List.forall_mem_cons.mp hended
      have hcount := run_tried hname hsession hfirst
      have hcounts := ih (run_fresh hsession fuel parser target).2 hrest
      simp only [List.countP_cons, decide_eq_true_eq]
      omega

open Classical in
/-- Every run of a history ends as it would alone, with nothing built yet. Over the whole history a
definition that builds is asked for at most once, whichever runs reach it and from how deep; one
that raises a fault is asked for once by every run that reaches it. -/
theorem runs_leave_no_trace (grammar : Grammar ν) (fuel : Nat) (parser : Parser ν)
    (targets : List Target) :
    ((runAll grammar fuel parser targets .empty).1 = targets.map fun target =>
      (run grammar fuel parser target.input target.debug .empty).1) ∧
    (∀ name body, grammar name = .ok body →
      (runAll grammar fuel parser targets .empty).2.built.count name ≤ 1) ∧
    ∀ name fault, grammar name = .error fault →
      (∀ ended ∈ (runAll grammar fuel parser targets .empty).1, ended ≠ .outOfFuel) →
      (runAll grammar fuel parser targets .empty).2.built.count name =
        targets.countP fun target => Reaches grammar parser name target := by
  refine ⟨runAll_fresh Session.empty_coherent fuel parser targets, ?_, ?_⟩
  · intro name body hname
    have hempty : BuiltOnce name (.empty : Session ν) := ⟨Nat.zero_le 1, fun _ => List.not_mem_nil⟩
    exact (runAll_builtOnce hname hempty fuel parser targets).count
  · intro name fault hname hended
    have hcount := runAll_tried hname Session.empty_coherent hended
    simpa [Session.empty] using hcount

end Histories

/-- An `x` in parentheses of any depth; a `?` asks for a definition that cannot be built. -/
def brackets : Grammar Bool
  | true => .ok (choice [sequence [literal [40] true, ref true, literal [41] true],
      literal [120] true, sequence [literal [63] true, ref false]])
  | false => .error (.user [63])

/-- `((x))`, `(?)`, `]`, `?` and `x`. -/
def bracketTargets : List Target :=
  [⟨[40, 40, 120, 41, 41], false⟩, ⟨[40, 63, 41], false⟩, ⟨[93], true⟩, ⟨[63], false⟩,
    ⟨[120], false⟩]

open Classical in
/-- Runs that succeed, raise, fail, raise and succeed. The definition that builds is asked for once,
and the one that does not twice. -/
theorem brackets_leave_no_trace :
    (runAll brackets 20 (ref true) bracketTargets .empty).1 =
      (bracketTargets.map fun target =>
        (run brackets 20 (ref true) target.input target.debug .empty).1) ∧
    (runAll brackets 20 (ref true) bracketTargets .empty).2.built.count true ≤ 1 ∧
    (runAll brackets 20 (ref true) bracketTargets .empty).2.built = [false, false, true] ∧
    (bracketTargets.countP fun target => Reaches brackets (ref true) false target) = 2 := by
  obtain ⟨hruns, honce, htried⟩ := runs_leave_no_trace brackets 20 (ref true) bracketTargets
  obtain ⟨first, second, third, fourth, fifth, hends⟩ : ∃ first second third fourth fifth,
      (runAll brackets 20 (ref true) bracketTargets .empty).1 =
        [.done first, .raised second, .done third, .raised fourth, .done fifth] :=
    ⟨_, _, _, _, _, rfl⟩
  have hended : ∀ ended ∈ (runAll brackets 20 (ref true) bracketTargets .empty).1,
      ended ≠ .outOfFuel := by
    simp [hends]
  have hbuilt : (runAll brackets 20 (ref true) bracketTargets .empty).2.built =
      [false, false, true] := rfl
  have hcount := htried false (.user [63]) rfl hended
  rw [hbuilt] at hcount
  exact ⟨hruns, honce true _ rfl, hbuilt, hcount.symm⟩

end ParserCombinators.Parser
