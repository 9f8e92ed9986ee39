import ParserCombinators.Proofs.Correspondence
import ParserCombinators.Proofs.Moves

/-!
Diagnostics never influence parsing. Traces and functions that reword messages can be put around
parsers, or taken away from them, at any depth: in definitions, in parsers computed from results,
and in the steps of routines. A run ends in the same place with the same result or the same kind of
failure, or with the same fault, or does not end, whether it is in debug mode or not. Only the text
of the error and the log may differ.
-/

namespace ParserCombinators.Parser

variable {ν : Type}

/-- Parsers that differ at most in where they trace and where they reword messages. Names stand for
definitions that differ in the same way. -/
def Likeness.quiet : Likeness ν ν where
  names := Eq
  fits _ := True
  written := False
  silent := True

/-- Every parser without functions of states that the grammar wrote itself is so related to
itself. -/
theorem Likeness.quiet_covers (grammar : Grammar ν) :
    Likeness.quiet.Covers grammar fun part => (!part.isHandWritten) = true where
  pattern _ _ _ _ := trivial
  name _ _ := rfl
  transform _ _ h := by simp [isHandWritten] at h

/-- All fields of two states but the text of the error and the debug mode. -/
structure SameParse (state state' : State) : Prop where
  input : state.input = state'.input
  pos : state.pos = state'.pos
  result : state.result = state'.result
  failed : state.failed = state'.failed
  kind : state.kind = state'.kind

theorem coupling_sameParse : Coupling (Likeness.quiet (ν := ν))
    (fun state state' => state.failed = false ∧ SameParse state state') SameParse where
  succeeded _ _ henters := ⟨henters.1, henters.2.failed.symm.trans henters.1⟩
  rest state state' henters := by
    unfold State.rest
    rw [henters.2.input, henters.2.pos]
  still state state' next next' hbefore hafter := by rw [hbefore.2.pos, hafter.2.pos]
  matchAt state state' compiled henters _ := by rw [henters.2.input, henters.2.pos]
  moveTo state state' count value henters := by
    obtain ⟨-, hinput, hpos, -, hfailed, hkind⟩ := henters
    exact ⟨hinput, congrArg (· + count) hpos, rfl, hfailed, hkind⟩
  withResult state state' value henters := by
    obtain ⟨-, hinput, hpos, -, hfailed, hkind⟩ := henters
    exact ⟨hinput, hpos, rfl, hfailed, hkind⟩
  fail state state' kind message henters _ :=
    ⟨henters.2.input, henters.2.pos, henters.2.result, rfl, rfl⟩
  transform _ _ _ hwritten := hwritten.elim
  failed_eq _ _ hleaves := hleaves.failed
  resume _ _ hleaves hnext := ⟨⟨hnext, hleaves⟩, hleaves.result⟩
  reword _ _ _ hleaves _ := ⟨hleaves.1, hleaves.2, hleaves.3, hleaves.4, hleaves.5⟩
  reword_left _ _ _ _ hleaves := ⟨hleaves.1, hleaves.2, hleaves.3, hleaves.4, hleaves.5⟩
  reword_right _ _ _ _ hleaves := ⟨hleaves.1, hleaves.2, hleaves.3, hleaves.4, hleaves.5⟩

variable [DecidableEq ν]

/-- Runs of parsers that differ at most in their traces and in the wording of their messages, over
definitions that differ no more, agree on everything but the text of the error and the debug
mode. -/
theorem run_ignores_diagnostics {grammar plain : Grammar ν} {parser bare : Parser ν}
    (hdefinitions : AlikeDefinitions .quiet grammar plain) (halike : Alike .quiet parser bare)
    (input : Text) (debug debug' : Bool) {session session' : Session ν}
    (hsession : session.Coherent grammar) (hsession' : session'.Coherent plain) :
    Agree SameParse (fun fuel => (run grammar fuel parser input debug session).1)
      fun fuel => (run plain fuel bare input debug' session').1 := by
  obtain ⟨started, hstarted, hrun⟩ :=
    exists_run_eq_outcome grammar parser input debug hsession
  obtain ⟨started', hstarted', hrun'⟩ :=
    exists_run_eq_outcome plain bare input debug' hsession'
  have hstart : SameParse (State.start input debug) (State.start input debug') :=
    ⟨rfl, rfl, rfl, rfl, rfl⟩
  rw [funext hrun, funext hrun']
  exact coupling_sameParse.agree hdefinitions halike ⟨rfl, hstart⟩ hstarted hstarted'

/-- One or more letters `a`. -/
def letterList : Parser Unit := sequence [literal [97] true, optional (ref ())]

def quietLetters : Grammar Unit := fun _ => .ok letterList

/-- The same, traced and with a message of its own. -/
def noisyLetters : Grammar Unit := fun _ =>
  .ok (mapError (trace [120] letterList) fun _ _ => [33])

theorem noisyLetters_ignores_diagnostics : ∃ fuel fuel' final final',
    (run noisyLetters fuel (trace [121] (ref ())) [97, 97, 98] true .empty).1 = .done final ∧
    (run quietLetters fuel' (ref ()) [97, 97, 98] false .empty).1 = .done final' ∧
    final.pos = 2 ∧ SameParse final final' := by
  have hform : Everywhere quietLetters (fun part => (!part.isHandWritten) = true) letterList := by
    refine .of_consistsOf (fun _ body h => ?_) rfl
    obtain rfl := Except.ok.inj h
    rfl
  have hletters : Alike .quiet letterList letterList :=
    .of_everywhere (Likeness.quiet_covers quietLetters) letterList hform
  have hdefinitions : AlikeDefinitions .quiet noisyLetters quietLetters :=
    fun _ _ _ => .mapError_left _ trivial (.trace_left _ hletters)
  have hparser : Alike .quiet (trace [121] (ref ())) (ref ()) := .trace_left [121] (.ref rfl)
  have hagree := run_ignores_diagnostics hdefinitions hparser [97, 97, 98] true false
    Session.empty_coherent Session.empty_coherent
  obtain ⟨final, hfinal, hpos⟩ : ∃ final,
      (run noisyLetters 20 (trace [121] (ref ())) [97, 97, 98] true .empty).1 = .done final ∧
      final.pos = 2 := ⟨_, rfl, rfl⟩
  obtain ⟨fuel', final', hfinal', hsame⟩ := hagree.returned 20 final hfinal
  exact ⟨20, fuel', final, final', hfinal, hfinal', hpos, hsame⟩

end ParserCombinators.Parser
