import Mathlib.Logic.Relation
import ParserCombinators.Proofs.Returns

/-!
The parts of a parser, and the states that an application hands to them. A part is a parser that
stands in another, is computed by it, or is the definition of its name. A call is an application of
a part that takes place; it is described by what was applied before it, so that it is there also
when the whole ends with a fault or does not end.

An invariant of all parsers of a kind is proved at one layer. The parts of a parser of the kind are
of the kind, and the layer knows each of them only through a call.
-/

namespace ParserCombinators.Parser

open Relation

variable {ν : Type} {grammar : Grammar ν}

/-- The second parser stands in the first, can be computed by it, or is what its name stands for. -/
inductive Part (grammar : Grammar ν) : Parser ν → Parser ν → Prop
  | sequence {parts : List (Parser ν)} {part : Parser ν} :
      part ∈ parts → Part grammar (.sequence parts) part
  | choice {alternatives : List (Parser ν)} {alternative : Parser ν} :
      alternative ∈ alternatives → Part grammar (.choice alternatives) alternative
  | many (item : Parser ν) : Part grammar (.many item) item
  | many1 (item : Parser ν) : Part grammar (.many1 item) item
  | separated_item (separator item : Parser ν) : Part grammar (.separated separator item) item
  | separated_separator (separator item : Parser ν) :
      Part grammar (.separated separator item) separator
  | separated1_item (separator item : Parser ν) : Part grammar (.separated1 separator item) item
  | separated1_separator (separator item : Parser ν) :
      Part grammar (.separated1 separator item) separator
  | optional (item : Parser ν) : Part grammar (.optional item) item
  | lazy (body : Parser ν) : Part grammar (.lazy body) body
  | ref {name : ν} {body : Parser ν} : grammar name = .ok body → Part grammar (.ref name) body
  | map (source : Parser ν) (f : Value → Except Fault Value) : Part grammar (.map source f) source
  | chain_source (source : Parser ν) (f : Value → Parser ν) : Part grammar (.chain source f) source
  | chain_next (source : Parser ν) (f : Value → Parser ν) (value : Value) :
      Part grammar (.chain source f) (f value)
  | mapError (source : Parser ν) (f : Option Text → Nat → Text) :
      Part grammar (.mapError source f) source
  | routine {name : Text} {steps : List Value → Step ν} {received : List Value}
      {parser : Parser ν} :
      steps received = .run parser → Part grammar (.routine name steps) parser
  | trace (label : Text) (body : Parser ν) : Part grammar (.trace label body) body

/-- The parser and all parts of it, of any depth, are good. -/
def Everywhere (grammar : Grammar ν) (good : Parser ν → Prop) (parser : Parser ν) : Prop :=
  ∀ part, ReflTransGen (Part grammar) parser part → good part

theorem Everywhere.self {good : Parser ν → Prop} {parser : Parser ν}
    (h : Everywhere grammar good parser) : good parser := h parser .refl

theorem Everywhere.of_part {good : Parser ν → Prop} {parser part : Parser ν}
    (h : Everywhere grammar good parser) (hpart : Part grammar parser part) :
    Everywhere grammar good part := fun other hother => h other (hother.head hpart)

theorem Everywhere.intro {good : Parser ν → Prop} {parser : Parser ν} (h : good parser)
    (hparts : ∀ part, Part grammar parser part → Everywhere grammar good part) :
    Everywhere grammar good parser := by
  intro part hpart
  rcases hpart.cases_head with rfl | ⟨first, hfirst, hrest⟩
  · exact h
  · exact hparts first hfirst part hrest

/-- Parsers that have only one another as parts are good everywhere if each of them is. Names may
lead from one back to another. -/
theorem Everywhere.of_closed {good : Parser ν → Prop} (family : Parser ν → Prop)
    (hclosed : ∀ parser part, family parser → Part grammar parser part → family part)
    (hgood : ∀ parser, family parser → good parser) {parser : Parser ν} (h : family parser) :
    Everywhere grammar good parser := by
  intro part hpart
  apply hgood
  induction hpart with
  | refl => exact h
  | tail _ hstep ih => exact hclosed _ _ ih hstep

theorem Everywhere.mono {good better : Parser ν → Prop} {parser : Parser ν}
    (h : Everywhere grammar better parser) (himp : ∀ part, better part → good part) :
    Everywhere grammar good parser := fun part hpart => himp part (h part hpart)

mutual

/-- Whether a parser is good and so is every part that can be read off its text, up to names.
Parsers that are computed from results cannot be read. -/
def consistsOf (good : Parser ν → Bool) : Parser ν → Bool
  | sequence parts => good (sequence parts) && allConsistOf good parts
  | choice alternatives => good (choice alternatives) && allConsistOf good alternatives
  | many item => good (many item) && item.consistsOf good
  | many1 item => good (many1 item) && item.consistsOf good
  | separated separator item =>
    good (separated separator item) && separator.consistsOf good && item.consistsOf good
  | separated1 separator item =>
    good (separated1 separator item) && separator.consistsOf good && item.consistsOf good
  | optional item => good (optional item) && item.consistsOf good
  | lazy body => good (lazy body) && body.consistsOf good
  | map source f => good (map source f) && source.consistsOf good
  | mapError source f => good (mapError source f) && source.consistsOf good
  | trace label body => good (trace label body) && body.consistsOf good
  | chain _ _ | routine _ _ => false
  | parser => good parser

def allConsistOf (good : Parser ν → Bool) : List (Parser ν) → Bool
  | [] => true
  | parser :: parsers => parser.consistsOf good && allConsistOf good parsers

end

theorem allConsistOf_eq_all (good : Parser ν → Bool) (parsers : List (Parser ν)) :
    allConsistOf good parsers = parsers.all (consistsOf good) := by
  induction parsers with
  | nil => rfl
  | cons parser parsers ih => rw [allConsistOf, ih, List.all_cons]

theorem consistsOf_self {good : Parser ν → Bool} {parser : Parser ν}
    (h : parser.consistsOf good = true) : good parser = true := by
  cases parser <;> simp_all [consistsOf]

/-- A good parser over good definitions is good everywhere. -/
theorem Everywhere.of_consistsOf {good : Parser ν → Bool} {parser : Parser ν}
    (hdefinitions : ∀ name body, grammar name = .ok body → body.consistsOf good = true)
    (h : parser.consistsOf good = true) :
    Everywhere grammar (fun part => good part = true) parser := by
  refine Everywhere.of_closed (fun part => part.consistsOf good = true) ?_
    (fun _ => consistsOf_self) h
  intro whole part hwhole hpart
  cases hpart with
  | ref hname => exact hdefinitions _ _ hname
  | _ => simp_all [consistsOf, allConsistOf_eq_all]

variable [DecidableEq ν]

/-- An application of the first parser to its state applies the second to the state beside it. -/
inductive Calls (grammar : Grammar ν) : Parser ν → State → Parser ν → State → Prop
  | sequence {before after : List (Parser ν)} {part : Parser ν} {values : List Value}
      {state middle : State} :
      state.failed = false → Through (Returns grammar) before state values middle →
      Calls grammar (.sequence (before ++ part :: after)) state part middle
  | choice {before after : List (Parser ν)} {alternative : Parser ν} {state : State} :
      state.failed = false → Refuses (Returns grammar) state before →
      Calls grammar (.choice (before ++ alternative :: after)) state alternative state
  | many {item : Parser ν} {values : List Value} {state middle : State} :
      state.failed = false → Rounds (Round (Returns grammar item)) state values middle →
      Calls grammar (.many item) state item middle
  | many1 {item : Parser ν} {values : List Value} {state middle : State} :
      state.failed = false → Rounds (Round (Returns grammar item)) state values middle →
      Calls grammar (.many1 item) state item middle
  | separated_item {separator item : Parser ν} {values : List Value} {state middle : State} :
      state.failed = false →
      Rounds (Turn (Returns grammar separator) (Returns grammar item)) state values middle →
      Calls grammar (.separated separator item) state item middle
  | separated_separator {separator item : Parser ν} {values : List Value}
      {state middle next : State} :
      state.failed = false →
      Rounds (Turn (Returns grammar separator) (Returns grammar item)) state values middle →
      Returns grammar item middle next → next.failed = false →
      Calls grammar (.separated separator item) state separator next
  | separated1_item {separator item : Parser ν} {values : List Value} {state middle : State} :
      state.failed = false →
      Rounds (Turn (Returns grammar separator) (Returns grammar item)) state values middle →
      Calls grammar (.separated1 separator item) state item middle
  | separated1_separator {separator item : Parser ν} {values : List Value}
      {state middle next : State} :
      state.failed = false →
      Rounds (Turn (Returns grammar separator) (Returns grammar item)) state values middle →
      Returns grammar item middle next → next.failed = false →
      Calls grammar (.separated1 separator item) state separator next
  | optional {item : Parser ν} {state : State} :
      state.failed = false → Calls grammar (.optional item) state item state
  | lazy (body : Parser ν) (state : State) : Calls grammar (.lazy body) state body state
  | ref {name : ν} {body : Parser ν} {state : State} :
      grammar name = .ok body → Calls grammar (.ref name) state body state
  | map (source : Parser ν) (f : Value → Except Fault Value) (state : State) :
      Calls grammar (.map source f) state source state
  | chain_source (source : Parser ν) (f : Value → Parser ν) (state : State) :
      Calls grammar (.chain source f) state source state
  | chain_next {source : Parser ν} {f : Value → Parser ν} {state middle : State} :
      Returns grammar source state middle → middle.failed = false →
      Calls grammar (.chain source f) state (f middle.result) middle
  | mapError (source : Parser ν) (f : Option Text → Nat → Text) (state : State) :
      Calls grammar (.mapError source f) state source state
  | routine {name : Text} {steps : List Value → Step ν} {received : List Value}
      {parser : Parser ν} {state middle : State} :
      state.failed = false → Driven (Returns grammar) steps [] state received middle →
      steps received = .run parser → Calls grammar (.routine name steps) state parser middle
  | trace (label : Text) (body : Parser ν) (state : State) :
      Calls grammar (.trace label body) state body state

/-- Somewhere in the application of the first parser to its state, the second is applied to the
state beside it. -/
def Applied (grammar : Grammar ν) (parser : Parser ν) (state : State) (part : Parser ν)
    (middle : State) : Prop :=
  ReflTransGen (fun outer inner : Parser ν × State => Calls grammar outer.1 outer.2 inner.1 inner.2)
    (parser, state) (part, middle)

theorem Applied.self (parser : Parser ν) (state : State) :
    Applied grammar parser state parser state := ReflTransGen.refl

theorem Applied.of_call {parser part inner : Parser ν} {state middle last : State}
    (hcall : Calls grammar parser state part middle) (h : Applied grammar part middle inner last) :
    Applied grammar parser state inner last := ReflTransGen.head hcall h

theorem Calls.applied {parser part : Parser ν} {state middle : State}
    (h : Calls grammar parser state part middle) : Applied grammar parser state part middle :=
  .of_call h (.self part middle)

theorem Calls.part {parser part : Parser ν} {state middle : State}
    (h : Calls grammar parser state part middle) : Part grammar parser part := by
  cases h with
  | sequence _ _ => exact .sequence (List.mem_append_right _ List.mem_cons_self)
  | choice _ _ => exact .choice (List.mem_append_right _ List.mem_cons_self)
  | many _ _ => exact .many part
  | many1 _ _ => exact .many1 part
  | separated_item _ _ => exact .separated_item _ part
  | separated_separator _ _ _ _ => exact .separated_separator part _
  | separated1_item _ _ => exact .separated1_item _ part
  | separated1_separator _ _ _ _ => exact .separated1_separator part _
  | optional _ => exact .optional part
  | lazy => exact .lazy part
  | ref hname => exact .ref hname
  | map => exact .map part _
  | chain_source => exact .chain_source part _
  | chain_next _ _ => exact .chain_next _ _ _
  | mapError => exact .mapError part _
  | routine _ _ hstep => exact .routine hstep
  | trace => exact .trace _ part

/-- What each call hands on holds wherever a part is applied. -/
theorem Applied.forward {I : Parser ν → State → Prop} {parser part : Parser ν}
    {state middle : State} (h : Applied grammar parser state part middle)
    (hcall : ∀ outer start inner next, Calls grammar outer start inner next →
      I outer start → I inner next) (hstart : I parser state) : I part middle := by
  have hlast (target : Parser ν × State) (htarget : ReflTransGen
      (fun outer inner => Calls grammar outer.1 outer.2 inner.1 inner.2) (parser, state) target) :
      I target.1 target.2 := by
    induction htarget with
    | refl => exact hstart
    | tail _ hlast ih => exact hcall _ _ _ _ hlast ih
  exact hlast _ h

/-- What an application takes over from each of its calls, it takes over from what they call. -/
theorem Applied.backward {I : Parser ν → State → Prop} {parser part : Parser ν}
    {state middle : State} (h : Applied grammar parser state part middle)
    (hcall : ∀ outer start inner next, Calls grammar outer start inner next →
      I inner next → I outer start) (hpart : I part middle) : I parser state := by
  have hfirst (source : Parser ν × State) (hsource : ReflTransGen
      (fun outer inner => Calls grammar outer.1 outer.2 inner.1 inner.2) source (part, middle)) :
      I source.1 source.2 := by
    induction hsource using ReflTransGen.head_induction_on with
    | refl => exact hpart
    | head hfirst _ ih => exact hcall _ _ _ _ hfirst ih
  exact hfirst _ h

/-- What every part keeps when it succeeds holds wherever a part is applied. -/
theorem Calls.preserves {I : State → Prop} {parser part : Parser ν} {state middle : State}
    (h : Calls grammar parser state part middle)
    (hkeeps : ∀ inner start next, Part grammar parser inner → Returns grammar inner start next →
      next.failed = false → I start → I next) (hstate : I state) : I middle := by
  have hround {item : Parser ν} (hitem : Part grammar parser item) (start : State) (value : Value)
      (next : State) (hround : Round (Returns grammar item) start value next) :
      I start → I next := hkeeps item start next hitem hround.1 hround.2.1
  have hturn {separator item : Parser ν} (hitem : Part grammar parser item)
      (hseparator : Part grammar parser separator) (start : State) (value : Value) (next : State)
      (hturn : Turn (Returns grammar separator) (Returns grammar item) start value next)
      (hstart : I start) : I next := by
    obtain ⟨between, hbetween, hmiddle, -, hnext, hsuccess, -⟩ := hturn
    have hseparated := hkeeps item start between hitem hbetween hmiddle hstart
    exact hkeeps separator between next hseparator hnext hsuccess hseparated
  cases h with
  | @sequence before after _ _ _ _ _ hbefore =>
      have hparts := hbefore.refine (S := fun inner start next =>
        Returns grammar inner start next ∧
          Part grammar (.sequence (before ++ part :: after)) inner) (by
        rintro first inner last _ start next rfl - hreturns
        exact ⟨hreturns, .sequence (by simp)⟩)
      exact hparts.preserves (fun inner start next hinner =>
        hkeeps inner start next hinner.2 hinner.1) hstate
  | @routine name steps _ _ _ _ _ hdriven _ =>
      have hparts := hdriven.refine (S := fun inner start next =>
        Returns grammar inner start next ∧ Part grammar (.routine name steps) inner)
        fun _ _ _ _ _ hstep hreturns => ⟨hreturns, .routine hstep⟩
      exact hparts.preserves (fun inner start next hinner =>
        hkeeps inner start next hinner.2 hinner.1) hstate
  | choice _ _ => exact hstate
  | many _ hrounds => exact hrounds.preserves (hround (.many part)) hstate
  | many1 _ hrounds => exact hrounds.preserves (hround (.many1 part)) hstate
  | separated_item _ hturns =>
      exact hturns.preserves (hturn (.separated_item _ part) (.separated_separator _ part)) hstate
  | separated_separator _ hturns hitem hnext =>
      have hmiddle :=
        hturns.preserves (hturn (.separated_item part _) (.separated_separator part _)) hstate
      exact hkeeps _ _ middle (.separated_item part _) hitem hnext hmiddle
  | separated1_item _ hturns =>
      exact hturns.preserves (hturn (.separated1_item _ part) (.separated1_separator _ part)) hstate
  | separated1_separator _ hturns hitem hnext =>
      have hmiddle :=
        hturns.preserves (hturn (.separated1_item part _) (.separated1_separator part _)) hstate
      exact hkeeps _ _ middle (.separated1_item part _) hitem hnext hmiddle
  | optional _ => exact hstate
  | lazy => exact hstate
  | ref _ => exact hstate
  | map => exact hstate
  | chain_source => exact hstate
  | @chain_next source f _ _ hsource hmiddle =>
      exact hkeeps source state middle (.chain_source source f) hsource hmiddle hstate
  | mapError => exact hstate
  | trace => exact hstate

/-- No part of a parser is applied to a failed state, unless the parser was. -/
theorem Calls.failed_eq {parser part : Parser ν} {state middle : State}
    (h : Calls grammar parser state part middle) (hstate : state.failed = false) :
    middle.failed = false :=
  h.preserves (I := fun state => state.failed = false) (fun _ _ _ _ _ hnext _ => hnext) hstate

section Refinement

variable {R S : Parser ν → State → State → Prop} {parser item separator : Parser ν}
  {state next last : State} {values : List Value}

/-- What a repetition collects it collects over any relation that its calls respect. -/
theorem Collects.refine_calls (h : Collects (R item) state values last)
    (hreturns : ∀ middle next, R item middle next → Returns grammar item middle next)
    (hitem : ∀ found middle, Rounds (Round (Returns grammar item)) state found middle →
      ∀ next, R item middle next → S item middle next) :
    Collects (S item) state values last :=
  h.refine fun found middle next hrounds =>
    hitem found middle (hrounds.mono_round hreturns) next

theorem CollectsSeparated.refine_calls
    (h : CollectsSeparated (R separator) (R item) state values last)
    (hreturns : ∀ part middle next, R part middle next → Returns grammar part middle next)
    (hitem : ∀ found middle,
      Rounds (Turn (Returns grammar separator) (Returns grammar item)) state found middle →
      ∀ next, R item middle next → S item middle next)
    (hseparator : ∀ found middle next,
      Rounds (Turn (Returns grammar separator) (Returns grammar item)) state found middle →
      Returns grammar item middle next → next.failed = false →
      ∀ between, R separator next between → S separator next between) :
    CollectsSeparated (S separator) (S item) state values last := by
  refine h.refine ?_ ?_
  · intro found middle next hturns
    exact hitem found middle (hturns.mono_turn (hreturns _) (hreturns _)) next
  · intro found middle next between hturns hnext hsuccess
    exact hseparator found middle next (hturns.mono_turn (hreturns _) (hreturns _))
      (hreturns _ _ _ hnext) hsuccess between

/-- A parser uses what its parts return only for the calls it makes. -/
theorem Acts.refine (h : Acts grammar R parser state next)
    (hreturns : ∀ part middle last, R part middle last → Returns grammar part middle last)
    (hcalls : ∀ part middle last, Calls grammar parser state part middle →
      R part middle last → S part middle last) : Acts grammar S parser state next := by
  cases h with
  | literal hstate => exact .literal hstate
  | pattern hstate => exact .pattern hstate
  | endOfInput hstate => exact .endOfInput hstate
  | fail hstate => exact .fail hstate
  | succeed hstate => exact .succeed hstate
  | transform => exact .transform
  | sequence hstate hthrough =>
      refine .sequence hstate (hthrough.refine ?_)
      rintro before part after found middle last rfl hbefore
      exact hcalls part middle last (.sequence hstate (hbefore.mono hreturns))
  | sequence_stop hstate hthrough hpart hfailed =>
      refine .sequence_stop hstate (hthrough.refine ?_)
        (hcalls _ _ _ (.sequence hstate (hthrough.mono hreturns)) hpart) hfailed
      rintro before part after found middle last rfl hbefore
      rw [List.append_assoc] at hcalls
      exact hcalls part middle last (.sequence hstate (hbefore.mono hreturns))
  | @choice before after alternative _ _ hstate hbefore halternative hnext =>
      have hcall (first last : List (Parser ν)) (part : Parser ν) (other : State)
          (hparts : before ++ alternative :: after = first ++ part :: last)
          (hfirst : Refuses R state first) (h : R part state other) : S part state other := by
        rw [hparts] at hcalls
        exact hcalls part state other (.choice hstate (hfirst.mono hreturns)) h
      refine .choice hstate (hbefore.refine ?_) (hcall _ _ _ _ rfl hbefore halternative) hnext
      intro first part last other hparts
      apply hcall first (last ++ alternative :: after) part other
      rw [hparts, List.append_assoc, List.cons_append]
  | choice_none hstate hnone =>
      refine .choice_none hstate (hnone.refine ?_)
      rintro first part last other rfl hfirst
      exact hcalls part state other (.choice hstate (hfirst.mono hreturns))
  | many hstate hcollects =>
      exact .many hstate (hcollects.refine_calls (hreturns _) fun _ _ hrounds _ =>
        hcalls _ _ _ (.many hstate hrounds))
  | many1 hstate hcollects hsome =>
      exact .many1 hstate (hcollects.refine_calls (hreturns _) fun _ _ hrounds _ =>
        hcalls _ _ _ (.many1 hstate hrounds)) hsome
  | many1_none hstate hcollects =>
      exact .many1_none hstate (hcollects.refine_calls (hreturns _) fun _ _ hrounds _ =>
        hcalls _ _ _ (.many1 hstate hrounds))
  | separated hstate hcollects =>
      exact .separated hstate (hcollects.refine_calls hreturns
        (fun _ _ hturns _ => hcalls _ _ _ (.separated_item hstate hturns))
        fun _ _ _ hturns hitem hsuccess _ =>
          hcalls _ _ _ (.separated_separator hstate hturns hitem hsuccess))
  | separated1 hstate hcollects hsome =>
      exact .separated1 hstate (hcollects.refine_calls hreturns
        (fun _ _ hturns _ => hcalls _ _ _ (.separated1_item hstate hturns))
        fun _ _ _ hturns hitem hsuccess _ =>
          hcalls _ _ _ (.separated1_separator hstate hturns hitem hsuccess)) hsome
  | separated1_none hstate hcollects =>
      exact .separated1_none hstate (hcollects.refine_calls hreturns
        (fun _ _ hturns _ => hcalls _ _ _ (.separated1_item hstate hturns))
        fun _ _ _ hturns hitem hsuccess _ =>
          hcalls _ _ _ (.separated1_separator hstate hturns hitem hsuccess))
  | optional hstate hitem hnext =>
      exact .optional hstate (hcalls _ _ _ (.optional hstate) hitem) hnext
  | optional_none hstate hitem hnext =>
      exact .optional_none hstate (hcalls _ _ _ (.optional hstate) hitem) hnext
  | lazy hbody => exact .lazy (hcalls _ _ _ (.lazy _ _) hbody)
  | ref hname hbody => exact .ref hname (hcalls _ _ _ (.ref hname) hbody)
  | map hsource hnext hvalue => exact .map (hcalls _ _ _ (.map _ _ _) hsource) hnext hvalue
  | map_failed hsource hnext => exact .map_failed (hcalls _ _ _ (.map _ _ _) hsource) hnext
  | chain hsource hmiddle hnext =>
      exact .chain (hcalls _ _ _ (.chain_source _ _ _) hsource) hmiddle
        (hcalls _ _ _ (.chain_next (hreturns _ _ _ hsource) hmiddle) hnext)
  | chain_failed hsource hnext =>
      exact .chain_failed (hcalls _ _ _ (.chain_source _ _ _) hsource) hnext
  | mapError hsource hnext => exact .mapError (hcalls _ _ _ (.mapError _ _ _) hsource) hnext
  | mapError_failed hsource hnext =>
      exact .mapError_failed (hcalls _ _ _ (.mapError _ _ _) hsource) hnext
  | routine hstate hdriven hend =>
      refine .routine hstate (hdriven.refine ?_) hend
      intro found parser middle last hbefore hstep
      exact hcalls parser middle last (.routine hstate (hbefore.mono hreturns) hstep)
  | routine_stop hstate hdriven hend hparser hfailed =>
      refine .routine_stop hstate (hdriven.refine ?_) hend
        (hcalls _ _ _ (.routine hstate (hdriven.mono hreturns) hend) hparser) hfailed
      intro found parser middle last hbefore hstep
      exact hcalls parser middle last (.routine hstate (hbefore.mono hreturns) hstep)
  | trace hbody => exact .trace (hcalls _ _ _ (.trace _ _ _) hbody)

theorem Layer.refine (h : Layer grammar R parser state next)
    (hreturns : ∀ part middle last, R part middle last → Returns grammar part middle last)
    (hcalls : ∀ part middle last, Calls grammar parser state part middle →
      R part middle last → S part middle last) : Layer grammar S parser state next := by
  cases h with
  | absorb hguard hfailed => exact .absorb hguard hfailed
  | acts hacts => exact .acts (hacts.refine hreturns hcalls)

end Refinement

theorem returns_iff_layer {parser : Parser ν} {state next : State} :
    Returns grammar parser state next ↔ Layer grammar (Returns grammar) parser state next := by
  constructor
  · apply Returns.induction
    intro parser state next hlayer
    exact hlayer.refine (fun _ _ _ h => h.1) fun _ _ _ _ h => h.1
  · exact Layer.returns

/-- What a parser does to a state that has not failed. -/
theorem Returns.acts {parser : Parser ν} {state next : State}
    (h : Returns grammar parser state next) (hstate : state.failed = false) :
    Acts grammar (Returns grammar) parser state next := (returns_iff_layer.mp h).of_succeeded hstate

/-- What a parser does that hands every state to a part. -/
theorem Returns.acts_passing {parser : Parser ν} {state next : State}
    (h : Returns grammar parser state next) (hleaves : parser.leavesFailure = false) :
    Acts grammar (Returns grammar) parser state next := (returns_iff_layer.mp h).of_passing hleaves

theorem Returns.many_collects {item : Parser ν} {state last : State}
    (h : Returns grammar (.many item) state last)
    (hstate : state.failed = false) :
    ∃ values middle, Collects (Returns grammar item) state values middle ∧
      last = middle.withResult (.list values) := by
  cases h.acts hstate with
  | many _ hcollects => exact ⟨_, _, hcollects, rfl⟩

theorem Returns.separated_collects {separator item : Parser ν} {state last : State}
    (h : Returns grammar (.separated separator item) state last) (hstate : state.failed = false) :
    ∃ values middle,
      CollectsSeparated (Returns grammar separator) (Returns grammar item) state values middle ∧
      last = middle.withResult (.list values) := by
  cases h.acts hstate with
  | separated _ hcollects => exact ⟨_, _, hcollects, rfl⟩

/-- A repetition that needs an item returns what it collects, or the state it was given, failed, if
that is nothing. -/
theorem returns_many1_iff_collects {item : Parser ν} {state next : State}
    (hstate : state.failed = false) :
    Returns grammar (.many1 item) state next ↔
      ∃ values last, Collects (Returns grammar item) state values last ∧
        next = if values = [] then state.fail .exhausted (Wording.noItem state)
          else last.withResult (.list values) := by
  constructor
  · intro h
    cases h.acts hstate with
    | many1 _ hcollects hsome => exact ⟨_, _, hcollects, by rw [if_neg hsome]⟩
    | many1_none _ hcollects => exact ⟨[], _, hcollects, by rw [if_pos rfl]⟩
  · rintro ⟨values, last, hcollects, rfl⟩
    split
    next hnone => exact .many1_none hstate (hnone ▸ hcollects)
    next hsome => exact .many1 hstate hcollects hsome

theorem returns_separated1_iff_collects {separator item : Parser ν} {state next : State}
    (hstate : state.failed = false) :
    Returns grammar (.separated1 separator item) state next ↔
      ∃ values last,
        CollectsSeparated (Returns grammar separator) (Returns grammar item) state values last ∧
        next = if values = [] then state.fail .exhausted (Wording.noSeparatedItem state)
          else last.withResult (.list values) := by
  constructor
  · intro h
    cases h.acts hstate with
    | separated1 _ hcollects hsome => exact ⟨_, _, hcollects, by rw [if_neg hsome]⟩
    | separated1_none _ hcollects => exact ⟨[], _, hcollects, by rw [if_pos rfl]⟩
  · rintro ⟨values, last, hcollects, rfl⟩
    split
    next hnone => exact .separated1_none hstate (hnone ▸ hcollects)
    next hsome => exact .separated1 hstate hcollects hsome

/-- What one layer of a parser establishes, when its calls have established it, holds of all states
that a parser returns. Only parsers whose parts are all good have to be looked at. -/
theorem Returns.induction_within {good : Parser ν → Prop}
    {motive : Parser ν → State → State → Prop} {parser : Parser ν} {state next : State}
    (closed : ∀ parser state next, Everywhere grammar good parser →
      Layer grammar (fun part middle last => Calls grammar parser state part middle ∧
        Returns grammar part middle last ∧ motive part middle last) parser state next →
      motive parser state next)
    (hgood : Everywhere grammar good parser) (h : Returns grammar parser state next) :
    motive parser state next := by
  refine Returns.induction (motive := fun parser state next =>
    Everywhere grammar good parser → motive parser state next) ?_ h hgood
  intro parser state next hlayer hgood
  apply closed parser state next hgood
  apply hlayer.refine (fun _ _ _ h => h.1)
  rintro part middle last hcall ⟨hreturns, hmotive⟩
  exact ⟨hcall, hreturns, hmotive (hgood.of_part hcall.part)⟩

end ParserCombinators.Parser
