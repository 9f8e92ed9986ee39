import ParserCombinators.Proofs.Moves

/-!
A failed state goes through a parser unchanged, up to its message. Most parsers test the state they
are given; the others pass it on to one part and rely on that part, and a part can be many names
away. No function of the grammar is called on the way, but for those that reword a message: where
all the others are replaced by functions that raise a fault, the same state is returned.
-/

namespace ParserCombinators.Parser

open Relation

variable {ν : Type} {grammar : Grammar ν}

/-- The second parser is the part that the first gives its state to, failed or not. -/
inductive PassesOn (grammar : Grammar ν) : Parser ν → Parser ν → Prop
  | lazy (body : Parser ν) : PassesOn grammar (.lazy body) body
  | ref {name : ν} {body : Parser ν} : grammar name = .ok body →
      PassesOn grammar (.ref name) body
  | map (source : Parser ν) (f : Value → Except Fault Value) :
      PassesOn grammar (.map source f) source
  | chain (source : Parser ν) (f : Value → Parser ν) : PassesOn grammar (.chain source f) source
  | mapError (source : Parser ν) (f : Option Text → Nat → Text) :
      PassesOn grammar (.mapError source f) source
  | trace (label : Text) (body : Parser ν) : PassesOn grammar (.trace label body) body

theorem PassesOn.part {parser part : Parser ν} (h : PassesOn grammar parser part) :
    Part grammar parser part := by
  cases h with
  | lazy => exact .lazy _
  | ref hname => exact .ref hname
  | map => exact .map _ _
  | chain => exact .chain_source _ _
  | mapError => exact .mapError _ _
  | trace => exact .trace _ _

/-- Everything that a failed state is passed on to is good. -/
def OnPath (grammar : Grammar ν) (good : Parser ν → Prop) (parser : Parser ν) : Prop :=
  ∀ part, ReflTransGen (PassesOn grammar) parser part → good part

theorem OnPath.self {good : Parser ν → Prop} {parser : Parser ν}
    (h : OnPath grammar good parser) : good parser := h parser .refl

theorem OnPath.of_passesOn {good : Parser ν → Prop} {parser part : Parser ν}
    (h : OnPath grammar good parser) (hpart : PassesOn grammar parser part) :
    OnPath grammar good part := fun other hother => h other (hother.head hpart)

theorem Everywhere.onPath {good : Parser ν → Prop} {parser : Parser ν}
    (h : Everywhere grammar good parser) : OnPath grammar good parser :=
  fun part hpart => h part (hpart.lift id fun _ _ => PassesOn.part)

def isMapError : Parser ν → Bool
  | mapError _ _ => true
  | _ => false

/-- What becomes of the failure of the part that a parser passes its state on to. -/
def reword : Parser ν → State → State
  | mapError _ f, state => { state with error := some (f state.error state.pos) }
  | _, state => state

theorem reword_of_not_mapError {parser : Parser ν} (h : parser.isMapError = false)
    (state : State) : parser.reword state = state := by
  cases parser <;> first | rfl | cases h

theorem reword_eq (parser : Parser ν) (state : State) :
    parser.reword state = { state with error := (parser.reword state).error } := by
  cases parser <;> rfl

section Layers

variable {R : Parser ν → State → State → Prop} {parser part : Parser ν}
  {state middle next : State}

/-- A parser that acts on a failed state returns what a part returns for it. -/
theorem Acts.of_failed (h : Acts grammar R parser state next) (hstate : state.failed = true) :
    parser.isHandWritten = true ∨ ∃ part middle, PassesOn grammar parser part ∧
      R part state middle ∧ (middle.failed = true → next = parser.reword middle) := by
  cases h with
  | transform => exact Or.inl rfl
  | lazy hbody => exact Or.inr ⟨_, _, .lazy _, hbody, fun _ => rfl⟩
  | ref hname hbody => exact Or.inr ⟨_, _, .ref hname, hbody, fun _ => rfl⟩
  | trace hbody => exact Or.inr ⟨_, _, .trace _ _, hbody, fun _ => rfl⟩
  | map hsource hnext _ =>
      refine Or.inr ⟨_, _, .map _ _, hsource, fun hfailed => ?_⟩
      simp [hnext] at hfailed
  | map_failed hsource _ => exact Or.inr ⟨_, _, .map _ _, hsource, fun _ => rfl⟩
  | chain hsource hmiddle _ =>
      refine Or.inr ⟨_, _, .chain _ _, hsource, fun hfailed => ?_⟩
      simp [hmiddle] at hfailed
  | chain_failed hsource _ => exact Or.inr ⟨_, _, .chain _ _, hsource, fun _ => rfl⟩
  | mapError hsource hnext =>
      refine Or.inr ⟨_, _, .mapError _ _, hsource, fun hfailed => ?_⟩
      simp [hnext] at hfailed
  | mapError_failed hsource _ => exact Or.inr ⟨_, _, .mapError _ _, hsource, fun _ => rfl⟩
  | _ => simp_all

/-- A failure of the part that a state is passed on to is returned. -/
theorem PassesOn.acts (h : PassesOn grammar parser part) (hpart : R part state middle)
    (hmiddle : middle.failed = true) : Acts grammar R parser state (parser.reword middle) := by
  cases h with
  | lazy => exact .lazy hpart
  | ref hname => exact .ref hname hpart
  | map => exact .map_failed hpart hmiddle
  | chain => exact .chain_failed hpart hmiddle
  | mapError => exact .mapError_failed hpart hmiddle
  | trace => exact .trace hpart

end Layers

section Traps

mutual

/-- The parser with functions that raise the fault in the places of those that the grammar maps
results with, chooses the next parser with, or drives a routine with. -/
def trapped (fault : Fault) : Parser ν → Parser ν
  | sequence parts => sequence (allTrapped fault parts)
  | choice alternatives => choice (allTrapped fault alternatives)
  | many item => many (item.trapped fault)
  | many1 item => many1 (item.trapped fault)
  | separated separator item => separated (separator.trapped fault) (item.trapped fault)
  | separated1 separator item => separated1 (separator.trapped fault) (item.trapped fault)
  | optional item => optional (item.trapped fault)
  | lazy body => lazy (body.trapped fault)
  | map source _ => map (source.trapped fault) fun _ => .error fault
  | chain source _ => chain (source.trapped fault) fun _ => broken fault
  | mapError source f => mapError (source.trapped fault) f
  | routine name _ => routine name fun _ => .raise fault
  | trace label body => trace label (body.trapped fault)
  | parser => parser

def allTrapped (fault : Fault) : List (Parser ν) → List (Parser ν)
  | [] => []
  | parser :: parsers => parser.trapped fault :: allTrapped fault parsers

end

/-- The grammar with traps in all definitions. -/
def trappedGrammar (fault : Fault) (grammar : Grammar ν) : Grammar ν :=
  fun name => (grammar name).map (trapped fault)

variable (fault : Fault)

theorem leavesFailure_trapped (parser : Parser ν) :
    (parser.trapped fault).leavesFailure = parser.leavesFailure := by
  cases parser <;> rfl

theorem reword_trapped (parser : Parser ν) : (parser.trapped fault).reword = parser.reword := by
  cases parser <;> rfl

theorem PassesOn.trapped {parser part : Parser ν} (h : PassesOn grammar parser part) :
    PassesOn (trappedGrammar fault grammar) (parser.trapped fault) (part.trapped fault) := by
  cases h with
  | lazy => exact .lazy _
  | ref hname => exact .ref (by rw [trappedGrammar, hname]; rfl)
  | map => exact .map _ _
  | chain => exact .chain _ _
  | mapError => exact .mapError _ _
  | trace => exact .trace _ _

end Traps

variable [DecidableEq ν]

/-- What is returned for a failed state. The induction is on the layers; only those that pass the
state on have a part to rely on. -/
theorem Returns.of_failed {parser : Parser ν} {state next : State}
    (hown : OnPath grammar (fun part => part.isHandWritten = false) parser)
    (h : Returns grammar parser state next) (hstate : state.failed = true) :
    next = { state with error := next.error } ∧
    (OnPath grammar (fun part => part.isMapError = false) parser → next = state) ∧
    ∀ fault, Returns (trappedGrammar fault grammar) (parser.trapped fault) state next := by
  refine Returns.induction (motive := fun parser state next =>
    OnPath grammar (fun part => part.isHandWritten = false) parser → state.failed = true →
      next = { state with error := next.error } ∧
      (OnPath grammar (fun part => part.isMapError = false) parser → next = state) ∧
      ∀ fault, Returns (trappedGrammar fault grammar) (parser.trapped fault) state next)
    ?_ h hown hstate
  clear hown h hstate parser state next
  intro parser state next hlayer hown hstate
  rcases hlayer with ⟨hleaves, -⟩ | hacts
  · refine ⟨rfl, fun _ => rfl, fun fault => ?_⟩
    exact .absorb (by rw [leavesFailure_trapped, hleaves]) hstate
  rcases hacts.of_failed hstate with hhand | ⟨part, middle, hpart, hlast, hnext⟩
  · simp [hown.self] at hhand
  · obtain ⟨hsame, hplain, htrapped⟩ := hlast.2 (hown.of_passesOn hpart) hstate
    have hmiddle : middle.failed = true := by rw [hsame, hstate]
    obtain rfl := hnext hmiddle
    refine ⟨?_, fun hquiet => ?_, fun fault => ?_⟩
    · rw [reword_eq, hsame]
    · rw [reword_of_not_mapError hquiet.self, hplain (hquiet.of_passesOn hpart)]
    · rw [← reword_trapped fault]
      exact ((hpart.trapped fault).acts (htrapped fault) hmiddle).returns

/-- A failed state is returned as it is but for its message, and exactly as it is if nothing on its
way rewords the message. No function is called for it that maps a result, chooses the next parser
or takes a step of a routine: the state is the same where each of them raises a fault. -/
theorem apply_failed_state {parser : Parser ν} {state next : State} {fuel : Nat}
    {session after : Session ν}
    (hown : Everywhere grammar (fun part => part.isHandWritten = false) parser)
    (hsession : session.Coherent grammar) (hstate : state.failed = true)
    (h : apply grammar fuel parser state session = (.done next, after)) :
    next = { state with error := next.error } ∧
    (OnPath grammar (fun part => part.isMapError = false) parser → next = state) ∧
    ∀ fault, ∃ fuel after, apply (trappedGrammar fault grammar) fuel (parser.trapped fault) state
      Session.empty = (.done next, after) := by
  have hreturns : Returns grammar parser state next :=
    (returns_iff_apply hsession).mpr ⟨fuel, after, h⟩
  obtain ⟨hsame, hplain, htrapped⟩ := hreturns.of_failed hown.onPath hstate
  exact ⟨hsame, hplain, fun fault =>
    (returns_iff_apply Session.empty_coherent).mp (htrapped fault)⟩

/-- An `a` or nothing, mapped by a function that raises a fault. -/
def raising : Grammar Unit := fun _ =>
  .ok (map (optional (literal [97] true)) fun _ => .error (.user []))

def raisingStart : State := ((State.start [98, 97] false).moveTo 1 .null).fail .noMatch []

theorem raising_failed_state : ∃ next after,
    apply raising 9 (lazy (ref ())) raisingStart Session.empty = (.done next, after) ∧
      next = raisingStart := by
  have hform : Everywhere raising
      (fun part => (!part.isHandWritten && !part.isMapError) = true) (lazy (ref ())) := by
    refine .of_consistsOf (fun _ body h => ?_) rfl
    obtain rfl := Except.ok.inj h
    rfl
  have hown : Everywhere raising (fun part => part.isHandWritten = false) (lazy (ref ())) :=
    hform.mono fun part h => by simp_all
  have hquiet : Everywhere raising (fun part => part.isMapError = false) (lazy (ref ())) :=
    hform.mono fun part h => by simp_all
  obtain ⟨next, after, hrun⟩ : ∃ next after, apply raising 9 (lazy (ref ())) raisingStart
      Session.empty = (.done next, after) := ⟨_, _, rfl⟩
  exact ⟨next, after, hrun,
    (apply_failed_state hown Session.empty_coherent rfl hrun).2.1 hquiet.onPath⟩

end ParserCombinators.Parser
