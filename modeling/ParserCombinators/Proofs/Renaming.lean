import ParserCombinators.Proofs.Correspondence

/-!
Parsers over other names. A grammar can be carried over to a larger set of names, where more
definitions stand beside its own. Its parsers do there what they did before, state for state and
fault for fault, functions of states that the grammar wrote itself included.
-/

namespace ParserCombinators.Parser

variable {ν μ : Type}

mutual

/-- The parser with every name replaced, also in the parsers that it computes from results. -/
def rename (g : ν → μ) : Parser ν → Parser μ
  | literal text caseSensitive => literal text caseSensitive
  | pattern name compiled expected => pattern name compiled expected
  | endOfInput => endOfInput
  | sequence parts => sequence (renameAll g parts)
  | choice alternatives => choice (renameAll g alternatives)
  | many item => many (item.rename g)
  | many1 item => many1 (item.rename g)
  | separated separator item => separated (separator.rename g) (item.rename g)
  | separated1 separator item => separated1 (separator.rename g) (item.rename g)
  | optional item => optional (item.rename g)
  | lazy body => lazy (body.rename g)
  | ref name => ref (g name)
  | fail message => fail message
  | succeed value => succeed value
  | map source f => map (source.rename g) f
  | chain source next => chain (source.rename g) fun value => (next value).rename g
  | mapError source f => mapError (source.rename g) f
  | routine name steps => routine name fun received => renameStep g (steps received)
  | trace label body => trace label (body.rename g)
  | transform name f => transform name f
  | broken fault => broken fault

def renameAll (g : ν → μ) : List (Parser ν) → List (Parser μ)
  | [] => []
  | part :: parts => part.rename g :: renameAll g parts

def renameStep (g : ν → μ) : Step ν → Step μ
  | .finish value => .finish value
  | .raise fault => .raise fault
  | .run parser => .run (parser.rename g)
  | .offer value => .offer value

end

/-- Every name stands for what replaces it. -/
def Likeness.renaming (g : ν → μ) : Likeness ν μ where
  names name other := other = g name
  fits _ := True
  written := True
  silent := False

section Alike

variable (g : ν → μ)

theorem sameStep_renameStep (step : Step ν) : SameStep step (renameStep g step) := by
  cases step with
  | finish value => exact .finish value
  | raise fault => exact .raise fault
  | offer value => exact .offer value
  | run parser => exact .run parser (parser.rename g)

theorem length_renameAll (parts : List (Parser ν)) :
    parts.length = (renameAll g parts).length := by
  induction parts with
  | nil => rfl
  | cons part parts ih => simp only [renameAll, List.length_cons, ih]

mutual

theorem alike_rename : ∀ parser : Parser ν, Alike (.renaming g) parser (parser.rename g)
  | .literal text caseSensitive => .literal text caseSensitive
  | .pattern name _ expected => .pattern name expected trivial
  | .endOfInput => .endOfInput
  | .sequence parts => .sequence (length_renameAll g parts) (alike_renameAll parts)
  | .choice parts => .choice (length_renameAll g parts) (alike_renameAll parts)
  | .many item => .many (alike_rename item)
  | .many1 item => .many1 (alike_rename item)
  | .separated separator item => .separated (alike_rename separator) (alike_rename item)
  | .separated1 separator item => .separated1 (alike_rename separator) (alike_rename item)
  | .optional item => .optional (alike_rename item)
  | .lazy body => .lazy (alike_rename body)
  | .ref _ => .ref rfl
  | .fail message => .fail message
  | .succeed value => .succeed value
  | .map source f => .map f (alike_rename source)
  | .chain source f => .chain (alike_rename source) fun value => alike_rename (f value)
  | .mapError source f => .mapError f (alike_rename source)
  | .routine name steps => .routine name (fun received => sameStep_renameStep g (steps received))
      fun received => alike_renameStep (steps received)
  | .trace label body => .trace_left label (.trace_right label (alike_rename body))
  | .transform name f => .transform name f trivial
  | .broken fault => .broken fault

theorem alike_renameAll : ∀ (parts : List (Parser ν)) (i : Nat) (h : i < parts.length)
    (h' : i < (renameAll g parts).length),
    Alike (.renaming g) (parts.get ⟨i, h⟩) ((renameAll g parts).get ⟨i, h'⟩)
  | part :: _, 0, _, _ => alike_rename part
  | _ :: parts, i + 1, h, h' =>
      alike_renameAll parts i (Nat.lt_of_succ_lt_succ h) (Nat.lt_of_succ_lt_succ h')

theorem alike_renameStep : ∀ (step : Step ν) (parser : Parser ν) (other : Parser μ),
    step = .run parser → renameStep g step = .run other → Alike (.renaming g) parser other
  | .run body, _, _, hstep, hother => by
      rw [← Step.run.inj hstep, ← Step.run.inj hother]
      exact alike_rename body
  | .finish _, _, _, hstep, _ => by cases hstep
  | .raise _, _, _, hstep, _ => by cases hstep
  | .offer _, _, _, hstep, _ => by cases hstep

end

end Alike

/-- The runs go through the same states. -/
theorem coupling_eq {like : Likeness ν μ} (h : ¬ like.silent) :
    Coupling like (fun state state' => state.failed = false ∧ state = state') Eq where
  succeeded := by
    rintro state _ ⟨hstate, rfl⟩
    exact ⟨hstate, hstate⟩
  rest := by
    rintro state _ ⟨-, rfl⟩
    rfl
  still := by
    rintro state _ next _ ⟨-, rfl⟩ ⟨-, rfl⟩
    rfl
  matchAt := by
    rintro state _ compiled ⟨-, rfl⟩ _
    rfl
  moveTo := by
    rintro state _ count value ⟨-, rfl⟩
    rfl
  withResult := by
    rintro state _ value ⟨-, rfl⟩
    rfl
  fail := by
    rintro state _ kind message ⟨-, rfl⟩ _
    rfl
  transform := by
    rintro state _ f _ ⟨-, rfl⟩
    rfl
  failed_eq := by
    rintro next _ rfl
    rfl
  resume := by
    rintro next _ rfl hnext
    exact ⟨⟨hnext, rfl⟩, rfl⟩
  reword := by
    rintro next _ f rfl _
    rfl
  reword_left _ _ _ hsilent := absurd hsilent h
  reword_right _ _ _ hsilent := absurd hsilent h

/-- The other grammar has the definitions of the first under their new names. -/
def Renames (g : ν → μ) (grammar : Grammar ν) (other : Grammar μ) : Prop :=
  ∀ name, other (g name) = (grammar name).map (rename g)

theorem Renames.alikeDefinitions {g : ν → μ} {grammar : Grammar ν} {other : Grammar μ}
    (h : Renames g grammar other) : AlikeDefinitions (.renaming g) grammar other := by
  rintro name _ rfl
  rw [h name]
  cases grammar name with
  | ok body => exact alike_rename g body
  | error fault => rfl

variable [DecidableEq ν] [DecidableEq μ]

/-- A parser does what it did before to every state that has not failed. -/
theorem agree_rename {g : ν → μ} {grammar : Grammar ν} {other : Grammar μ}
    (h : Renames g grammar other) (parser : Parser ν) {state : State}
    (hstate : state.failed = false) {session : Session ν} {session' : Session μ}
    (hsession : session.Coherent grammar) (hsession' : session'.Coherent other) :
    Agree Eq (outcome grammar parser state session)
      (outcome other (parser.rename g) state session') :=
  (coupling_eq id).agree h.alikeDefinitions (alike_rename g parser) ⟨hstate, rfl⟩ hsession hsession'

end ParserCombinators.Parser
