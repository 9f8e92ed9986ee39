import Mathlib.Data.List.Forall2
import ParserCombinators.Proofs.Raises

/-!
Parsers of the same make. They are built from the same forms over the same functions of values, and
may differ in the names of their definitions, in the labels of traces, and in where they trace. If
messages do not count they may differ in where they reword them, too. Parsers over different
grammars can be compared, so that a parser is alike to its translation under other names.
-/

namespace ParserCombinators.Parser

variable {ν μ : Type}

/-- What is compared: which names stand for one another, which patterns may occur, whether functions
of states that a grammar wrote itself may, and whether messages count for nothing. -/
structure Likeness (ν μ : Type) where
  names : ν → μ → Prop
  fits : Regex.Pattern → Prop
  written : Prop
  silent : Prop

def Likeness.flip (like : Likeness ν μ) : Likeness μ ν :=
  ⟨fun name other => like.names other name, like.fits, like.written, like.silent⟩

/-- Steps of one form. Which parsers they run is left open. -/
inductive SameStep : Step ν → Step μ → Prop
  | finish (value : Value) : SameStep (.finish value) (.finish value)
  | raise (fault : Fault) : SameStep (.raise fault) (.raise fault)
  | offer (value : Value) : SameStep (.offer value) (.offer value)
  | run (parser : Parser ν) (other : Parser μ) : SameStep (.run parser) (.run other)

/-- The parsers are of the same make. -/
inductive Alike (like : Likeness ν μ) : Parser ν → Parser μ → Prop
  | literal (text : Text) (caseSensitive : Bool) :
      Alike like (.literal text caseSensitive) (.literal text caseSensitive)
  | pattern {compiled : Regex.Pattern} (name expected : Text) : like.fits compiled →
      Alike like (.pattern name compiled expected) (.pattern name compiled expected)
  | endOfInput : Alike like .endOfInput .endOfInput
  | sequence {parts : List (Parser ν)} {others : List (Parser μ)} :
      parts.length = others.length →
      (∀ i (h : i < parts.length) (h' : i < others.length),
        Alike like (parts.get ⟨i, h⟩) (others.get ⟨i, h'⟩)) →
      Alike like (.sequence parts) (.sequence others)
  | choice {parts : List (Parser ν)} {others : List (Parser μ)} :
      parts.length = others.length →
      (∀ i (h : i < parts.length) (h' : i < others.length),
        Alike like (parts.get ⟨i, h⟩) (others.get ⟨i, h'⟩)) →
      Alike like (.choice parts) (.choice others)
  | many {item : Parser ν} {other : Parser μ} :
      Alike like item other → Alike like (.many item) (.many other)
  | many1 {item : Parser ν} {other : Parser μ} :
      Alike like item other → Alike like (.many1 item) (.many1 other)
  | separated {separator item : Parser ν} {separator' item' : Parser μ} :
      Alike like separator separator' → Alike like item item' →
      Alike like (.separated separator item) (.separated separator' item')
  | separated1 {separator item : Parser ν} {separator' item' : Parser μ} :
      Alike like separator separator' → Alike like item item' →
      Alike like (.separated1 separator item) (.separated1 separator' item')
  | optional {item : Parser ν} {other : Parser μ} :
      Alike like item other → Alike like (.optional item) (.optional other)
  | lazy {body : Parser ν} {other : Parser μ} :
      Alike like body other → Alike like (.lazy body) (.lazy other)
  | ref {name : ν} {other : μ} : like.names name other → Alike like (.ref name) (.ref other)
  | fail (message : Text) : Alike like (.fail message) (.fail message)
  | succeed (value : Value) : Alike like (.succeed value) (.succeed value)
  | map {source : Parser ν} {other : Parser μ} (f : Value → Except Fault Value) :
      Alike like source other → Alike like (.map source f) (.map other f)
  | chain {source : Parser ν} {other : Parser μ} {f : Value → Parser ν} {g : Value → Parser μ} :
      Alike like source other → (∀ value, Alike like (f value) (g value)) →
      Alike like (.chain source f) (.chain other g)
  | mapError {source : Parser ν} {other : Parser μ} (f : Option Text → Nat → Text) :
      Alike like source other → Alike like (.mapError source f) (.mapError other f)
  | routine {steps : List Value → Step ν} {others : List Value → Step μ} (name : Text) :
      (∀ received, SameStep (steps received) (others received)) →
      (∀ received parser other, steps received = .run parser → others received = .run other →
        Alike like parser other) →
      Alike like (.routine name steps) (.routine name others)
  | transform (name : Text) (f : State → State) : like.written →
      Alike like (.transform name f) (.transform name f)
  | broken (fault : Fault) : Alike like (.broken fault) (.broken fault)
  | trace_left {body : Parser ν} {other : Parser μ} (label : Text) :
      Alike like body other → Alike like (.trace label body) other
  | trace_right {parser : Parser ν} {body : Parser μ} (label : Text) :
      Alike like parser body → Alike like parser (.trace label body)
  | mapError_left {source : Parser ν} {other : Parser μ} (f : Option Text → Nat → Text) :
      like.silent → Alike like source other → Alike like (.mapError source f) other
  | mapError_right {parser : Parser ν} {source : Parser μ} (f : Option Text → Nat → Text) :
      like.silent → Alike like parser source → Alike like parser (.mapError source f)

/-- Names that stand for one another have definitions of the same make, or none for the same
reason. -/
def AlikeDefinitions (like : Likeness ν μ) (grammar : Grammar ν) (other : Grammar μ) : Prop :=
  ∀ name name', like.names name name' →
    match grammar name, other name' with
    | .ok body, .ok body' => Alike like body body'
    | .error fault, .error fault' => fault = fault'
    | _, _ => False

theorem SameStep.symm {step : Step ν} {other : Step μ} (h : SameStep step other) :
    SameStep other step := by
  cases h with
  | finish value => exact .finish value
  | raise fault => exact .raise fault
  | offer value => exact .offer value
  | run parser other => exact .run other parser

theorem SameStep.of_run {step : Step ν} {other : Step μ} {parser : Parser ν}
    (h : SameStep step other) (hstep : step = .run parser) : ∃ parser', other = .run parser' := by
  cases h with
  | run parser other => exact ⟨other, rfl⟩
  | _ => cases hstep

theorem SameStep.eq_of_finish {step : Step ν} {other : Step μ} {value : Value}
    (h : SameStep step other) (hstep : step = .finish value) : other = .finish value := by
  cases h with
  | finish value => cases hstep; rfl
  | _ => cases hstep

theorem SameStep.eq_of_raise {step : Step ν} {other : Step μ} {fault : Fault}
    (h : SameStep step other) (hstep : step = .raise fault) : other = .raise fault := by
  cases h with
  | raise fault => cases hstep; rfl
  | _ => cases hstep

theorem SameStep.eq_of_offer {step : Step ν} {other : Step μ} {value : Value}
    (h : SameStep step other) (hstep : step = .offer value) : other = .offer value := by
  cases h with
  | offer value => cases hstep; rfl
  | _ => cases hstep

theorem Alike.symm {like : Likeness ν μ} {parser : Parser ν} {other : Parser μ}
    (h : Alike like parser other) : Alike like.flip other parser := by
  induction h with
  | literal text caseSensitive => exact .literal text caseSensitive
  | pattern name expected hfits => exact .pattern name expected hfits
  | endOfInput => exact .endOfInput
  | sequence hlength _ ih => exact .sequence hlength.symm fun i h h' => ih i h' h
  | choice hlength _ ih => exact .choice hlength.symm fun i h h' => ih i h' h
  | many _ ih => exact .many ih
  | many1 _ ih => exact .many1 ih
  | separated _ _ hseparator hitem => exact .separated hseparator hitem
  | separated1 _ _ hseparator hitem => exact .separated1 hseparator hitem
  | optional _ ih => exact .optional ih
  | lazy _ ih => exact .lazy ih
  | ref hname => exact .ref hname
  | fail message => exact .fail message
  | succeed value => exact .succeed value
  | map f _ ih => exact .map f ih
  | chain _ _ hsource hnext => exact .chain hsource hnext
  | mapError f _ ih => exact .mapError f ih
  | routine name hsteps _ ih =>
      exact .routine name (fun received => (hsteps received).symm)
        fun received other parser h h' => ih received parser other h' h
  | transform name f hwritten => exact .transform name f hwritten
  | broken fault => exact .broken fault
  | trace_left label _ ih => exact .trace_right label ih
  | trace_right label _ ih => exact .trace_left label ih
  | mapError_left f hsilent _ ih => exact .mapError_right f hsilent ih
  | mapError_right f hsilent _ ih => exact .mapError_left f hsilent ih

theorem AlikeDefinitions.symm {like : Likeness ν μ} {grammar : Grammar ν} {other : Grammar μ}
    (h : AlikeDefinitions like grammar other) : AlikeDefinitions like.flip other grammar := by
  intro name' name hname
  have hdefinition := h name name' hname
  cases hbody : grammar name <;> cases hbody' : other name' <;>
    simp only [hbody, hbody'] at hdefinition ⊢
  · exact hdefinition.symm
  · exact hdefinition.symm

section Lookup

variable {like : Likeness ν μ} {grammar : Grammar ν} {other : Grammar μ} {name : ν} {name' : μ}

theorem AlikeDefinitions.of_ok (h : AlikeDefinitions like grammar other)
    (hname : like.names name name') {body : Parser ν} (hbody : grammar name = .ok body) :
    ∃ body', other name' = .ok body' ∧ Alike like body body' := by
  have hdefinition := h name name' hname
  cases hother : other name' with
  | ok body' =>
      simp only [hbody, hother] at hdefinition
      exact ⟨body', rfl, hdefinition⟩
  | error fault => simp only [hbody, hother] at hdefinition

theorem AlikeDefinitions.of_error (h : AlikeDefinitions like grammar other)
    (hname : like.names name name') {fault : Fault} (hbody : grammar name = .error fault) :
    other name' = .error fault := by
  have hdefinition := h name name' hname
  cases hother : other name' with
  | ok body' => simp only [hbody, hother] at hdefinition
  | error fault' =>
      simp only [hbody, hother] at hdefinition
      rw [hdefinition]

end Lookup

section Reflexivity

variable {grammar : Grammar ν} {good : Parser ν → Prop} {like : Likeness ν ν}

/-- A parser that is good everywhere is compared with itself: what it holds may occur, and its names
stand for themselves. -/
structure Likeness.Covers (like : Likeness ν ν) (grammar : Grammar ν) (good : Parser ν → Prop) :
    Prop where
  pattern : ∀ name compiled expected, good (.pattern name compiled expected) → like.fits compiled
  name : ∀ name, (∀ body, grammar name = .ok body → Everywhere grammar good body) →
    like.names name name
  transform : ∀ name f, good (.transform name f) → like.written

/-- Every name stands for itself, as long as its definition is good everywhere. Patterns and
functions of states occur if they are good. -/
def Likeness.within (grammar : Grammar ν) (good : Parser ν → Prop) : Likeness ν ν where
  names name other := name = other ∧ ∀ body, grammar name = .ok body → Everywhere grammar good body
  fits compiled := ∃ name expected, good (.pattern name compiled expected)
  written := ∃ name f, good (.transform name f)
  silent := False

theorem SameStep.refl (step : Step ν) : SameStep step step := by
  cases step with
  | finish value => exact .finish value
  | raise fault => exact .raise fault
  | offer value => exact .offer value
  | run parser => exact .run parser parser

mutual

/-- A parser that is good everywhere is of the same make as itself. -/
theorem Alike.of_everywhere (hlike : like.Covers grammar good) :
    ∀ parser : Parser ν, Everywhere grammar good parser → Alike like parser parser
  | .literal text caseSensitive, _ => .literal text caseSensitive
  | .pattern name _ expected, h => .pattern name expected (hlike.pattern _ _ _ h.self)
  | .endOfInput, _ => .endOfInput
  | .sequence parts, h => .sequence rfl fun _ hi _ =>
      Alike.of_members hlike parts (fun _ hmem => h.of_part (.sequence hmem)) _
        (List.get_mem parts ⟨_, hi⟩)
  | .choice parts, h => .choice rfl fun _ hi _ =>
      Alike.of_members hlike parts (fun _ hmem => h.of_part (.choice hmem)) _
        (List.get_mem parts ⟨_, hi⟩)
  | .many item, h => .many (Alike.of_everywhere hlike item (h.of_part (.many item)))
  | .many1 item, h => .many1 (Alike.of_everywhere hlike item (h.of_part (.many1 item)))
  | .separated separator item, h =>
      .separated
        (Alike.of_everywhere hlike separator (h.of_part (.separated_separator separator item)))
        (Alike.of_everywhere hlike item (h.of_part (.separated_item separator item)))
  | .separated1 separator item, h =>
      .separated1
        (Alike.of_everywhere hlike separator (h.of_part (.separated1_separator separator item)))
        (Alike.of_everywhere hlike item (h.of_part (.separated1_item separator item)))
  | .optional item, h => .optional (Alike.of_everywhere hlike item (h.of_part (.optional item)))
  | .lazy body, h => .lazy (Alike.of_everywhere hlike body (h.of_part (.lazy body)))
  | .ref _, h => .ref (hlike.name _ fun _ hbody => h.of_part (.ref hbody))
  | .fail message, _ => .fail message
  | .succeed value, _ => .succeed value
  | .map source f, h => .map f (Alike.of_everywhere hlike source (h.of_part (.map source f)))
  | .chain source f, h =>
      .chain (Alike.of_everywhere hlike source (h.of_part (.chain_source source f))) fun value =>
        Alike.of_everywhere hlike (f value) (h.of_part (.chain_next source f value))
  | .mapError source f, h =>
      .mapError f (Alike.of_everywhere hlike source (h.of_part (.mapError source f)))
  | .routine name steps, h => .routine name (fun received => .refl (steps received))
      fun received part other hstep hother => by
        obtain rfl := Step.run.inj (hstep.symm.trans hother)
        exact Alike.of_step hlike (steps received) (fun _ hrun => h.of_part (.routine hrun)) part
          hstep
  | .trace label body, h => .trace_left label
      (.trace_right label (Alike.of_everywhere hlike body (h.of_part (.trace label body))))
  | .transform name f, h => .transform name f (hlike.transform name f h.self)
  | .broken fault, _ => .broken fault

theorem Alike.of_members (hlike : like.Covers grammar good) : ∀ parts : List (Parser ν),
    (∀ part ∈ parts, Everywhere grammar good part) →
    ∀ part ∈ parts, Alike like part part
  | [], _ => fun _ hmem => absurd hmem List.not_mem_nil
  | first :: parts, h => fun part hmem => by
      rcases List.mem_cons.mp hmem with hfirst | hrest
      · rw [hfirst]
        exact Alike.of_everywhere hlike first (h first List.mem_cons_self)
      · exact Alike.of_members hlike parts
          (fun other hother => h other (List.mem_cons_of_mem _ hother)) part hrest

theorem Alike.of_step (hlike : like.Covers grammar good) : ∀ step : Step ν,
    (∀ part, step = .run part → Everywhere grammar good part) →
    ∀ part, step = .run part → Alike like part part
  | .finish _, _ => fun _ hstep => by cases hstep
  | .raise _, _ => fun _ hstep => by cases hstep
  | .offer _, _ => fun _ hstep => by cases hstep
  | .run parser, h => fun part hstep => by
      rw [← Step.run.inj hstep]
      exact Alike.of_everywhere hlike parser (h parser rfl)

end

theorem Likeness.within_covers : (Likeness.within grammar good).Covers grammar good where
  pattern name _ expected h := ⟨name, expected, h⟩
  name _ h := ⟨rfl, h⟩
  transform name f h := ⟨name, f, h⟩

theorem AlikeDefinitions.within : AlikeDefinitions (.within grammar good) grammar grammar := by
  rintro name other ⟨rfl, hdefinition⟩
  cases hbody : grammar name with
  | ok body =>
      simp only
      exact Alike.of_everywhere Likeness.within_covers body (hdefinition body hbody)
  | error fault => rfl

end Reflexivity

end ParserCombinators.Parser
