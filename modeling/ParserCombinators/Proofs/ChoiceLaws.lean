import ParserCombinators.Proofs.Backtracking
import ParserCombinators.Proofs.ChainLaws

/-!
Laws of choices. A choice is its first alternative or else the choice of the others, so choices may
be nested or written out as one list. A parser in front of every alternative may be taken out of
the choice: it is then run once, where the choice would run it again for each alternative.

A success and a fault of a choice are met in one way, at the first alternative that does not fail,
so what is said of that alternative is left open. The parsers are any, those included that a
grammar wrote as functions of states.
-/

namespace ParserCombinators.Parser

variable {ν : Type} [DecidableEq ν] {grammar : Grammar ν}

section Lists

variable {α β : Type} {refused holds : α → Prop} {item : α} {items others : List α}

/-- Something holds of one of the items, and those before it are refused. -/
def FirstOf (refused holds : α → Prop) : List α → Prop
  | [] => False
  | item :: items => holds item ∨ (refused item ∧ FirstOf refused holds items)

theorem firstOf_cons_iff : FirstOf refused holds (item :: items) ↔
    holds item ∨ (refused item ∧ FirstOf refused holds items) := Iff.rfl

theorem firstOf_iff_exists : FirstOf refused holds items ↔
    ∃ before item after, items = before ++ item :: after ∧ (∀ other ∈ before, refused other) ∧
      holds item := by
  induction items with
  | nil => simp [FirstOf]
  | cons first items ih =>
      rw [firstOf_cons_iff, ih]
      constructor
      · rintro (hfirst | ⟨hfirst, before, item, after, rfl, hbefore, hitem⟩)
        · exact ⟨[], first, items, rfl, by simp, hfirst⟩
        · exact ⟨first :: before, item, after, rfl, List.forall_mem_cons.mpr ⟨hfirst, hbefore⟩,
            hitem⟩
      · rintro ⟨_ | ⟨other, before⟩, item, after, hitems, hbefore, hitem⟩
        · cases hitems
          exact Or.inl hitem
        · cases hitems
          rw [List.forall_mem_cons] at hbefore
          exact Or.inr ⟨hbefore.1, before, item, after, rfl, hbefore.2, hitem⟩

theorem firstOf_append_iff : FirstOf refused holds (items ++ others) ↔
    FirstOf refused holds items ∨
      ((∀ item ∈ items, refused item) ∧ FirstOf refused holds others) := by
  induction items with
  | nil => simp [FirstOf]
  | cons item items ih =>
      rw [List.cons_append, firstOf_cons_iff, ih, firstOf_cons_iff, List.forall_mem_cons]
      tauto

theorem firstOf_map_iff {f : β → α} {items : List β} :
    FirstOf refused holds (items.map f) ↔
      FirstOf (fun item => refused (f item)) (fun item => holds (f item)) items := by
  induction items with
  | nil => exact Iff.rfl
  | cons item items ih => rw [List.map_cons, firstOf_cons_iff, firstOf_cons_iff, ih]

theorem firstOf_exists_iff {holds : β → α → Prop} :
    FirstOf refused (fun item => ∃ value, holds value item) items ↔
      ∃ value, FirstOf refused (holds value) items := by
  induction items with
  | nil => simp [FirstOf]
  | cons item items ih => simp only [firstOf_cons_iff, ih, exists_or, exists_and_left]

theorem firstOf_and_iff {known : Prop} :
    FirstOf refused (fun item => holds item ∧ known) items ↔
      FirstOf refused holds items ∧ known := by
  induction items with
  | nil => simp [FirstOf]
  | cons item items ih => simp only [firstOf_cons_iff, ih, or_and_right, and_assoc]

end Lists

/-- The parser fails on the state. -/
def Refused (grammar : Grammar ν) (parser : Parser ν) (state : State) : Prop :=
  ∃ tried, Returns grammar parser state tried ∧ tried.failed = true

theorem not_refused_of_success {parser : Parser ν} {state next : State}
    (h : Returns grammar parser state next) (hsuccess : next.failed = false) :
    ¬ Refused grammar parser state := by
  rintro ⟨tried, htried, hfailed⟩
  obtain rfl := h.unique htried
  cases hsuccess.symm.trans hfailed

section Choice

variable {alternatives : List (Parser ν)} {state next : State} {fault : Fault}

theorem refuses_iff :
    Refuses (Returns grammar) state alternatives ↔
      ∀ alternative ∈ alternatives, Refused grammar alternative state := by
  induction alternatives with
  | nil => exact ⟨fun _ _ h => absurd h List.not_mem_nil, fun _ => .nil⟩
  | cons alternative alternatives ih =>
      rw [List.forall_mem_cons, ← ih]
      constructor
      · rintro (_ | ⟨htried, hfailed, hrest⟩)
        exact ⟨⟨_, htried, hfailed⟩, hrest⟩
      · rintro ⟨⟨tried, htried, hfailed⟩, hrest⟩
        exact .cons htried hfailed hrest

theorem returns_choice_iff_firstOf (hstate : state.failed = false) :
    Returns grammar (.choice alternatives) state next ↔
      FirstOf (Refused grammar · state)
        (fun alternative => Returns grammar alternative state next ∧ next.failed = false)
        alternatives ∨
      ((∀ alternative ∈ alternatives, Refused grammar alternative state) ∧
        next = state.fail .noMatch (Wording.noAlternative state)) := by
  rw [returns_choice_iff hstate, firstOf_iff_exists]
  simp only [refuses_iff]

theorem refused_choice_iff (hstate : state.failed = false) :
    Refused grammar (.choice alternatives) state ↔
      ∀ alternative ∈ alternatives, Refused grammar alternative state := by
  constructor
  · rintro ⟨tried, htried, hfailed⟩
    rcases (returns_choice_iff_firstOf hstate).mp htried with hfirst | ⟨hnone, -⟩
    · obtain ⟨-, -, -, -, -, -, hsuccess⟩ := firstOf_iff_exists.mp hfirst
      cases hsuccess.symm.trans hfailed
    · exact hnone
  · exact fun hnone => ⟨_, (returns_choice_iff_firstOf hstate).mpr (Or.inr ⟨hnone, rfl⟩), rfl⟩

theorem succeeds_choice_iff (hstate : state.failed = false) :
    (Returns grammar (.choice alternatives) state next ∧ next.failed = false) ↔
      FirstOf (Refused grammar · state)
        (fun alternative => Returns grammar alternative state next ∧ next.failed = false)
        alternatives := by
  rw [returns_choice_iff_firstOf hstate]
  constructor
  · rintro ⟨hfirst | ⟨-, rfl⟩, hsuccess⟩
    · exact hfirst
    · cases hsuccess
  · intro hfirst
    obtain ⟨-, -, -, -, -, -, hsuccess⟩ := firstOf_iff_exists.mp hfirst
    exact ⟨Or.inl hfirst, hsuccess⟩

theorem raises_choice_iff (hstate : state.failed = false) :
    Raises grammar (.choice alternatives) state fault ↔
      FirstOf (Refused grammar · state) (Raises grammar · state fault) alternatives := by
  rw [firstOf_iff_exists]
  constructor
  · intro h
    rcases raises_iff_call.mp h with hself | ⟨part, middle, hcall, hraises⟩
    · cases hself
    · cases hcall with
      | choice _ hbefore => exact ⟨_, _, _, rfl, refuses_iff.mp hbefore, hraises⟩
  · rintro ⟨before, alternative, after, rfl, hbefore, hraises⟩
    exact (Calls.choice hstate (refuses_iff.mpr hbefore)).raises hraises

/-- A choice hands on the failure it is given. -/
theorem returns_choice_of_failed (hstate : state.failed = true) :
    Returns grammar (.choice alternatives) state next ↔ next = state := by
  constructor
  · intro h
    cases returns_iff_layer.mp h with
    | absorb _ _ => rfl
    | acts hacts =>
        cases hacts with
        | choice hsuccess _ _ _ => simp [hstate] at hsuccess
        | choice_none hsuccess _ => simp [hstate] at hsuccess
  · rintro rfl
    exact Returns.absorb rfl hstate

theorem not_raises_choice_of_failed (hstate : state.failed = true) :
    ¬ Raises grammar (.choice alternatives) state fault := fun h =>
  h.not_returns ((returns_choice_of_failed hstate).mpr rfl)

end Choice

section Nesting

variable {before inner after : List (Parser ν)} {state next : State} {fault : Fault}

/-- What is found in a choice by going through its alternatives is found in them. -/
theorem firstOf_nested_iff (hstate : state.failed = false) {holds : Parser ν → Prop}
    (hinner : holds (.choice inner) ↔ FirstOf (Refused grammar · state) holds inner) :
    FirstOf (Refused grammar · state) holds (before ++ .choice inner :: after) ↔
      FirstOf (Refused grammar · state) holds (before ++ inner ++ after) := by
  rw [List.append_assoc]
  simp only [firstOf_append_iff, firstOf_cons_iff, hinner, refused_choice_iff hstate]

theorem returns_nested_choice_iff :
    Returns grammar (.choice (before ++ .choice inner :: after)) state next ↔
      Returns grammar (.choice (before ++ inner ++ after)) state next := by
  cases hstate : state.failed with
  | true => rw [returns_choice_of_failed hstate, returns_choice_of_failed hstate]
  | false =>
      rw [returns_choice_iff_firstOf hstate, returns_choice_iff_firstOf hstate,
        firstOf_nested_iff hstate (succeeds_choice_iff hstate)]
      simp only [List.forall_mem_append, List.forall_mem_cons, refused_choice_iff hstate, and_assoc]

theorem raises_nested_choice_iff :
    Raises grammar (.choice (before ++ .choice inner :: after)) state fault ↔
      Raises grammar (.choice (before ++ inner ++ after)) state fault := by
  cases hstate : state.failed with
  | true => simp only [not_raises_choice_of_failed hstate]
  | false =>
      rw [raises_choice_iff hstate, raises_choice_iff hstate,
        firstOf_nested_iff hstate (raises_choice_iff hstate)]

end Nesting

section Sequences

variable {P : Parser ν → State → Prop} {part : Parser ν} {parts : List (Parser ν)}
  {state next : State} {fault : Fault}

/-- The parts go through up to one that does not, as is known of it and the state it is given. -/
def StopsAt (grammar : Grammar ν) (P : Parser ν → State → Prop) (parts : List (Parser ν))
    (state : State) : Prop :=
  ∃ before part after values middle, parts = before ++ part :: after ∧
    Through (Returns grammar) before state values middle ∧ P part middle

theorem not_stopsAt_nil : ¬ StopsAt grammar P [] state := by
  rintro ⟨before, part, after, values, middle, hparts, -⟩
  simp at hparts

theorem stopsAt_cons_iff : StopsAt grammar P (part :: parts) state ↔ P part state ∨
    ∃ first, Returns grammar part state first ∧ first.failed = false ∧
      StopsAt grammar P parts first := by
  constructor
  · rintro ⟨before, stop, after, values, middle, hparts, hthrough, hstop⟩
    cases hthrough with
    | nil =>
        cases hparts
        exact Or.inl hstop
    | cons hfirst hsuccess hrest =>
        cases hparts
        exact Or.inr ⟨_, hfirst, hsuccess, _, stop, after, _, middle, rfl, hrest, hstop⟩
  · rintro (hstop | ⟨first, hfirst, hsuccess, before, stop, after, values, middle, rfl, hrest,
      hstop⟩)
    · exact ⟨[], part, parts, [], state, rfl, .nil state, hstop⟩
    · exact ⟨part :: before, stop, after, _, middle, rfl, .cons hfirst hsuccess hrest, hstop⟩

theorem succeeds_sequence_iff (hstate : state.failed = false) :
    (Returns grammar (.sequence parts) state next ∧ next.failed = false) ↔
      ∃ values last, Through (Returns grammar) parts state values last ∧
        next = last.withResult (.list values) := by
  rw [returns_sequence_iff_chained hstate, returns_chained_iff hstate]
  constructor
  · rintro ⟨hthrough | ⟨before, part, after, values, middle, -, -, -, hfailed⟩, hsuccess⟩
    · exact hthrough
    · cases hsuccess.symm.trans hfailed
  · rintro ⟨values, last, hthrough, rfl⟩
    exact ⟨Or.inl ⟨values, last, hthrough, rfl⟩, hthrough.failed_eq hstate⟩

theorem refused_sequence_iff (hstate : state.failed = false) :
    Refused grammar (.sequence parts) state ↔ StopsAt grammar (Refused grammar) parts state := by
  simp only [Refused, returns_sequence_iff_chained hstate, returns_chained_iff hstate]
  constructor
  · rintro ⟨_, ⟨values, last, hthrough, rfl⟩ |
      ⟨before, part, after, values, middle, hparts, hthrough, hpart, -⟩, hfailed⟩
    · cases (hthrough.failed_eq hstate).symm.trans hfailed
    · exact ⟨before, part, after, values, middle, hparts, hthrough, _, hpart, hfailed⟩
  · rintro ⟨before, part, after, values, middle, hparts, hthrough, tried, htried, hfailed⟩
    exact ⟨tried, Or.inr ⟨before, part, after, values, middle, hparts, hthrough, htried, hfailed⟩,
      hfailed⟩

theorem raises_sequence_iff (hstate : state.failed = false) :
    Raises grammar (.sequence parts) state fault ↔
      StopsAt grammar (fun part middle => Raises grammar part middle fault) parts state := by
  rw [raises_sequence_iff_chained hstate, raises_chained_iff]
  rfl

/-- The first of the sequences that goes through, with its results and the state it ends in. -/
def FirstThrough (grammar : Grammar ν) (state : State) (sequences : List (List (Parser ν)))
    (values : List Value) (last : State) : Prop :=
  FirstOf (fun parts => Refused grammar (.sequence parts) state)
    (fun parts => Through (Returns grammar) parts state values last) sequences

/-- A choice of sequences succeeds with the results of the first that goes through. -/
theorem succeeds_choice_sequence_iff {sequences : List (List (Parser ν))}
    (hstate : state.failed = false) :
    (Returns grammar (.choice (sequences.map .sequence)) state next ∧ next.failed = false) ↔
      ∃ values last, FirstThrough grammar state sequences values last ∧
        next = last.withResult (.list values) := by
  simp only [succeeds_choice_iff hstate, firstOf_map_iff, succeeds_sequence_iff hstate,
    firstOf_exists_iff, firstOf_and_iff, FirstThrough]

end Sequences

section Factoring

variable {parser : Parser ν} {rest : List (Parser ν)} {sequences : List (List (Parser ν))}
  {state first next last : State} {values : List Value} {fault : Fault}

/-- The choice among the sequences with the parser in front of each. -/
def distributed (parser : Parser ν) (sequences : List (List (Parser ν))) : Parser ν :=
  .choice (sequences.map fun rest => .sequence (parser :: rest))

/-- The parser and then the choice among the sequences. -/
def factored (parser : Parser ν) (sequences : List (List (Parser ν))) : Parser ν :=
  .sequence [parser, .choice (sequences.map .sequence)]

theorem stopsAt_cons_of_success {P : Parser ν → State → Prop}
    (hfirst : Returns grammar parser state first) (hsuccess : first.failed = false)
    (hparser : ¬ P parser state) :
    StopsAt grammar P (parser :: rest) state ↔ StopsAt grammar P rest first := by
  rw [stopsAt_cons_iff]
  constructor
  · rintro (hstop | ⟨other, hother, -, hrest⟩)
    · exact absurd hstop hparser
    · exact hfirst.unique hother ▸ hrest
  · exact fun hrest => Or.inr ⟨first, hfirst, hsuccess, hrest⟩

section After

variable (hstate : state.failed = false) (hfirst : Returns grammar parser state first)
  (hsuccess : first.failed = false)

include hstate hfirst hsuccess

theorem refused_sequence_cons_iff :
    Refused grammar (.sequence (parser :: rest)) state ↔
      Refused grammar (.sequence rest) first := by
  rw [refused_sequence_iff hstate, refused_sequence_iff hsuccess]
  exact stopsAt_cons_of_success hfirst hsuccess (not_refused_of_success hfirst hsuccess)

theorem raises_sequence_cons_iff :
    Raises grammar (.sequence (parser :: rest)) state fault ↔
      Raises grammar (.sequence rest) first fault := by
  rw [raises_sequence_iff hstate, raises_sequence_iff hsuccess]
  exact stopsAt_cons_of_success hfirst hsuccess fun h => h.not_returns hfirst

/-- The results of the parser in front come first. -/
theorem succeeds_sequence_cons_iff :
    (Returns grammar (.sequence (parser :: rest)) state next ∧ next.failed = false) ↔
      ∃ values last, Through (Returns grammar) rest first values last ∧
        next = last.withResult (.list (first.result :: values)) := by
  rw [succeeds_sequence_iff hstate]
  constructor
  · rintro ⟨_, last, _ | ⟨hparser, -, hrest⟩, rfl⟩
    obtain rfl := hfirst.unique hparser
    exact ⟨_, last, hrest, rfl⟩
  · rintro ⟨values, last, hrest, rfl⟩
    exact ⟨_, last, .cons hfirst hsuccess hrest, rfl⟩

theorem succeeds_distributed_iff_after :
    (Returns grammar (distributed parser sequences) state next ∧ next.failed = false) ↔
      ∃ values last, FirstThrough grammar first sequences values last ∧
        next = last.withResult (.list (first.result :: values)) := by
  simp only [distributed, succeeds_choice_iff hstate, firstOf_map_iff,
    refused_sequence_cons_iff hstate hfirst hsuccess,
    succeeds_sequence_cons_iff hstate hfirst hsuccess, firstOf_exists_iff, firstOf_and_iff,
    FirstThrough]

theorem refused_distributed_iff_after :
    Refused grammar (distributed parser sequences) state ↔
      Refused grammar (.choice (sequences.map .sequence)) first := by
  simp only [distributed, refused_choice_iff hstate, refused_choice_iff hsuccess,
    List.forall_mem_map, refused_sequence_cons_iff hstate hfirst hsuccess]

theorem raises_distributed_iff_after :
    Raises grammar (distributed parser sequences) state fault ↔
      Raises grammar (.choice (sequences.map .sequence)) first fault := by
  simp only [distributed, raises_choice_iff hstate, raises_choice_iff hsuccess, firstOf_map_iff,
    refused_sequence_cons_iff hstate hfirst hsuccess,
    raises_sequence_cons_iff hstate hfirst hsuccess]

end After

theorem succeeds_distributed_iff (hstate : state.failed = false) :
    (Returns grammar (distributed parser sequences) state next ∧ next.failed = false) ↔
      ∃ first values last, Returns grammar parser state first ∧ first.failed = false ∧
        FirstThrough grammar first sequences values last ∧
        next = last.withResult (.list (first.result :: values)) := by
  constructor
  · intro h
    obtain ⟨first, hfirst, hsuccess⟩ : ∃ first, Returns grammar parser state first ∧
        first.failed = false := by
      have hsome := h
      rw [distributed, succeeds_choice_iff hstate, firstOf_map_iff, firstOf_iff_exists] at hsome
      obtain ⟨-, rest, -, -, -, hrest⟩ := hsome
      obtain ⟨_, _, _ | ⟨hfirst, hsuccess, -⟩, -⟩ := (succeeds_sequence_iff hstate).mp hrest
      exact ⟨_, hfirst, hsuccess⟩
    obtain ⟨values, last, hvalues, hnext⟩ :=
      (succeeds_distributed_iff_after hstate hfirst hsuccess).mp h
    exact ⟨first, values, last, hfirst, hsuccess, hvalues, hnext⟩
  · rintro ⟨first, values, last, hfirst, hsuccess, hvalues, hnext⟩
    exact (succeeds_distributed_iff_after hstate hfirst hsuccess).mpr ⟨values, last, hvalues, hnext⟩

theorem succeeds_factored_iff (hstate : state.failed = false) :
    (Returns grammar (factored parser sequences) state next ∧ next.failed = false) ↔
      ∃ first values last, Returns grammar parser state first ∧ first.failed = false ∧
        FirstThrough grammar first sequences values last ∧
        next = last.withResult (.list [first.result, .list values]) := by
  rw [factored, succeeds_sequence_iff hstate]
  constructor
  · rintro ⟨_, _, _ | ⟨hfirst, hsuccess, _ | ⟨hchoice, hends, ⟨⟩⟩⟩, rfl⟩
    obtain ⟨values, last, hvalues, rfl⟩ :=
      (succeeds_choice_sequence_iff hsuccess).mp ⟨hchoice, hends⟩
    exact ⟨_, values, last, hfirst, hsuccess, hvalues, rfl⟩
  · rintro ⟨first, values, last, hfirst, hsuccess, hvalues, rfl⟩
    obtain ⟨hchoice, hends⟩ :=
      (succeeds_choice_sequence_iff hsuccess).mpr ⟨values, last, hvalues, rfl⟩
    exact ⟨_, _, .cons hfirst hsuccess (.cons hchoice hends (.nil _)), rfl⟩

theorem refused_factored_iff (hstate : state.failed = false) :
    Refused grammar (factored parser sequences) state ↔ Refused grammar parser state ∨
      ∃ first, Returns grammar parser state first ∧ first.failed = false ∧
        Refused grammar (.choice (sequences.map .sequence)) first := by
  simp only [factored, refused_sequence_iff hstate, stopsAt_cons_iff, not_stopsAt_nil, and_false,
    exists_false, or_false]

theorem raises_factored_iff (hstate : state.failed = false) :
    Raises grammar (factored parser sequences) state fault ↔ Raises grammar parser state fault ∨
      ∃ first, Returns grammar parser state first ∧ first.failed = false ∧
        Raises grammar (.choice (sequences.map .sequence)) first fault := by
  simp only [factored, raises_sequence_iff hstate, stopsAt_cons_iff, not_stopsAt_nil, and_false,
    exists_false, or_false]

theorem refused_distributed_iff (hstate : state.failed = false) (hsequences : sequences ≠ []) :
    Refused grammar (distributed parser sequences) state ↔
      Refused grammar (factored parser sequences) state := by
  rw [refused_factored_iff hstate]
  constructor
  · intro h
    obtain ⟨rest, hrest⟩ := List.exists_mem_of_ne_nil sequences hsequences
    have hrefused : Refused grammar (.sequence (parser :: rest)) state :=
      (refused_choice_iff hstate).mp h _ (List.mem_map_of_mem hrest)
    rw [refused_sequence_iff hstate, stopsAt_cons_iff] at hrefused
    rcases hrefused with hparser | ⟨first, hfirst, hsuccess, -⟩
    · exact Or.inl hparser
    · exact Or.inr ⟨first, hfirst, hsuccess,
        (refused_distributed_iff_after hstate hfirst hsuccess).mp h⟩
  · rintro (hparser | ⟨first, hfirst, hsuccess, hrefused⟩)
    · rw [distributed, refused_choice_iff hstate, List.forall_mem_map]
      intro rest _
      rw [refused_sequence_iff hstate, stopsAt_cons_iff]
      exact Or.inl hparser
    · exact (refused_distributed_iff_after hstate hfirst hsuccess).mpr hrefused

theorem raises_distributed_iff (hstate : state.failed = false) (hsequences : sequences ≠ []) :
    Raises grammar (distributed parser sequences) state fault ↔
      Raises grammar (factored parser sequences) state fault := by
  rw [raises_factored_iff hstate]
  constructor
  · intro h
    have hblamed := h
    rw [distributed, raises_choice_iff hstate, firstOf_map_iff, firstOf_iff_exists] at hblamed
    obtain ⟨-, rest, -, -, -, hraises⟩ := hblamed
    rw [raises_sequence_iff hstate, stopsAt_cons_iff] at hraises
    rcases hraises with hparser | ⟨first, hfirst, hsuccess, -⟩
    · exact Or.inl hparser
    · exact Or.inr ⟨first, hfirst, hsuccess,
        (raises_distributed_iff_after hstate hfirst hsuccess).mp h⟩
  · rintro (hparser | ⟨first, hfirst, hsuccess, hraises⟩)
    · obtain ⟨rest, others, rfl⟩ := List.exists_cons_of_ne_nil hsequences
      have hrest : Raises grammar (.sequence (parser :: rest)) state fault := by
        rw [raises_sequence_iff hstate, stopsAt_cons_iff]
        exact Or.inl hparser
      exact (raises_choice_iff hstate).mpr (Or.inl hrest)
    · exact (raises_distributed_iff_after hstate hfirst hsuccess).mpr hraises

end Factoring

/-- The two have failed, or both have succeeded at one place. One has the result of the parser in
front of the results that follow, where the other has a pair of it and their list. -/
structure Regrouped (next next' : State) : Prop where
  failed_eq : next.failed = next'.failed
  success : next.failed = false → ∃ value values,
    next'.result = .list [value, .list values] ∧ next = next'.withResult (.list (value :: values))

theorem Regrouped.of_failed {next next' : State} (h : next.failed = true)
    (h' : next'.failed = true) : Regrouped next next' where
  failed_eq := h.trans h'.symm
  success hsuccess := by simp [h] at hsuccess

theorem regrouped_withResult (last : State) (value : Value) (values : List Value) :
    Regrouped (last.withResult (.list (value :: values)))
      (last.withResult (.list [value, .list values])) where
  failed_eq := rfl
  success _ := ⟨value, values, rfl, rfl⟩

/-- A choice in a choice may be replaced by its alternatives, for every state, whatever comes of it.
A parser in front of every alternative may be taken out: the first sequence that goes through from
where the parser has ended gives its results to both. -/
theorem choice_nests_and_factors {session session' : Session ν}
    (hsession : session.Coherent grammar) (hsession' : session'.Coherent grammar) :
    (∀ before inner after state,
      Agree Eq (outcome grammar (.choice (before ++ .choice inner :: after)) state session)
        (outcome grammar (.choice (before ++ inner ++ after)) state session')) ∧
    ∀ parser sequences state, sequences ≠ [] → state.failed = false →
      (∀ next, ((∃ fuel, outcome grammar (distributed parser sequences) state session fuel =
          .done next) ∧ next.failed = false) ↔
        ∃ first values last, Returns grammar parser state first ∧ first.failed = false ∧
          FirstThrough grammar first sequences values last ∧
          next = last.withResult (.list (first.result :: values))) ∧
      Agree Regrouped (outcome grammar (distributed parser sequences) state session)
        (outcome grammar (factored parser sequences) state session') := by
  refine ⟨fun before inner after state => ?_, fun parser sequences state hsequences hstate => ?_⟩
  · exact agree_eq_of_iff hsession hsession' (fun _ => returns_nested_choice_iff)
      fun _ => raises_nested_choice_iff
  refine ⟨fun next => ?_, ?_⟩
  · rw [← returns_iff_outcome hsession]
    exact succeeds_distributed_iff hstate
  refine agree_of_returns hsession hsession' ?_ ?_ fun _ => raises_distributed_iff hstate hsequences
  · intro next hnext
    cases hends : next.failed with
    | true =>
        obtain ⟨next', hnext', hfailed⟩ :=
          (refused_distributed_iff hstate hsequences).mp ⟨next, hnext, hends⟩
        exact ⟨next', hnext', .of_failed hends hfailed⟩
    | false =>
        obtain ⟨first, values, last, hfirst, hsuccess, hvalues, rfl⟩ :=
          (succeeds_distributed_iff hstate).mp ⟨hnext, hends⟩
        have hnext' := (succeeds_factored_iff hstate).mpr
          ⟨first, values, last, hfirst, hsuccess, hvalues, rfl⟩
        exact ⟨_, hnext'.1, regrouped_withResult last first.result values⟩
  · intro next' hnext'
    cases hends : next'.failed with
    | true =>
        obtain ⟨next, hnext, hfailed⟩ :=
          (refused_distributed_iff hstate hsequences).mpr ⟨next', hnext', hends⟩
        exact ⟨next, hnext, .of_failed hfailed hends⟩
    | false =>
        obtain ⟨first, values, last, hfirst, hsuccess, hvalues, rfl⟩ :=
          (succeeds_factored_iff hstate).mp ⟨hnext', hends⟩
        have hnext := (succeeds_distributed_iff hstate).mpr
          ⟨first, values, last, hfirst, hsuccess, hvalues, rfl⟩
        exact ⟨_, hnext.1, regrouped_withResult last first.result values⟩

/-- A parser written by hand, which takes one code point and gives its position. -/
def stepping : Grammar Unit := fun _ => .ok (transform (Text.ofString "step") fun state =>
  state.moveTo (state.pos + 1) (.int state.pos))

/-- A step is taken once or twice to find the `c` after it, and the same results are found. -/
theorem choice_nests_and_factors_steps : ∃ fuel next next',
    outcome stepping (distributed (ref ()) [[literal [98] true], [literal [99] true]])
      (State.start [97, 99] false) .empty 9 = .done next ∧
    outcome stepping (factored (ref ()) [[literal [98] true], [literal [99] true]])
      (State.start [97, 99] false) .empty fuel = .done next' ∧
    next'.failed = false ∧ next'.pos = 2 ∧ next.result = .list [.int 0, .text [99]] ∧
    next'.result = .list [.int 0, .list [.text [99]]] := by
  have hsession : Session.Coherent .empty stepping := Session.empty_coherent
  obtain ⟨-, hagree⟩ := (choice_nests_and_factors hsession hsession).2 (ref ())
    [[literal [98] true], [literal [99] true]] (State.start [97, 99] false) (by simp) rfl
  obtain ⟨next, hnext, hsuccess, hpos, hresult⟩ : ∃ next,
      outcome stepping (distributed (ref ()) [[literal [98] true], [literal [99] true]])
        (State.start [97, 99] false) .empty 9 = .done next ∧ next.failed = false ∧
        next.pos = 2 ∧ next.result = .list [.int 0, .text [99]] := ⟨_, rfl, rfl, rfl, rfl⟩
  obtain ⟨fuel, next', hnext', hfailed, hregrouped⟩ := hagree.returned 9 next hnext
  obtain ⟨value, values, hpair, rfl⟩ := hregrouped hsuccess
  obtain ⟨rfl, rfl⟩ : value = .int 0 ∧ values = [.text [99]] := by
    simpa [State.withResult] using hresult
  exact ⟨fuel, _, next', hnext, hnext', hfailed ▸ hsuccess, hpos, hresult, hpair⟩

end ParserCombinators.Parser
