import ParserCombinators.Proofs.Backtracking
import ParserCombinators.Proofs.ChainMonad
import ParserCombinators.Proofs.Repetition

/-!
A separated repetition is what its textbook expansion is: an optional item, then many pairs of a
separator and an item, then an optional separator. The loop of the one keeps a separator that no
item follows, while the other gives the whole pair back and reads the separator again, from a state
that holds another result. Both go through the same items, since a turn, which begins with an item,
and a pair, which begins with a separator, are the same rounds cut at different places.

Where neither the separator nor the item moves, the repetition stops and the pairs do too, but in
different states; so one of them has to move whenever it succeeds.
-/

namespace ParserCombinators.Parser

variable {ν : Type}

section Relations

variable {S R : State → State → Prop} {T : State → Value → State → Prop}
  {state first middle next last : State} {value : Value} {values found : List Value}

/-- The first relation and then the second, or the first alone where it fails. -/
def Both (S R : State → State → Prop) (state next : State) : Prop :=
  ∃ between, S state between ∧
    ((between.failed = true ∧ next = between) ∨ (between.failed = false ∧ R between next))

theorem Rounds.concat (h : Rounds T state values middle) (hround : T middle value last) :
    Rounds T state (values ++ [value]) last := by
  induction h with
  | nil state => exact .cons hround (.nil last)
  | cons hfirst _ ih => exact .cons hfirst (ih hround)

/-- There is no round, or there is a last one. -/
theorem Rounds.eq_nil_or_concat (h : Rounds T state values last) :
    (values = [] ∧ last = state) ∨ ∃ before value middle, values = before ++ [value] ∧
      Rounds T state before middle ∧ T middle value last := by
  induction h with
  | nil state => exact Or.inl ⟨rfl, rfl⟩
  | @cons state next last value values hfirst hrest ih =>
      rcases ih with ⟨rfl, rfl⟩ | ⟨before, other, middle, rfl, hbefore, hlast⟩
      · exact Or.inr ⟨[], value, state, rfl, .nil state, hfirst⟩
      · exact Or.inr ⟨value :: before, other, middle, rfl, .cons hfirst hbefore, hlast⟩

/-- Whichever of the two comes first, a success of both moves. -/
structure Progress (S R : State → State → Prop) : Prop where
  turn : ∀ {state next between}, state.failed = false → R state next → next.failed = false →
    S next between → between.failed = false → between.pos ≠ state.pos
  pair : ∀ {state between next}, state.failed = false → S state between →
    between.failed = false → R between next → next.failed = false → next.pos ≠ state.pos

theorem Progress.both (h : Progress S R) (hstate : state.failed = false)
    (hboth : Both S R state next) (hnext : next.failed = false) : next.pos ≠ state.pos := by
  obtain ⟨between, hbetween, ⟨hfailed, rfl⟩ | ⟨hsuccess, hitem⟩⟩ := hboth
  · simp [hfailed] at hnext
  · exact h.pair hstate hbetween hsuccess hitem hnext

/-- Turns and an item after them are an item and pairs after it. -/
theorem Rounds.pairs_of_turns (hprogress : Progress S R)
    (h : Rounds (Turn S R) state values last) (hitem : R last next) (hnext : next.failed = false) :
    ∃ first found, R state first ∧ first.failed = false ∧
      Rounds (Round (Both S R)) first found next ∧
      first.result :: found = values ++ [next.result] := by
  induction h with
  | nil state => exact ⟨next, [], hitem, hnext, .nil next, rfl⟩
  | @cons state between last value values hturn hrest ih =>
      obtain ⟨first, hfirst, hsuccess, rfl, hbetween, hgoes, -⟩ := hturn
      obtain ⟨second, found, hsecond, hagain, hrounds, hvalues⟩ := ih hitem
      have hmoves := hprogress.pair hsuccess hbetween hgoes hsecond hagain
      have hround : Round (Both S R) first second.result second :=
        ⟨⟨between, hbetween, Or.inr ⟨hgoes, hsecond⟩⟩, hagain, hmoves, rfl⟩
      exact ⟨first, second.result :: found, hfirst, hsuccess, .cons hround hrounds,
        by rw [hvalues, List.cons_append]⟩

theorem Rounds.turns_of_pairs (hprogress : Progress S R) (hstate : state.failed = false)
    (hfirst : R state first) (hsuccess : first.failed = false)
    (h : Rounds (Round (Both S R)) first found next) :
    ∃ values last, Rounds (Turn S R) state values last ∧ R last next ∧ next.failed = false ∧
      first.result :: found = values ++ [next.result] := by
  induction h generalizing state with
  | nil first => exact ⟨[], state, .nil state, hfirst, hsuccess, rfl⟩
  | @cons first second next value found hround hrest ih =>
      obtain ⟨⟨between, hbetween, ⟨hfailed, rfl⟩ | ⟨hgoes, hsecond⟩⟩, hagain, -, rfl⟩ := hround
      · simp [hfailed] at hagain
      · obtain ⟨values, last, hturns, hlast, hnext, hvalues⟩ := ih hgoes hsecond hagain
        have hturn : Turn S R state first.result between :=
          ⟨first, hfirst, hsuccess, rfl, hbetween, hgoes,
            hprogress.turn hstate hfirst hsuccess hbetween hgoes⟩
        exact ⟨first.result :: values, last, .cons hturn hturns, hlast, hnext,
          by rw [hvalues, List.cons_append]⟩

/-- The values of a list with separators, and the state after it. A separator after the last item
belongs to the list. -/
inductive Listed (S R : State → State → Prop) (state : State) : List Value → State → Prop
  | absent {first : State} : R state first → first.failed = true → Listed S R state [] state
  | ended {found : List Value} {first last between : State} : R state first →
      first.failed = false → Collects (Both S R) first found last → S last between →
      between.failed = true → Listed S R state (first.result :: found) last
  | trailing {found : List Value} {first last between : State} : R state first →
      first.failed = false → Collects (Both S R) first found last → S last between →
      between.failed = false → Listed S R state (first.result :: found) between

theorem CollectsSeparated.listed (hprogress : Progress S R) (hstate : state.failed = false)
    (h : CollectsSeparated S R state values last) : Listed S R state values last := by
  cases h with
  | refused hturns hitem hfailed =>
      rcases hturns.eq_nil_or_concat with ⟨rfl, rfl⟩ |
        ⟨before, value, middle, rfl, hbefore, next, hnext, hsuccess, rfl, hlast, hgoes, -⟩
      · exact .absent hitem hfailed
      · obtain ⟨first, found, hfirst, hbegins, hrounds, hvalues⟩ :=
          hbefore.pairs_of_turns hprogress hnext hsuccess
        rw [← hvalues]
        exact .trailing hfirst hbegins
          (.refused hrounds ⟨last, hlast, Or.inr ⟨hgoes, hitem⟩⟩ hfailed) hlast hgoes
  | @unseparated before middle _ between hturns hitem hsuccess hbetween hends =>
      obtain ⟨first, found, hfirst, hbegins, hrounds, hvalues⟩ :=
        hturns.pairs_of_turns hprogress hitem hsuccess
      have hfailed : between.failed = true := by
        by_contra hgoes
        have hstays := hends.resolve_left hgoes
        rw [Bool.not_eq_true] at hgoes
        exact hprogress.turn (hturns.turns_succeed hstate) hitem hsuccess hbetween hgoes hstays
      rw [← hvalues]
      exact .ended hfirst hbegins
        (.refused hrounds ⟨between, hbetween, Or.inl ⟨hfailed, rfl⟩⟩ hfailed) hbetween hfailed

/-- Pairs end where a pair fails. -/
theorem Collects.pairs_refused (hprogress : Progress S R) (hfirst : first.failed = false)
    (h : Collects (Both S R) first found last) : Rounds (Round (Both S R)) first found last ∧
      ∃ next, Both S R last next ∧ next.failed = true := by
  cases h with
  | refused hrounds hnext hfailed => exact ⟨hrounds, _, hnext, hfailed⟩
  | still hrounds hnext hsuccess hstays =>
      exact absurd hstays (hprogress.both (hrounds.succeeds hfirst) hnext hsuccess)

theorem Listed.collectsSeparated
    (hS : ∀ state next other, S state next → S state other → next = other)
    (hprogress : Progress S R) (hstate : state.failed = false)
    (h : Listed S R state values last) : CollectsSeparated S R state values last := by
  cases h with
  | absent hfirst hfailed => exact .refused (.nil state) hfirst hfailed
  | ended hfirst hbegins hpairs hbetween hfailed =>
      obtain ⟨hrounds, -⟩ := hpairs.pairs_refused hprogress hbegins
      obtain ⟨before, middle, hturns, hlast, hsuccess, hvalues⟩ :=
        hrounds.turns_of_pairs hprogress hstate hfirst hbegins
      rw [hvalues]
      exact .unseparated hturns hlast hsuccess hbetween (Or.inl hfailed)
  | @trailing _ _ last between hfirst hbegins hpairs hbetween hgoes =>
      obtain ⟨hrounds, next, ⟨other, hother, hnext⟩, hfailed⟩ :=
        hpairs.pairs_refused hprogress hbegins
      obtain rfl := hS _ _ _ hbetween hother
      obtain ⟨before, middle, hturns, hlast, hsuccess, hvalues⟩ :=
        hrounds.turns_of_pairs hprogress hstate hfirst hbegins
      have hmoves := hprogress.turn (hturns.turns_succeed hstate) hlast hsuccess hbetween hgoes
      rcases hnext with ⟨hstops, -⟩ | ⟨-, hitem⟩
      · simp [hgoes] at hstops
      · rw [hvalues]
        exact .refused (hturns.concat ⟨last, hlast, hsuccess, rfl, hbetween, hgoes, hmoves⟩) hitem
          hfailed

end Relations

section Parsers

/-- The second of two results. -/
def second : Value → Value
  | .list (_ :: value :: _) => value
  | _ => .null

/-- A first value and the list of those after it, as one list; the empty list without them. -/
def flat : Value → Value
  | .list (value :: .list values :: _) => .list (value :: values)
  | _ => .list []

/-- A separator and an item, with the result of the item. -/
def pairOf (separator item : Parser ν) : Parser ν :=
  .map (.sequence [separator, item]) fun result => .ok (second result)

/-- An item, pairs after it and perhaps another separator, in sequence. -/
def listOf (separator item : Parser ν) : Parser ν :=
  .sequence [item, .many (pairOf separator item), .optional separator]

/-- What a separated repetition is short for. -/
def expansion (separator item : Parser ν) : Parser ν :=
  .map (.optional (listOf separator item)) fun result => .ok (flat result)

/-- The parser moves whenever it succeeds. -/
def Moves [DecidableEq ν] (grammar : Grammar ν) (parser : Parser ν) : Prop :=
  ∀ state next, state.failed = false → Returns grammar parser state next → next.failed = false →
    next.pos ≠ state.pos

variable [DecidableEq ν] {grammar : Grammar ν} {source separator item : Parser ν}
  {state next : State} {fault : Fault}

/-- A function that raises no fault. -/
theorem returns_map_ok_iff {f : Value → Value} :
    Returns grammar (.map source fun result => .ok (f result)) state next ↔
      (∃ middle, Returns grammar source state middle ∧ middle.failed = false ∧
        next = middle.withResult (f middle.result)) ∨
      (Returns grammar source state next ∧ next.failed = true) := by
  constructor
  · intro h
    cases h.acts_passing rfl with
    | map hsource hsuccess hvalue =>
        cases hvalue
        exact Or.inl ⟨_, hsource, hsuccess, rfl⟩
    | map_failed hsource hfailed => exact Or.inr ⟨hsource, hfailed⟩
  · rintro (⟨middle, hsource, hsuccess, rfl⟩ | ⟨hsource, hfailed⟩)
    · have hvalue : (fun result => Except.ok (f result)) middle.result =
          (.ok (f middle.result) : Except Fault Value) := rfl
      exact Returns.map hsource hsuccess hvalue
    · exact Returns.map_failed hsource hfailed

theorem returns_pairOf_iff (hstate : state.failed = false) :
    Returns grammar (pairOf separator item) state next ↔
      Both (Returns grammar separator) (Returns grammar item) state next := by
  simp only [pairOf, returns_map_ok_iff, returns_sequence_iff_chained hstate, chained,
    returns_chain_iff]
  constructor
  · rintro (⟨_, ⟨between, hbetween, hgoes, ⟨last, hitem, hsuccess, hlast⟩ | ⟨-, hfailed⟩⟩ |
      ⟨-, hfailed⟩, hmiddle, rfl⟩ |
      ⟨⟨between, hbetween, hgoes, ⟨last, -, hsuccess, hlast⟩ | ⟨hitem, -⟩⟩ | ⟨hbetween, -⟩,
        hfailed⟩)
    · obtain rfl := (returns_succeed_iff hsuccess).mp hlast
      exact ⟨between, hbetween, Or.inr ⟨hgoes, hitem⟩⟩
    · simp [hmiddle] at hfailed
    · simp [hmiddle] at hfailed
    · obtain rfl := (returns_succeed_iff hsuccess).mp hlast
      cases hsuccess.symm.trans hfailed
    · exact ⟨between, hbetween, Or.inr ⟨hgoes, hitem⟩⟩
    · exact ⟨next, hbetween, Or.inl ⟨hfailed, rfl⟩⟩
  · rintro ⟨between, hbetween, ⟨hfailed, rfl⟩ | ⟨hgoes, hitem⟩⟩
    · exact Or.inr ⟨Or.inr ⟨hbetween, hfailed⟩, hfailed⟩
    · cases hnext : next.failed with
      | true => exact Or.inr ⟨Or.inl ⟨between, hbetween, hgoes, Or.inr ⟨hitem, rfl⟩⟩, rfl⟩
      | false =>
          exact Or.inl ⟨_, Or.inl ⟨between, hbetween, hgoes,
            Or.inl ⟨next, hitem, hnext, (returns_succeed_iff hnext).mpr rfl⟩⟩, hnext, rfl⟩

section Again

variable {parser : Parser ν} {state' : State}
  (hown : Everywhere grammar (fun part => part.isHandWritten = false) parser)

include hown in
/-- The same parser on a state that holds another result. -/
theorem Returns.of_sameButResult (hstate : state.failed = false)
    (hsame : SameButResult state state') (h : Returns grammar parser state next) :
    ∃ next', Returns grammar parser state' next' ∧ SameButRetained next next' := by
  have hsession : Session.Coherent (.empty : Session ν) grammar := Session.empty_coherent
  obtain ⟨fuel, hfuel⟩ := (returns_iff_outcome hsession).mp h
  obtain ⟨fuel', next', hfuel', hretained⟩ :=
    (agree_sameButResult hown hstate hsame hsession hsession).returned fuel next hfuel
  exact ⟨next', (returns_iff_outcome hsession).mpr ⟨fuel', hfuel'⟩, hretained⟩

include hown in
theorem Returns.success_of_sameButResult (hstate : state.failed = false)
    (hsame : SameButResult state state') (h : Returns grammar parser state next)
    (hsuccess : next.failed = false) : Returns grammar parser state' next := by
  obtain ⟨next', hnext', hretained⟩ := h.of_sameButResult hown hstate hsame
  rwa [hretained.success hsuccess]

include hown in
theorem Returns.failure_of_sameButResult (hstate : state.failed = false)
    (hsame : SameButResult state state') (h : Returns grammar parser state next)
    (hfailed : next.failed = true) :
    ∃ next', Returns grammar parser state' next' ∧ next'.failed = true := by
  obtain ⟨_, hnext', ⟨result, rfl⟩, -⟩ := h.of_sameButResult hown hstate hsame
  exact ⟨_, hnext', hfailed⟩

include hown in
theorem Raises.of_sameButResult (hstate : state.failed = false)
    (hsame : SameButResult state state') (h : Raises grammar parser state fault) :
    Raises grammar parser state' fault := by
  have hsession : Session.Coherent (.empty : Session ν) grammar := Session.empty_coherent
  rw [raises_iff_outcome hsession] at h ⊢
  exact ((agree_sameButResult hown hstate hsame hsession hsession).raised fault).mp h

end Again

theorem returns_optional_iff_or (hstate : state.failed = false) :
    Returns grammar (.optional source) state next ↔
      (Returns grammar source state next ∧ next.failed = false) ∨
      ∃ tried, Returns grammar source state tried ∧ tried.failed = true ∧
        next = state.withResult .null := by
  rw [returns_optional_iff hstate]
  constructor
  · rintro ⟨tried, htried, rfl⟩
    cases hfailed : tried.failed with
    | true => exact Or.inr ⟨tried, htried, hfailed, if_pos rfl⟩
    | false => exact Or.inl ⟨htried, hfailed⟩
  · rintro (⟨hnext, hsuccess⟩ | ⟨tried, htried, hfailed, rfl⟩)
    · exact ⟨next, hnext, by simp [hsuccess]⟩
    · exact ⟨tried, htried, by simp [hfailed]⟩

theorem Returns.optional_succeeds (h : Returns grammar (.optional source) state next)
    (hstate : state.failed = false) : next.failed = false := by
  rcases (returns_optional_iff_or hstate).mp h with ⟨-, hsuccess⟩ | ⟨tried, -, -, rfl⟩
  · exact hsuccess
  · exact hstate

/-- The sequence fails with its item, as what comes after it never does. -/
theorem returns_listOf_iff (hstate : state.failed = false) :
    Returns grammar (listOf separator item) state next ↔
      (Returns grammar item state next ∧ next.failed = true) ∨
      ∃ first found last tried, Returns grammar item state first ∧ first.failed = false ∧
        Collects (Returns grammar (pairOf separator item)) first found last ∧
        Returns grammar (.optional separator) (last.withResult (.list found)) tried ∧
        next = tried.withResult (.list [first.result, .list found, tried.result]) := by
  have hmany {first middle : State} (hfirst : first.failed = false)
      (h : Returns grammar (.many (pairOf separator item)) first middle) :
      middle.failed = false := by
    obtain ⟨found, last, hcollects, rfl⟩ := h.many_collects hfirst
    exact hcollects.succeeds hfirst
  simp only [listOf, returns_sequence_iff_chained hstate, chained, returns_chain_iff]
  constructor
  · rintro (⟨first, hfirst, hbegins, ⟨middle, hpairs, hmiddle, ⟨tried, htried, hsuccess, hnext⟩ |
      ⟨htried, hfailed⟩⟩ | ⟨hpairs, hfailed⟩⟩ | ⟨hfirst, hfailed⟩)
    · obtain ⟨found, last, hcollects, rfl⟩ := hpairs.many_collects hbegins
      obtain rfl := (returns_succeed_iff hsuccess).mp hnext
      exact Or.inr ⟨first, found, last, tried, hfirst, hbegins, hcollects, htried, rfl⟩
    · simp [htried.optional_succeeds hmiddle] at hfailed
    · simp [hmany hbegins hpairs] at hfailed
    · exact Or.inl ⟨hfirst, hfailed⟩
  · rintro (⟨hfirst, hfailed⟩ |
      ⟨first, found, last, tried, hfirst, hbegins, hcollects, htried, rfl⟩)
    · exact Or.inr ⟨hfirst, hfailed⟩
    · have hpairs := Returns.many hbegins hcollects
      have hmiddle := hmany hbegins hpairs
      have hsuccess := htried.optional_succeeds hmiddle
      exact Or.inl ⟨first, hfirst, hbegins, Or.inl ⟨_, hpairs, hmiddle, Or.inl
        ⟨tried, htried, hsuccess, (returns_succeed_iff hsuccess).mpr rfl⟩⟩⟩

variable (hitem : Everywhere grammar (fun part => part.isHandWritten = false) item)
  (hseparator : Everywhere grammar (fun part => part.isHandWritten = false) separator)

include hseparator in
/-- The separator is read again where it was read before, from a state with another result. -/
theorem returns_optional_again_iff {last : State} {value : Value}
    (hlast : last.failed = false) :
    Returns grammar (.optional separator) (last.withResult value) next ↔
      (Returns grammar separator last next ∧ next.failed = false) ∨
      ∃ between, Returns grammar separator last between ∧ between.failed = true ∧
        next = last.withResult .null := by
  have hother : (last.withResult value).failed = false := hlast
  have hthere : SameButResult (last.withResult value) last := ⟨last.result, rfl⟩
  have hback : SameButResult last (last.withResult value) := ⟨value, rfl⟩
  rw [returns_optional_iff_or hother]
  constructor
  · rintro (⟨hnext, hsuccess⟩ | ⟨again, hagain, hfailed, rfl⟩)
    · exact Or.inl ⟨hnext.success_of_sameButResult hseparator hother hthere hsuccess, hsuccess⟩
    · obtain ⟨between, hbetween, hends⟩ :=
        hagain.failure_of_sameButResult hseparator hother hthere hfailed
      exact Or.inr ⟨between, hbetween, hends, rfl⟩
  · rintro (⟨hnext, hsuccess⟩ | ⟨between, hbetween, hfailed, rfl⟩)
    · exact Or.inl ⟨hnext.success_of_sameButResult hseparator hlast hback hsuccess, hsuccess⟩
    · obtain ⟨again, hagain, hends⟩ :=
        hbetween.failure_of_sameButResult hseparator hlast hback hfailed
      exact Or.inr ⟨again, hagain, hends, rfl⟩

section Pairs

variable {first last : State} {found : List Value}

theorem collects_pairOf_iff (hfirst : first.failed = false) :
    Collects (Returns grammar (pairOf separator item)) first found last ↔
      Collects (Both (Returns grammar separator) (Returns grammar item)) first found last := by
  constructor
  · exact fun h => h.refine fun _ _ _ hbefore hpair =>
      (returns_pairOf_iff (hbefore.succeeds hfirst)).mp hpair
  · exact fun h => h.refine fun _ _ _ hbefore hpair =>
      (returns_pairOf_iff (hbefore.succeeds hfirst)).mpr hpair

theorem rounds_pairOf_iff (hfirst : first.failed = false) :
    Rounds (Round (Returns grammar (pairOf separator item))) first found last ↔
      Rounds (Round (Both (Returns grammar separator) (Returns grammar item)))
        first found last := by
  constructor
  · exact fun h => h.refine fun _ _ _ _ hbefore hround =>
      hround.mono (returns_pairOf_iff (hbefore.succeeds hfirst)).mp
  · exact fun h => h.refine fun _ _ _ _ hbefore hround =>
      hround.mono (returns_pairOf_iff (hbefore.succeeds hfirst)).mpr

end Pairs

include hseparator in
/-- The expansion returns the list that is ahead, or the empty one. -/
theorem returns_expansion_iff (hstate : state.failed = false) :
    Returns grammar (expansion separator item) state next ↔ ∃ values last,
      Listed (Returns grammar separator) (Returns grammar item) state values last ∧
        next = last.withResult (.list values) := by
  rw [expansion, returns_map_ok_iff]
  constructor
  · rintro (⟨middle, hmiddle, -, rfl⟩ | ⟨hnext, hfailed⟩)
    · rcases (returns_optional_iff_or hstate).mp hmiddle with ⟨hlist, hsuccess⟩ |
        ⟨tried, hlist, hfailed, rfl⟩ <;>
      rcases (returns_listOf_iff hstate).mp hlist with ⟨hfirst, hrefused⟩ |
        ⟨first, found, last, again, hfirst, hbegins, hcollects, hagain, rfl⟩
      · simp [hsuccess] at hrefused
      · have hpairs := (collects_pairOf_iff hbegins).mp hcollects
        rcases (returns_optional_again_iff hseparator (hcollects.succeeds hbegins)).mp hagain with
          ⟨hbetween, hgoes⟩ | ⟨between, hbetween, hfailed, rfl⟩
        · exact ⟨_, again, .trailing hfirst hbegins hpairs hbetween hgoes, rfl⟩
        · exact ⟨_, last, .ended hfirst hbegins hpairs hbetween hfailed, rfl⟩
      · exact ⟨[], state, .absent hfirst hrefused, rfl⟩
      · have hgoes : again.failed = false := hagain.optional_succeeds (hcollects.succeeds hbegins)
        cases hgoes.symm.trans hfailed
    · simp [hnext.optional_succeeds hstate] at hfailed
  · rintro ⟨values, last, hlisted, rfl⟩
    cases hlisted with
    | absent hfirst hfailed =>
        have hlist : Returns grammar (listOf separator item) state _ :=
          (returns_listOf_iff hstate).mpr (Or.inl ⟨hfirst, hfailed⟩)
        have hnone := (returns_optional_iff_or hstate).mpr (Or.inr ⟨_, hlist, hfailed, rfl⟩)
        exact Or.inl ⟨_, hnone, hstate, rfl⟩
    | @ended found _ _ _ hfirst hbegins hpairs hbetween hfailed =>
        have hcollects := (collects_pairOf_iff hbegins).mpr hpairs
        have hlast := hcollects.succeeds hbegins
        have hagain : Returns grammar (.optional separator) (last.withResult (.list found)) _ :=
          (returns_optional_again_iff hseparator hlast).mpr (Or.inr ⟨_, hbetween, hfailed, rfl⟩)
        have hlist := (returns_listOf_iff hstate).mpr
          (Or.inr ⟨_, _, last, _, hfirst, hbegins, hcollects, hagain, rfl⟩)
        exact Or.inl ⟨_, (returns_optional_iff_or hstate).mpr (Or.inl ⟨hlist, hlast⟩), hlast, rfl⟩
    | @trailing found _ middle _ hfirst hbegins hpairs hbetween hgoes =>
        have hcollects := (collects_pairOf_iff hbegins).mpr hpairs
        have hagain : Returns grammar (.optional separator) (middle.withResult (.list found)) _ :=
          (returns_optional_again_iff hseparator (hcollects.succeeds hbegins)).mpr
            (Or.inl ⟨hbetween, hgoes⟩)
        have hlist := (returns_listOf_iff hstate).mpr
          (Or.inr ⟨_, _, _, last, hfirst, hbegins, hcollects, hagain, rfl⟩)
        exact Or.inl ⟨_, (returns_optional_iff_or hstate).mpr (Or.inl ⟨hlist, hgoes⟩), hgoes, rfl⟩

section Faults

/-- The fault comes from the first item, or from a pair after it. -/
def RaisesListed (grammar : Grammar ν) (separator item : Parser ν) (state : State)
    (fault : Fault) : Prop :=
  Raises grammar item state fault ∨
    ∃ first found last, Returns grammar item state first ∧ first.failed = false ∧
      Rounds (Round (Both (Returns grammar separator) (Returns grammar item))) first found last ∧
      (Raises grammar separator last fault ∨ ∃ between, Returns grammar separator last between ∧
        between.failed = false ∧ Raises grammar item between fault)

theorem raises_map_ok_iff {f : Value → Value} :
    Raises grammar (.map source fun result => .ok (f result)) state fault ↔
      Raises grammar source state fault := by
  constructor
  · intro h
    rcases raises_iff_call.mp h with hself | ⟨part, middle, hcall, hraises⟩
    · cases hself with
      | map _ _ hvalue => cases hvalue
    · cases hcall with
      | map => exact hraises
  · exact (Calls.map source _ state).raises

theorem raises_optional_iff (hstate : state.failed = false) :
    Raises grammar (.optional source) state fault ↔ Raises grammar source state fault := by
  constructor
  · intro h
    rcases raises_iff_call.mp h with hself | ⟨part, middle, hcall, hraises⟩
    · cases hself
    · cases hcall with
      | optional _ => exact hraises
  · exact (Calls.optional hstate).raises

theorem raises_many_iff (hstate : state.failed = false) :
    Raises grammar (.many source) state fault ↔ ∃ found last,
      Rounds (Round (Returns grammar source)) state found last ∧
        Raises grammar source last fault := by
  constructor
  · intro h
    rcases raises_iff_call.mp h with hself | ⟨part, middle, hcall, hraises⟩
    · cases hself
    · cases hcall with
      | many _ hrounds => exact ⟨_, middle, hrounds, hraises⟩
  · rintro ⟨found, last, hrounds, hraises⟩
    exact (Calls.many hstate hrounds).raises hraises

theorem raises_separated_iff (hstate : state.failed = false) :
    Raises grammar (.separated separator item) state fault ↔ ∃ values last,
      Rounds (Turn (Returns grammar separator) (Returns grammar item)) state values last ∧
        (Raises grammar item last fault ∨ ∃ next, Returns grammar item last next ∧
          next.failed = false ∧ Raises grammar separator next fault) := by
  constructor
  · intro h
    rcases raises_iff_call.mp h with hself | ⟨part, middle, hcall, hraises⟩
    · cases hself
    · cases hcall with
      | separated_item _ hturns => exact ⟨_, middle, hturns, Or.inl hraises⟩
      | separated_separator _ hturns hnext hsuccess =>
          exact ⟨_, _, hturns, Or.inr ⟨middle, hnext, hsuccess, hraises⟩⟩
  · rintro ⟨values, last, hturns, hraises | ⟨next, hnext, hsuccess, hraises⟩⟩
    · exact (Calls.separated_item hstate hturns).raises hraises
    · exact (Calls.separated_separator hstate hturns hnext hsuccess).raises hraises

theorem raises_pairOf_iff (hstate : state.failed = false) :
    Raises grammar (pairOf separator item) state fault ↔ Raises grammar separator state fault ∨
      ∃ between, Returns grammar separator state between ∧ between.failed = false ∧
        Raises grammar item between fault := by
  simp only [pairOf, raises_map_ok_iff, raises_sequence_iff_chained hstate, chained,
    raises_chain_iff, not_raises_succeed, and_false, exists_false, or_false]

include hseparator in
/-- The separator read again raises no fault, since the last pair has read it there before. -/
theorem not_raises_optional_again
    (hprogress : Progress (Returns grammar separator) (Returns grammar item))
    {first middle : State} (hbegins : first.failed = false)
    (hpairs : Returns grammar (.many (pairOf separator item)) first middle) :
    ¬ Raises grammar (.optional separator) middle fault := by
  obtain ⟨found, last, hcollects, rfl⟩ := hpairs.many_collects hbegins
  have hlast := hcollects.succeeds hbegins
  have hmiddle : (last.withResult (.list found)).failed = false := hlast
  obtain ⟨-, next, ⟨between, hbetween, -⟩, -⟩ :=
    ((collects_pairOf_iff hbegins).mp hcollects).pairs_refused hprogress hbegins
  rw [raises_optional_iff hmiddle]
  intro hraises
  have hbefore := hraises.of_sameButResult hseparator hmiddle
    (⟨last.result, rfl⟩ : SameButResult (last.withResult (.list found)) last)
  exact hbefore.not_returns hbetween

include hseparator in
/-- What raises a fault in the expansion is the first item or one of the pairs. -/
theorem raises_expansion_iff
    (hprogress : Progress (Returns grammar separator) (Returns grammar item))
    (hstate : state.failed = false) :
    Raises grammar (expansion separator item) state fault ↔
      RaisesListed grammar separator item state fault := by
  simp only [expansion, raises_map_ok_iff, raises_optional_iff hstate, listOf,
    raises_sequence_iff_chained hstate, chained, raises_chain_iff]
  constructor
  · rintro (hfirst | ⟨first, hfirst, hbegins, hmany | ⟨middle, hpairs, hmiddle, hoptional |
      ⟨tried, -, -, hsucceed⟩⟩⟩)
    · exact Or.inl hfirst
    · obtain ⟨found, last, hrounds, hraises⟩ := (raises_many_iff hbegins).mp hmany
      exact Or.inr ⟨first, found, last, hfirst, hbegins, (rounds_pairOf_iff hbegins).mp hrounds,
        (raises_pairOf_iff (hrounds.succeeds hbegins)).mp hraises⟩
    · exact absurd hoptional (not_raises_optional_again hseparator hprogress hbegins hpairs)
    · exact absurd hsucceed not_raises_succeed
  · rintro (hfirst | ⟨first, found, last, hfirst, hbegins, hrounds, hraises⟩)
    · exact Or.inl hfirst
    · refine Or.inr ⟨first, hfirst, hbegins, Or.inl ((raises_many_iff hbegins).mpr ⟨found, last,
        (rounds_pairOf_iff hbegins).mpr hrounds, (raises_pairOf_iff ?_).mpr hraises⟩)⟩
      exact hrounds.succeeds hbegins

/-- So it is in a separated repetition, whose turns are those pairs. -/
theorem raises_separated_iff_listed
    (hprogress : Progress (Returns grammar separator) (Returns grammar item))
    (hstate : state.failed = false) :
    Raises grammar (.separated separator item) state fault ↔
      RaisesListed grammar separator item state fault := by
  rw [raises_separated_iff hstate]
  constructor
  · rintro ⟨values, last, hturns, hraises | ⟨next, hnext, hsuccess, hraises⟩⟩
    · rcases hturns.eq_nil_or_concat with ⟨rfl, rfl⟩ |
        ⟨before, value, middle, rfl, hbefore, next, hnext, hsuccess, -, hlast, hgoes, -⟩
      · exact Or.inl hraises
      · obtain ⟨first, found, hfirst, hbegins, hrounds, -⟩ :=
          hbefore.pairs_of_turns hprogress hnext hsuccess
        exact Or.inr ⟨first, found, next, hfirst, hbegins, hrounds,
          Or.inr ⟨last, hlast, hgoes, hraises⟩⟩
    · obtain ⟨first, found, hfirst, hbegins, hrounds, -⟩ :=
        hturns.pairs_of_turns hprogress hnext hsuccess
      exact Or.inr ⟨first, found, next, hfirst, hbegins, hrounds, Or.inl hraises⟩
  · rintro (hraises | ⟨first, found, last, hfirst, hbegins, hrounds, hraises⟩)
    · exact ⟨[], state, .nil state, Or.inl hraises⟩
    · obtain ⟨values, middle, hturns, hlast, hsuccess, -⟩ :=
        hrounds.turns_of_pairs hprogress hstate hfirst hbegins
      rcases hraises with hraises | ⟨between, hbetween, hgoes, hraises⟩
      · exact ⟨values, middle, hturns, Or.inr ⟨last, hlast, hsuccess, hraises⟩⟩
      · have hmoves := hprogress.turn (hturns.turns_succeed hstate) hlast hsuccess hbetween hgoes
        exact ⟨_, between,
          hturns.concat ⟨last, hlast, hsuccess, rfl, hbetween, hgoes, hmoves⟩, Or.inl hraises⟩

end Faults

section Expansion

include hitem hseparator in
theorem progress_of_moves (hmoves : Moves grammar separator ∨ Moves grammar item) :
    Progress (Returns grammar separator) (Returns grammar item) where
  turn := by
    intro state next between hstate hnext hsuccess hbetween hgoes
    have hfirst := (hnext.forward hitem).pos
    have hsecond := (hbetween.forward hseparator).pos
    rcases hmoves with hmoves | hmoves
    · have hdiffers := hmoves next between hsuccess hbetween hgoes
      omega
    · have hdiffers := hmoves state next hstate hnext hsuccess
      omega
  pair := by
    intro state between next hstate hbetween hgoes hnext hsuccess
    have hfirst := (hbetween.forward hseparator).pos
    have hsecond := (hnext.forward hitem).pos
    rcases hmoves with hmoves | hmoves
    · have hdiffers := hmoves state between hstate hbetween hgoes
      omega
    · have hdiffers := hmoves between next hgoes hnext hsuccess
      omega

theorem collectsSeparated_iff_listed
    (hprogress : Progress (Returns grammar separator) (Returns grammar item))
    (hstate : state.failed = false) {values : List Value} {last : State} :
    CollectsSeparated (Returns grammar separator) (Returns grammar item) state values last ↔
      Listed (Returns grammar separator) (Returns grammar item) state values last :=
  ⟨fun h => h.listed hprogress hstate, fun h => h.collectsSeparated
    (fun _ _ _ hnext hother => hnext.unique hother) hprogress hstate⟩

theorem returns_separated_iff_listed
    (hprogress : Progress (Returns grammar separator) (Returns grammar item))
    (hstate : state.failed = false) :
    Returns grammar (.separated separator item) state next ↔ ∃ values last,
      Listed (Returns grammar separator) (Returns grammar item) state values last ∧
        next = last.withResult (.list values) := by
  simp only [← collectsSeparated_iff_listed hprogress hstate]
  constructor
  · exact fun h => h.separated_collects hstate
  · rintro ⟨values, last, hcollects, rfl⟩
    exact Returns.separated hstate hcollects

include hitem hseparator in
/-- A separated repetition and its expansion end alike: with the same fault, or with states that are
the same in every field, or not at all. The repetition that needs an item ends with that state too
unless its list is empty; then it fails where it began. What they end with is a list with its
separators, where one separator may come last and an item that fails after it leaves nothing. -/
theorem separated_expands {session session' : Session ν} (hsession : session.Coherent grammar)
    (hsession' : session'.Coherent grammar)
    (hmoves : Moves grammar separator ∨ Moves grammar item) (hstate : state.failed = false) :
    Agree Eq (outcome grammar (.separated separator item) state session)
      (outcome grammar (expansion separator item) state session') ∧
    (∀ other,
      (∃ fuel, outcome grammar (.separated1 separator item) state session fuel = .done other) ↔
        ∃ fuel next values,
          outcome grammar (expansion separator item) state session' fuel = .done next ∧
          next.result = .list values ∧
          other = if values = [] then state.fail .exhausted (Wording.noSeparatedItem state)
            else next) ∧
    ∀ fuel next, outcome grammar (expansion separator item) state session' fuel = .done next →
      ∃ values last, Listed (Returns grammar separator) (Returns grammar item) state values last ∧
        next = last.withResult (.list values) := by
  have hprogress := progress_of_moves hitem hseparator hmoves
  refine ⟨?_, fun other => ?_, fun fuel next hnext => ?_⟩
  · refine agree_eq_of_iff hsession hsession' (fun next => ?_) fun fault => ?_
    · rw [returns_separated_iff_listed hprogress hstate, returns_expansion_iff hseparator hstate]
    · rw [raises_separated_iff_listed hprogress hstate,
        raises_expansion_iff hseparator hprogress hstate]
  · rw [← returns_iff_outcome hsession, returns_separated1_iff_collects hstate]
    simp only [collectsSeparated_iff_listed hprogress hstate]
    constructor
    · rintro ⟨values, last, hlisted, rfl⟩
      have hnext := (returns_expansion_iff hseparator hstate).mpr ⟨values, last, hlisted, rfl⟩
      obtain ⟨fuel, hfuel⟩ := (returns_iff_outcome hsession').mp hnext
      exact ⟨fuel, _, values, hfuel, rfl, rfl⟩
    · rintro ⟨fuel, next, values, hfuel, hvalues, rfl⟩
      have hnext := (returns_iff_outcome hsession').mpr ⟨fuel, hfuel⟩
      obtain ⟨found, last, hlisted, rfl⟩ := (returns_expansion_iff hseparator hstate).mp hnext
      obtain rfl : found = values := by simpa [State.withResult] using hvalues
      exact ⟨found, last, hlisted, rfl⟩
  · exact (returns_expansion_iff hseparator hstate).mp
      ((returns_iff_outcome hsession').mpr ⟨fuel, hnext⟩)

omit [DecidableEq ν] in
theorem everywhere_literal {good : Parser ν → Prop} {text : Text} {caseSensitive : Bool}
    (h : good (.literal text caseSensitive)) :
    Everywhere grammar good (.literal text caseSensitive) := .intro h fun _ hpart => by cases hpart

theorem moves_literal {text : Text} {caseSensitive : Bool} (h : text ≠ []) :
    Moves grammar (.literal text caseSensitive) := by
  intro state next hstate hnext hsuccess
  have hpositive := List.length_pos_iff.mpr h
  obtain rfl := hnext.unique (Returns.literal hstate)
  rcases matchLiteral_cases text caseSensitive state with
    ⟨-, heq⟩ | ⟨-, -, heq⟩ | ⟨-, -, heq⟩ <;> rw [heq] at hsuccess ⊢
  · cases hsuccess
  · simp only [State.moveTo]
    omega
  · cases hsuccess

/-- Letters `a` with commas between them. -/
def commaList : Grammar Unit := fun _ => .ok (separated (literal [44] true) (literal [97] true))

/-- The comma in front of the `b` belongs to the list, although the expansion has to read it
again. -/
theorem commaList_expands : ∃ fuel next,
    outcome commaList (expansion (literal [44] true) (literal [97] true))
      (State.start [97, 44, 97, 44, 98] false) .empty fuel = .done next ∧
    next.failed = false ∧ next.pos = 4 ∧ next.result = .list [.text [97], .text [97]] := by
  have hsession : Session.Coherent .empty commaList := Session.empty_coherent
  have hown {text : Text} :
      Everywhere commaList (fun part => part.isHandWritten = false) (literal text true) :=
    everywhere_literal rfl
  have hmoves : Moves commaList (literal [44] true) := moves_literal (by decide)
  obtain ⟨hagree, -, -⟩ := @separated_expands Unit _ commaList (literal [44] true)
    (literal [97] true) (State.start [97, 44, 97, 44, 98] false) hown hown _ _ hsession hsession
    (Or.inl hmoves) rfl
  obtain ⟨next, hnext, hfailed, hpos, hresult⟩ : ∃ next,
      outcome commaList (separated (literal [44] true) (literal [97] true))
        (State.start [97, 44, 97, 44, 98] false) .empty 9 = .done next ∧ next.failed = false ∧
        next.pos = 4 ∧ next.result = .list [.text [97], .text [97]] := ⟨_, rfl, rfl, rfl, rfl⟩
  obtain ⟨fuel, _, hexpansion, rfl⟩ := hagree.returned 9 next hnext
  exact ⟨fuel, next, hexpansion, hfailed, hpos, hresult⟩

end Expansion

end Parsers

end ParserCombinators.Parser
