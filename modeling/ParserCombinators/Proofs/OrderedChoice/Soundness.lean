import ParserCombinators.Proofs.Moves
import ParserCombinators.Proofs.OrderedChoice.Rules

/-!
Soundness of application for the semantics of ordered choice: the verdict of a state that an
expression returns is derivable. Each form follows from its rules and from what is derivable of
the parts that it applies.
-/

namespace ParserCombinators.Parser

variable {ν : Type} {grammar : Grammar ν}

section Soundness

variable {t : Text} {R : Parser ν → State → State → Prop}

/-- What `R` says of parts on the text `t` is derivable. -/
def DerivesAll (grammar : Grammar ν) (t : Text) (R : Parser ν → State → State → Prop) : Prop :=
  ∀ part middle next, R part middle next → middle.failed = false → middle.input = t →
    next.input = t ∧ Derives grammar t part middle.pos (verdict next)

variable (hR : DerivesAll grammar t R) {state middle : State} {values : List Value}

include hR

theorem DerivesAll.fails {part : Parser ν} {next : State} (h : R part middle next)
    (hmiddle : middle.failed = false) (hinput : middle.input = t) (hnext : next.failed = true) :
    Derives grammar t part middle.pos .fails := by
  have hderives := (hR part middle next h hmiddle hinput).2
  rwa [verdict_of_failed hnext] at hderives

theorem DerivesAll.yields {part : Parser ν} {next : State} (h : R part middle next)
    (hmiddle : middle.failed = false) (hinput : middle.input = t) (hnext : next.failed = false) :
    Derives grammar t part middle.pos (.yields next.pos next.result) := by
  have hderives := (hR part middle next h hmiddle hinput).2
  rwa [verdict_of_success hnext] at hderives

/-- Parts that succeed go before the rest of a sequence that yields. -/
theorem DerivesAll.through_yields {parts rest : List (Parser ν)} {k : Nat} {others : List Value}
    (h : Through R parts state values middle) (hstate : state.failed = false)
    (hinput : state.input = t)
    (hrest : Derives grammar t (.sequence rest) middle.pos (.yields k (.list others))) :
    Derives grammar t (.sequence (parts ++ rest)) state.pos
      (.yields k (.list (values ++ others))) := by
  induction h with
  | nil => exact hrest
  | cons hpart hnext _ ih =>
      have hnextInput := (hR _ _ _ hpart hstate hinput).1
      exact .sequence_cons (hR.yields hpart hstate hinput hnext) (ih hnext hnextInput hrest)

theorem DerivesAll.through_fails {parts rest : List (Parser ν)}
    (h : Through R parts state values middle) (hstate : state.failed = false)
    (hinput : state.input = t) (hrest : Derives grammar t (.sequence rest) middle.pos .fails) :
    Derives grammar t (.sequence (parts ++ rest)) state.pos .fails := by
  induction h with
  | nil => exact hrest
  | cons hpart hnext _ ih =>
      have hnextInput := (hR _ _ _ hpart hstate hinput).1
      exact .sequence_tail_fails (hR.yields hpart hstate hinput hnext) (ih hnext hnextInput hrest)

/-- Alternatives that fail go before the rest of a choice. -/
theorem DerivesAll.refuses {alternatives rest : List (Parser ν)} {v : Verdict}
    (h : Refuses R state alternatives) (hstate : state.failed = false) (hinput : state.input = t)
    (hrest : Derives grammar t (.choice rest) state.pos v) :
    Derives grammar t (.choice (alternatives ++ rest)) state.pos v := by
  induction h with
  | nil => exact hrest
  | cons halternative hfailed _ ih =>
      exact .choice_next (hR.fails halternative hstate hinput hfailed) ih

/-- Rounds go before the rest of a repetition. -/
theorem DerivesAll.rounds {item : Parser ν} (h : Rounds (Round (R item)) state values middle)
    (hstate : state.failed = false) (hinput : state.input = t) :
    middle.failed = false ∧ middle.input = t ∧ ∀ k others,
      Derives grammar t (.many item) middle.pos (.yields k (.list others)) →
      Derives grammar t (.many item) state.pos (.yields k (.list (values ++ others))) := by
  induction h with
  | nil => exact ⟨hstate, hinput, fun _ _ hrest => hrest⟩
  | cons hround _ ih =>
      obtain ⟨hitem, hnext, hpos, rfl⟩ := hround
      have hnextInput := (hR _ _ _ hitem hstate hinput).1
      obtain ⟨hmiddle, hmiddleInput, hextend⟩ := ih hnext hnextInput
      refine ⟨hmiddle, hmiddleInput, ?_⟩
      intro k others hrest
      exact .many_cons (hR.yields hitem hstate hinput hnext) hpos (hextend k others hrest)

theorem DerivesAll.turns {separator item : Parser ν}
    (h : Rounds (Turn (R separator) (R item)) state values middle)
    (hstate : state.failed = false) (hinput : state.input = t) :
    middle.failed = false ∧ middle.input = t ∧ ∀ k others,
      Derives grammar t (.separated separator item) middle.pos (.yields k (.list others)) →
      Derives grammar t (.separated separator item) state.pos
        (.yields k (.list (values ++ others))) := by
  induction h with
  | nil => exact ⟨hstate, hinput, fun _ _ hrest => hrest⟩
  | cons hturn _ ih =>
      obtain ⟨next, hitem, hnext, rfl, hseparator, hbetween, hpos⟩ := hturn
      have hnextInput := (hR _ _ _ hitem hstate hinput).1
      have hbetweenInput := (hR _ _ _ hseparator hnext hnextInput).1
      obtain ⟨hmiddle, hmiddleInput, hextend⟩ := ih hbetween hbetweenInput
      refine ⟨hmiddle, hmiddleInput, ?_⟩
      intro k others hrest
      exact .separated_cons (hR.yields hitem hstate hinput hnext)
        (hR.yields hseparator hnext hnextInput hbetween) hpos (hextend k others hrest)

theorem DerivesAll.collects {item : Parser ν} {last : State}
    (h : Collects (R item) state values last) (hstate : state.failed = false)
    (hinput : state.input = t) :
    last.failed = false ∧
      Derives grammar t (.many item) state.pos (.yields last.pos (.list values)) := by
  cases h with
  | refused hrounds hitem hfailed =>
      obtain ⟨hlast, hlastInput, hextend⟩ := hR.rounds hrounds hstate hinput
      have hend := hextend _ [] (.many_nil (hR.fails hitem hlast hlastInput hfailed))
      rw [List.append_nil] at hend
      exact ⟨hlast, hend⟩
  | still hrounds hitem hnext hpos =>
      obtain ⟨hmiddle, hmiddleInput, hextend⟩ := hR.rounds hrounds hstate hinput
      have hyields := hR.yields hitem hmiddle hmiddleInput hnext
      refine ⟨hnext, ?_⟩
      rw [hpos] at hyields ⊢
      exact hextend _ _ (.many_still hyields)

theorem DerivesAll.collectsSeparated {separator item : Parser ν} {last : State}
    (h : CollectsSeparated (R separator) (R item) state values last)
    (hstate : state.failed = false) (hinput : state.input = t) :
    last.failed = false ∧
      Derives grammar t (.separated separator item) state.pos
        (.yields last.pos (.list values)) := by
  cases h with
  | refused hturns hitem hfailed =>
      obtain ⟨hlast, hlastInput, hextend⟩ := hR.turns hturns hstate hinput
      have hend := hextend _ [] (.separated_nil (hR.fails hitem hlast hlastInput hfailed))
      rw [List.append_nil] at hend
      exact ⟨hlast, hend⟩
  | unseparated hturns hitem hnext hseparator hends =>
      obtain ⟨hmiddle, hmiddleInput, hextend⟩ := hR.turns hturns hstate hinput
      have hyields := hR.yields hitem hmiddle hmiddleInput hnext
      have hnextInput := (hR _ _ _ hitem hmiddle hmiddleInput).1
      refine ⟨hnext, hextend _ _ ?_⟩
      cases hbetween : State.failed _ with
      | true =>
          exact .separated_last hyields (hR.fails hseparator hnext hnextInput hbetween)
      | false =>
          have hpos := hends.resolve_left (by simp [hbetween])
          have hback := hR.yields hseparator hnext hnextInput hbetween
          rw [hpos] at hback
          exact .separated_still hyields hback

/-- A part that fails after those before it is where the sequence fails. -/
theorem DerivesAll.stops {before after : List (Parser ν)} {part : Parser ν} {next : State}
    (h : Through R before state values middle) (hpart : R part middle next)
    (hstate : state.failed = false) (hinput : state.input = t) (hnext : next.failed = true) :
    Derives grammar t (.sequence (before ++ part :: after)) state.pos .fails := by
  have hkeeps (part : Parser ν) (middle last : State) (h : R part middle last)
      (hlast : last.failed = false) (hmiddle : middle.failed = false ∧ middle.input = t) :
      last.failed = false ∧ last.input = t :=
    ⟨hlast, (hR part middle last h hmiddle.1 hmiddle.2).1⟩
  obtain ⟨hmiddle, hmiddleInput⟩ := h.preserves hkeeps ⟨hstate, hinput⟩
  exact hR.through_fails h hstate hinput
    (.sequence_head_fails (hR.fails hpart hmiddle hmiddleInput hnext))

end Soundness

section Terminals

variable {state : State} (hstate : state.failed = false)

include hstate

theorem derives_matchLiteral (text : Text) :
    Derives grammar state.input (.literal text true) state.pos
      (verdict (matchLiteral text true state)) := by
  rcases matchLiteral_cases text true state with ⟨hend, h⟩ | ⟨hleft, hreads, h⟩ |
    ⟨hleft, hdiffers, h⟩
  · rw [h]
    exact .literal_at_end hend
  · rw [h, verdict_moveTo hstate]
    exact .literal hleft (reads_ahead_iff.mp hreads)
  · rw [h]
    exact .literal_differs hleft fun hahead => hdiffers (reads_ahead_iff.mpr hahead)

theorem derives_matchPattern (name expected : Text) (compiled : Regex.Pattern) :
    Derives grammar state.input (.pattern name compiled expected) state.pos
      (verdict (matchPattern name compiled expected state)) := by
  rcases matchPattern_cases name compiled expected state with ⟨hend, h⟩ |
    ⟨found, hleft, hfound, h⟩ | ⟨hleft, hnone, h⟩
  · rw [h]
    exact .pattern_at_end hend
  · rw [h, verdict_moveTo hstate]
    exact .pattern hleft hfound
  · rw [h]
    exact .pattern_differs hleft hnone

theorem derives_matchEnd :
    Derives grammar state.input .endOfInput state.pos (verdict (matchEnd state)) := by
  rcases Nat.lt_or_ge state.pos state.input.length with hleft | hend
  · rw [matchEnd_of_left hleft]
    exact .endOfInput_left hleft
  · rw [matchEnd_at_end hend, verdict_withResult hstate]
    exact .endOfInput hend

end Terminals

/-- What an expression does is derivable if what its parts return is. -/
theorem Acts.derives {R : Parser ν → State → State → Prop} {parser : Parser ν}
    {state next : State} (h : Acts grammar R parser state next)
    (hR : DerivesAll grammar state.input R) (hform : parser.isOrderedChoice = true)
    (hstate : state.failed = false) :
    Derives grammar state.input parser state.pos (verdict next) := by
  cases h with
  | @literal text caseSensitive _ _ =>
      obtain rfl : caseSensitive = true := hform
      exact derives_matchLiteral hstate text
  | pattern _ => exact derives_matchPattern hstate _ _ _
  | endOfInput _ => exact derives_matchEnd hstate
  | succeed _ =>
      rw [verdict_withResult hstate]
      exact .succeed _ _
  | fail _ => exact .fail _ _
  | @sequence parts _ last values _ hthrough =>
      rw [verdict_withResult (hthrough.failed_eq hstate)]
      have hend := hR.through_yields hthrough hstate rfl (.sequence_nil last.pos)
      simpa using hend
  | sequence_stop _ hthrough hpart hfailed =>
      rw [verdict_of_failed hfailed]
      exact hR.stops hthrough hpart hstate rfl hfailed
  | choice _ hbefore halternative hnext =>
      rw [verdict_of_success hnext]
      exact hR.refuses hbefore hstate rfl
        (.choice_first (hR.yields halternative hstate rfl hnext))
  | @choice_none alternatives _ _ hnone =>
      have hend := hR.refuses hnone hstate rfl (.choice_nil state.pos)
      rwa [List.append_nil] at hend
  | many _ hcollects =>
      obtain ⟨hlast, hderives⟩ := hR.collects hcollects hstate rfl
      rw [verdict_withResult hlast]
      exact hderives
  | @many1 item _ last values _ hcollects hsome =>
      obtain ⟨hlast, hderives⟩ := hR.collects hcollects hstate rfl
      rw [verdict_withResult hlast]
      obtain ⟨value, values, rfl⟩ := List.exists_cons_of_ne_nil hsome
      exact .many1 hderives
  | many1_none _ hcollects =>
      obtain ⟨first, hitem, hfailed⟩ := hcollects.nil_refused
      exact .many1_fails (hR.fails hitem hstate rfl hfailed)
  | separated _ hcollects =>
      obtain ⟨hlast, hderives⟩ := hR.collectsSeparated hcollects hstate rfl
      rw [verdict_withResult hlast]
      exact hderives
  | separated1 _ hcollects hsome =>
      obtain ⟨hlast, hderives⟩ := hR.collectsSeparated hcollects hstate rfl
      rw [verdict_withResult hlast]
      obtain ⟨value, values, rfl⟩ := List.exists_cons_of_ne_nil hsome
      exact .separated1 hderives
  | separated1_none _ hcollects =>
      obtain ⟨first, hitem, hfailed⟩ := hcollects.nil_refused
      exact .separated1_fails (hR.fails hitem hstate rfl hfailed)
  | optional _ hitem hnext =>
      rw [verdict_of_success hnext]
      exact .optional (hR.yields hitem hstate rfl hnext)
  | optional_none _ hitem hnext =>
      rw [verdict_withResult hstate]
      exact .optional_none (hR.fails hitem hstate rfl hnext)
  | lazy hbody => exact .lazy (hR _ _ _ hbody hstate rfl).2
  | ref hname hbody => exact .ref hname (hR _ _ _ hbody hstate rfl).2
  | map hsource hnext hvalue =>
      rw [verdict_withResult hnext]
      exact .map (hR.yields hsource hstate rfl hnext) hvalue
  | map_failed hsource hnext =>
      rw [verdict_of_failed hnext]
      exact .map_fails (hR.fails hsource hstate rfl hnext)
  | _ => cases hform

variable [DecidableEq ν]

/-- What an expression returns for a state that has not failed is derivable. -/
theorem derives_of_returns {parser : Parser ν} {state next : State}
    (hform : Everywhere grammar (fun part => part.isOrderedChoice = true) parser)
    (h : Returns grammar parser state next) (hstate : state.failed = false) :
    Derives grammar state.input parser state.pos (verdict next) := by
  have hown : ∀ part : Parser ν, part.isOrderedChoice = true → part.isHandWritten = false := by
    intro part hpart
    cases part <;> simp_all [isOrderedChoice, isHandWritten]
  refine Returns.induction_within (motive := fun parser state next => state.failed = false →
    Derives grammar state.input parser state.pos (verdict next)) ?_ hform h hstate
  clear hform h hstate parser state next
  intro parser state next hform hlayer hstate
  refine (hlayer.of_succeeded hstate).derives ?_ hform.self hstate
  -- No part changes the input, so what is derivable of it is derivable on the text of the whole.
  rintro part middle last ⟨hcall, hreturns, hderives⟩ hmiddle hinput
  have hframe := hreturns.frame ((hform.of_part hcall.part).mono hown)
  exact ⟨hframe.1.trans hinput, hinput ▸ hderives hmiddle⟩

end ParserCombinators.Parser
