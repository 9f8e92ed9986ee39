import ParserCombinators.Proofs.Calls
import ParserCombinators.Proofs.OrderedChoice.Rules

/-!
Completeness of application for the semantics of ordered choice: a state with the derivable verdict
is returned. There is one lemma for each rule of the semantics.
-/

namespace ParserCombinators.Parser

variable {ν : Type} [DecidableEq ν] {grammar : Grammar ν} {state last : State}

/-- A sequence that succeeds has gone through its parts. -/
theorem Returns.sequence_through {parts : List (Parser ν)}
    (h : Returns grammar (.sequence parts) state last) (hstate : state.failed = false)
    (hlast : last.failed = false) :
    ∃ values middle, Through (Returns grammar) parts state values middle ∧
      last = middle.withResult (.list values) := by
  cases h.acts hstate with
  | sequence _ hthrough => exact ⟨_, _, hthrough, rfl⟩
  | sequence_stop _ _ _ hfailed => simp [hlast] at hfailed

theorem Returns.sequence_stopped {parts : List (Parser ν)}
    (h : Returns grammar (.sequence parts) state last) (hstate : state.failed = false)
    (hlast : last.failed = true) :
    ∃ before part after values middle, parts = before ++ part :: after ∧
      Through (Returns grammar) before state values middle ∧ Returns grammar part middle last := by
  cases h.acts hstate with
  | sequence _ hthrough =>
      have hmiddle := hthrough.failed_eq hstate
      exact absurd hlast (Bool.eq_false_iff.mp hmiddle)
  | sequence_stop _ hthrough hpart _ => exact ⟨_, _, _, _, _, rfl, hthrough, hpart⟩

/-- An alternative that fails can be put before the others. -/
theorem Returns.choice_cons {alternative : Parser ν} {alternatives : List (Parser ν)}
    {next : State} (h : Returns grammar (.choice alternatives) state last)
    (halternative : Returns grammar alternative state next) (hnext : next.failed = true)
    (hstate : state.failed = false) :
    Returns grammar (.choice (alternative :: alternatives)) state last := by
  cases h.acts hstate with
  | choice _ hbefore hchosen hlast =>
      rw [← List.cons_append]
      exact .choice hstate (.cons halternative hnext hbefore) hchosen hlast
  | choice_none _ hnone => exact .choice_none hstate (.cons halternative hnext hnone)

/-- The expression answers the verdict: for every state at the position of the text that has not
failed, it returns a state with this verdict. -/
def Answers (grammar : Grammar ν) (t : Text) (parser : Parser ν) (i : Nat) (v : Verdict) : Prop :=
  ∀ state : State, state.failed = false → state.input = t → state.pos = i →
    ∃ next, Returns grammar parser state next ∧ next.input = t ∧ verdict next = v

section Answers

variable {t : Text} {i j k : Nat} {value between : Value} {values : List Value}

theorem Answers.yields {parser : Parser ν} (h : Answers grammar t parser i (.yields j value))
    (state : State) (hstate : state.failed = false) (hinput : state.input = t)
    (hpos : state.pos = i) :
    ∃ next, Returns grammar parser state next ∧ next.input = t ∧ next.failed = false ∧
      next.pos = j ∧ next.result = value := by
  obtain ⟨next, hnext, hnextInput, hverdict⟩ := h state hstate hinput hpos
  exact ⟨next, hnext, hnextInput, verdict_eq_yields_iff.mp hverdict⟩

theorem Answers.fails {parser : Parser ν} (h : Answers grammar t parser i .fails) (state : State)
    (hstate : state.failed = false) (hinput : state.input = t) (hpos : state.pos = i) :
    ∃ next, Returns grammar parser state next ∧ next.input = t ∧ next.failed = true := by
  obtain ⟨next, hnext, hnextInput, hverdict⟩ := h state hstate hinput hpos
  exact ⟨next, hnext, hnextInput, verdict_eq_fails_iff.mp hverdict⟩

theorem Answers.literal {text : Text} (hleft : i < t.length) (hahead : text <+: t.drop i) :
    Answers grammar t (.literal text true) i (.yields (i + text.length) (.text text)) := by
  rintro state hstate rfl rfl
  refine ⟨_, Returns.literal hstate, ?_⟩
  rw [matchLiteral_of_reads hleft (reads_ahead_iff.mpr hahead)]
  exact ⟨rfl, verdict_moveTo hstate _ _⟩

theorem Answers.literal_differs {text : Text} (hleft : i < t.length)
    (hdiffers : ¬ text <+: t.drop i) : Answers grammar t (.literal text true) i .fails := by
  rintro state hstate rfl rfl
  refine ⟨_, Returns.literal hstate, ?_⟩
  rw [matchLiteral_of_differs hleft fun hreads => hdiffers (reads_ahead_iff.mp hreads)]
  exact ⟨rfl, rfl⟩

theorem Answers.literal_at_end {text : Text} (hend : t.length ≤ i) :
    Answers grammar t (.literal text true) i .fails := by
  rintro state hstate rfl rfl
  refine ⟨_, Returns.literal hstate, ?_⟩
  rw [matchLiteral_at_end hend]
  exact ⟨rfl, rfl⟩

theorem Answers.literal_absent {text : Text} (habsent : ¬ text <+: t.drop i) :
    Answers grammar t (.literal text true) i .fails := by
  rcases Nat.lt_or_ge i t.length with hleft | hend
  · exact .literal_differs hleft habsent
  · exact .literal_at_end hend

theorem lt_length_of_drop_eq_append {text tail : Text} (hahead : t.drop i = text ++ tail)
    (htext : text ≠ []) : i < t.length := by
  by_contra hend
  rw [List.drop_eq_nil_of_le (by omega)] at hahead
  exact htext (List.append_eq_nil_iff.mp hahead.symm).1

/-- What is ahead once the text has been passed. -/
theorem drop_after_append {text tail : Text} (hahead : t.drop i = text ++ tail) :
    t.drop (i + text.length) = tail := by
  rw [← List.drop_drop, hahead, List.drop_left]

theorem drop_after_cons {c : Nat} {tail : Text} (hahead : t.drop i = c :: tail) :
    t.drop (i + 1) = tail := by
  rw [← List.drop_drop, hahead, List.drop_one, List.tail_cons]

theorem Answers.literal_ahead {text tail : Text} (hahead : t.drop i = text ++ tail)
    (htext : text ≠ []) :
    Answers grammar t (.literal text true) i (.yields (i + text.length) (.text text)) :=
  .literal (lt_length_of_drop_eq_append hahead htext) (hahead ▸ List.prefix_append text tail)

/-- Another character is ahead than the first of the literal, or none. -/
theorem Answers.literal_other {text : Text} {c : Nat} (hahead : ∀ d ∈ (t.drop i).head?, d ≠ c) :
    Answers grammar t (.literal (c :: text) true) i .fails := by
  refine .literal_absent ?_
  rintro ⟨tail, htail⟩
  exact hahead c (by rw [← htail]; rfl) rfl

theorem Answers.pattern {name expected found : Text} {compiled : Regex.Pattern}
    (hleft : i < t.length) (hfound : compiled.matchAt? t i = some found) :
    Answers grammar t (.pattern name compiled expected) i
      (.yields (i + found.length) (.text found)) := by
  rintro state hstate rfl rfl
  refine ⟨_, Returns.pattern hstate, ?_⟩
  rw [matchPattern_of_some hleft hfound]
  exact ⟨rfl, verdict_moveTo hstate _ _⟩

theorem Answers.pattern_differs {name expected : Text} {compiled : Regex.Pattern}
    (hleft : i < t.length) (hnone : compiled.matchAt? t i = none) :
    Answers grammar t (.pattern name compiled expected) i .fails := by
  rintro state hstate rfl rfl
  refine ⟨_, Returns.pattern hstate, ?_⟩
  rw [matchPattern_of_none hleft hnone]
  exact ⟨rfl, rfl⟩

theorem Answers.pattern_at_end {name expected : Text} {compiled : Regex.Pattern}
    (hend : t.length ≤ i) : Answers grammar t (.pattern name compiled expected) i .fails := by
  rintro state hstate rfl rfl
  refine ⟨_, Returns.pattern hstate, ?_⟩
  rw [matchPattern_at_end hend]
  exact ⟨rfl, rfl⟩

theorem Answers.endOfInput (hend : t.length ≤ i) :
    Answers grammar t .endOfInput i (.yields i .null) := by
  rintro state hstate rfl rfl
  refine ⟨_, Returns.endOfInput hstate, ?_⟩
  rw [matchEnd_at_end hend]
  exact ⟨rfl, verdict_withResult hstate _⟩

theorem Answers.endOfInput_left (hleft : i < t.length) :
    Answers grammar t .endOfInput i .fails := by
  rintro state hstate rfl rfl
  refine ⟨_, Returns.endOfInput hstate, ?_⟩
  rw [matchEnd_of_left hleft]
  exact ⟨rfl, rfl⟩

theorem Answers.map {source : Parser ν} {f : Value → Except Fault Value} {image : Value}
    (h : Answers grammar t source i (.yields j value)) (hvalue : f value = .ok image) :
    Answers grammar t (.map source f) i (.yields j image) := by
  intro state hstate hinput hpos
  obtain ⟨next, hsource, hnextInput, hnext, rfl, rfl⟩ := h.yields state hstate hinput hpos
  exact ⟨_, Returns.map hsource hnext hvalue, hnextInput, verdict_withResult hnext _⟩

theorem Answers.map_fails {source : Parser ν} {f : Value → Except Fault Value}
    (h : Answers grammar t source i .fails) : Answers grammar t (.map source f) i .fails := by
  intro state hstate hinput hpos
  obtain ⟨next, hsource, hnextInput, hverdict⟩ := h state hstate hinput hpos
  have hnext := verdict_eq_fails_iff.mp hverdict
  exact ⟨next, Returns.map_failed hsource hnext, hnextInput, hverdict⟩

theorem Answers.sequence_nil (i : Nat) :
    Answers grammar t (.sequence []) i (.yields i (.list [])) := by
  rintro state hstate hinput rfl
  exact ⟨_, Returns.sequence hstate (.nil state), hinput, verdict_withResult hstate _⟩

theorem Answers.sequence_cons {part : Parser ν} {parts : List (Parser ν)}
    (ihPart : Answers grammar t part i (.yields j value))
    (ihParts : Answers grammar t (.sequence parts) j (.yields k (.list values))) :
    Answers grammar t (.sequence (part :: parts)) i (.yields k (.list (value :: values))) := by
  intro state hstate hinput hpos
  obtain ⟨next, hpart, hnextInput, hnext, hnextPos, rfl⟩ := ihPart.yields state hstate hinput hpos
  obtain ⟨last, hparts, hlastInput, hlast, rfl, hresult⟩ :=
    ihParts.yields next hnext hnextInput hnextPos
  obtain ⟨found, middle, hthrough, rfl⟩ := hparts.sequence_through hnext hlast
  obtain rfl := Value.list.inj hresult
  exact ⟨_, Returns.sequence hstate (.cons hpart hnext hthrough), hlastInput,
    verdict_withResult hlast _⟩

theorem Answers.sequence_head_fails {part : Parser ν} {parts : List (Parser ν)}
    (h : Answers grammar t part i .fails) :
    Answers grammar t (.sequence (part :: parts)) i .fails := by
  intro state hstate hinput hpos
  obtain ⟨next, hpart, hnextInput, hverdict⟩ := h state hstate hinput hpos
  have hnext := verdict_eq_fails_iff.mp hverdict
  exact ⟨next, Returns.sequence_stop hstate (.nil state) hpart hnext, hnextInput, hverdict⟩

theorem Answers.sequence_tail_fails {part : Parser ν} {parts : List (Parser ν)}
    (ihPart : Answers grammar t part i (.yields j value))
    (ihParts : Answers grammar t (.sequence parts) j .fails) :
    Answers grammar t (.sequence (part :: parts)) i .fails := by
  intro state hstate hinput hpos
  obtain ⟨next, hpart, hnextInput, hnext, hnextPos, -⟩ := ihPart.yields state hstate hinput hpos
  obtain ⟨last, hparts, hlastInput, hfails⟩ := ihParts next hnext hnextInput hnextPos
  have hlast := verdict_eq_fails_iff.mp hfails
  obtain ⟨before, stop, after, found, middle, rfl, hthrough, hstop⟩ :=
    hparts.sequence_stopped hnext hlast
  rw [← List.cons_append]
  exact ⟨last, Returns.sequence_stop hstate (.cons hpart hnext hthrough) hstop hlast,
    hlastInput, hfails⟩

theorem Answers.choice_first {alternative : Parser ν} {alternatives : List (Parser ν)}
    (h : Answers grammar t alternative i (.yields j value)) :
    Answers grammar t (.choice (alternative :: alternatives)) i (.yields j value) := by
  intro state hstate hinput hpos
  obtain ⟨next, halternative, hnextInput, hverdict⟩ := h state hstate hinput hpos
  obtain ⟨hnext, -, -⟩ := verdict_eq_yields_iff.mp hverdict
  have hchosen : Returns grammar (.choice ([] ++ alternative :: alternatives)) state next :=
    .choice hstate .nil halternative hnext
  exact ⟨next, hchosen, hnextInput, hverdict⟩

theorem Answers.choice_next {alternative : Parser ν} {alternatives : List (Parser ν)} {v : Verdict}
    (ihFirst : Answers grammar t alternative i .fails)
    (ihRest : Answers grammar t (.choice alternatives) i v) :
    Answers grammar t (.choice (alternative :: alternatives)) i v := by
  intro state hstate hinput hpos
  obtain ⟨next, halternative, -, hnext⟩ := ihFirst.fails state hstate hinput hpos
  obtain ⟨last, hrest, hlastInput, hverdict⟩ := ihRest state hstate hinput hpos
  exact ⟨last, hrest.choice_cons halternative hnext hstate, hlastInput, hverdict⟩

theorem Answers.optional {item : Parser ν} (h : Answers grammar t item i (.yields j value)) :
    Answers grammar t (.optional item) i (.yields j value) := by
  intro state hstate hinput hpos
  obtain ⟨next, hitem, hnextInput, hverdict⟩ := h state hstate hinput hpos
  obtain ⟨hnext, -, -⟩ := verdict_eq_yields_iff.mp hverdict
  exact ⟨next, Returns.optional hstate hitem hnext, hnextInput, hverdict⟩

theorem Answers.optional_none {item : Parser ν} (h : Answers grammar t item i .fails) :
    Answers grammar t (.optional item) i (.yields i .null) := by
  rintro state hstate hinput rfl
  obtain ⟨next, hitem, -, hnext⟩ := h.fails state hstate hinput rfl
  exact ⟨_, Returns.optional_none hstate hitem hnext, hinput, verdict_withResult hstate _⟩

theorem Answers.many_nil {item : Parser ν} (h : Answers grammar t item i .fails) :
    Answers grammar t (.many item) i (.yields i (.list [])) := by
  rintro state hstate hinput rfl
  obtain ⟨next, hitem, -, hnext⟩ := h.fails state hstate hinput rfl
  exact ⟨_, Returns.many hstate (.refused (.nil state) hitem hnext), hinput,
    verdict_withResult hstate _⟩

theorem Answers.many_still {item : Parser ν} (h : Answers grammar t item i (.yields i value)) :
    Answers grammar t (.many item) i (.yields i (.list [value])) := by
  intro state hstate hinput hpos
  obtain ⟨next, hitem, hnextInput, hnext, hnextPos, rfl⟩ := h.yields state hstate hinput hpos
  have hcollects := Collects.still (.nil state) hitem hnext (hnextPos.trans hpos.symm)
  refine ⟨_, Returns.many hstate hcollects, hnextInput, ?_⟩
  rw [verdict_withResult hnext, hnextPos, List.nil_append]

theorem Answers.many_cons {item : Parser ν} (ihItem : Answers grammar t item i (.yields j value))
    (hmoves : j ≠ i) (ihRest : Answers grammar t (.many item) j (.yields k (.list values))) :
    Answers grammar t (.many item) i (.yields k (.list (value :: values))) := by
  intro state hstate hinput hpos
  obtain ⟨next, hitem, hnextInput, hnext, hnextPos, rfl⟩ := ihItem.yields state hstate hinput hpos
  obtain ⟨last, hrest, hlastInput, hlast, rfl, hresult⟩ :=
    ihRest.yields next hnext hnextInput hnextPos
  -- The rest has returned what it collected; this item is one more round before it.
  obtain ⟨found, middle, hcollects, rfl⟩ := hrest.many_collects hnext
  obtain rfl := Value.list.inj hresult
  have hround : Round (Returns grammar item) state next.result next :=
    ⟨hitem, hnext, by rwa [hnextPos, hpos], rfl⟩
  exact ⟨_, Returns.many hstate (hcollects.cons hround), hlastInput,
    verdict_withResult hlast _⟩

theorem Answers.many1 {item : Parser ν}
    (h : Answers grammar t (.many item) i (.yields j (.list (value :: values)))) :
    Answers grammar t (.many1 item) i (.yields j (.list (value :: values))) := by
  intro state hstate hinput hpos
  obtain ⟨last, hmany, hlastInput, hyields⟩ := h state hstate hinput hpos
  obtain ⟨hlast, rfl, hresult⟩ := verdict_eq_yields_iff.mp hyields
  obtain ⟨found, middle, hcollects, rfl⟩ := hmany.many_collects hstate
  obtain rfl := Value.list.inj hresult
  exact ⟨_, Returns.many1 hstate hcollects (List.cons_ne_nil _ _), hlastInput, hyields⟩

theorem Answers.many1_fails {item : Parser ν} (h : Answers grammar t item i .fails) :
    Answers grammar t (.many1 item) i .fails := by
  intro state hstate hinput hpos
  obtain ⟨next, hitem, -, hnext⟩ := h.fails state hstate hinput hpos
  exact ⟨_, Returns.many1_none hstate (.refused (.nil state) hitem hnext), hinput, rfl⟩

variable {separator item : Parser ν}

theorem Answers.separated_nil (h : Answers grammar t item i .fails) :
    Answers grammar t (.separated separator item) i (.yields i (.list [])) := by
  rintro state hstate hinput rfl
  obtain ⟨next, hitem, -, hnext⟩ := h.fails state hstate hinput rfl
  exact ⟨_, Returns.separated hstate (.refused (.nil state) hitem hnext), hinput,
    verdict_withResult hstate _⟩

theorem Answers.separated_last (ihItem : Answers grammar t item i (.yields j value))
    (ihSeparator : Answers grammar t separator j .fails) :
    Answers grammar t (.separated separator item) i (.yields j (.list [value])) := by
  intro state hstate hinput hpos
  obtain ⟨next, hitem, hnextInput, hnext, hnextPos, rfl⟩ := ihItem.yields state hstate hinput hpos
  obtain ⟨after, hseparator, -, hfails⟩ := ihSeparator next hnext hnextInput hnextPos
  have hcollects := CollectsSeparated.unseparated (.nil state) hitem hnext hseparator
    (Or.inl (verdict_eq_fails_iff.mp hfails))
  refine ⟨_, Returns.separated hstate hcollects, hnextInput, ?_⟩
  rw [verdict_withResult hnext, hnextPos, List.nil_append]

theorem Answers.separated_still (ihItem : Answers grammar t item i (.yields j value))
    (ihSeparator : Answers grammar t separator j (.yields i between)) :
    Answers grammar t (.separated separator item) i (.yields j (.list [value])) := by
  intro state hstate hinput hpos
  obtain ⟨next, hitem, hnextInput, hnext, hnextPos, rfl⟩ := ihItem.yields state hstate hinput hpos
  obtain ⟨after, hseparator, -, -, hback, -⟩ := ihSeparator.yields next hnext hnextInput hnextPos
  have hcollects := CollectsSeparated.unseparated (.nil state) hitem hnext hseparator
    (Or.inr (hback.trans hpos.symm))
  refine ⟨_, Returns.separated hstate hcollects, hnextInput, ?_⟩
  rw [verdict_withResult hnext, hnextPos, List.nil_append]

theorem Answers.separated_cons {l : Nat} (ihItem : Answers grammar t item i (.yields j value))
    (ihSeparator : Answers grammar t separator j (.yields k between)) (hmoves : k ≠ i)
    (ihRest : Answers grammar t (.separated separator item) k (.yields l (.list values))) :
    Answers grammar t (.separated separator item) i (.yields l (.list (value :: values))) := by
  intro state hstate hinput hpos
  obtain ⟨next, hitem, hnextInput, hnext, hnextPos, rfl⟩ := ihItem.yields state hstate hinput hpos
  obtain ⟨after, hseparator, hafterInput, hafter, hafterPos, -⟩ :=
    ihSeparator.yields next hnext hnextInput hnextPos
  obtain ⟨last, hrest, hlastInput, hlast, rfl, hresult⟩ :=
    ihRest.yields after hafter hafterInput hafterPos
  obtain ⟨found, middle, hcollects, rfl⟩ := hrest.separated_collects hafter
  obtain rfl := Value.list.inj hresult
  have hturn : Turn (Returns grammar separator) (Returns grammar item) state next.result after :=
    ⟨next, hitem, hnext, rfl, hseparator, hafter, by rwa [hafterPos, hpos]⟩
  exact ⟨_, Returns.separated hstate (hcollects.cons hturn), hlastInput,
    verdict_withResult hlast _⟩

theorem Answers.separated1
    (h : Answers grammar t (.separated separator item) i (.yields j (.list (value :: values)))) :
    Answers grammar t (.separated1 separator item) i (.yields j (.list (value :: values))) := by
  intro state hstate hinput hpos
  obtain ⟨last, hmany, hlastInput, hyields⟩ := h state hstate hinput hpos
  obtain ⟨hlast, rfl, hresult⟩ := verdict_eq_yields_iff.mp hyields
  obtain ⟨found, middle, hcollects, rfl⟩ := hmany.separated_collects hstate
  obtain rfl := Value.list.inj hresult
  exact ⟨_, Returns.separated1 hstate hcollects (List.cons_ne_nil _ _), hlastInput, hyields⟩

theorem Answers.separated1_fails (h : Answers grammar t item i .fails) :
    Answers grammar t (.separated1 separator item) i .fails := by
  intro state hstate hinput hpos
  obtain ⟨next, hitem, -, hnext⟩ := h.fails state hstate hinput hpos
  exact ⟨_, Returns.separated1_none hstate (.refused (.nil state) hitem hnext), hinput, rfl⟩

theorem Answers.lazy {body : Parser ν} {v : Verdict} (h : Answers grammar t body i v) :
    Answers grammar t (.lazy body) i v := by
  intro state hstate hinput hpos
  obtain ⟨next, hbody, hnext⟩ := h state hstate hinput hpos
  exact ⟨next, Returns.lazy hbody, hnext⟩

theorem Answers.ref {name : ν} {body : Parser ν} {v : Verdict} (hname : grammar name = .ok body)
    (h : Answers grammar t body i v) : Answers grammar t (.ref name) i v := by
  intro state hstate hinput hpos
  obtain ⟨next, hbody, hnext⟩ := h state hstate hinput hpos
  exact ⟨next, Returns.ref hname hbody, hnext⟩

theorem Answers.enclosed {left right content : Parser ν} {l : Nat} {before after : Value}
    (hleft : Answers grammar t left i (.yields j before))
    (hcontent : Answers grammar t content j (.yields k value))
    (hright : Answers grammar t right k (.yields l after)) :
    Answers grammar t (Parser.between left right content) i (.yields l value) :=
  .map (hleft.sequence_cons (hcontent.sequence_cons (hright.sequence_cons (.sequence_nil l)))) rfl

/-- What is derivable is answered. The induction is on the derivation, and each rule is followed
by one layer. -/
theorem answers_of_derives {parser : Parser ν} {v : Verdict} (h : Derives grammar t parser i v) :
    Answers grammar t parser i v := by
  induction h with
  | literal hleft hahead => exact .literal hleft hahead
  | literal_differs hleft hdiffers => exact .literal_differs hleft hdiffers
  | literal_at_end hend => exact .literal_at_end hend
  | pattern hleft hfound => exact .pattern hleft hfound
  | pattern_differs hleft hnone => exact .pattern_differs hleft hnone
  | pattern_at_end hend => exact .pattern_at_end hend
  | endOfInput hend => exact .endOfInput hend
  | endOfInput_left hleft => exact .endOfInput_left hleft
  | succeed value i =>
      rintro state hstate hinput rfl
      exact ⟨_, Returns.succeed hstate, hinput, verdict_withResult hstate value⟩
  | fail message i =>
      intro state hstate hinput _
      exact ⟨_, Returns.fail hstate, hinput, rfl⟩
  | map _ hvalue ih => exact ih.map hvalue
  | map_fails _ ih => exact ih.map_fails
  | sequence_nil i => exact .sequence_nil i
  | sequence_cons _ _ ihPart ihParts => exact ihPart.sequence_cons ihParts
  | sequence_head_fails _ ih => exact ih.sequence_head_fails
  | sequence_tail_fails _ _ ihPart ihParts => exact ihPart.sequence_tail_fails ihParts
  | choice_nil i =>
      intro state hstate hinput _
      exact ⟨_, Returns.choice_none hstate .nil, hinput, rfl⟩
  | choice_first _ ih => exact ih.choice_first
  | choice_next _ _ ihFirst ihRest => exact ihFirst.choice_next ihRest
  | optional _ ih => exact ih.optional
  | optional_none _ ih => exact ih.optional_none
  | many_nil _ ih => exact ih.many_nil
  | many_still _ ih => exact ih.many_still
  | many_cons _ hmoves _ ihItem ihRest => exact ihItem.many_cons hmoves ihRest
  | many1 _ ih => exact ih.many1
  | many1_fails _ ih => exact ih.many1_fails
  | separated_nil _ ih => exact ih.separated_nil
  | separated_last _ _ ihItem ihSeparator => exact ihItem.separated_last ihSeparator
  | separated_still _ _ ihItem ihSeparator => exact ihItem.separated_still ihSeparator
  | separated_cons _ _ hmoves _ ihItem ihSeparator ihRest =>
      exact ihItem.separated_cons ihSeparator hmoves ihRest
  | separated1 _ ih => exact ih.separated1
  | separated1_fails _ ih => exact ih.separated1_fails
  | lazy _ ih => exact ih.lazy
  | ref hname _ ih => exact ih.ref hname

end Answers

end ParserCombinators.Parser
