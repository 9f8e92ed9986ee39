import Mathlib.Combinatorics.Enumerative.DyckWord
import ParserCombinators.Proofs.WholeRuns

/-!
A grammar of parentheses that refers to itself, and what it decides. It reads the longest balanced
prefix of any text, however deep its groups are nested, and its result is the tree of these groups.
An opening parenthesis without its closing one is no mistake: the group that it would begin fails
and is given up, with everything inside it, while the groups before it are kept.

Balance is a matter of counting and says nothing about trees. Balanced texts are Mathlib's Dyck
words, and from there it is known that each but the empty one is a group with a balanced text inside
it and another one after it.
-/

namespace ParserCombinators.Parentheses

open ParserCombinators.Parser List

/-- As many closing parentheses as opening ones, and in no prefix more of them. -/
structure Balanced (text : Text) : Prop where
  marks : ∀ c ∈ text, c = 40 ∨ c = 41
  closed : text.count 40 = text.count 41
  opened : ∀ before, before <+: text → before.count 41 ≤ before.count 40

/-- The trees of the groups of a text, one for each group that stands in no other. -/
inductive Nesting : Text → List Value → Prop
  | nil : Nesting [] []
  | group {inside after : Text} {trees rest : List Value} : Nesting inside trees →
      Nesting after rest → Nesting (40 :: (inside ++ 41 :: after)) (.list trees :: rest)

section Words

/-- The parenthesis of a step. -/
def mark : DyckStep → Nat
  | .U => 40
  | .D => 41

theorem mark_injective : Function.Injective mark := by
  intro a b h
  cases a <;> cases b <;> first | rfl | cases h

theorem count_opening (steps : List DyckStep) : (steps.map mark).count 40 = steps.count .U :=
  count_map_of_injective steps mark mark_injective .U

theorem count_closing (steps : List DyckStep) : (steps.map mark).count 41 = steps.count .D :=
  count_map_of_injective steps mark mark_injective .D

theorem balanced_word (word : DyckWord) : Balanced (word.toList.map mark) where
  marks := by
    intro c hc
    obtain ⟨step, -, rfl⟩ := mem_map.mp hc
    cases step
    · exact Or.inl rfl
    · exact Or.inr rfl
  closed := by rw [count_opening, count_closing, word.count_U_eq_count_D]
  opened := by
    intro before hbefore
    rw [prefix_iff_eq_take, ← map_take] at hbefore
    rw [hbefore, count_opening, count_closing]
    exact word.count_D_le_count_U before.length

theorem Balanced.exists_word {text : Text} (h : Balanced text) :
    ∃ word : DyckWord, word.toList.map mark = text := by
  obtain ⟨steps, rfl⟩ : ∃ steps : List DyckStep, steps.map mark = text := by
    refine ⟨text.map fun c => if c = 40 then .U else .D, ?_⟩
    rw [map_map]
    conv_rhs => rw [← map_id text]
    refine map_congr_left fun c hc => ?_
    rcases h.marks c hc with rfl | rfl <;> rfl
  refine ⟨⟨steps, ?_, fun i => ?_⟩, rfl⟩
  · rw [← count_opening, ← count_closing, h.closed]
  · have htake : steps.take i <+: steps := take_prefix i steps
    rw [← count_opening, ← count_closing]
    exact h.opened _ (htake.map mark)

theorem Balanced.nil : Balanced [] := balanced_word 0

theorem Balanced.group {inside after : Text} (hinside : Balanced inside) (hafter : Balanced after) :
    Balanced (40 :: (inside ++ 41 :: after)) := by
  obtain ⟨word, rfl⟩ := hinside.exists_word
  obtain ⟨rest, rfl⟩ := hafter.exists_word
  have htext : (word.nest + rest).toList.map mark =
      40 :: (word.toList.map mark ++ 41 :: rest.toList.map mark) := by
    change (([DyckStep.U] ++ word.toList ++ [DyckStep.D]) ++ rest.toList).map mark = _
    simp [mark]
  rw [← htext]
  exact balanced_word _

/-- A balanced text that is not empty begins with a group. -/
theorem Balanced.split {text : Text} (h : Balanced text) (hnonempty : text ≠ []) :
    ∃ inside after, text = 40 :: (inside ++ 41 :: after) ∧ Balanced inside ∧
      Balanced after := by
  obtain ⟨word, rfl⟩ := h.exists_word
  have hword : word ≠ 0 := by
    rintro rfl
    exact hnonempty rfl
  refine ⟨word.insidePart.toList.map mark, word.outsidePart.toList.map mark, ?_,
    balanced_word _, balanced_word _⟩
  have hsplit := congrArg (fun whole : DyckWord => whole.toList.map mark)
    (word.nest_insidePart_add_outsidePart hword)
  change (([DyckStep.U] ++ word.insidePart.toList ++ [DyckStep.D]) ++
    word.outsidePart.toList).map mark = _ at hsplit
  rw [← hsplit]
  simp [mark]

/-- What closes a balanced text stands in no balanced text that begins with it. -/
theorem Balanced.not_closed_within {text whole : Text} (h : Balanced text)
    (hwhole : Balanced whole) : ¬ text ++ [41] <+: whole := by
  intro hwithin
  have hopened := hwhole.opened _ hwithin
  have hclosed := h.closed
  simp [count_append] at hopened
  omega

/-- The group that a text begins with is determined by the text. -/
theorem Balanced.append_closed_inj {inside after other rest : Text} (hinside : Balanced inside)
    (hother : Balanced other) (h : inside ++ 41 :: after = other ++ 41 :: rest) :
    inside = other ∧ after = rest := by
  rcases append_eq_append_iff.mp h with ⟨more, rfl, hmore⟩ | ⟨more, rfl, hmore⟩
  · cases more with
    | nil =>
        rw [append_nil]
        exact ⟨rfl, (cons.inj hmore).2⟩
    | cons c more =>
        obtain rfl := (cons.inj hmore).1
        exact absurd (by simp) (hinside.not_closed_within hother)
  · cases more with
    | nil =>
        rw [append_nil]
        exact ⟨rfl, (cons.inj hmore).2.symm⟩
    | cons c more =>
        obtain rfl := (cons.inj hmore).1
        exact absurd (by simp) (hother.not_closed_within hinside)

theorem Nesting.balanced {text : Text} {trees : List Value} (h : Nesting text trees) :
    Balanced text := by
  induction h with
  | nil => exact .nil
  | group _ _ ihInside ihAfter => exact ihInside.group ihAfter

/-- The trees of a text are determined by the text. -/
theorem Nesting.unique {text : Text} {trees others : List Value} (h : Nesting text trees)
    (hothers : Nesting text others) : trees = others := by
  induction h generalizing others with
  | nil =>
      cases hothers
      rfl
  | @group inside after trees rest hinside hafter ihInside ihAfter =>
      generalize htext : 40 :: (inside ++ 41 :: after) = text at hothers
      cases hothers with
      | nil => cases htext
      | group hinner hlast =>
          obtain ⟨rfl, rfl⟩ :=
            hinside.balanced.append_closed_inj hinner.balanced (cons.inj htext).2
          rw [ihInside hinner, ihAfter hlast]

end Words

/-- The longest balanced text that the other one begins with. -/
structure Longest (text body : Text) : Prop where
  begins : body <+: text
  balanced : Balanced body
  greatest : ∀ other, other <+: text → Balanced other → other.length ≤ body.length

section Longest

variable {text inside after rest : Text}

theorem exists_cons_of_head {c : Nat} (h : ¬ ∀ d ∈ text.head?, d ≠ c) :
    ∃ tail, text = c :: tail := by
  cases text with
  | nil => exact absurd (by simp) h
  | cons d tail =>
      obtain rfl : d = c := by simpa using h
      exact ⟨tail, rfl⟩

/-- Where no group begins, only the empty text is balanced. -/
theorem longest_nil (h : ∀ other, other <+: text → Balanced other → other = []) :
    Longest text [] where
  begins := nil_prefix
  balanced := .nil
  greatest := fun other hbegins hbalanced => by rw [h other hbegins hbalanced]

/-- No shorter text than the longest one is closed by a parenthesis that opens none of its own. -/
theorem Longest.eq_of_closed (h : Longest text inside) {other : Text} (hbalanced : Balanced other)
    (hclosed : other ++ [41] <+: text) : other = inside := by
  have hbegins : other <+: text := (prefix_append other [41]).trans hclosed
  have hle := h.greatest other hbegins hbalanced
  rcases Nat.lt_or_eq_of_le hle with hlt | heq
  · have hlength : (other ++ [41]).length ≤ inside.length := by
      rw [length_append]
      exact Nat.succ_le_of_lt hlt
    have hwithin := prefix_of_prefix_length_le hclosed h.begins hlength
    exact absurd hwithin (hbalanced.not_closed_within h.balanced)
  · exact (prefix_of_prefix_length_le hbegins h.begins hle).eq_of_length heq

/-- A balanced text ahead that is not empty begins with the group of the longest balanced text
after the opening parenthesis. -/
theorem Longest.of_group (h : Longest text inside) {other : Text} (hbalanced : Balanced other)
    (hnonempty : other ≠ []) (hbegins : other <+: 40 :: text) :
    ∃ after, other = 40 :: (inside ++ 41 :: after) ∧ Balanced after := by
  obtain ⟨inner, after, rfl, hinner, hafter⟩ := hbalanced.split hnonempty
  have hclosed : inner ++ [41] <+: text := by
    have htail := (cons_prefix_cons.mp hbegins).2
    exact (by simp : inner ++ [41] <+: inner ++ 41 :: after).trans htail
  rw [h.eq_of_closed hinner hclosed]
  exact ⟨after, rfl, hafter⟩

theorem Longest.group (hinside : Longest (inside ++ 41 :: rest) inside)
    (hafter : Longest rest after) :
    Longest (40 :: (inside ++ 41 :: rest)) (40 :: (inside ++ 41 :: after)) := by
  refine ⟨?_, hinside.balanced.group hafter.balanced, fun other hbegins hbalanced => ?_⟩
  · simpa using hafter.begins
  · by_cases hempty : other = []
    · simp [hempty]
    · obtain ⟨last, rfl, hlast⟩ := hinside.of_group hbalanced hempty hbegins
      have hle := hafter.greatest last (by simpa using hbegins) hlast
      simp only [length_cons, length_append]
      omega

/-- A group that is not closed is none. -/
theorem Longest.unclosed (hinside : Longest (inside ++ rest) inside)
    (hrest : ∀ c ∈ rest.head?, c ≠ 41) : Longest (40 :: (inside ++ rest)) [] := by
  refine longest_nil fun other hbegins hbalanced => ?_
  by_contra hempty
  obtain ⟨last, rfl, -⟩ := hinside.of_group hbalanced hempty hbegins
  have hclosing : 41 :: last <+: rest := by simpa using hbegins
  obtain ⟨more, rfl⟩ := hclosing
  exact hrest 41 rfl rfl

theorem longest_other (h : ∀ c ∈ text.head?, c ≠ 40) : Longest text [] := by
  refine longest_nil fun other hbegins hbalanced => ?_
  by_contra hempty
  obtain ⟨inner, after, rfl, -, -⟩ := hbalanced.split hempty
  obtain ⟨more, rfl⟩ := hbegins
  exact h 40 rfl rfl

end Longest

/-- Parentheses around what the grammar reads. -/
def group : Parser Unit :=
  .between (.literal (Text.ofString "(") true) (.literal (Text.ofString ")") true) (.ref ())

/-- Any number of groups. -/
def parentheses : Grammar Unit := fun _ => .ok (.many group)

section Reading

variable {t inside rest : Text} {i : Nat} {content : Value}

/-- What the groups at a position are read as: the trees of the longest balanced text ahead. -/
def ReadsLongest (t : Text) (i : Nat) : Prop :=
  ∃ body trees, Longest (t.drop i) body ∧ Nesting body trees ∧
    Answers parentheses t (.many group) i (.yields (i + body.length) (.list trees))

/-- Where no group is read, the empty text is. -/
theorem ReadsLongest.of_fails (h : Longest (t.drop i) [])
    (hgroup : Answers parentheses t group i .fails) : ReadsLongest t i :=
  ⟨[], [], h, .nil, hgroup.many_nil⟩

theorem answers_opening (hahead : t.drop i = 40 :: rest) :
    Answers parentheses t (.literal (Text.ofString "(") true) i
      (.yields (i + 1) (.text (Text.ofString "("))) :=
  .literal_ahead hahead (by decide)

/-- A group is read up to its closing parenthesis. -/
theorem answers_group (hahead : t.drop i = 40 :: (inside ++ 41 :: rest))
    (hcontent : Answers parentheses t (.ref ()) (i + 1)
      (.yields (i + 1 + inside.length) content)) :
    Answers parentheses t group i (.yields (i + 1 + inside.length + 1) content) := by
  have hend : t.drop (i + 1 + inside.length) = 41 :: rest :=
    drop_after_append (drop_after_cons hahead)
  have hclosing : Answers parentheses t (.literal (Text.ofString ")") true)
      (i + 1 + inside.length)
      (.yields (i + 1 + inside.length + 1) (.text (Text.ofString ")"))) :=
    .literal_ahead hend (by decide)
  exact (answers_opening hahead).enclosed hcontent hclosing

/-- A group that is not closed where its content ends is given up with it. -/
theorem answers_group_fails (hahead : t.drop i = 40 :: (inside ++ rest))
    (hrest : ∀ c ∈ rest.head?, c ≠ 41)
    (hcontent : Answers parentheses t (.ref ()) (i + 1)
      (.yields (i + 1 + inside.length) content)) :
    Answers parentheses t group i .fails := by
  have hend : t.drop (i + 1 + inside.length) = rest :=
    drop_after_append (drop_after_cons hahead)
  have hclosing : Answers parentheses t (.literal (Text.ofString ")") true)
      (i + 1 + inside.length) .fails := .literal_other (by rw [hend]; exact hrest)
  exact .map_fails
    ((answers_opening hahead).sequence_tail_fails
      (hcontent.sequence_tail_fails hclosing.sequence_head_fails))

/-- The induction is on the length of the text ahead. After an opening parenthesis both the inside
of the group and, if the group is closed, what follows it are shorter. -/
theorem readsLongest (t : Text) (i : Nat) : ReadsLongest t i := by
  induction hlength : (t.drop i).length using Nat.strong_induction_on generalizing i with
  | _ n ih =>
  subst hlength
  by_cases hopening : ∀ c ∈ (t.drop i).head?, c ≠ 40
  · have hnone : Answers parentheses t (.literal (Text.ofString "(") true) i .fails :=
      .literal_other hopening
    exact .of_fails (longest_other hopening) (.map_fails hnone.sequence_head_fails)
  · obtain ⟨ahead, hahead⟩ := exists_cons_of_head hopening
    have hnext : t.drop (i + 1) = ahead := drop_after_cons hahead
    have hshorter : (t.drop (i + 1)).length < (t.drop i).length := by
      rw [hnext, hahead]
      exact Nat.lt_succ_self _
    obtain ⟨inside, trees, hinside, hnesting, hcontent⟩ := ih _ hshorter (i + 1) rfl
    rw [hnext] at hinside
    obtain ⟨rest, rfl⟩ := hinside.begins
    by_cases hclosing : ∀ c ∈ rest.head?, c ≠ 41
    · refine .of_fails ?_ (answers_group_fails hahead hclosing (.ref rfl hcontent))
      rw [hahead]
      exact hinside.unclosed hclosing
    · obtain ⟨after, rfl⟩ := exists_cons_of_head hclosing
      have hgroup := answers_group hahead (.ref rfl hcontent)
      have hafter : t.drop (i + 1 + inside.length + 1) = after :=
        drop_after_cons (drop_after_append hnext)
      have hfewer : (t.drop (i + 1 + inside.length + 1)).length < (t.drop i).length := by
        rw [hafter, hahead]
        simp only [length_cons, length_append]
        omega
      obtain ⟨others, more, hothers, hmore, hrest⟩ := ih _ hfewer _ rfl
      rw [hafter] at hothers
      refine ⟨40 :: (inside ++ 41 :: others), .list trees :: more, ?_, hnesting.group hmore, ?_⟩
      · rw [hahead]
        exact hinside.group hothers
      · have hmoves : i + 1 + inside.length + 1 ≠ i := by omega
        have hend : i + (40 :: (inside ++ 41 :: others)).length =
            i + 1 + inside.length + 1 + others.length := by
          simp only [length_cons, length_append]
          omega
        rw [hend]
        exact hgroup.many_cons hmoves hrest

end Reading

/-- The grammar reads the longest balanced prefix of every text as the trees of its groups, and
followed by the end of the input it decides balance. -/
theorem decides_balance (text : Text) :
    ∃ body trees, Longest text body ∧ (∀ others, Nesting body others ↔ others = trees) ∧
      Parses parentheses (.ref ()) text body.length (.list trees) ∧
      (Balanced text → Parses parentheses (.sequence [.ref (), .endOfInput]) text text.length
        (.list [.list trees, .null])) ∧
      (¬ Balanced text → Rejects parentheses (.sequence [.ref (), .endOfInput]) text) := by
  obtain ⟨body, trees, hbody, hnesting, hmany⟩ := readsLongest text 0
  rw [drop_zero] at hbody
  rw [Nat.zero_add] at hmany
  have hread : Answers parentheses text (.ref ()) 0 (.yields body.length (.list trees)) :=
    .ref rfl hmany
  have hunique (others : List Value) : Nesting body others ↔ others = trees :=
    ⟨fun hothers => hothers.unique hnesting, fun heq => heq ▸ hnesting⟩
  refine ⟨body, trees, hbody, hunique, hread.parses, fun hbalanced => ?_, fun hunbalanced => ?_⟩
  · have hlength : body.length = text.length :=
      Nat.le_antisymm hbody.begins.length_le (hbody.greatest text prefix_rfl hbalanced)
    have hend : Answers parentheses text .endOfInput body.length (.yields body.length .null) :=
      .endOfInput hlength.ge
    rw [← hlength]
    exact (hread.sequence_cons (hend.sequence_cons (.sequence_nil _))).parses
  · have hleft : body.length < text.length := by
      refine Nat.lt_of_le_of_ne hbody.begins.length_le fun hlength => hunbalanced ?_
      rw [← hbody.begins.eq_of_length hlength]
      exact hbody.balanced
    have hmore : Answers parentheses text .endOfInput body.length .fails := .endOfInput_left hleft
    exact (hread.sequence_tail_fails hmore.sequence_head_fails).rejects

end ParserCombinators.Parentheses
