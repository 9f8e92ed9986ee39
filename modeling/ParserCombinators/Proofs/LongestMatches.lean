import ParserCombinators.Proofs.MatchedTexts

/-!
Patterns that take the longest word. Alternatives are tried in the order in which they are written,
and a loop gives back its rounds one by one, so in general a shorter word can come first. It does
not where the text decides: where no word of one alternative begins a word of the other, and where
what can make a part longer cannot begin what comes after the part. The matcher then tries the
words of the tree's language that are ahead in the order of their length, the longest first.

The rules cover trees of classes, sequences, choices and greedy loops. What such a tree tries does
not depend on captures, so an attempt is told by the cursor that it reaches.
-/

namespace ParserCombinators.Regex

section Words

/-- Some word begins with the code point. -/
def Begins (language : Language Nat) (c : Nat) : Prop := ∃ rest, c :: rest ∈ language

/-- The code point makes a longer word of some word. -/
def Continues (language : Language Nat) (c : Nat) : Prop :=
  ∃ word ∈ language, ∃ rest, word ++ c :: rest ∈ language

/-- What can make a word of the first language longer begins no word of the second. -/
def Decides (language other : Language Nat) : Prop :=
  ∀ c, Continues language c → ¬ Begins other c

/-- No word of either language begins a word of the other, so that no text has words of both
ahead. -/
def Apart (language other : Language Nat) : Prop :=
  ∀ word ∈ language, ∀ second ∈ other, ¬ word <+: second ∧ ¬ second <+: word

variable {language other : Language Nat} {word second text front back : Text}

theorem Apart.not_both (h : Apart language other) (hword : word ∈ language)
    (hsecond : second ∈ other) (hahead : word <+: text) : ¬ second <+: text := by
  intro hother
  obtain ⟨hbefore, hafter⟩ := h word hword second hsecond
  exact (List.prefix_or_prefix_of_prefix hahead hother).elim hbefore hafter

/-- Languages are apart whose words begin with other code points. -/
theorem apart_of_begins (hlanguage : [] ∉ language) (hother : [] ∉ other)
    (h : ∀ c, Begins language c → ¬ Begins other c) : Apart language other := by
  intro word hword second hsecond
  cases word with
  | nil => exact absurd hword hlanguage
  | cons c word =>
      cases second with
      | nil => exact absurd hsecond hother
      | cons d second =>
          have hdiffers : c ≠ d := by
            rintro rfl
            exact h c ⟨word, hword⟩ ⟨second, hsecond⟩
          simp [hdiffers, hdiffers.symm]

theorem begins_of_mul {c : Nat} (h : Begins (language * other) c) :
    Begins language c ∨ ([] ∈ language ∧ Begins other c) := by
  obtain ⟨rest, front, hfront, back, hback, heq⟩ := h
  cases front with
  | nil => exact Or.inr ⟨hfront, rest, heq ▸ hback⟩
  | cons d front =>
      obtain rfl : d = c := (List.cons.inj heq).1
      exact Or.inl ⟨front, hfront⟩

/-- A word that is ahead and is longer than another one goes on with some code point. -/
theorem exists_continues (hword : word ∈ language) (hsecond : second ∈ language)
    (hahead : word <+: text) (hother : second <+: text) (hlength : second.length < word.length) :
    ∃ c rest, word = second ++ c :: rest ∧ Continues language c := by
  obtain ⟨more, rfl⟩ := List.prefix_of_prefix_length_le hother hahead (Nat.le_of_lt hlength)
  cases more with
  | nil => simp at hlength
  | cons c rest => exact ⟨c, rest, rfl, second, hsecond, rest, hword⟩

/-- Prefixes of one text are told by their length. -/
theorem eq_of_ahead (hahead : word <+: text) (hother : second <+: text)
    (hlength : second.length = word.length) : second = word :=
  (List.prefix_of_prefix_length_le hother hahead hlength.le).eq_of_length hlength

/-- After a shorter word than could be taken nothing is ahead that begins a word of the other
language. -/
theorem Decides.eq_nil_of_shorter (h : Decides language other) (hword : word ∈ language)
    (hahead : word <+: text) (hfront : front ∈ language) (hback : back ∈ other)
    (hboth : front ++ back <+: text) (hlength : front.length < word.length) : back = [] := by
  have hfrontAhead : front <+: text := (List.prefix_append front back).trans hboth
  obtain ⟨c, more, rfl, hcontinues⟩ := exists_continues hword hfront hahead hfrontAhead hlength
  cases back with
  | nil => rfl
  | cons d back =>
      have hlonger : front ++ [c] <+: text := by
        refine List.IsPrefix.trans ?_ hahead
        exact (List.prefix_append_right_inj front).mpr (by simp)
      have hnext : front ++ [d] <+: text := by
        refine List.IsPrefix.trans ?_ hboth
        exact (List.prefix_append_right_inj front).mpr (by simp)
      obtain rfl : d = c := by simpa using eq_of_ahead hlonger hnext (by simp)
      exact absurd ⟨back, hback⟩ (h d hcontinues)

/-- Two texts in a row are ahead just when the second is ahead after the first. -/
theorem Cursor.ahead_append {cursor : Cursor} (h : word ++ second <+: cursor.after) :
    word <+: cursor.after ∧ second <+: (cursor.advance word.length).after := by
  obtain ⟨after, hafter⟩ := h
  simp [advance, ← hafter]

end Words

/-- What is reached by the longest word ahead from which the rest reaches anything. -/
inductive Best (language : Language Nat) (cursor : Cursor) (rest : Cursor → Option Cursor) :
    Option Cursor → Prop
  | found {word : Text} {reached : Cursor} : word ∈ language → word <+: cursor.after →
      rest (cursor.advance word.length) = some reached →
      (∀ longer ∈ language, longer <+: cursor.after → word.length < longer.length →
        rest (cursor.advance longer.length) = none) →
      Best language cursor rest (some reached)
  | nothing : (∀ word ∈ language, word <+: cursor.after →
      rest (cursor.advance word.length) = none) → Best language cursor rest none

/-- From the cursor on, the matcher tries the words of the language that are ahead, the longest
first. -/
def LongestFirst (matcher : Matcher) (language : Language Nat) (cursor : Cursor) : Prop :=
  ∀ (next : Continuation) (rest : Cursor → Option Cursor),
    (∀ word ∈ language, word <+: cursor.after → ∀ captures,
      (next (cursor.advance word.length) captures).1 = rest (cursor.advance word.length)) →
    ∀ captures, Best language cursor rest (matcher cursor next captures).1

section Bests

variable {language other : Language Nat} {cursor : Cursor} {rest : Cursor → Option Cursor}
  {result second : Option Cursor}

theorem Best.unique (h : Best language cursor rest result)
    (hother : Best language cursor rest second) : result = second := by
  cases h with
  | nothing hnone =>
      cases hother with
      | nothing _ => rfl
      | found hword hahead hend _ => exact absurd (hnone _ hword hahead) (by simp [hend])
  | @found word reached hword hahead hend hlonger =>
      cases hother with
      | nothing hnone => exact absurd (hnone _ hword hahead) (by simp [hend])
      | @found other last hother hotherAhead hlast hmore =>
          rcases Nat.lt_trichotomy word.length other.length with hless | hsame | hmuch
          · exact absurd (hlonger _ hother hotherAhead hless) (by simp [hlast])
          · rw [← hend, ← hlast, hsame]
          · exact absurd (hmore _ hword hahead hmuch) (by simp [hend])

/-- The empty word comes last. -/
theorem Best.or_stay (h : Best language cursor rest result) :
    Best (1 + language) cursor rest (result.or (rest cursor)) := by
  cases h with
  | found hword hahead hend hlonger =>
      refine .found (Or.inr hword) hahead hend ?_
      rintro longer (rfl | hlong) hlongAhead hlength
      · simp at hlength
      · exact hlonger longer hlong hlongAhead hlength
  | nothing hnone =>
      cases hstay : rest cursor with
      | some reached =>
          refine @Best.found _ _ _ [] _ (Or.inl rfl) List.nil_prefix ?_ ?_
          · rw [List.length_nil, Cursor.advance_zero, hstay]
          · rintro longer (rfl | hlong) hlongAhead hlength
            · simp at hlength
            · exact hnone longer hlong hlongAhead
      | none =>
          refine .nothing ?_
          rintro word (rfl | hword) hahead
          · rw [List.length_nil, Cursor.advance_zero, hstay]
          · exact hnone word hword hahead

/-- One language after the other, where no text has words of both ahead. -/
theorem Best.or_other (h : Best language cursor rest result)
    (hother : Best other cursor rest second) (hapart : Apart language other) :
    Best (language + other) cursor rest (result.or second) := by
  cases h with
  | found hword hahead hend hlonger =>
      refine .found (Or.inl hword) hahead hend ?_
      rintro longer (hlong | hlong) hlongAhead hlength
      · exact hlonger longer hlong hlongAhead hlength
      · exact absurd hlongAhead (hapart.not_both hword hlong hahead)
  | nothing hnone =>
      cases hother with
      | found hword hahead hend hlonger =>
          refine .found (Or.inr hword) hahead hend ?_
          rintro longer (hlong | hlong) hlongAhead hlength
          · exact hnone longer hlong hlongAhead
          · exact hlonger longer hlong hlongAhead hlength
      | nothing hneither =>
          refine .nothing ?_
          rintro word (hword | hword) hahead
          · exact hnone word hword hahead
          · exact hneither word hword hahead

/-- One language, and from each of its words the other. After a word that is too short nothing is
taken that would make up for it. -/
theorem Best.seq {between : Cursor → Option Cursor} (h : Best language cursor between result)
    (hbetween : ∀ word ∈ language, word <+: cursor.after →
      Best other (cursor.advance word.length) rest (between (cursor.advance word.length)))
    (hdecides : Decides language other) : Best (language * other) cursor rest result := by
  have hnowhere {word tail : Text} (hword : word ∈ language) (htail : tail ∈ other)
      (hahead : word ++ tail <+: cursor.after) (h : between (cursor.advance word.length) = none) :
      rest (cursor.advance (word ++ tail).length) = none := by
    obtain ⟨hwordAhead, htailAhead⟩ := Cursor.ahead_append hahead
    have hbest := hbetween word hword hwordAhead
    rw [h] at hbest
    rw [← Cursor.advance_append hwordAhead]
    cases hbest with
    | nothing hnone => exact hnone tail htail htailAhead
  cases h with
  | nothing hnone =>
      refine .nothing ?_
      rintro _ ⟨word, hword, tail, htail, rfl⟩ hahead
      exact hnowhere hword htail hahead (hnone word hword (Cursor.ahead_append hahead).1)
  | @found word reached hword hahead hreached hlonger =>
      have hbest := hbetween word hword hahead
      rw [hreached] at hbest
      cases hbest with
      | @found tail _ htail htailAhead hend hmore =>
          rw [Cursor.advance_append hahead] at hend
          refine .found (Language.append_mem_mul hword htail)
            (Cursor.append_prefix hahead htailAhead) hend ?_
          rintro _ ⟨front, hfront, back, hback, rfl⟩ hboth hlength
          obtain ⟨hfrontAhead, hbackAhead⟩ := Cursor.ahead_append hboth
          rcases Nat.lt_trichotomy front.length word.length with hless | hsame | hmuch
          · obtain rfl := hdecides.eq_nil_of_shorter hword hahead hfront hback hboth hless
            simp only [List.append_nil, List.length_append] at hlength
            omega
          · obtain rfl := eq_of_ahead hahead hfrontAhead hsame
            rw [← Cursor.advance_append hfrontAhead]
            exact hmore back hback hbackAhead (by simpa using hlength)
          · exact hnowhere hfront hback hboth (hlonger front hfront hfrontAhead hmuch)

end Bests

section Matchers

variable {first second matcher : Matcher} {language other : Language Nat} {cursor : Cursor}

/-- A wrapping changes nothing of what an attempt reaches. -/
def Transparent (wrap : Attempt → Attempt) : Prop :=
  ∀ attempt captures, (wrap attempt captures).1 = (attempt captures).1

theorem transparent_undoing (inLoop : Bool) : Transparent (Attempt.undoing inLoop) := by
  intro attempt captures
  simp only [Attempt.undoing]
  split
  next heq => rw [heq]
  next => rfl

theorem transparent_id : Transparent id := fun _ _ => rfl

/-- A choice whose second attempt is the same for all captures. -/
theorem fst_orElse {left right : Attempt} {reached : Option Cursor}
    (hright : ∀ captures, (right captures).1 = reached) (captures : Captures) :
    (Attempt.orElse left right captures).1 = (left captures).1.or reached := by
  rcases hleft : left captures with ⟨_ | found, after⟩
  · simp only [Attempt.orElse, hleft, hright, Option.none_or]
  · simp only [Attempt.orElse, hleft, Option.some_or]

theorem longestFirst_stay : LongestFirst (fun place next => next place) 1 cursor := by
  intro next rest hnext captures
  have hstay := hnext [] rfl List.nil_prefix captures
  rw [List.length_nil, Cursor.advance_zero] at hstay
  have hnone : Best (0 : Language Nat) cursor rest none := .nothing fun _ h => h.elim
  rw [hstay, ← add_zero (1 : Language Nat)]
  exact hnone.or_stay

theorem longestFirst_one (set : CharSet) (inLoop : Bool) :
    LongestFirst ((Node.one set).run inLoop) (Node.one set).language cursor := by
  intro next rest hnext captures
  obtain ⟨pos, before, after⟩ := cursor
  have hother (h : ∀ c ∈ after.head?, set.has c = false) :
      Best (Node.one set).language ⟨pos, before, after⟩ rest none := by
    refine .nothing ?_
    rintro _ ⟨c, hc, rfl⟩ ⟨more, rfl⟩
    simp [hc] at h
  cases after with
  | nil => exact hother (by simp)
  | cons c after =>
      cases hhas : set.has c with
      | false =>
          simp only [Node.run, Cursor.step?, hhas, Attempt.from?]
          exact hother (by simpa using hhas)
      | true =>
          have hword : [c] ∈ (Node.one set).language := ⟨c, hhas, rfl⟩
          have hend := hnext [c] hword (by simp) captures
          simp only [Node.run, Cursor.step?, hhas, Attempt.from?, if_true]
          change Best _ _ _ (next (Cursor.advance ⟨pos, before, c :: after⟩ [c].length) captures).1
          rw [hend]
          cases hreached : rest (Cursor.advance ⟨pos, before, c :: after⟩ [c].length) with
          | some reached =>
              refine .found hword (by simp) hreached ?_
              rintro _ ⟨d, -, rfl⟩ - hlength
              simp at hlength
          | none =>
              refine .nothing ?_
              rintro _ ⟨d, -, rfl⟩ -
              exact hreached

theorem LongestFirst.seq (hfirst : LongestFirst first language cursor)
    (hsecond : ∀ word ∈ language, word <+: cursor.after →
      LongestFirst second other (cursor.advance word.length))
    (hdecides : Decides language other) :
    LongestFirst (fun cursor next => first cursor fun reached => second reached next)
      (language * other) cursor := by
  intro next rest hnext captures
  have hrest {word : Text} (hword : word ∈ language) (hahead : word <+: cursor.after)
      (captures : Captures) : Best other (cursor.advance word.length) rest
        (second (cursor.advance word.length) next captures).1 := by
    refine hsecond word hword hahead next rest ?_ captures
    intro tail htail htailAhead captures
    rw [Cursor.advance_append hahead]
    exact hnext _ (Language.append_mem_mul hword htail)
      (Cursor.append_prefix hahead htailAhead) captures
  -- The best that can be reached is one, so it does not depend on the captures.
  refine (hfirst _ (fun place => (second place next captures).1) ?_ captures).seq
    (fun word hword hahead => hrest hword hahead captures) hdecides
  intro word hword hahead others
  exact (hrest hword hahead others).unique (hrest hword hahead captures)

theorem LongestFirst.alt (hfirst : LongestFirst first language cursor)
    (hsecond : LongestFirst second other cursor) (hapart : Apart language other) (inLoop : Bool) :
    LongestFirst (fun cursor next => Attempt.orElse (Attempt.undoing inLoop (first cursor next))
      (Attempt.undoing inLoop (second cursor next))) (language + other) cursor := by
  intro next rest hnext captures
  have hright (captures : Captures) :
      Best other cursor rest (Attempt.undoing inLoop (second cursor next) captures).1 := by
    rw [transparent_undoing]
    exact hsecond next rest (fun word hword => hnext word (Or.inr hword)) captures
  rw [fst_orElse (fun others => (hright others).unique (hright captures)), transparent_undoing]
  exact (hfirst next rest (fun word hword => hnext word (Or.inl hword)) captures).or_other
    (hright captures) hapart

/-- A matcher, or else nothing. -/
theorem LongestFirst.or_stay (h : LongestFirst matcher language cursor)
    {round rest : Attempt → Attempt} (hround : Transparent round) (hrest : Transparent rest) :
    LongestFirst (fun cursor next => Attempt.orElse (round (matcher cursor next))
      (rest (next cursor))) (1 + language) cursor := by
  intro next reached hnext captures
  have hstay (captures : Captures) : (rest (next cursor) captures).1 = reached cursor := by
    have hempty := hnext [] (Or.inl rfl) List.nil_prefix captures
    rwa [List.length_nil, Cursor.advance_zero, ← hrest] at hempty
  rw [fst_orElse hstay, hround]
  exact (h next reached (fun word hword => hnext word (Or.inr hword)) captures).or_stay

end Matchers

section Loops

variable {body : Matcher} {language : Language Nat} {bounds : Loop.Bounds} {count : Nat}

namespace Loop

/-- The first round of a word, and those after it. -/
theorem flatten_mem_language {round : Text} {rounds : List Text}
    (hrounds : ∀ other ∈ round :: rounds, other ∈ language)
    (hleast : (bounds.left count).least ≤ (round :: rounds).length)
    (hmost : ∀ limit ∈ (bounds.left count).most,
      (round :: rounds).length ≤ max (bounds.left count).least limit) :
    (round :: rounds).flatten ∈ language * Loop.language (bounds.left (count + 1)) language := by
  obtain ⟨least, most⟩ := bounds
  obtain ⟨hround, hothers⟩ := List.forall_mem_cons.mp hrounds
  rw [List.flatten_cons]
  refine Language.append_mem_mul hround ⟨rounds, rfl, hothers, ?_, ?_⟩
  · simp only [Bounds.left, List.length_cons] at hleast ⊢
    omega
  · cases most with
    | none => simp [Bounds.left]
    | some most =>
        have hlength := hmost (most - count) rfl
        rintro limit ⟨⟩
        simp only [Bounds.left, List.length_cons] at hlength ⊢
        omega

theorem language_of_lt (h : count < bounds.least) :
    Loop.language (bounds.left count) language =
      language * Loop.language (bounds.left (count + 1)) language := by
  ext text
  refine ⟨?_, fun htext => mem_language_of_mul htext (Or.inl h)⟩
  rintro ⟨rounds, rfl, hrounds, hleast, hmost⟩
  cases rounds with
  | nil =>
      have hpositive : 0 < (bounds.left count).least := Nat.sub_pos_of_lt h
      rw [List.length_nil] at hleast
      omega
  | cons round rounds => exact flatten_mem_language hrounds hleast hmost

theorem language_of_most (hleast : ¬ count < bounds.least)
    (hmost : (bounds.left count).most ≠ some 0) :
    Loop.language (bounds.left count) language =
      1 + language * Loop.language (bounds.left (count + 1)) language := by
  ext text
  constructor
  · rintro ⟨rounds, rfl, hrounds, hlength, hlimit⟩
    cases rounds with
    | nil => exact Or.inl rfl
    | cons round rounds => exact Or.inr (flatten_mem_language hrounds hlength hlimit)
  · rintro (rfl | htext)
    · exact nil_mem_language (left_least hleast)
    · exact mem_language_of_mul htext (Or.inr hmost)

theorem language_of_full (hleast : ¬ count < bounds.least)
    (hmost : (bounds.left count).most = some 0) :
    Loop.language (bounds.left count) language = 1 := by
  ext text
  constructor
  · rintro ⟨rounds, rfl, -, -, hlimit⟩
    have hlength := hlimit 0 hmost
    rw [left_least hleast, Nat.max_self, Nat.le_zero, List.length_eq_zero_iff] at hlength
    rw [hlength]
    rfl
  · rintro rfl
    exact nil_mem_language (left_least hleast)

/-- A word of a loop begins as a word of its body does. -/
theorem begins_of_begins {c : Nat} (hnonempty : [] ∉ language)
    (h : Begins (Loop.language bounds language) c) : Begins language c := by
  obtain ⟨rest, rounds, hrounds, hall, -, -⟩ := h
  cases rounds with
  | nil => cases hrounds
  | cons round rounds =>
      have hround := hall round List.mem_cons_self
      cases round with
      | nil => exact absurd hround hnonempty
      | cons d round =>
          obtain rfl : d = c := (List.cons.inj hrounds).1
          exact ⟨round, hround⟩

end Loop

/-- A greedy loop makes as many rounds as there are, and gives back one after the other. The
induction is on fuel: every round takes something, so that no loop stops for standing still. -/
theorem longestFirst_greedy {round rest : Attempt → Attempt} (hround : Transparent round)
    (hrest : Transparent rest) (hnonempty : [] ∉ language) (hdecides : Decides language language)
    (hbody : ∀ cursor, LongestFirst body language cursor) {fuel : Nat} {last : Option Nat}
    {cursor : Cursor} (hfuel : cursor.after.length < fuel)
    (hlast : ∀ pos ∈ last, pos < cursor.pos) :
    LongestFirst (Loop.greedy body bounds round rest fuel count last)
      (Loop.language (bounds.left count) language) cursor := by
  induction fuel generalizing count last cursor with
  | zero => omega
  | succ fuel ih =>
      have hmore (last' : Option Nat) (hlast' : ∀ pos ∈ last', pos ≤ cursor.pos) :
          LongestFirst (fun cursor next => body cursor fun reached =>
            Loop.greedy body bounds round rest fuel (count + 1) last' reached next)
            (language * Loop.language (bounds.left (count + 1)) language) cursor := by
        refine (hbody cursor).seq ?_ fun c hcontinues hbegins =>
          hdecides c hcontinues (Loop.begins_of_begins hnonempty hbegins)
        intro word hword hahead
        have hpositive : 0 < word.length :=
          List.length_pos_iff.mpr fun hempty => hnonempty (hempty ▸ hword)
        refine ih ?_ fun pos hpos => ?_
        · have hle := hahead.length_le
          simp only [Cursor.advance, List.length_drop]
          omega
        · have hle := hlast' pos hpos
          simp only [Cursor.advance]
          omega
      intro next reached hnext captures
      rw [Loop.greedy]
      by_cases hleast : count < bounds.least
      · rw [Loop.language_of_lt hleast] at hnext ⊢
        rw [if_pos hleast]
        exact hmore last (fun pos hpos => (hlast pos hpos).le) next reached hnext captures
      · rw [if_neg hleast]
        by_cases hmost : (bounds.left count).most = some 0
        · rw [Loop.language_of_full hleast hmost] at hnext ⊢
          rw [if_neg fun h => (Loop.mayRepeat_eq_true_iff hlast).mp h hmost, hrest]
          exact longestFirst_stay next reached hnext captures
        · rw [Loop.language_of_most hleast hmost] at hnext ⊢
          rw [if_pos ((Loop.mayRepeat_eq_true_iff hlast).mpr hmost)]
          exact (hmore (some cursor.pos) (by simp)).or_stay hround hrest next reached hnext captures

end Loops

/-- The tree tries the words of its language, the longest first, wherever it stands. -/
def Node.TriesLongest (node : Node) : Prop :=
  ∀ inLoop cursor, LongestFirst (node.run inLoop) node.language cursor

section Nodes

variable {first second body : Node} {set : CharSet}

theorem nil_notMem_one : [] ∉ (Node.one set).language := by
  rintro ⟨c, -, ⟨⟩⟩

/-- A word of a class is not part of a longer one. -/
theorem decides_one (other : Language Nat) : Decides (Node.one set).language other := by
  rintro c ⟨_, ⟨d, -, rfl⟩, rest, e, -, ⟨⟩⟩

theorem triesLongest_one (set : CharSet) : (Node.one set).TriesLongest :=
  fun inLoop _ => longestFirst_one set inLoop

theorem Node.TriesLongest.seq (hfirst : first.TriesLongest) (hsecond : second.TriesLongest)
    (hdecides : Decides first.language second.language) :
    (Node.seq first second).TriesLongest :=
  fun inLoop cursor =>
    (hfirst inLoop cursor).seq (fun _ _ _ => hsecond inLoop _) hdecides

theorem Node.TriesLongest.alt (hfirst : first.TriesLongest) (hsecond : second.TriesLongest)
    (hapart : Apart first.language second.language) : (Node.alt first second).TriesLongest :=
  fun inLoop cursor => (hfirst inLoop cursor).alt (hsecond inLoop cursor) hapart inLoop

theorem Node.TriesLongest.loop (hbody : body.TriesLongest) (hnonempty : [] ∉ body.language)
    (hdecides : Decides body.language body.language) (least : Nat) (most : Option Nat) :
    (Node.loop least most .greedy body).TriesLongest := by
  intro inLoop cursor
  have hfuel : cursor.after.length < Loop.rounds ⟨least, most⟩ cursor := by
    rw [Loop.rounds]
    omega
  have hlast : ∀ pos ∈ (none : Option Nat), pos < cursor.pos := by simp
  rw [language, ← Loop.Bounds.left_zero ⟨least, most⟩]
  intro next rest hnext captures
  simp only [run]
  split
  · exact longestFirst_greedy (transparent_undoing inLoop) (transparent_undoing inLoop) hnonempty
      hdecides (hbody inLoop) hfuel hlast next rest hnext captures
  · exact longestFirst_greedy (transparent_undoing true) transparent_id hnonempty hdecides
      (hbody true) hfuel hlast next rest hnext captures

end Nodes

/-- No word of the language that is ahead of the text is longer. -/
structure Longest (language : Language Nat) (text word : Text) : Prop where
  mem : word ∈ language
  ahead : word <+: text
  longest : ∀ other ∈ language, other <+: text → other.length ≤ word.length

namespace Pattern

variable {pattern : Pattern} {input found : Text} {pos : Nat}

/-- A pattern whose tree tries the longest words first finds the longest one, if there is any. -/
theorem matchAt?_of_triesLongest (h : pattern.root.TriesLongest) (input : Text) (pos : Nat) :
    (∃ found, pattern.matchAt? input pos = some found ∧
      Longest pattern.root.language (input.drop pos) found) ∨
    (pattern.matchAt? input pos = none ∧
      ∀ word ∈ pattern.root.language, ¬ word <+: input.drop pos) := by
  have hbest := h false (pattern.cursorAt input pos) Attempt.succeed some
    (fun _ _ _ _ => rfl) .none
  simp only [matchAt?, ← Cursor.after_cursorAt pattern input pos]
  generalize (pattern.root.run false (pattern.cursorAt input pos) Attempt.succeed .none).1 = result
    at hbest
  cases hbest with
  | @found word reached hword hahead hend hlonger =>
      obtain rfl := Option.some.inj hend
      refine Or.inl ⟨word, congrArg some (Cursor.textTo_advance hahead), hword, hahead, ?_⟩
      intro other hother hotherAhead
      by_contra hlength
      cases hlonger other hother hotherAhead (by omega)
  | nothing hnone =>
      refine Or.inr ⟨rfl, fun word hword hahead => ?_⟩
      cases hnone word hword hahead

end Pattern

end ParserCombinators.Regex
