import Mathlib.Computability.Language
import ParserCombinators.Proofs.ClassRuns

/-!
The texts that patterns match. A tree denotes a language, and whatever the matcher finds is one of
its words, wherever it finds it and whatever it has to try before. Nothing is said of which word
that is, nor of whether there is one.

The language says less than the tree where the tree asks for more than its own text. Anchors and
looks around take no text, and a back reference may take any.
-/

namespace ParserCombinators.Regex

/-- The words of so many rounds as the bounds allow. The obligatory rounds are made even where the
upper bound is less than they are. -/
def Loop.language (bounds : Loop.Bounds) (body : Language Nat) : Language Nat :=
  { text | ∃ rounds : List Text, rounds.flatten = text ∧ (∀ round ∈ rounds, round ∈ body) ∧
    bounds.least ≤ rounds.length ∧
    ∀ limit ∈ bounds.most, rounds.length ≤ max bounds.least limit }

/-- The language of a tree. -/
def Node.language : Node → Language Nat
  | empty => 1
  | one set => { text | ∃ c, set.has c = true ∧ text = [c] }
  | seq first second => first.language * second.language
  | alt first second => first.language + second.language
  | group _ body => body.language
  | backref _ _ => ⊤
  | conditional _ yes no => yes.language + no.language
  | loop least most _ body => Loop.language ⟨least, most⟩ body.language
  | atomic body => body.language
  | ahead _ _ => 1
  | behind _ _ _ => 1
  | anchor _ => 1

/-- A success of the matcher takes a word of the language, and is a success of what comes next from
the place after the word. -/
def Takes (matcher : Matcher) (language : Language Nat) : Prop :=
  ∀ cursor next captures reached, (matcher cursor next captures).1 = some reached →
    ∃ text ∈ language, text <+: cursor.after ∧
      ∃ inner, (next (cursor.advance text.length) inner).1 = some reached

/-- A success of the search ends after a word of the language. -/
def Finds (search : Continuation) (language : Language Nat) : Prop :=
  ∀ cursor captures reached, (search cursor captures).1 = some reached →
    ∃ text ∈ language, text <+: cursor.after ∧ reached = cursor.advance text.length

section Cursors

variable {cursor : Cursor} {text rest : Text}

theorem Cursor.advance_append (h : text <+: cursor.after) :
    (cursor.advance text.length).advance rest.length = cursor.advance (text ++ rest).length := by
  obtain ⟨tail, htail⟩ := h
  simp [advance, ← htail, List.take_length_add_append, Nat.add_assoc]

theorem Cursor.append_prefix (h : text <+: cursor.after)
    (hrest : rest <+: (cursor.advance text.length).after) : text ++ rest <+: cursor.after := by
  obtain ⟨tail, htail⟩ := h
  simp only [advance, ← htail, List.drop_left] at hrest
  rw [← htail]
  exact (List.prefix_append_right_inj text).mpr hrest

end Cursors

section Attempts

variable {matcher first second : Matcher} {search : Continuation} {language other : Language Nat}

/-- A wrapping adds no success to those of an attempt. -/
def Keeps (wrap : Attempt → Attempt) : Prop :=
  ∀ attempt captures reached, (wrap attempt captures).1 = some reached →
    (attempt captures).1 = some reached

theorem keeps_undoing (inLoop : Bool) : Keeps (Attempt.undoing inLoop) := by
  intro attempt captures reached h
  simp only [Attempt.undoing] at h
  split at h
  next => cases h
  next => exact h

theorem keeps_id : Keeps id := fun _ _ _ h => h

/-- A choice succeeds as one of its two attempts does. -/
theorem success_orElse {left right : Attempt} {captures : Captures} {reached : Cursor}
    (h : (Attempt.orElse left right captures).1 = some reached) :
    (left captures).1 = some reached ∨ ∃ inner, (right inner).1 = some reached := by
  simp only [Attempt.orElse] at h
  split at h
  next after _ => exact Or.inr ⟨after, h⟩
  next => exact Or.inl h

/-- Two attempts in a row succeed where the second one does. -/
theorem success_andThen {left : Attempt} {next : Continuation} {captures : Captures}
    {reached : Cursor} (h : (Attempt.andThen left next captures).1 = some reached) :
    ∃ middle inner, (left captures).1 = some middle ∧ (next middle inner).1 = some reached := by
  simp only [Attempt.andThen] at h
  split at h
  next => cases h
  next middle after heq => exact ⟨middle, after, by rw [heq], h⟩

theorem success_refute {inLoop : Bool} {attempt next : Attempt} {captures : Captures}
    {reached : Cursor} (h : (Attempt.refute inLoop attempt next captures).1 = some reached) :
    ∃ inner, (next inner).1 = some reached := by
  simp only [Attempt.refute] at h
  split at h
  next after _ => exact ⟨after, h⟩
  next => cases h

/-- A look goes on from where it was made. -/
theorem success_look {inLoop negated : Bool} {sight next : Attempt} {captures : Captures}
    {reached : Cursor} (h : (look inLoop negated sight next captures).1 = some reached) :
    ∃ inner, (next inner).1 = some reached := by
  unfold look at h
  split at h
  next => exact success_refute h
  next =>
    obtain ⟨_, inner, -, hnext⟩ := success_andThen h
    exact ⟨inner, hnext⟩

/-- What goes on from where it is takes the empty text. -/
theorem takes_stay : Takes (fun cursor next => next cursor) 1 := by
  intro cursor next captures reached hsuccess
  refine ⟨[], Language.nil_mem_one, List.nil_prefix, captures, ?_⟩
  rw [List.length_nil, Cursor.advance_zero]
  exact hsuccess

theorem Takes.mono (h : Takes matcher language) (hmono : ∀ text ∈ language, text ∈ other) :
    Takes matcher other := by
  intro cursor next captures reached hsuccess
  obtain ⟨text, htext, hends⟩ := h cursor next captures reached hsuccess
  exact ⟨text, hmono text htext, hends⟩

theorem Takes.seq (hfirst : Takes first language) (hsecond : Takes second other) :
    Takes (fun cursor next => first cursor fun reached => second reached next)
      (language * other) := by
  intro cursor next captures reached hsuccess
  obtain ⟨text, htext, hahead, _, hmiddle⟩ := hfirst _ _ _ _ hsuccess
  obtain ⟨rest, hrest, hmore, inner, hend⟩ := hsecond _ _ _ _ hmiddle
  rw [Cursor.advance_append hahead] at hend
  exact ⟨text ++ rest, Language.append_mem_mul htext hrest, Cursor.append_prefix hahead hmore,
    inner, hend⟩

/-- A matcher by itself is a search. -/
theorem Takes.finds (h : Takes matcher language) :
    Finds (fun cursor => matcher cursor Attempt.succeed) language := by
  intro cursor captures reached hsuccess
  obtain ⟨text, htext, hahead, inner, hend⟩ := h _ _ _ _ hsuccess
  exact ⟨text, htext, hahead, (Option.some.inj hend).symm⟩

theorem Finds.takes (h : Finds search language) :
    Takes (fun cursor => Attempt.andThen (search cursor)) language := by
  intro cursor next captures reached hsuccess
  obtain ⟨middle, inner, hfound, hend⟩ := success_andThen hsuccess
  obtain ⟨text, htext, hahead, rfl⟩ := h _ _ _ hfound
  exact ⟨text, htext, hahead, inner, hend⟩

theorem Finds.mono (h : Finds search language) (hmono : ∀ text ∈ language, text ∈ other) :
    Finds search other := by
  intro cursor captures reached hsuccess
  obtain ⟨text, htext, hends⟩ := h cursor captures reached hsuccess
  exact ⟨text, hmono text htext, hends⟩

theorem Finds.seq {next : Continuation} (hfirst : Finds search language)
    (hnext : Finds next other) :
    Finds (fun cursor => Attempt.andThen (search cursor) next) (language * other) := by
  intro cursor captures reached hsuccess
  obtain ⟨_, inner, hmiddle, hend⟩ := success_andThen hsuccess
  obtain ⟨text, htext, hahead, rfl⟩ := hfirst _ _ _ hmiddle
  obtain ⟨rest, hrest, hmore, rfl⟩ := hnext _ _ _ hend
  exact ⟨text ++ rest, Language.append_mem_mul htext hrest, Cursor.append_prefix hahead hmore,
    Cursor.advance_append hahead⟩

theorem takes_step (set : CharSet) :
    Takes (fun cursor => Attempt.from? (cursor.step? set)) (Node.one set).language := by
  rintro ⟨pos, before, after⟩ next captures reached hsuccess
  cases after with
  | nil => cases hsuccess
  | cons c rest =>
      cases hhas : set.has c with
      | false => simp [Cursor.step?, hhas, Attempt.from?, Attempt.fail] at hsuccess
      | true =>
          simp only [Cursor.step?, hhas, if_true, Attempt.from?] at hsuccess
          exact ⟨[c], ⟨c, hhas, rfl⟩, by simp, captures, hsuccess⟩

/-- A back reference takes as many code points as the text that it refers to has. -/
theorem exists_of_skip? {fold : Fold} {text : Text} {cursor reached : Cursor}
    (h : cursor.skip? fold text = some reached) :
    ∃ found, found <+: cursor.after ∧ reached = cursor.advance found.length := by
  induction text generalizing cursor with
  | nil =>
      obtain rfl := Option.some.inj h
      exact ⟨[], List.nil_prefix, (Cursor.advance_zero cursor).symm⟩
  | cons c text ih =>
      obtain ⟨pos, before, after⟩ := cursor
      cases after with
      | nil => cases h
      | cons d rest =>
          simp only [Cursor.skip?] at h
          split at h
          next =>
            obtain ⟨found, hahead, rfl⟩ := ih h
            exact ⟨d :: found, (List.prefix_cons_inj d).mpr hahead, by
              simp [Cursor.advance, Nat.add_right_comm, Nat.add_assoc]⟩
          next => cases h

end Attempts

section Loops

variable {body : Matcher} {language : Language Nat} {bounds : Loop.Bounds}

theorem Loop.nil_mem_language (h : bounds.least = 0) : [] ∈ Loop.language bounds language :=
  ⟨[], rfl, by simp, by simp [h], by simp⟩

/-- One round before those that the bounds leave after it. -/
theorem Loop.mem_language_of_mul {text : Text} {count : Nat}
    (h : text ∈ language * Loop.language (bounds.left (count + 1)) language)
    (hallowed : count < bounds.least ∨ (bounds.left count).most ≠ some 0) :
    text ∈ Loop.language (bounds.left count) language := by
  obtain ⟨text, htext, _, ⟨rounds, rfl, hrounds, hleast, hmost⟩, rfl⟩ := h
  obtain ⟨least, most⟩ := bounds
  refine ⟨text :: rounds, rfl, List.forall_mem_cons.mpr ⟨htext, hrounds⟩, ?_, ?_⟩
  · simp only [Bounds.left, List.length_cons] at hleast ⊢
    omega
  · intro limit hlimit
    cases most with
    | none => cases hlimit
    | some most =>
        obtain rfl := Option.some.inj hlimit
        have hlength := hmost _ rfl
        simp only [Bounds.left, Option.map_some, ne_eq, Option.some.injEq, List.length_cons]
          at hleast hlength hallowed ⊢
        omega

theorem Loop.most_of_mayRepeat {count pos : Nat} {last : Option Nat}
    (h : Loop.mayRepeat bounds count last pos = true) : (bounds.left count).most ≠ some 0 := by
  obtain ⟨least, most⟩ := bounds
  cases most with
  | none => simp [Bounds.left]
  | some most =>
      simp only [Loop.mayRepeat, Option.all_some, Bool.and_eq_true, decide_eq_true_eq] at h
      simp only [Bounds.left, Option.map_some, ne_eq, Option.some.injEq]
      omega

theorem Loop.left_least {count : Nat} (h : ¬ count < bounds.least) :
    (bounds.left count).least = 0 := Nat.sub_eq_zero_of_le (Nat.not_lt.mp h)

section Rounds

variable {count : Nat} {loop : Matcher}

/-- A round, and the loop after it. -/
theorem Takes.round (hbody : Takes body language)
    (hloop : Takes loop (Loop.language (bounds.left (count + 1)) language))
    (hallowed : count < bounds.least ∨ (bounds.left count).most ≠ some 0) :
    Takes (fun cursor next => body cursor fun reached => loop reached next)
      (Loop.language (bounds.left count) language) :=
  (hbody.seq hloop).mono fun _ h => Loop.mem_language_of_mul h hallowed

/-- A loop may end where no round is obligatory. -/
theorem takes_noRound (h : ¬ count < bounds.least) :
    Takes (fun cursor next => next cursor) (Loop.language (bounds.left count) language) := by
  refine takes_stay.mono ?_
  rintro _ rfl
  exact Loop.nil_mem_language (Loop.left_least h)

end Rounds

/-- The rounds of a loop are followed by induction on fuel, from any count of rounds. -/
theorem takes_greedy (hbody : Takes body language) {round rest : Attempt → Attempt}
    (hround : Keeps round) (hrest : Keeps rest) (fuel count : Nat) (last : Option Nat) :
    Takes (Loop.greedy body bounds round rest fuel count last)
      (Loop.language (bounds.left count) language) := by
  induction fuel generalizing count last with
  | zero => exact nofun
  | succ fuel ih =>
      intro cursor next captures reached hsuccess
      rw [Loop.greedy] at hsuccess
      split at hsuccess
      next hleast => exact hbody.round (ih _ last) (Or.inl hleast) _ _ _ _ hsuccess
      next hleast =>
        split at hsuccess
        next hmay =>
          rcases success_orElse hsuccess with hagain | ⟨inner, hend⟩
          · exact hbody.round (ih _ (some cursor.pos)) (Or.inr (Loop.most_of_mayRepeat hmay)) _ _ _
              _ (hround _ _ _ hagain)
          · exact takes_noRound hleast _ _ _ _ (hrest _ _ _ hend)
        next => exact takes_noRound hleast _ _ _ _ (hrest _ _ _ hsuccess)

theorem takes_lazy (hbody : Takes body language) (inLoop : Bool) (fuel count : Nat)
    (last : Option Nat) :
    Takes (Loop.lazy body bounds inLoop fuel count last)
      (Loop.language (bounds.left count) language) := by
  induction fuel generalizing count last with
  | zero => exact nofun
  | succ fuel ih =>
      intro cursor next captures reached hsuccess
      rw [Loop.lazy] at hsuccess
      split at hsuccess
      next hleast => exact hbody.round (ih _ last) (Or.inl hleast) _ _ _ _ hsuccess
      next hleast =>
        rcases success_orElse hsuccess with hend | ⟨inner, hagain⟩
        · exact takes_noRound hleast _ _ _ _ (keeps_undoing _ _ _ _ hend)
        · split at hagain
          next hmay =>
            exact hbody.round (ih _ (some cursor.pos)) (Or.inr (Loop.most_of_mayRepeat hmay)) _ _ _
              _ hagain
          next => cases hagain

/-- A possessive loop is a search: each of its rounds is one. -/
theorem finds_possessive (hbody : Takes body language) (fuel count : Nat) (last : Option Nat) :
    Finds (Loop.possessive body bounds fuel count last)
      (Loop.language (bounds.left count) language) := by
  induction fuel generalizing count last with
  | zero => exact nofun
  | succ fuel ih =>
      have hmore (last' : Option Nat)
          (hallowed : count < bounds.least ∨ (bounds.left count).most ≠ some 0) :
          Finds (fun cursor => Attempt.andThen (body cursor Attempt.succeed)
            (Loop.possessive body bounds fuel (count + 1) last'))
            (Loop.language (bounds.left count) language) :=
        (hbody.finds.seq (ih (count + 1) last')).mono fun _ h =>
          Loop.mem_language_of_mul h hallowed
      intro cursor captures reached hsuccess
      rw [Loop.possessive] at hsuccess
      split at hsuccess
      next hleast => exact hmore last (Or.inl hleast) _ _ _ hsuccess
      next hleast =>
        split at hsuccess
        next hmay =>
          rcases success_orElse hsuccess with hagain | ⟨inner, hend⟩
          · exact hmore (some cursor.pos) (Or.inr (Loop.most_of_mayRepeat hmay)) _ _ _
              (keeps_undoing _ _ _ _ hagain)
          · exact (takes_noRound hleast).finds _ inner _ hend
        next => exact (takes_noRound hleast).finds _ captures _ hsuccess

end Loops

/-- The matcher finds words of the tree's language. The induction is on the tree. -/
theorem Node.run_takes (node : Node) (inLoop : Bool) : Takes (node.run inLoop) node.language := by
  induction node generalizing inLoop with
  | empty => exact takes_stay
  | one set => exact takes_step set
  | seq first second ihFirst ihSecond => exact (ihFirst inLoop).seq (ihSecond inLoop)
  | alt first second ihFirst ihSecond =>
      intro cursor next captures reached hsuccess
      rcases success_orElse hsuccess with hfirst | ⟨inner, hsecond⟩
      · exact (ihFirst inLoop).mono (fun _ => Or.inl) _ _ _ _ (keeps_undoing _ _ _ _ hfirst)
      · exact (ihSecond inLoop).mono (fun _ => Or.inr) _ _ _ _ (keeps_undoing _ _ _ _ hsecond)
  | group index body ih =>
      intro cursor next captures reached hsuccess
      obtain ⟨text, htext, hahead, inner, hend⟩ := ih inLoop _ _ _ _ hsuccess
      exact ⟨text, htext, hahead, _, hend⟩
  | backref index fold =>
      intro cursor next captures reached hsuccess
      simp only [run] at hsuccess
      cases htext : (captures.text? index).bind fun text => cursor.skip? fold text with
      | none =>
          rw [htext] at hsuccess
          cases hsuccess
      | some middle =>
          rw [htext] at hsuccess
          obtain ⟨text, -, hskip⟩ := Option.bind_eq_some_iff.mp htext
          obtain ⟨found, hahead, rfl⟩ := exists_of_skip? hskip
          exact ⟨found, Set.mem_univ _, hahead, captures, hsuccess⟩
  | conditional index yes no ihYes ihNo =>
      intro cursor next captures reached hsuccess
      simp only [run] at hsuccess
      split at hsuccess
      next => exact (ihYes inLoop).mono (fun _ => Or.inl) _ _ _ _ hsuccess
      next => exact (ihNo inLoop).mono (fun _ => Or.inr) _ _ _ _ hsuccess
  | loop least most greed body ih =>
      intro cursor next captures reached hsuccess
      rw [language, ← Loop.Bounds.left_zero ⟨least, most⟩]
      cases greed with
      | greedy =>
          simp only [run] at hsuccess
          split at hsuccess
          next =>
            exact takes_greedy (ih inLoop) (keeps_undoing inLoop) (keeps_undoing inLoop) _ 0 none
              _ _ _ _ hsuccess
          next =>
            exact takes_greedy (ih true) (keeps_undoing true) keeps_id _ 0 none _ _ _ _ hsuccess
      | lazy => exact takes_lazy (ih true) inLoop _ 0 none _ _ _ _ hsuccess
      | possessive => exact (finds_possessive (ih inLoop) _ 0 none).takes _ _ _ _ hsuccess
  | atomic body ih => exact (ih inLoop).finds.takes
  | ahead negated body _ =>
      intro cursor next captures reached hsuccess
      obtain ⟨inner, hend⟩ := success_look hsuccess
      exact takes_stay _ _ _ _ hend
  | behind width negated body _ =>
      intro cursor next captures reached hsuccess
      obtain ⟨inner, hend⟩ := success_look hsuccess
      exact takes_stay _ _ _ _ hend
  | anchor kind =>
      intro cursor next captures reached hsuccess
      simp only [run] at hsuccess
      split at hsuccess
      next => exact takes_stay _ _ _ _ hsuccess
      next => cases hsuccess

/-- What a pattern matches is a word of its language that stands at the position. -/
theorem Pattern.mem_language_of_matchAt? {pattern : Pattern} {input found : Text} {pos : Nat}
    (h : pattern.matchAt? input pos = some found) :
    found ∈ pattern.root.language ∧ found <+: input.drop pos := by
  obtain ⟨reached, hsuccess, rfl⟩ := Option.map_eq_some_iff.mp h
  obtain ⟨text, htext, hahead, rfl⟩ := (pattern.root.run_takes false).finds _ _ _ hsuccess
  rw [Cursor.textTo_advance hahead]
  rw [Cursor.after_cursorAt] at hahead
  exact ⟨htext, hahead⟩

/-- The words of a loop over a class. -/
theorem Loop.mem_language_one {least : Nat} {most : Option Nat} {greed : Greed} {set : CharSet}
    {text : Text} (h : text ∈ (Node.loop least most greed (.one set)).language) :
    (∀ c ∈ text, set.has c = true) ∧ least ≤ text.length ∧
      ∀ limit ∈ most, text.length ≤ max least limit := by
  obtain ⟨rounds, rfl, hrounds, hleast, hmost⟩ := h
  have hwidths : rounds.map List.length = List.replicate rounds.length 1 := by
    refine List.eq_replicate_iff.mpr ⟨List.length_map _, fun width hwidth => ?_⟩
    obtain ⟨round, hround, rfl⟩ := List.mem_map.mp hwidth
    obtain ⟨c, -, rfl⟩ := hrounds round hround
    rfl
  have hlength : rounds.flatten.length = rounds.length := by
    rw [List.length_flatten, hwidths, List.sum_replicate_nat, Nat.mul_one]
  rw [hlength]
  refine ⟨fun c hc => ?_, hleast, hmost⟩
  obtain ⟨round, hround, hmem⟩ := List.mem_flatten.mp hc
  obtain ⟨d, hhas, rfl⟩ := hrounds round hround
  obtain rfl := List.mem_singleton.mp hmem
  exact hhas

end ParserCombinators.Regex
