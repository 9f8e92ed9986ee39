import Mathlib.Data.Option.Basic
import ParserCombinators.Regex.Pattern

/-!
What a match depends on. A pattern that does not look back finds at a position of a text just what
it finds at the start of what is left there, and so does a pattern for which the input begins at the
position.

The two matches go side by side. Their cursors stand over the same text, at positions that differ by
the same number all along; only where nothing looks back the text before them may differ. Captures
and what an attempt ends with are related place by place, so that no order of tries is disturbed.
-/

namespace ParserCombinators.Regex

/-- Whether a tree asks what stands before the place where it matches. -/
def Node.looksBack : Node → Bool
  | empty => false
  | one _ => false
  | seq first second => first.looksBack || second.looksBack
  | alt first second => first.looksBack || second.looksBack
  | group _ body => body.looksBack
  | backref _ _ => false
  | conditional _ yes no => yes.looksBack || no.looksBack
  | loop _ _ _ body => body.looksBack
  | atomic body => body.looksBack
  | ahead _ body => body.looksBack
  | behind _ _ _ => true
  | anchor .inputStart => true
  | anchor .lineStart => true
  | anchor (.boundary _ _) => true
  | anchor .inputEnd => false
  | anchor .lastLineEnd => false
  | anchor .lineEnd => false

/-- The first cursor stands `gap` characters further in its text, with the same text after it. If
what stands before counts it is the same, and is no longer than the position. -/
structure Shifted (before : Prop) (gap : Nat) (cursor origin : Cursor) : Prop where
  pos : cursor.pos = origin.pos + gap
  after : cursor.after = origin.after
  before : before → cursor.before = origin.before ∧ origin.before.length ≤ origin.pos

variable {before : Prop} {gap : Nat}

section Cursors

variable {cursor origin : Cursor}

theorem Shifted.step? (h : Shifted before gap cursor origin) (set : CharSet) :
    Option.Rel (Shifted before gap) (cursor.step? set) (origin.step? set) := by
  unfold Cursor.step?
  rw [h.after]
  cases origin.after with
  | nil => exact .none
  | cons c rest =>
      by_cases hset : set.has c
      · simp only [hset, if_true]
        refine .some ⟨by simp only [h.pos]; omega, rfl, fun hbefore => ?_⟩
        obtain ⟨heq, hlength⟩ := h.before hbefore
        simp only [heq, List.length_cons, true_and]
        omega
      · simp only [hset, Bool.false_eq_true, if_false]
        exact .none

theorem Shifted.skip? (h : Shifted before gap cursor origin) (fold : Fold) (text : Text) :
    Option.Rel (Shifted before gap) (cursor.skip? fold text) (origin.skip? fold text) := by
  induction text generalizing cursor origin with
  | nil => exact .some h
  | cons c text ih =>
      unfold Cursor.skip?
      rw [h.after]
      cases origin.after with
      | nil => exact .none
      | cons next rest =>
          by_cases hsame : fold.lower c = fold.lower next
          · simp only [hsame, if_true]
            refine ih ⟨by simp only [h.pos]; omega, rfl, fun hbefore => ?_⟩
            obtain ⟨heq, hlength⟩ := h.before hbefore
            simp only [heq, List.length_cons, true_and]
            omega
          · simp only [hsame, if_false]
            exact .none

theorem Shifted.back? (h : Shifted before gap cursor origin) (hbefore : before) (width : Nat) :
    Option.Rel (Shifted before gap) (cursor.back? width) (origin.back? width) := by
  obtain ⟨heq, hlength⟩ := h.before hbefore
  unfold Cursor.back?
  rw [heq]
  by_cases hshort : origin.before.length < width
  · simp only [hshort, if_true]
    exact .none
  · simp only [hshort, if_false]
    refine .some ⟨?_, by simp only [h.after], fun _ => ⟨rfl, ?_⟩⟩
    · simp only [h.pos]
      omega
    · simp only [List.length_drop]
      omega

theorem Shifted.satisfies (h : Shifted before gap cursor origin) {kind : Anchor}
    (hkind : before ∨ (Node.anchor kind).looksBack = false) :
    cursor.satisfies kind = origin.satisfies kind := by
  rcases hkind with hbefore | hkind
  · cases kind <;> simp only [Cursor.satisfies, (h.before hbefore).1, h.after]
  · cases kind with
    | inputStart => cases hkind
    | lineStart => cases hkind
    | boundary _ _ => cases hkind
    | inputEnd => simp only [Cursor.satisfies, h.after]
    | lastLineEnd => simp only [Cursor.satisfies, h.after]
    | lineEnd => simp only [Cursor.satisfies, h.after]

theorem Shifted.textTo (h : Shifted before gap cursor origin) {stop stop' : Cursor}
    (hstop : Shifted before gap stop stop') : cursor.textTo stop = origin.textTo stop' := by
  unfold Cursor.textTo
  rw [h.after, h.pos, hstop.pos, Nat.add_sub_add_right]

end Cursors

section Captures

/-- Captures that are shifted place by place. -/
structure ShiftedCaptures (before : Prop) (gap : Nat) (captures origin : Captures) : Prop where
  length : captures.marks.length = origin.marks.length
  mark? : ∀ index, Option.Rel (Shifted before gap) (captures.mark? index) (origin.mark? index)

variable {captures origin : Captures} {cursor cursor' : Cursor}

theorem ShiftedCaptures.none : ShiftedCaptures before gap .none .none where
  length := rfl
  mark? _ := .none

theorem ShiftedCaptures.mark (h : ShiftedCaptures before gap captures origin) (index : Nat)
    (hplace : Shifted before gap cursor cursor') :
    ShiftedCaptures before gap (captures.mark index cursor) (origin.mark index cursor') where
  length := by
    unfold Captures.mark
    rw [h.length]
    split <;> simp [h.length]
  mark? other := by
    rw [Captures.mark?_mark, Captures.mark?_mark]
    split
    · exact .some hplace
    · exact h.mark? other

theorem ShiftedCaptures.text? (h : ShiftedCaptures before gap captures origin) (group : Nat) :
    captures.text? group = origin.text? group := by
  have hstart := h.mark? (2 * group)
  have hstop := h.mark? (2 * group + 1)
  unfold Captures.text?
  generalize captures.mark? (2 * group) = start, origin.mark? (2 * group) = start' at hstart
  generalize captures.mark? (2 * group + 1) = stop, origin.mark? (2 * group + 1) = stop' at hstop
  cases hstart with
  | none => rfl
  | some hstart =>
      cases hstop with
      | none => rfl
      | some hstop =>
          simp only [hstart.pos, hstop.pos, Nat.add_lt_add_iff_right, hstart.textTo hstop]

theorem ShiftedCaptures.recover (h : ShiftedCaptures before gap captures origin)
    {after after' : Captures} (hafter : ShiftedCaptures before gap after after') (inLoop : Bool) :
    ShiftedCaptures before gap (captures.recover inLoop after) (origin.recover inLoop after') := by
  cases inLoop with
  | true => exact h
  | false =>
      refine ⟨?_, fun index => ?_⟩
      · simp [Captures.recover, h.length, hafter.length]
      · have hmark := hafter.mark? index
        simp only [Captures.recover, Captures.mark?, Bool.false_eq_true, if_false,
          List.getElem?_take, h.length] at hmark ⊢
        split
        · exact hmark
        · exact .none

end Captures

section Attempts

/-- Ends of attempts: both fail or both reach a cursor, with captures to match. -/
inductive ShiftedEnd (before : Prop) (gap : Nat) :
    Option Cursor × Captures → Option Cursor × Captures → Prop
  | none {after after' : Captures} : ShiftedCaptures before gap after after' →
      ShiftedEnd before gap (.none, after) (.none, after')
  | some {reached reached' : Cursor} {after after' : Captures} :
      Shifted before gap reached reached' → ShiftedCaptures before gap after after' →
      ShiftedEnd before gap (.some reached, after) (.some reached', after')

def ShiftedAttempt (before : Prop) (gap : Nat) (attempt origin : Attempt) : Prop :=
  ∀ captures captures', ShiftedCaptures before gap captures captures' →
    ShiftedEnd before gap (attempt captures) (origin captures')

def ShiftedContinuation (before : Prop) (gap : Nat) (next origin : Continuation) : Prop :=
  ∀ cursor cursor', Shifted before gap cursor cursor' →
    ShiftedAttempt before gap (next cursor) (origin cursor')

def ShiftedMatcher (before : Prop) (gap : Nat) (body origin : Matcher) : Prop :=
  ∀ cursor cursor' next next', Shifted before gap cursor cursor' →
    ShiftedContinuation before gap next next' →
    ShiftedAttempt before gap (body cursor next) (origin cursor' next')

variable {attempt attempt' second second' : Attempt} {next next' : Continuation}

theorem ShiftedAttempt.fail : ShiftedAttempt before gap Attempt.fail Attempt.fail :=
  fun _ _ h => .none h

theorem ShiftedContinuation.succeed :
    ShiftedContinuation before gap Attempt.succeed Attempt.succeed :=
  fun _ _ hcursor _ _ hcaptures => .some hcursor hcaptures

theorem ShiftedAttempt.undoing (h : ShiftedAttempt before gap attempt attempt') (inLoop : Bool) :
    ShiftedAttempt before gap (.undoing inLoop attempt) (.undoing inLoop attempt') := by
  intro captures captures' hcaptures
  have hend := h captures captures' hcaptures
  unfold Attempt.undoing
  generalize attempt captures = ends, attempt' captures' = ends' at hend
  cases hend with
  | none hafter => exact .none (hcaptures.recover hafter inLoop)
  | some hreached hafter => exact .some hreached hafter

theorem ShiftedAttempt.orElse (h : ShiftedAttempt before gap attempt attempt')
    (hsecond : ShiftedAttempt before gap second second') :
    ShiftedAttempt before gap (attempt.orElse second) (attempt'.orElse second') := by
  intro captures captures' hcaptures
  have hend := h captures captures' hcaptures
  unfold Attempt.orElse
  generalize attempt captures = ends, attempt' captures' = ends' at hend
  cases hend with
  | none hafter => exact hsecond _ _ hafter
  | some hreached hafter => exact .some hreached hafter

theorem ShiftedAttempt.andThen (h : ShiftedAttempt before gap attempt attempt')
    (hnext : ShiftedContinuation before gap next next') :
    ShiftedAttempt before gap (attempt.andThen next) (attempt'.andThen next') := by
  intro captures captures' hcaptures
  have hend := h captures captures' hcaptures
  unfold Attempt.andThen
  generalize attempt captures = ends, attempt' captures' = ends' at hend
  cases hend with
  | none hafter => exact .none hafter
  | some hreached hafter => exact hnext _ _ hreached _ _ hafter

theorem ShiftedAttempt.refute (h : ShiftedAttempt before gap attempt attempt')
    (hsecond : ShiftedAttempt before gap second second') (inLoop : Bool) :
    ShiftedAttempt before gap (.refute inLoop attempt second)
      (.refute inLoop attempt' second') := by
  intro captures captures' hcaptures
  have hend := h.undoing inLoop captures captures' hcaptures
  unfold Attempt.refute
  generalize Attempt.undoing inLoop attempt captures = ends,
    Attempt.undoing inLoop attempt' captures' = ends' at hend
  cases hend with
  | none hafter => exact hsecond _ _ hafter
  | some _ hafter => exact .none hafter

theorem ShiftedAttempt.from? {cursor cursor' : Option Cursor}
    (h : Option.Rel (Shifted before gap) cursor cursor')
    (hnext : ShiftedContinuation before gap next next') :
    ShiftedAttempt before gap (.from? cursor next) (.from? cursor' next') := by
  cases h with
  | none => exact .fail
  | some hcursor => exact hnext _ _ hcursor

theorem ShiftedAttempt.look (h : ShiftedAttempt before gap attempt attempt')
    (hsecond : ShiftedAttempt before gap second second') (inLoop negated : Bool) :
    ShiftedAttempt before gap (look inLoop negated attempt second)
      (look inLoop negated attempt' second') := by
  cases negated with
  | true => exact h.refute hsecond inLoop
  | false => exact h.andThen fun _ _ _ => hsecond

end Attempts

section Loops

variable {body body' : Matcher} {bounds : Loop.Bounds} {cursor cursor' : Cursor}
  {next next' : Continuation}

theorem Shifted.rounds (h : Shifted before gap cursor cursor') :
    Loop.rounds bounds cursor = Loop.rounds bounds cursor' := by
  unfold Loop.rounds
  rw [h.after]

/-- Where the last optional round began is shifted with the cursor. -/
theorem mayRepeat_add (count : Nat) (last : Option Nat) (pos : Nat) :
    Loop.mayRepeat bounds count (last.map (· + gap)) (pos + gap) =
      Loop.mayRepeat bounds count last pos := by
  cases last with
  | none => rfl
  | some last =>
      have hsame : (last + gap == pos + gap) = (last == pos) := by
        rw [Bool.eq_iff_iff, beq_iff_eq, beq_iff_eq, Nat.add_right_cancel_iff]
      simp [Loop.mayRepeat, bne, hsame]

theorem ShiftedMatcher.greedy (hbody : ShiftedMatcher before gap body body')
    {round rest : Attempt → Attempt}
    (hround : ∀ attempt attempt', ShiftedAttempt before gap attempt attempt' →
      ShiftedAttempt before gap (round attempt) (round attempt'))
    (hrest : ∀ attempt attempt', ShiftedAttempt before gap attempt attempt' →
      ShiftedAttempt before gap (rest attempt) (rest attempt'))
    (hcursor : Shifted before gap cursor cursor')
    (hnext : ShiftedContinuation before gap next next')
    (fuel count : Nat) (last : Option Nat) :
    ShiftedAttempt before gap
      (Loop.greedy body bounds round rest fuel count (last.map (· + gap)) cursor next)
      (Loop.greedy body' bounds round rest fuel count last cursor' next') := by
  induction fuel generalizing count last cursor cursor' with
  | zero => exact .fail
  | succ fuel ih =>
      unfold Loop.greedy
      rw [hcursor.pos, mayRepeat_add]
      split
      · exact hbody _ _ _ _ hcursor fun _ _ hreached => ih hreached (count + 1) last
      · split
        · refine ShiftedAttempt.orElse (hround _ _ (hbody _ _ _ _ hcursor ?_))
            (hrest _ _ (hnext _ _ hcursor))
          exact fun _ _ hreached => ih hreached (count + 1) (some cursor'.pos)
        · exact hrest _ _ (hnext _ _ hcursor)

theorem ShiftedMatcher.lazy (hbody : ShiftedMatcher before gap body body') (inLoop : Bool)
    (hcursor : Shifted before gap cursor cursor')
    (hnext : ShiftedContinuation before gap next next')
    (fuel count : Nat) (last : Option Nat) :
    ShiftedAttempt before gap
      (Loop.lazy body bounds inLoop fuel count (last.map (· + gap)) cursor next)
      (Loop.lazy body' bounds inLoop fuel count last cursor' next') := by
  induction fuel generalizing count last cursor cursor' with
  | zero => exact .fail
  | succ fuel ih =>
      unfold Loop.lazy
      rw [hcursor.pos, mayRepeat_add]
      split
      · exact hbody _ _ _ _ hcursor fun _ _ hreached => ih hreached (count + 1) last
      · refine ((hnext _ _ hcursor).undoing inLoop).orElse ?_
        split
        · refine hbody _ _ _ _ hcursor ?_
          exact fun _ _ hreached => ih hreached (count + 1) (some cursor'.pos)
        · exact .fail

theorem ShiftedMatcher.possessive (hbody : ShiftedMatcher before gap body body')
    (hcursor : Shifted before gap cursor cursor') (fuel count : Nat) (last : Option Nat) :
    ShiftedAttempt before gap
      (Loop.possessive body bounds fuel count (last.map (· + gap)) cursor)
      (Loop.possessive body' bounds fuel count last cursor') := by
  induction fuel generalizing count last cursor cursor' with
  | zero => exact .fail
  | succ fuel ih =>
      have hround := hbody _ _ _ _ hcursor .succeed
      unfold Loop.possessive
      rw [hcursor.pos, mayRepeat_add]
      split
      · exact hround.andThen fun _ _ hreached => ih hreached (count + 1) last
      · split
        · refine ShiftedAttempt.orElse (.undoing (hround.andThen ?_) true)
            (ShiftedContinuation.succeed _ _ hcursor)
          exact fun _ _ hreached => ih hreached (count + 1) (some cursor'.pos)
        · exact ShiftedContinuation.succeed _ _ hcursor

end Loops

/-- A tree is matched in the same way at shifted cursors. -/
theorem Node.run_shifted (node : Node) (hnode : before ∨ node.looksBack = false) (inLoop : Bool) :
    ShiftedMatcher before gap (node.run inLoop) (node.run inLoop) := by
  induction node generalizing inLoop with
  | empty => exact fun _ _ _ _ hcursor hnext => hnext _ _ hcursor
  | one set => exact fun _ _ _ _ hcursor hnext => .from? (hcursor.step? set) hnext
  | seq first second hfirst hsecond =>
      simp only [looksBack, Bool.or_eq_false_iff] at hnode
      intro cursor cursor' next next' hcursor hnext
      refine hfirst (hnode.imp_right And.left) inLoop _ _ _ _ hcursor ?_
      intro reached reached' hreached
      exact hsecond (hnode.imp_right And.right) inLoop _ _ _ _ hreached hnext
  | alt first second hfirst hsecond =>
      simp only [looksBack, Bool.or_eq_false_iff] at hnode
      intro cursor cursor' next next' hcursor hnext
      have hleft := hfirst (hnode.imp_right And.left) inLoop _ _ _ _ hcursor hnext
      have hright := hsecond (hnode.imp_right And.right) inLoop _ _ _ _ hcursor hnext
      exact (hleft.undoing inLoop).orElse (hright.undoing inLoop)
  | group index body ih =>
      intro cursor cursor' next next' hcursor hnext captures captures' hcaptures
      refine ih hnode inLoop _ _ _ _ hcursor ?_ _ _ (hcaptures.mark _ hcursor)
      intro reached reached' hreached inner inner' hinner
      exact hnext _ _ hreached _ _ (hinner.mark _ hreached)
  | backref index fold =>
      intro cursor cursor' next next' hcursor hnext captures captures' hcaptures
      refine ShiftedAttempt.from? ?_ hnext captures captures' hcaptures
      rw [hcaptures.text? index]
      cases captures'.text? index with
      | none => exact .none
      | some text => exact hcursor.skip? fold text
  | conditional index yes no hyes hno =>
      simp only [looksBack, Bool.or_eq_false_iff] at hnode
      intro cursor cursor' next next' hcursor hnext captures captures' hcaptures
      unfold Node.run
      -- The group holds the same text on both sides, so the same branch is taken.
      rw [hcaptures.text? index]
      split
      · exact hyes (hnode.imp_right And.left) inLoop _ _ _ _ hcursor hnext _ _ hcaptures
      · exact hno (hnode.imp_right And.right) inLoop _ _ _ _ hcursor hnext _ _ hcaptures
  | loop least most greed body ih =>
      intro cursor cursor' next next' hcursor hnext
      have hundoing (inLoop : Bool) (attempt attempt' : Attempt)
          (h : ShiftedAttempt before gap attempt attempt') := h.undoing inLoop
      unfold Node.run
      dsimp only
      rw [hcursor.rounds]
      cases greed with
      | greedy =>
          dsimp only
          split
          · exact (ih hnode inLoop).greedy (hundoing inLoop) (hundoing inLoop) hcursor hnext _ 0
              none
          · exact (ih hnode true).greedy (hundoing true) (fun _ _ h => h) hcursor hnext _ 0 none
      | lazy => exact (ih hnode true).lazy inLoop hcursor hnext _ 0 none
      | possessive => exact ((ih hnode inLoop).possessive hcursor _ 0 none).andThen hnext
  | atomic body ih =>
      intro cursor cursor' next next' hcursor hnext
      exact (ih hnode inLoop _ _ _ _ hcursor .succeed).andThen hnext
  | ahead negated body ih =>
      intro cursor cursor' next next' hcursor hnext
      exact (ih hnode inLoop _ _ _ _ hcursor .succeed).look (hnext _ _ hcursor) inLoop negated
  | behind width negated body ih =>
      -- This tree looks back, so the texts before the cursors are the same.
      have hbefore : before := hnode.resolve_right (by simp [looksBack])
      intro cursor cursor' next next' hcursor hnext
      refine ShiftedAttempt.look (.from? (hcursor.back? hbefore width) ?_) (hnext _ _ hcursor)
        inLoop negated
      intro start start' hstart
      exact ih (Or.inl hbefore) inLoop _ _ _ _ hstart .succeed
  | anchor kind =>
      intro cursor cursor' next next' hcursor hnext
      unfold Node.run
      rw [hcursor.satisfies hnode]
      split
      · exact hnext _ _ hcursor
      · exact .fail

namespace Pattern

/-- Whether what the pattern matches depends on what is left of the input alone. -/
def seesRestOnly (pattern : Pattern) : Bool :=
  pattern.startsAtCursor || !pattern.root.looksBack

/-- Such a pattern matches at a position what it matches at the start of what is left there. -/
theorem matchAt?_eq_drop {pattern : Pattern} (h : pattern.seesRestOnly = true) (input : Text)
    (pos : Nat) : pattern.matchAt? input pos = pattern.matchAt? (input.drop pos) 0 := by
  have hcursor : Shifted (pattern.startsAtCursor = true) pos (pattern.cursorAt input pos)
      (pattern.cursorAt (input.drop pos) 0) := by
    unfold cursorAt
    split
    next => exact ⟨(Nat.zero_add pos).symm, rfl, fun _ => ⟨rfl, Nat.le_refl 0⟩⟩
    next hinside => exact ⟨(Nat.zero_add pos).symm, rfl, fun hstarts => absurd hstarts hinside⟩
  have hroot : pattern.startsAtCursor = true ∨ pattern.root.looksBack = false := by
    simpa [seesRestOnly] using h
  have hend := pattern.root.run_shifted hroot false _ _ _ _ hcursor .succeed _ _ .none
  unfold matchAt?
  dsimp only
  generalize pattern.root.run false (pattern.cursorAt input pos) Attempt.succeed .none = ends,
    pattern.root.run false (pattern.cursorAt (input.drop pos) 0) Attempt.succeed .none = ends'
    at hend
  cases hend with
  | none _ => rfl
  | some hreached _ => exact congrArg some (hcursor.textTo hreached)

end Pattern

end ParserCombinators.Regex
