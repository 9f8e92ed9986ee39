import Mathlib.Data.List.TakeWhile
import ParserCombinators.Proofs.OrderedChoice.Completeness

/-!
Runs of a class. Most patterns of a grammar are a greedy loop over a single class of code points,
and such a loop needs no backtracking to be understood: it takes the longest run of members ahead
that its upper bound allows, and matches just when that run is as long as its lower bound asks for.

Whether such a pattern matches does not depend on anything before the position, nor on what follows
the first code point that is no member.
-/

namespace ParserCombinators

namespace Regex

/-- The members of the set that come next, up to a number of them. -/
def CharSet.run (set : CharSet) (most : Option Nat) (text : Text) : Text :=
  (most.elim text text.take).takeWhile set.has

namespace CharSet

variable {set : CharSet} {most : Option Nat} {run tail : Text}

theorem run_nil (set : CharSet) (most : Option Nat) : set.run most [] = [] := by
  cases most <;> simp [run]

theorem run_zero (set : CharSet) (text : Text) : set.run (some 0) text = [] := rfl

theorem run_cons_of_has {c : Nat} (h : set.has c = true) (hmost : most ≠ some 0) (text : Text) :
    set.run most (c :: text) = c :: set.run (most.map (· - 1)) text := by
  cases most with
  | none => simp [run, h]
  | some limit =>
      obtain ⟨less, rfl⟩ : ∃ less, limit = less + 1 :=
        Nat.exists_eq_add_one_of_ne_zero fun hzero => hmost (congrArg some hzero)
      simp [run, h]

theorem run_cons_of_not_has {c : Nat} (h : set.has c = false) (most : Option Nat) (text : Text) :
    set.run most (c :: text) = [] := by
  cases most with
  | none => simp [run, h]
  | some limit => cases limit <;> simp [run, h]

theorem run_prefix (set : CharSet) (most : Option Nat) (text : Text) :
    set.run most text <+: text := by
  refine (List.takeWhile_prefix _).trans ?_
  cases most with
  | none => exact List.prefix_rfl
  | some limit => exact List.take_prefix limit text

theorem has_of_mem_run {most : Option Nat} {text : Text} {c : Nat} (h : c ∈ set.run most text) :
    set.has c = true := List.mem_takeWhile_imp h

theorem length_run_le (set : CharSet) (limit : Nat) (text : Text) :
    (set.run (some limit) text).length ≤ limit :=
  (List.takeWhile_prefix _).length_le.trans (List.length_take_le limit text)

/-- A run ends where no member follows. -/
theorem run_append (hrun : ∀ c ∈ run, set.has c = true)
    (htail : ∀ c ∈ tail.head?, set.has c = false) : set.run none (run ++ tail) = run := by
  have hstop : tail.takeWhile set.has = [] := by
    cases tail with
    | nil => rfl
    | cons c tail => simp [htail c rfl]
  change (run ++ tail).takeWhile set.has = run
  rw [List.takeWhile_append_of_pos hrun, hstop, List.append_nil]

/-- A run ends where its bound is reached. -/
theorem run_append_of_length {limit : Nat} (hrun : ∀ c ∈ run, set.has c = true)
    (hlength : run.length = limit) (tail : Text) : set.run (some limit) (run ++ tail) = run := by
  change ((run ++ tail).take limit).takeWhile set.has = run
  rw [List.take_left' hlength, List.takeWhile_eq_self_iff]
  exact hrun

end CharSet

/-- The cursor after so many more code points. -/
def Cursor.advance (cursor : Cursor) (count : Nat) : Cursor :=
  ⟨cursor.pos + count, (cursor.after.take count).reverse ++ cursor.before, cursor.after.drop count⟩

namespace Cursor

theorem advance_zero (cursor : Cursor) : cursor.advance 0 = cursor := by simp [advance]

theorem textTo_advance {cursor : Cursor} {run : Text} (h : run <+: cursor.after) :
    cursor.textTo (cursor.advance run.length) = run := by
  rw [textTo, advance, Nat.add_sub_cancel_left]
  exact (List.prefix_iff_eq_take.mp h).symm

theorem after_cursorAt (pattern : Pattern) (input : Text) (pos : Nat) :
    (pattern.cursorAt input pos).after = input.drop pos := by
  unfold Pattern.cursorAt
  split <;> rfl

end Cursor

namespace Loop

/-- The bounds that are left after so many rounds. -/
def Bounds.left (bounds : Bounds) (count : Nat) : Bounds :=
  ⟨bounds.least - count, bounds.most.map (· - count)⟩

theorem Bounds.left_zero (bounds : Bounds) : bounds.left 0 = bounds := by
  obtain ⟨least, most⟩ := bounds
  cases most <;> rfl

theorem Bounds.left_succ (bounds : Bounds) (count : Nat) :
    bounds.left (count + 1) = (bounds.left count).left 1 := by
  obtain ⟨least, most⟩ := bounds
  cases most <;> simp [left, Nat.sub_sub]

theorem mayRepeat_eq_true_iff {bounds : Bounds} {count pos : Nat} {last : Option Nat}
    (hlast : ∀ place ∈ last, place < pos) :
    mayRepeat bounds count last pos = true ↔ (bounds.left count).most ≠ some 0 := by
  have hmoved : (last != some pos) = true := by
    rw [bne_iff_ne]
    rintro rfl
    exact Nat.lt_irrefl _ (hlast pos rfl)
  obtain ⟨least, most⟩ := bounds
  cases most with
  | none => simp [mayRepeat, hmoved, Bounds.left]
  | some most =>
      simp only [mayRepeat, hmoved, Bounds.left, Option.all_some, Bool.and_true,
        decide_eq_true_eq, Option.map_some, ne_eq, Option.some.injEq]
      omega

end Loop

/-- Where a greedy loop over a class gets to: to the end of the run ahead, if it is long enough. -/
def Cursor.afterRun (set : CharSet) (bounds : Loop.Bounds) (cursor : Cursor) : Option Cursor :=
  let run := set.run bounds.most cursor.after
  if bounds.least ≤ run.length then some (cursor.advance run.length) else none

namespace Cursor

variable {set : CharSet} {bounds : Loop.Bounds} {cursor next : Cursor}

theorem afterRun_of_run_nil (h : set.run bounds.most cursor.after = []) :
    cursor.afterRun set bounds = if bounds.least = 0 then some cursor else none := by
  simp [afterRun, h, advance_zero]

theorem run_nil_of_step?_none (h : cursor.step? set = none) (most : Option Nat) :
    set.run most cursor.after = [] := by
  obtain ⟨pos, before, after⟩ := cursor
  cases after with
  | nil => exact set.run_nil most
  | cons c rest =>
      refine CharSet.run_cons_of_not_has ?_ most rest
      simpa [step?] using h

/-- A step over a member leaves the rest of the run to the rounds that are left. -/
theorem afterRun_of_step?_some (h : cursor.step? set = some next) (hmost : bounds.most ≠ some 0) :
    cursor.afterRun set bounds = next.afterRun set (bounds.left 1) := by
  obtain ⟨pos, before, after⟩ := cursor
  cases after with
  | nil => simp [step?] at h
  | cons c rest =>
      obtain ⟨hhas, rfl⟩ : set.has c = true ∧ ⟨pos + 1, c :: before, rest⟩ = next := by
        simpa [step?] using h
      simp only [afterRun, CharSet.run_cons_of_has hhas hmost, Loop.Bounds.left, List.length_cons,
        advance, List.take_succ_cons, List.drop_succ_cons, List.reverse_cons, List.append_assoc,
        List.singleton_append, Nat.sub_le_iff_le_add, Nat.add_assoc, Nat.add_comm 1]

theorem pos_of_step?_some (h : cursor.step? set = some next) :
    next.pos = cursor.pos + 1 ∧ next.after.length + 1 = cursor.after.length := by
  obtain ⟨pos, before, after⟩ := cursor
  cases after with
  | nil => simp [step?] at h
  | cons c rest =>
      obtain ⟨-, rfl⟩ : set.has c = true ∧ ⟨pos + 1, c :: before, rest⟩ = next := by
        simpa [step?] using h
      exact ⟨rfl, rfl⟩

end Cursor

section Loops

variable {set : CharSet} {inLoop : Bool} {bounds : Loop.Bounds} {captures : Captures}
  {first second : Attempt} {reached : Option Cursor}

/-- An attempt that leaves the captures alone has nothing to take back. -/
theorem undoing_of_eq (h : first captures = (reached, captures)) :
    Attempt.undoing inLoop first captures = (reached, captures) := by
  cases reached <;> simp [Attempt.undoing, h, Captures.recover_self]

theorem orElse_of_none (h : first captures = (none, captures)) :
    Attempt.orElse first second captures = second captures := by
  simp [Attempt.orElse, h]

theorem orElse_of_some {cursor : Cursor} (h : first captures = (some cursor, captures)) :
    Attempt.orElse first second captures = (some cursor, captures) := by
  simp [Attempt.orElse, h]

/-- From any round on, a greedy loop over a class goes to the end of the run, if the run is long
enough for the rounds that are still obligatory. The induction is on fuel: every round takes a code
point, so that no loop stops for standing still. -/
theorem greedy_class {fuel count : Nat} {last : Option Nat} {cursor : Cursor}
    (hbounds : ∀ most ∈ bounds.most, bounds.least ≤ most)
    (hfuel : cursor.after.length < fuel) (hlast : ∀ pos ∈ last, pos < cursor.pos) :
    Loop.greedy ((Node.one set).run inLoop) bounds (Attempt.undoing inLoop)
        (Attempt.undoing inLoop) fuel count last cursor Attempt.succeed captures =
      (cursor.afterRun set (bounds.left count), captures) := by
  induction fuel generalizing count last cursor with
  | zero => omega
  | succ fuel ih =>
      have hround (last' : Option Nat) (hlast' : ∀ pos ∈ last', pos < cursor.pos + 1)
          (hmost : (bounds.left count).most ≠ some 0) {next : Cursor}
          (hstep : cursor.step? set = some next) :
          (Node.one set).run inLoop cursor (fun reached =>
            Loop.greedy ((Node.one set).run inLoop) bounds (Attempt.undoing inLoop)
              (Attempt.undoing inLoop) fuel (count + 1) last' reached Attempt.succeed) captures =
            (cursor.afterRun set (bounds.left count), captures) := by
        obtain ⟨hpos, hlength⟩ := Cursor.pos_of_step?_some hstep
        have hrest := @ih (count + 1) last' next (by omega) (by rwa [hpos])
        simp only [Node.run, hstep, Attempt.from?]
        rw [Cursor.afterRun_of_step?_some hstep hmost, ← Loop.Bounds.left_succ]
        exact hrest
      have hend (last' : Option Nat) (hstep : cursor.step? set = none) :
          (Node.one set).run inLoop cursor (fun reached =>
            Loop.greedy ((Node.one set).run inLoop) bounds (Attempt.undoing inLoop)
              (Attempt.undoing inLoop) fuel (count + 1) last' reached Attempt.succeed) captures =
            (none, captures) := by
        simp only [Node.run, hstep, Attempt.from?, Attempt.fail]
      have hempty (hrun : set.run (bounds.left count).most cursor.after = []) :=
        @Cursor.afterRun_of_run_nil set (bounds.left count) cursor hrun
      by_cases hleast : count < bounds.least
      · have hleft : (bounds.left count).least ≠ 0 := Nat.sub_ne_zero_of_lt hleast
        rw [Loop.greedy, if_pos hleast]
        cases hstep : cursor.step? set with
        | some next =>
            refine hround last (fun pos hpos => Nat.lt_succ_of_lt (hlast pos hpos)) ?_ hstep
            intro hzero
            obtain ⟨most, hmost, hnone⟩ := Option.map_eq_some_iff.mp hzero
            have hle := hbounds most hmost
            omega
        | none =>
            rw [hend last hstep, hempty (Cursor.run_nil_of_step?_none hstep _), if_neg hleft]
      · have hleft : (bounds.left count).least = 0 := Nat.sub_eq_zero_of_le (by omega)
        have hstop : Attempt.undoing inLoop (Attempt.succeed cursor) captures =
            (some cursor, captures) := undoing_of_eq rfl
        rw [Loop.greedy, if_neg hleast]
        by_cases hmost : (bounds.left count).most = some 0
        · have hrun : set.run (bounds.left count).most cursor.after = [] := by
            rw [hmost, CharSet.run_zero]
          rw [if_neg fun h => (Loop.mayRepeat_eq_true_iff hlast).mp h hmost, hstop, hempty hrun,
            if_pos hleft]
        · rw [if_pos ((Loop.mayRepeat_eq_true_iff hlast).mpr hmost)]
          cases hstep : cursor.step? set with
          | some next =>
              have hfound := hround (some cursor.pos) (by simp) hmost hstep
              have hsome : cursor.afterRun set (bounds.left count) = some (cursor.advance
                  (set.run (bounds.left count).most cursor.after).length) := by
                simp [Cursor.afterRun, hleft]
              rw [hsome] at hfound ⊢
              exact orElse_of_some (undoing_of_eq hfound)
          | none =>
              rw [orElse_of_none (undoing_of_eq (hend _ hstep)), hstop,
                hempty (Cursor.run_nil_of_step?_none hstep _), if_pos hleft]

/-- A greedy loop over a class by itself. -/
theorem run_class {least : Nat} {most : Option Nat}
    (hbounds : ∀ limit ∈ most, least ≤ limit) (cursor : Cursor) :
    (Node.loop least most .greedy (.one set)).run inLoop cursor Attempt.succeed captures =
      (cursor.afterRun set ⟨least, most⟩, captures) := by
  rw [← Loop.Bounds.left_zero ⟨least, most⟩]
  exact greedy_class hbounds (by unfold Loop.rounds; omega) (by simp)

end Loops

namespace Pattern

variable {pattern : Pattern} {set : CharSet} {least : Nat} {most : Option Nat}

/-- A pattern that is a greedy loop over a class matches the run ahead, unless it is too short. -/
theorem matchAt?_class (hroot : pattern.root = .loop least most .greedy (.one set))
    (hbounds : ∀ limit ∈ most, least ≤ limit) (input : Text) (pos : Nat) :
    pattern.matchAt? input pos =
      if least ≤ (set.run most (input.drop pos)).length then some (set.run most (input.drop pos))
      else none := by
  have hafter := Cursor.after_cursorAt pattern input pos
  have hprefix := set.run_prefix most (pattern.cursorAt input pos).after
  simp only [matchAt?, hroot, run_class hbounds, Cursor.afterRun, ← hafter]
  split
  · rw [Option.map_some, Cursor.textTo_advance hprefix]
  · rfl

/-- A pattern that is a class by itself matches the next code point if it is a member. -/
theorem matchAt?_one (hroot : pattern.root = .one set) {c : Nat} (hhas : set.has c = true)
    {input tail : Text} {pos : Nat} (hahead : input.drop pos = c :: tail) :
    pattern.matchAt? input pos = some [c] := by
  have hafter := Cursor.after_cursorAt pattern input pos
  rw [hahead] at hafter
  generalize hcursor : pattern.cursorAt input pos = cursor at hafter
  obtain ⟨start, before, after⟩ := cursor
  subst hafter
  simp [matchAt?, hcursor, hroot, Node.run, Cursor.step?, hhas, Attempt.from?, Attempt.succeed,
    Cursor.textTo]

theorem matchAt?_one_none (hroot : pattern.root = .one set) {input : Text} {pos : Nat}
    (hahead : (input.drop pos).takeWhile set.has = []) : pattern.matchAt? input pos = none := by
  have hafter := Cursor.after_cursorAt pattern input pos
  generalize hcursor : pattern.cursorAt input pos = cursor at hafter
  obtain ⟨start, before, after⟩ := cursor
  rw [← hafter] at hahead
  cases after with
  | nil => simp [matchAt?, hcursor, hroot, Node.run, Cursor.step?, Attempt.from?, Attempt.fail]
  | cons c after =>
      have hhas : set.has c = false := by simpa [List.takeWhile_cons] using hahead
      simp [matchAt?, hcursor, hroot, Node.run, Cursor.step?, hhas, Attempt.from?, Attempt.fail]

end Pattern

end Regex

namespace Parser

variable {ν : Type} [DecidableEq ν] {grammar : Grammar ν} {name expected t run tail : Text}
  {compiled : Regex.Pattern} {set : Regex.CharSet} {least : Nat} {i : Nat}

section States

variable {state : State}

/-- A loop that asks for a member takes all that are ahead. -/
theorem matchPattern_class_run (hroot : compiled.root = .loop 1 none .greedy (.one set))
    (hrun : state.rest.takeWhile set.has ≠ []) :
    matchPattern name compiled expected state =
      state.moveTo (state.pos + (state.rest.takeWhile set.has).length)
        (.text (state.rest.takeWhile set.has)) := by
  have hleft : state.pos < state.input.length := by
    by_contra hend
    simp [State.rest, List.drop_eq_nil_of_le (Nat.le_of_not_lt hend)] at hrun
  refine matchPattern_of_some hleft ?_
  rw [Regex.Pattern.matchAt?_class hroot (by simp)]
  exact if_pos (List.length_pos_iff.mpr hrun)

variable (name expected) in
theorem matchPattern_class_failed (hroot : compiled.root = .loop 1 none .greedy (.one set))
    (hrun : state.rest.takeWhile set.has = []) :
    ∃ kind message, matchPattern name compiled expected state = state.fail kind message := by
  rcases Nat.lt_or_ge state.pos state.input.length with hleft | hend
  · refine ⟨_, _, matchPattern_of_none hleft ?_⟩
    rw [Regex.Pattern.matchAt?_class hroot (by simp)]
    exact if_neg (by simpa [Regex.CharSet.run, State.rest] using hrun)
  · exact ⟨_, _, matchPattern_at_end hend⟩

/-- A class by itself takes one member. -/
theorem matchPattern_class_one (hroot : compiled.root = .one set) {c : Nat}
    (hahead : state.rest = c :: tail) (hhas : set.has c = true) :
    matchPattern name compiled expected state = state.moveTo (state.pos + 1) (.text [c]) := by
  have hleft : state.pos < state.input.length :=
    lt_length_of_drop_eq_append (List.singleton_append.symm ▸ hahead) (by simp)
  exact matchPattern_of_some hleft (Regex.Pattern.matchAt?_one hroot hhas hahead)

variable (name expected) in
theorem matchPattern_class_one_failed (hroot : compiled.root = .one set)
    (hahead : state.rest.takeWhile set.has = []) :
    ∃ kind message, matchPattern name compiled expected state = state.fail kind message := by
  rcases Nat.lt_or_ge state.pos state.input.length with hleft | hend
  · exact ⟨_, _, matchPattern_of_none hleft (Regex.Pattern.matchAt?_one_none hroot hahead)⟩
  · exact ⟨_, _, matchPattern_at_end hend⟩

theorem returns_pattern_iff {next : State} (hstate : state.failed = false) :
    Returns grammar (.pattern name compiled expected) state next ↔
      next = matchPattern name compiled expected state := by
  constructor
  · intro h
    cases h.acts hstate with
    | pattern _ => rfl
  · rintro rfl
    exact Returns.pattern hstate

end States

/-- A run that no member follows is taken as a whole. -/
theorem Answers.class_run (hroot : compiled.root = .loop least none .greedy (.one set))
    (hahead : t.drop i = run ++ tail) (hrun : ∀ c ∈ run, set.has c = true) (hnonempty : run ≠ [])
    (hleast : least ≤ run.length) (htail : ∀ c ∈ tail.head?, set.has c = false) :
    Answers grammar t (.pattern name compiled expected) i
      (.yields (i + run.length) (.text run)) := by
  refine .pattern (lt_length_of_drop_eq_append hahead hnonempty) ?_
  rw [Regex.Pattern.matchAt?_class hroot (by simp), hahead, Regex.CharSet.run_append hrun htail,
    if_pos hleast]

/-- A run of a fixed length is taken whatever follows it. -/
theorem Answers.class_exactly
    (hroot : compiled.root = .loop least (some least) .greedy (.one set))
    (hahead : t.drop i = run ++ tail) (hrun : ∀ c ∈ run, set.has c = true) (hnonempty : run ≠ [])
    (hlength : run.length = least) :
    Answers grammar t (.pattern name compiled expected) i
      (.yields (i + run.length) (.text run)) := by
  refine .pattern (lt_length_of_drop_eq_append hahead hnonempty) ?_
  rw [Regex.Pattern.matchAt?_class hroot (by simp), hahead,
    Regex.CharSet.run_append_of_length hrun hlength, if_pos hlength.ge]

theorem Answers.class_one (hroot : compiled.root = .one set) {c : Nat}
    (hahead : t.drop i = c :: tail) (hhas : set.has c = true) :
    Answers grammar t (.pattern name compiled expected) i (.yields (i + 1) (.text [c])) :=
  .pattern (lt_length_of_drop_eq_append (List.singleton_append.symm ▸ hahead) (by simp))
    (Regex.Pattern.matchAt?_one hroot hhas hahead)

/-- Where no member is ahead, there is no run. -/
theorem Answers.class_run_fails (hroot : compiled.root = .loop least none .greedy (.one set))
    (hleast : 0 < least) (hahead : ∀ c ∈ (t.drop i).head?, set.has c = false) :
    Answers grammar t (.pattern name compiled expected) i .fails := by
  rcases Nat.lt_or_ge i t.length with hleft | hend
  · refine .pattern_differs hleft ?_
    have hempty : set.run none (t.drop i) = [] := by
      rw [← List.nil_append (t.drop i)]
      exact Regex.CharSet.run_append (by simp) hahead
    rw [Regex.Pattern.matchAt?_class hroot (by simp), hempty, List.length_nil,
      if_neg (Nat.not_le_of_gt hleast)]
  · exact .pattern_at_end hend

end Parser

end ParserCombinators
