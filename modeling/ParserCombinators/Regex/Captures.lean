import ParserCombinators.Regex.Cursor

/-!
What the groups of a pattern have captured at a point of a match. A group has two marks, the place
where it was entered last and the place where it was left last. Inside a group that is entered
again, the second mark is still that of the round before.
-/

namespace ParserCombinators.Regex

/-- The marks of the groups by number, for each group where it was entered and where it was left.
There is no mark after the last one that has been set. -/
structure Captures where
  marks : List (Option Cursor)
  deriving DecidableEq, Repr

namespace Captures

def none : Captures := ⟨[]⟩

/-- Sets a mark. Those that it passes over are unset. -/
def mark (index : Nat) (place : Cursor) (captures : Captures) : Captures :=
  if index < captures.marks.length then ⟨captures.marks.set index (some place)⟩
  else
    let skipped := List.replicate (index - captures.marks.length) Option.none
    ⟨captures.marks ++ skipped ++ [some place]⟩

def enter (group : Nat) (place : Cursor) (captures : Captures) : Captures :=
  captures.mark (2 * group) place

def leave (group : Nat) (place : Cursor) (captures : Captures) : Captures :=
  captures.mark (2 * group + 1) place

def mark? (index : Nat) (captures : Captures) : Option Cursor := (captures.marks[index]?).join

theorem mark?_mark (captures : Captures) (index other : Nat) (place : Cursor) :
    (captures.mark index place).mark? other =
      if other = index then some place else captures.mark? other := by
  obtain ⟨marks⟩ := captures
  by_cases hset : index < marks.length
  · by_cases heq : other = index
    · simp [mark, mark?, hset, heq]
    · simp [mark, mark?, hset, heq, Ne.symm heq]
  · have hlen : (marks ++ List.replicate (index - marks.length) Option.none).length = index := by
      simp only [List.length_append, List.length_replicate]
      omega
    simp only [mark, mark?, if_neg hset]
    rcases Nat.lt_trichotomy other index with hlt | heq | hgt
    · rw [if_neg (Nat.ne_of_lt hlt), List.getElem?_append_left (by omega)]
      by_cases hold : other < marks.length
      · rw [List.getElem?_append_left hold]
      · rw [List.getElem?_append_right (by omega), List.getElem?_replicate,
          List.getElem?_eq_none (Nat.not_lt.1 hold)]
        split <;> rfl
    · rw [if_pos heq, List.getElem?_append_right (by omega), hlen, heq, Nat.sub_self]
      rfl
    · rw [if_neg (Nat.ne_of_gt hgt), List.getElem?_append_right (by omega), hlen,
        List.getElem?_eq_none (by simp; omega), List.getElem?_eq_none (by omega)]

/-- The text from where a group was entered to where it was left. There is none if the group has
been entered again after the place where it was left. -/
def text? (group : Nat) (captures : Captures) : Option Text :=
  match captures.mark? (2 * group), captures.mark? (2 * group + 1) with
  | some start, some stop => if stop.pos < start.pos then Option.none else some (start.textTo stop)
  | _, _ => Option.none

/-- The captures that are left of `after` when an attempt that began with `before` has failed. In
a loop they are those before it. Elsewhere only the marks beyond the last one before the attempt
are dropped, and one that it has moved stays where it is. -/
def recover (inLoop : Bool) (before after : Captures) : Captures :=
  if inLoop then before else ⟨after.marks.take before.marks.length⟩

theorem recover_self (inLoop : Bool) (captures : Captures) :
    captures.recover inLoop captures = captures := by
  cases inLoop <;> simp [recover]

end Captures

end ParserCombinators.Regex
