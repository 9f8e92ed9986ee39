import Mathlib.Data.List.DropRight
import ParserCombinators.Text.Lines

/-!
The lines of a source in its two readings. Coordinates count newlines alone, and a line is what
stands between two of them; the pieces that a source is split into end at every line break. After a
newline both readings start again, so that the pieces before it can be counted: there is one for
each newline, and one more for each break that belongs to no newline.
-/

namespace ParserCombinators.Text

open CodePoint

section Lines

/-- The line of this number begins there, after a newline or with the source, and goes on up to the
next newline or the end. -/
def IsLine (source : Text) (number start : Nat) (line : Text) : Prop :=
  ∃ lead tail, source = lead ++ (line ++ tail) ∧ lead.length = start ∧
    lead.count newline + 1 = number ∧ (∀ c ∈ lead.getLast?, c = newline) ∧ newline ∉ line ∧
    ∀ c ∈ tail.head?, c = newline

variable {source : Text} {pos : Nat}

/-- The line around a position: lines that are whole, the parts of the line on both sides of the
position, and what follows the line. -/
structure LineAround (source : Text) (pos : Nat) where
  lead : Text
  own : Text
  ahead : Text
  tail : Text
  take_eq : source.take pos = lead ++ own
  drop_eq : source.drop pos = ahead ++ tail
  lead_ends : ∀ c ∈ lead.getLast?, c = newline
  own_free : newline ∉ own
  ahead_free : newline ∉ ahead
  tail_begins : ∀ c ∈ tail.head?, c = newline

/-- The line goes from the last newline in front of the position to the next one. -/
def lineAround (source : Text) (pos : Nat) : LineAround source pos where
  lead := (source.take pos).rdropWhile (· != newline)
  own := (source.take pos).rtakeWhile (· != newline)
  ahead := (source.drop pos).takeWhile (· != newline)
  tail := (source.drop pos).dropWhile (· != newline)
  take_eq := List.rdropWhile_append_rtakeWhile.symm
  drop_eq := List.takeWhile_append_dropWhile.symm
  lead_ends := by
    intro c hc
    obtain ⟨hnonempty, rfl⟩ := List.mem_getLast?_eq_getLast hc
    simpa using List.rdropWhile_last_not _ _ hnonempty
  own_free := fun hmem => by simpa using List.mem_rtakeWhile_imp hmem
  ahead_free := fun hmem => by simpa using List.mem_takeWhile_imp hmem
  tail_begins := by
    intro c hc
    have hstop := List.head?_dropWhile_not (· != newline) (source.drop pos)
    rw [hc] at hstop
    simpa using hstop

namespace LineAround

variable (place : LineAround source pos)

def line : Text := place.own ++ place.ahead

theorem source_eq : place.lead ++ (place.line ++ place.tail) = source := by
  rw [line, List.append_assoc, ← place.drop_eq, ← List.append_assoc, ← place.take_eq,
    List.take_append_drop]

theorem take_lead : source.take place.lead.length = place.lead :=
  (List.prefix_iff_eq_take.mp ⟨_, place.source_eq⟩).symm

theorem end_le : place.lead.length + place.line.length ≤ source.length := by
  have hlength := congrArg List.length place.source_eq
  simp only [List.length_append] at hlength
  omega

theorem length_eq : place.lead.length + place.own.length = min pos source.length := by
  rw [← List.length_append, ← place.take_eq, List.length_take]

/-- The newlines of the whole lines give the number, and what follows them the column. -/
theorem coordinates_eq :
    source.coordinates pos = ⟨place.lead.count newline + 1, place.own.length + 1⟩ := by
  have hline : (place.lead ++ place.own).count newline = place.lead.count newline := by
    rw [List.count_append, List.count_eq_zero.mpr place.own_free, Nat.add_zero]
  have hcolumn : (place.lead ++ place.own).reverse.takeWhile (· != newline) =
      place.own.reverse := by
    have hfree : ∀ c ∈ place.own.reverse, (c != newline) = true := by
      intro c hc
      have hmem : c ∈ place.own := List.mem_reverse.mp hc
      simpa using ne_of_mem_of_not_mem hmem place.own_free
    rw [List.reverse_append, List.takeWhile_append_of_pos hfree]
    cases hlast : place.lead.reverse with
    | nil => simp
    | cons c others =>
        have hnewline : c = newline := place.lead_ends c (by simp [← List.head?_reverse, hlast])
        simp [hnewline]
  simp only [coordinates, place.take_eq, hline, hcolumn, List.length_reverse]

theorem line_free : newline ∉ place.line := by
  simpa [line] using ⟨place.own_free, place.ahead_free⟩

theorem isLine :
    IsLine source (source.coordinates pos).line place.lead.length place.line := by
  refine ⟨place.lead, place.tail, place.source_eq.symm, rfl, ?_, place.lead_ends, place.line_free,
    place.tail_begins⟩
  rw [place.coordinates_eq]

end LineAround

variable {lead line line' : Text} {number start start' : Nat}

/-- More whole lines have more newlines. -/
theorem eq_nil_of_count_eq {more : Text} (hlast : ∀ c ∈ (lead ++ more).getLast?, c = newline)
    (hcount : (lead ++ more).count newline = lead.count newline) : more = [] := by
  rcases List.eq_nil_or_concat more with rfl | ⟨front, c, rfl⟩
  · rfl
  · obtain rfl : c = newline := hlast c (by simp)
    simp only [List.count_append, List.concat_eq_append, List.count_singleton_self] at hcount
    omega

/-- A search that stops at what follows the text stops in it or at its end. -/
theorem takeWhile_append_of_head? {p : Nat → Bool} {tail : Text}
    (htail : ∀ c ∈ tail.head?, p c = false) : (line ++ tail).takeWhile p = line.takeWhile p := by
  induction line with
  | nil =>
      cases tail with
      | nil => rfl
      | cons c tail => simp [htail c rfl]
  | cons c line ih => rw [List.cons_append, List.takeWhile_cons, List.takeWhile_cons, ih]

/-- A number tells the line and its place. -/
theorem IsLine.unique (h : IsLine source number start line)
    (hother : IsLine source number start' line') : start = start' ∧ line = line' := by
  obtain ⟨lead, tail, rfl, rfl, hnumber, hlead, hline, htail⟩ := h
  obtain ⟨lead', tail', heq, rfl, hnumber', hlead', hline', htail'⟩ := hother
  have hcount : lead.count newline = lead'.count newline := by omega
  obtain rfl : lead = lead' := by
    rcases List.append_eq_append_iff.mp heq with ⟨more, rfl, -⟩ | ⟨more, rfl, -⟩
    · rw [eq_nil_of_count_eq hlead' hcount.symm, List.append_nil]
    · rw [eq_nil_of_count_eq hlead hcount, List.append_nil]
  have hwhole {line tail : Text} (hline : newline ∉ line) (htail : ∀ c ∈ tail.head?, c = newline) :
      (line ++ tail).takeWhile (· != newline) = line := by
    rw [takeWhile_append_of_head? fun c hc => by simp [htail c hc], List.takeWhile_eq_self_iff]
    exact fun c hc => by simpa using ne_of_mem_of_not_mem hc hline
  refine ⟨rfl, ?_⟩
  rw [← hwhole hline htail, List.append_cancel_left heq, hwhole hline' htail']

end Lines

section Pieces

variable {c : Nat} {lead text rest line : Text} {lines : List Text}

/-- The line breaks that are no newlines. A carriage return belongs to the newline after it. -/
def strayBreaks : Text → Nat
  | [] => 0
  | 13 :: 10 :: rest => strayBreaks rest
  | c :: rest => (if isLineBreak c && c != newline then 1 else 0) + strayBreaks rest

/-- The code point is not the first half of a break of two. -/
def Alone (c : Nat) (rest : Text) : Prop := c = carriageReturn → rest.head? ≠ some newline

theorem splitLines_break (hbreak : isLineBreak c = true) (halone : Alone c rest) :
    splitLines (c :: rest) = [] :: splitLines rest := by
  rw [splitLines, if_pos hbreak]
  rintro others rfl rfl
  exact halone rfl rfl

theorem splitLines_other (hother : isLineBreak c = false)
    (hrest : splitLines rest = line :: lines) :
    splitLines (c :: rest) = (c :: line) :: lines := by
  rw [splitLines, if_neg (by simp [hother]), hrest]
  rintro others rfl
  cases hother

theorem strayBreaks_cons (halone : Alone c rest) :
    strayBreaks (c :: rest) =
      (if isLineBreak c && c != newline then 1 else 0) + strayBreaks rest := by
  rw [strayBreaks]
  rintro others rfl rfl
  exact halone rfl rfl

/-- The first piece goes up to the first break. -/
theorem head?_splitLines (h : text ≠ []) :
    (splitLines text).head? = some (text.takeWhile fun c => !isLineBreak c) := by
  fun_induction splitLines text with
  | case1 => exact absurd rfl h
  | case2 => rfl
  | case3 c rest _ hbreak => simp [hbreak]
  | case4 c rest _ hother hrest ih =>
      obtain rfl : rest = [] := by
        by_contra hnonempty
        cases hrest ▸ ih hnonempty
      simp [hother]
  | case5 c rest _ hother line lines hrest ih =>
      have hnonempty : rest ≠ [] := by
        rintro rfl
        cases hrest
      have hline := ih hnonempty
      rw [hrest, List.head?_cons, Option.some_inj] at hline
      simp [hother, hline]

theorem exists_splitLines_eq_cons (h : text ≠ []) :
    ∃ line lines, splitLines text = line :: lines := by
  obtain ⟨lines, heq⟩ := List.head?_eq_some_iff.mp (head?_splitLines h)
  exact ⟨_, lines, heq⟩

theorem isLineBreak_of_mem_splitLines {piece : Text} (h : piece ∈ splitLines text) :
    ∀ c ∈ piece, isLineBreak c = false := by
  fun_induction splitLines text generalizing piece with
  | case1 => cases h
  | case2 rest ih =>
      rcases List.mem_cons.mp h with rfl | hmem
      · simp
      · exact ih hmem
  | case3 c rest _ hbreak ih =>
      rcases List.mem_cons.mp h with rfl | hmem
      · simp
      · exact ih hmem
  | case4 c rest _ hother hrest ih =>
      obtain rfl := List.mem_singleton.mp h
      simpa using hother
  | case5 c rest _ hother line lines hrest ih =>
      rcases List.mem_cons.mp h with rfl | hmem
      · exact List.forall_mem_cons.mpr ⟨by simpa using hother, ih (by simp [hrest])⟩
      · exact ih (by simp [hrest, hmem])

/-- Whole lines, one code point after the other, but the halves of a break of two together. -/
inductive WholeLines : Text → Prop
  | nil : WholeLines []
  | pair {rest : Text} : WholeLines rest → WholeLines (carriageReturn :: newline :: rest)
  | cons {c : Nat} {rest : Text} : Alone c rest → (rest = [] → c = newline) → WholeLines rest →
      WholeLines (c :: rest)

/-- Text that ends with a newline is made of whole lines. -/
theorem wholeLines_of_getLast? (h : ∀ c ∈ lead.getLast?, c = newline) : WholeLines lead := by
  fun_induction strayBreaks lead with
  | case1 => exact .nil
  | case2 rest ih =>
      refine .pair (ih fun c hc => h c ?_)
      simp [List.getLast?_cons, Option.mem_def.mp hc]
  | case3 c rest hpair ih =>
      refine .cons (fun hc hhead => ?_) ?_ (ih fun d hd => h d ?_)
      · obtain ⟨others, rfl⟩ := List.head?_eq_some_iff.mp hhead
        exact hpair others hc rfl
      · rintro rfl
        exact h c rfl
      · simp [List.getLast?_cons, Option.mem_def.mp hd]

namespace WholeLines

/-- What follows whole lines makes no break of two with them. -/
theorem alone_append (halone : Alone c rest) (hlast : rest = [] → c = newline) (text : Text) :
    Alone c (rest ++ text) := by
  cases rest with
  | nil =>
      rintro rfl
      cases hlast rfl
  | cons d rest => exact halone

/-- What is no break is not the last code point of a line. -/
theorem ne_nil (hother : isLineBreak c = false) (hlast : rest = [] → c = newline) : rest ≠ [] := by
  intro hnone
  rw [hlast hnone] at hother
  cases hother

/-- After whole lines the source is split as if it began there. -/
theorem splitLines_append (h : WholeLines lead) (text : Text) :
    splitLines (lead ++ text) = splitLines lead ++ splitLines text := by
  induction h with
  | nil => rfl
  | pair _ ih => exact congrArg ([] :: ·) ih
  | @cons c rest halone hlast _ ih =>
      have hboth := alone_append halone hlast text
      cases hbreak : isLineBreak c with
      | true =>
          rw [List.cons_append, splitLines_break hbreak hboth, splitLines_break hbreak halone, ih,
            List.cons_append]
      | false =>
          obtain ⟨line, lines, hrest⟩ := exists_splitLines_eq_cons (ne_nil hbreak hlast)
          rw [hrest] at ih
          rw [List.cons_append, splitLines_other hbreak hrest, splitLines_other hbreak ih]
          rfl

theorem strayBreaks_append (h : WholeLines lead) (text : Text) :
    strayBreaks (lead ++ text) = strayBreaks lead + strayBreaks text := by
  induction h with
  | nil => exact (Nat.zero_add _).symm
  | pair _ ih => exact ih
  | @cons c rest halone hlast _ ih =>
      rw [List.cons_append, strayBreaks_cons (alone_append halone hlast text),
        strayBreaks_cons halone, ih, Nat.add_assoc]

/-- There is one piece for each newline, and one for each stray break. -/
theorem length_splitLines (h : WholeLines lead) :
    (splitLines lead).length = lead.count newline + strayBreaks lead := by
  induction h with
  | nil => rfl
  | @pair rest _ ih =>
      have hdiffers : carriageReturn ≠ newline := by decide
      rw [splitLines, strayBreaks, List.length_cons, ih, List.count_cons_of_ne hdiffers,
        List.count_cons_self]
      omega
  | @cons c rest halone hlast _ ih =>
      rw [strayBreaks_cons halone, List.count_cons]
      cases hbreak : isLineBreak c with
      | true =>
          rw [splitLines_break hbreak halone, List.length_cons, ih]
          by_cases hnewline : c = newline <;> simp [hnewline] <;> omega
      | false =>
          obtain ⟨line, lines, hrest⟩ := exists_splitLines_eq_cons (ne_nil hbreak hlast)
          have hnewline : c ≠ newline := by
            rintro rfl
            cases hbreak
          rw [hrest, List.length_cons] at ih
          rw [splitLines_other hbreak hrest, List.length_cons, ih]
          simp [hnewline]

/-- The first piece after whole lines comes after one for each break. -/
theorem splitLines_getElem? (h : WholeLines lead) (text : Text) :
    (splitLines (lead ++ text))[lead.count newline + strayBreaks lead]? =
      (splitLines text).head? := by
  rw [h.splitLines_append, ← h.length_splitLines, List.getElem?_append_right le_rfl, Nat.sub_self,
    List.head?_eq_getElem?]

end WholeLines

theorem strayBreaks_eq_zero (h : ∀ c ∈ text, isLineBreak c = true → c = newline) :
    strayBreaks text = 0 := by
  fun_induction strayBreaks text with
  | case1 => rfl
  | case2 rest ih => cases h carriageReturn List.mem_cons_self rfl
  | case3 c rest _ ih =>
      obtain ⟨hfirst, hrest⟩ := List.forall_mem_cons.mp h
      rw [ih hrest]
      cases hbreak : isLineBreak c with
      | true => simp [hfirst hbreak]
      | false => simp

/-- Without newlines every break is a stray one. -/
theorem isLineBreak_of_strayBreaks (hnewline : newline ∉ text) (h : strayBreaks text = 0) :
    ∀ c ∈ text, isLineBreak c = false := by
  fun_induction strayBreaks text with
  | case1 => simp
  | case2 rest ih => simp at hnewline
  | case3 c rest _ ih =>
      rw [List.mem_cons, not_or] at hnewline
      obtain ⟨hother, hrest⟩ := hnewline
      obtain ⟨hfirst, hzero⟩ := Nat.add_eq_zero_iff.mp h
      refine List.forall_mem_cons.mpr ⟨?_, ih hrest hzero⟩
      simpa [Ne.symm hother] using hfirst

namespace LineAround

variable {source : Text} {pos : Nat} (place : LineAround source pos)

theorem wholeLines_lead : WholeLines place.lead := wholeLines_of_getLast? place.lead_ends

/-- The piece at the beginning of a line comes after as many pieces as there are lines and stray
breaks in front of it. It ends at the first break in the line. -/
theorem splitLines_getElem? :
    source.splitLines[(source.coordinates pos).line - 1 + strayBreaks place.lead]? =
      if place.line ++ place.tail = [] then none
      else some (place.line.takeWhile fun c => !isLineBreak c) := by
  have hpieces := place.wholeLines_lead.splitLines_getElem? (place.line ++ place.tail)
  rw [place.source_eq] at hpieces
  rw [place.coordinates_eq, Nat.add_sub_cancel, hpieces]
  split
  next hnone => rw [hnone, splitLines, List.head?_nil]
  next hsome =>
    rw [head?_splitLines hsome, takeWhile_append_of_head? fun c hc => ?_]
    rw [place.tail_begins c hc]
    rfl

/-- The pieces in front of a line are pieces of the lines in front of it. -/
theorem splitLines_getElem?_of_lt {i : Nat}
    (h : i < (source.coordinates pos).line - 1 + strayBreaks place.lead) :
    source.splitLines[i]? = (splitLines place.lead)[i]? := by
  have hpieces := place.wholeLines_lead.splitLines_append (place.line ++ place.tail)
  rw [place.coordinates_eq, Nat.add_sub_cancel, ← place.wholeLines_lead.length_splitLines] at h
  rw [← List.getElem?_append_left h, ← hpieces, place.source_eq]

end LineAround

end Pieces

end ParserCombinators.Text
