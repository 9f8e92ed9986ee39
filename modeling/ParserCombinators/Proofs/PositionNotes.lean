import ParserCombinators.Proofs.SourceLines

/-!
What a position note shows. The quoted piece is looked up by the number of the line, so it is the
right one as long as no break in front of it ends a piece but no line. The caret stands under the
position up to column twenty. In columns farther to the right the window is cut one code point too
late for its caret, which stands under the next code point there.
-/

namespace ParserCombinators.Text

open CodePoint

section Windows

variable {piece : Text} {column : Nat}

/-- The part of the piece that an excerpt quotes. -/
def window (piece : Text) (column : Nat) : Text :=
  if column ≤ 20 then piece.take 40 else piece.slice (column - 20) (column + 20)

/-- The number of blanks in front of the caret. -/
def caretIndent (column : Nat) : Nat := if column ≤ 20 then column - 1 else 20

def caretLine (indent : Nat) : Text := List.replicate indent space ++ ofString "^"

theorem excerpt_eq (piece : Text) (column : Nat) :
    piece.excerpt column = piece.window column ++ newline :: caretLine (caretIndent column) := by
  simp only [excerpt, window, caretIndent, caretLine, List.append_assoc, List.cons_append,
    List.nil_append]

theorem isInfix_window (piece : Text) (column : Nat) : piece.window column <:+: piece := by
  rw [window]
  split
  · exact (List.take_prefix 40 piece).isInfix
  · exact (List.take_prefix _ _).isInfix.trans (List.drop_suffix _ piece).isInfix

theorem length_window_le (piece : Text) (column : Nat) : (piece.window column).length ≤ 40 := by
  rw [window]
  split
  · exact List.length_take_le 40 piece
  · refine (List.length_take_le _ _).trans ?_
    omega

/-- The caret stands under the code point of the column up to column twenty, and under the next one
farther to the right. -/
theorem window_caretIndent (hcolumn : 0 < column) : (piece.window column)[caretIndent column]? =
    if column ≤ 20 then piece[column - 1]? else piece[column]? := by
  rw [window, caretIndent]
  split
  next hnear => exact List.getElem?_take_of_lt (by omega)
  next hfar =>
    rw [slice, List.getElem?_take_of_lt (by omega), List.getElem?_drop]
    congr 1
    omega

/-- Farther to the right the code point of the column is in front of the caret. -/
theorem window_of_far (hfar : 20 < column) : (piece.window column)[19]? = piece[column - 1]? := by
  rw [window, if_neg (by omega), slice, List.getElem?_take_of_lt (by omega), List.getElem?_drop]
  congr 1
  omega

end Windows

section Notes

variable {source window piece : Text} {pos indent : Nat}

def noteHeader (source : Text) (pos : Nat) : Text :=
  ofString "At position " ++ ofNat (min pos source.length) ++ ofString " (line " ++
    ofNat (source.coordinates pos).line ++ ofString ", column " ++
    ofNat (source.coordinates pos).column ++ ofString ")"

/-- The note shows a window of the source, and on the next line a caret behind so many blanks. -/
def Shows (source : Text) (pos : Nat) (window : Text) (indent : Nat) : Prop :=
  source.noteAt pos =
    source.noteHeader pos ++ newline :: (window ++ newline :: caretLine indent)

instance : Decidable (Shows source pos window indent) := inferInstanceAs (Decidable (_ = _))

/-- The note looks this piece up, and the column is in it. -/
structure Quotes (source : Text) (pos : Nat) (piece : Text) : Prop where
  found : source.splitLines[(source.coordinates pos).line - 1]? = some piece
  column_le : (source.coordinates pos).column ≤ piece.length

theorem Quotes.noteAt_eq (h : Quotes source pos piece) : source.noteAt pos =
    source.noteHeader pos ++ newline :: piece.excerpt (source.coordinates pos).column := by
  simp only [noteAt, h.found, if_pos h.column_le, noteHeader, List.append_assoc, List.cons_append,
    List.nil_append]

theorem noteAt_eq_noteHeader (h : ∀ piece, ¬ Quotes source pos piece) :
    source.noteAt pos = source.noteHeader pos := by
  simp only [noteAt]
  split
  next piece hfound => rw [if_neg fun hcolumn => h piece ⟨hfound, hcolumn⟩, noteHeader]
  next => rfl

theorem notMem_caretLine (indent : Nat) : newline ∉ caretLine indent := by
  have hblank : newline ≠ space := by decide
  have hcaret : newline ∉ ofString "^" := by decide
  simp [caretLine, hcaret, hblank]

theorem caretLine_inj {other : Nat} (h : caretLine indent = caretLine other) : indent = other := by
  have hlength := congrArg List.length h
  simpa [caretLine] using hlength

/-- An excerpt is the window of the piece that is looked up. -/
theorem shows_iff : Shows source pos window indent ↔ ∃ piece, Quotes source pos piece ∧
    window = piece.window (source.coordinates pos).column ∧
    indent = caretIndent (source.coordinates pos).column := by
  constructor
  · intro h
    by_cases hquotes : ∃ piece, Quotes source pos piece
    · obtain ⟨piece, hpiece⟩ := hquotes
      refine ⟨piece, hpiece, ?_⟩
      rw [Shows, hpiece.noteAt_eq, excerpt_eq] at h
      have hfree : newline ∉ piece.window (source.coordinates pos).column := by
        intro hmem
        have hbreak := isLineBreak_of_mem_splitLines (List.mem_of_getElem? hpiece.found) newline
          ((isInfix_window _ _).subset hmem)
        cases hbreak
      obtain ⟨hwindow, -, hindent⟩ := (List.append_cons_inj_of_notMem hfree
        (notMem_caretLine _)).mp (List.cons.inj (List.append_cancel_left h)).2
      exact ⟨hwindow.symm, (caretLine_inj hindent).symm⟩
    · rw [Shows, noteAt_eq_noteHeader (not_exists.mp hquotes)] at h
      simp at h
  · rintro ⟨piece, hpiece, rfl, rfl⟩
    rw [Shows, hpiece.noteAt_eq, excerpt_eq]

theorem Shows.unique {window' : Text} {indent' : Nat} (h : Shows source pos window indent)
    (hother : Shows source pos window' indent') : window = window' ∧ indent = indent' := by
  obtain ⟨piece, hpiece, rfl, rfl⟩ := shows_iff.mp h
  obtain ⟨piece', hpiece', rfl, rfl⟩ := shows_iff.mp hother
  obtain rfl := Option.some.inj (hpiece.found.symm.trans hpiece'.found)
  exact ⟨rfl, rfl⟩

end Notes

section Lines

variable {source piece : Text} {pos c : Nat}

namespace LineAround

variable (place : LineAround source pos)

/-- Without stray breaks in front of the line nothing but the line is quoted. -/
theorem eq_of_quotes (hstray : strayBreaks place.lead = 0) (h : Quotes source pos piece) :
    piece = place.line.takeWhile fun c => !isLineBreak c := by
  have hpiece := place.splitLines_getElem?
  rw [hstray, Nat.add_zero, h.found] at hpiece
  split at hpiece
  · cases hpiece
  · exact Option.some.inj hpiece

theorem exists_ahead_eq_cons (hc : source[pos]? = some c) (hnewline : c ≠ newline) :
    ∃ more, place.ahead = c :: more := by
  rw [← List.head?_drop, place.drop_eq] at hc
  cases hahead : place.ahead with
  | nil =>
      rw [hahead, List.nil_append] at hc
      exact absurd (place.tail_begins c hc) hnewline
  | cons d more =>
      rw [hahead] at hc
      exact ⟨more, congrArg (· :: more) (Option.some.inj hc)⟩

/-- Where no stray break stands in front of the position, what it is in is quoted. -/
theorem quotes (hstray : strayBreaks (source.take pos) = 0) (hc : source[pos]? = some c)
    (hother : isLineBreak c = false) :
    Quotes source pos (place.line.takeWhile fun c => !isLineBreak c) := by
  have hnewline : c ≠ newline := by
    rintro rfl
    cases hother
  obtain ⟨more, hahead⟩ := place.exists_ahead_eq_cons hc hnewline
  rw [place.take_eq, place.wholeLines_lead.strayBreaks_append] at hstray
  obtain ⟨hlead, hown⟩ := Nat.add_eq_zero_iff.mp hstray
  have hfree := isLineBreak_of_strayBreaks place.own_free hown
  have hline : place.line = place.own ++ c :: more := by rw [line, hahead]
  constructor
  · have hpiece := place.splitLines_getElem?
    rwa [hlead, Nat.add_zero, if_neg (by simp [hline])] at hpiece
  · rw [place.coordinates_eq, hline, List.takeWhile_append_of_pos (by simpa using hfree)]
    simp [hother]

end LineAround

/-- An excerpt is part of the line that the header names, and that line holds the position, unless
a stray break stands in front of the line. Then the excerpt is taken from the lines before it. A
position at no line break has an excerpt unless a stray break stands in front of it. -/
theorem note_shows_line (source : Text) (pos : Nat) : ∃ start line,
    IsLine source (source.coordinates pos).line start line ∧ start ≤ pos ∧
      (strayBreaks (source.take start) = 0 → ∀ window indent, Shows source pos window indent →
        window <:+: line ∧ pos < start + line.length) ∧
      (0 < strayBreaks (source.take start) → ∀ window indent, Shows source pos window indent →
        ∃ piece ∈ splitLines (source.take start), window <:+: piece) ∧
      (strayBreaks (source.take pos) = 0 → ∀ c, source[pos]? = some c → isLineBreak c = false →
        ∃ window indent, Shows source pos window indent) := by
  have place := source.lineAround pos
  have hlength := place.length_eq
  refine ⟨place.lead.length, place.line, place.isLine, by omega, ?_, ?_, ?_⟩
  · intro hstray window indent hshows
    obtain ⟨piece, hquotes, rfl, -⟩ := shows_iff.mp hshows
    rw [place.take_lead] at hstray
    obtain rfl := place.eq_of_quotes hstray hquotes
    have hprefix := place.line.takeWhile_prefix fun c => !isLineBreak c
    refine ⟨(isInfix_window _ _).trans hprefix.isInfix, ?_⟩
    have hcolumn : place.own.length + 1 ≤ place.line.length := by
      simpa only [place.coordinates_eq] using hquotes.column_le.trans hprefix.length_le
    have hend := place.end_le
    omega
  · intro hstray window indent hshows
    obtain ⟨piece, hquotes, rfl, -⟩ := shows_iff.mp hshows
    rw [place.take_lead] at hstray ⊢
    have hfound := hquotes.found
    rw [place.splitLines_getElem?_of_lt (by omega)] at hfound
    exact ⟨piece, List.mem_of_getElem? hfound, isInfix_window _ _⟩
  · intro hstray c hc hother
    exact ⟨_, _, shows_iff.mpr ⟨_, place.quotes hstray hc hother, rfl, rfl⟩⟩

/-- A return before a newline is part of the break. -/
theorem paired_return_quoted : ∃ window indent,
    Shows (ofString "ab\r\ncd") 5 window indent ∧ window <:+: ofString "cd" := by
  obtain ⟨start, line, hline, -, hquoted, -, hshown⟩ := note_shows_line (ofString "ab\r\ncd") 5
  have hsecond : IsLine (ofString "ab\r\ncd") 2 4 (ofString "cd") :=
    ⟨ofString "ab\r\n", [], by decide, by decide, by decide, by decide, by decide, by decide⟩
  obtain ⟨rfl, rfl⟩ := hline.unique hsecond
  obtain ⟨window, indent, hshows⟩ := hshown (by decide) 100 (by decide) (by decide)
  exact ⟨window, indent, hshows, (hquoted (by decide) window indent hshows).1⟩

/-- A return alone ends a piece, but not a line: the note at the third piece, which is the second
line, quotes the second piece. -/
theorem lone_return_misquoted : ∃ window indent,
    Shows (ofString "ab\rcd\nef") 6 window indent ∧
      ∀ start line, IsLine (ofString "ab\rcd\nef")
        ((ofString "ab\rcd\nef").coordinates 6).line start line → ¬ window <:+: line := by
  refine ⟨ofString "cd", 0, by decide +kernel, fun start line hline => ?_⟩
  have hsecond : IsLine (ofString "ab\rcd\nef") 2 6 (ofString "ef") :=
    ⟨ofString "ab\rcd\n", [], by decide, by decide, by decide, by decide, by decide, by decide⟩
  obtain ⟨rfl, rfl⟩ := hline.unique hsecond
  decide

end Lines

section Carets

variable {source : Text} {pos c : Nat}

/-- In a source without other breaks than newlines, the note at a code point of a line has a window
of that line. Up to column twenty the caret is under the code point. Farther to the right it is one
place behind it. -/
theorem note_caret (hbreaks : ∀ c ∈ source, isLineBreak c = true → c = newline)
    (hc : source[pos]? = some c) (hnewline : c ≠ newline) :
    ∃ start text window indent, IsLine source (source.coordinates pos).line start text ∧
      start ≤ pos ∧ pos < start + text.length ∧ Shows source pos window indent ∧
      window <:+: text ∧ window.length ≤ 40 ∧
      ((source.coordinates pos).column ≤ 20 → window[indent]? = some c) ∧
      (20 < (source.coordinates pos).column → indent = 20 ∧ window[19]? = some c ∧
        window[indent]? = text[pos - start + 1]?) := by
  have place := source.lineAround pos
  have hother : isLineBreak c = false := by
    by_contra hbreak
    exact hnewline (hbreaks c (List.mem_of_getElem? hc) (by simpa using hbreak))
  have hstray : strayBreaks (source.take pos) = 0 :=
    strayBreaks_eq_zero fun d hd => hbreaks d (List.mem_of_mem_take hd)
  have hwhole : place.line.takeWhile (fun d => !isLineBreak d) = place.line := by
    refine List.takeWhile_eq_self_iff.mpr fun d hd => ?_
    have hmem : d ∈ source := place.source_eq ▸ by simp [hd]
    by_contra hbreak
    obtain rfl := hbreaks d hmem (by simpa using hbreak)
    exact place.line_free hd
  have hquotes := place.quotes hstray hc hother
  rw [hwhole] at hquotes
  obtain ⟨more, hahead⟩ := place.exists_ahead_eq_cons hc hnewline
  have hat : place.line[place.own.length]? = some c := by simp [LineAround.line, hahead]
  have hpos : pos = place.lead.length + place.own.length := by
    have hlength := place.length_eq
    have hle := (List.getElem?_eq_some_iff.mp hc).1
    omega
  have hcolumn : (source.coordinates pos).column = place.own.length + 1 := by
    rw [place.coordinates_eq]
  have hinside := (List.getElem?_eq_some_iff.mp hat).1
  refine ⟨_, _, _, _, place.isLine, by omega, by omega, shows_iff.mpr ⟨_, hquotes, rfl, rfl⟩,
    isInfix_window _ _, length_window_le _ _, fun hnear => ?_, fun hfar => ⟨?_, ?_, ?_⟩⟩
  · rw [window_caretIndent (by omega), if_pos hnear, hcolumn, Nat.add_sub_cancel, hat]
  · rw [caretIndent, if_neg (by omega)]
  · rw [window_of_far hfar, hcolumn, Nat.add_sub_cancel, hat]
  · rw [window_caretIndent (by omega), if_neg (by omega), hcolumn]
    congr 1
    omega

/-- Fifty code points, then another one. -/
def farSource : Text := List.replicate 50 120 ++ [33]

/-- The caret of a note at column four, and that of a note at column fifty-one. -/
theorem note_caret_columns :
    (∃ window indent, Shows farSource 3 window indent ∧ window[indent]? = some 120) ∧
    ∃ window, Shows farSource 50 window 20 ∧ window[19]? = some 33 := by
  constructor
  · obtain ⟨_, _, window, indent, -, -, -, hshows, -, -, hnear, -⟩ :=
      @note_caret farSource 3 120 (by decide) (by decide) (by decide)
    exact ⟨window, indent, hshows, hnear (by decide)⟩
  · obtain ⟨_, _, window, indent, -, -, -, hshows, -, -, -, hfar⟩ :=
      @note_caret farSource 50 33 (by decide) (by decide) (by decide)
    obtain ⟨rfl, hbefore, -⟩ := hfar (by decide)
    exact ⟨window, hshows, hbefore⟩

/-- At column fifty-one nothing is above the caret. -/
theorem note_caret_misses : (∀ c ∈ farSource, isLineBreak c = true → c = newline) ∧
    farSource[50]? = some 33 ∧
    ¬ ∃ window indent, Shows farSource 50 window indent ∧ window[indent]? = some 33 := by
  refine ⟨by decide, by decide, ?_⟩
  rintro ⟨window, indent, hshows, hat⟩
  have hcode : Shows farSource 50 (List.replicate 19 120 ++ [33]) 20 := by decide +kernel
  obtain ⟨rfl, rfl⟩ := hshows.unique hcode
  cases hat

end Carets

end ParserCombinators.Text
