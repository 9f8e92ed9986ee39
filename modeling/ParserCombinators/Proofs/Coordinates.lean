import ParserCombinators.Proofs.SourceLines

/-!
Lines and columns as a system of coordinates. A line and a column locate a position if as many
newlines stand in front of the position as the line says, and the position is as far into that line
as the column says. Every position of a source is located in one way, the position can be computed
from its coordinates, and reading order is the order of lines and, within a line, of columns.

The line alone decides where it begins, so that all of it is about distances from there.
-/

namespace ParserCombinators

/-- An earlier line, or an earlier column in the same line. -/
def Position.Precedes (place other : Position) : Prop :=
  place.line < other.line ∨ (place.line = other.line ∧ place.column < other.column)

theorem Position.Precedes.asymm {place other : Position} (h : place.Precedes other) :
    ¬ other.Precedes place := by
  unfold Precedes at h ⊢
  omega

namespace Text

open CodePoint

/-- The place after so many newlines. -/
def afterNewlines : Nat → Text → Nat
  | 0, _ => 0
  | _ + 1, [] => 0
  | count + 1, c :: rest => afterNewlines (if c = newline then count else count + 1) rest + 1

/-- The position that a line and a column stand for. -/
def offset (source : Text) (place : Position) : Nat :=
  afterNewlines (place.line - 1) source + (place.column - 1)

/-- The line goes up to the newlines in front of the position, and the column counts from where the
line begins. The last column of a line is that of the newline after it, or of the end. -/
structure Locates (source : Text) (pos : Nat) (place : Position) : Prop where
  newlines : (source.take pos).count newline + 1 = place.line
  inside : ∃ start line, IsLine source place.line start line ∧ pos + 1 = start + place.column ∧
    1 ≤ place.column ∧ place.column ≤ line.length + 1

variable {source : Text} {pos pos' : Nat} {place place' : Position}

/-- Text that ends with a newline ends with its last one. -/
theorem afterNewlines_append {lead : Text} (hlast : ∀ c ∈ lead.getLast?, c = newline)
    (text : Text) : afterNewlines (lead.count newline) (lead ++ text) = lead.length := by
  induction lead with
  | nil => rw [List.count_nil, List.nil_append, afterNewlines, List.length_nil]
  | cons c lead ih =>
      have hrest : ∀ d ∈ lead.getLast?, d = newline := by
        intro d hd
        exact hlast d (by simp [List.getLast?_cons, Option.mem_def.mp hd])
      by_cases hc : c = newline
      · rw [hc, List.count_cons_self, List.cons_append, afterNewlines, if_pos rfl, ih hrest,
          List.length_cons]
      · have hmem : newline ∈ lead := by
          rcases List.eq_nil_or_concat lead with rfl | ⟨front, d, rfl⟩
          · exact absurd (hlast c rfl) hc
          · rw [hrest d (by simp)]
            simp
        obtain ⟨count, hcount⟩ := Nat.exists_eq_add_one_of_ne_zero
          (List.count_pos_iff.mpr hmem).ne'
        have hrecursive := ih hrest
        rw [hcount] at hrecursive
        rw [List.count_cons_of_ne hc, hcount, List.cons_append, afterNewlines, if_neg hc,
          hrecursive, List.length_cons]

/-- A line begins after the newlines that its number counts. -/
theorem IsLine.start_eq {number start : Nat} {line : Text} (h : IsLine source number start line) :
    afterNewlines (number - 1) source = start := by
  obtain ⟨lead, tail, rfl, rfl, rfl, hlast, -, -⟩ := h
  exact afterNewlines_append hlast _

/-- Every position up to the end is located by its coordinates. -/
theorem locates_coordinates (h : pos ≤ source.length) :
    Locates source pos (source.coordinates pos) := by
  have around := source.lineAround pos
  have hpos : around.lead.length + around.own.length = pos := by
    rw [around.length_eq, Nat.min_eq_left h]
  have hcolumn : (source.coordinates pos).column = around.own.length + 1 := by
    rw [around.coordinates_eq]
  have hwithin : around.own.length ≤ around.line.length := by
    rw [LineAround.line, List.length_append]
    omega
  exact ⟨rfl, around.lead.length, around.line, around.isLine, by omega, by omega, by omega⟩

namespace Locates

theorem offset_eq (h : Locates source pos place) : source.offset place = pos := by
  obtain ⟨-, start, line, hline, hpos, hcolumn, -⟩ := h
  rw [offset, hline.start_eq]
  omega

/-- Two positions on one line are as far apart as their columns. -/
theorem column_lt_iff (h : Locates source pos place) (hother : Locates source pos' place')
    (hline : place.line = place'.line) : place.column < place'.column ↔ pos < pos' := by
  obtain ⟨-, start, line, hbegins, hpos, -⟩ := h
  obtain ⟨-, start', line', hbegins', hpos', -⟩ := hother
  rw [hline] at hbegins
  obtain ⟨rfl, -⟩ := hbegins.unique hbegins'
  omega

theorem unique {other : Position} (h : Locates source pos place)
    (hother : Locates source pos other) : place = other := by
  have hline : place.line = other.line := h.newlines.symm.trans hother.newlines
  have hcolumn : place.column = other.column := by
    have hbefore := h.column_lt_iff hother hline
    have hafter := hother.column_lt_iff h hline.symm
    omega
  cases place
  cases other
  exact congrArg₂ Position.mk hline hcolumn

theorem precedes (h : Locates source pos place) (hother : Locates source pos' place')
    (hlt : pos < pos') : place.Precedes place' := by
  have hinitial : source.take pos <+: source.take pos' := List.take_prefix_take_left hlt.le
  have hlines : place.line ≤ place'.line := by
    rw [← h.newlines, ← hother.newlines]
    exact Nat.succ_le_succ (hinitial.sublist.count_le newline)
  rcases hlines.lt_or_eq with hless | hsame
  · exact Or.inl hless
  · exact Or.inr ⟨hsame, (h.column_lt_iff hother hsame).mpr hlt⟩

theorem precedes_iff (h : Locates source pos place) (hother : Locates source pos' place') :
    place.Precedes place' ↔ pos < pos' := by
  refine ⟨fun hprecedes => ?_, h.precedes hother⟩
  rcases Nat.lt_trichotomy pos pos' with hlt | rfl | hgt
  · exact hlt
  · obtain rfl := h.unique hother
    exact absurd hprecedes hprecedes.asymm
  · exact absurd hprecedes (hother.precedes h hgt).asymm

end Locates

/-- The coordinates of a position are the one pair that locates it, and the position can be read off
them. They are ordered as the positions are. All positions past the end have those of the end. -/
theorem coordinates_in_order (source : Text) :
    (∀ pos ≤ source.length, ∀ place,
      Locates source pos place ↔ place = source.coordinates pos) ∧
    (∀ pos ≤ source.length, source.offset (source.coordinates pos) = pos) ∧
    (∀ pos ≤ source.length, ∀ pos' ≤ source.length,
      (source.coordinates pos).Precedes (source.coordinates pos') ↔ pos < pos') ∧
    ∀ pos, source.length ≤ pos → source.coordinates pos = source.coordinates source.length := by
  refine ⟨fun pos hpos place => ⟨fun h => h.unique (locates_coordinates hpos), ?_⟩,
    fun pos hpos => (locates_coordinates hpos).offset_eq,
    fun pos hpos pos' hpos' => (locates_coordinates hpos).precedes_iff (locates_coordinates hpos'),
    fun pos hpos => ?_⟩
  · rintro rfl
    exact locates_coordinates hpos
  · simp only [coordinates, List.take_of_length_le hpos, List.take_length]

/-- A newline belongs to the line it ends; after two of them comes the third line, which has one
code point and its end. -/
theorem coordinates_in_order_lines :
    Locates (ofString "ab\n\nc") 2 ⟨1, 3⟩ ∧
    (ofString "ab\n\nc").offset ((ofString "ab\n\nc").coordinates 4) = 4 ∧
    ((ofString "ab\n\nc").coordinates 2).Precedes ((ofString "ab\n\nc").coordinates 3) ∧
    (ofString "ab\n\nc").coordinates 9 = ⟨3, 2⟩ := by
  obtain ⟨hlocates, hoffset, horder, hend⟩ := coordinates_in_order (ofString "ab\n\nc")
  exact ⟨(hlocates 2 (by decide) ⟨1, 3⟩).mpr (by decide), hoffset 4 (by decide),
    (horder 2 (by decide) 3 (by decide)).mpr (by decide), (hend 9 (by decide)).trans (by decide)⟩

end Text

end ParserCombinators
