import ParserCombinators.Proofs.FailurePlaces
import ParserCombinators.Proofs.QuotedStrings

/-!
The grammar of the usual quoted strings, both ways. What a text begins with is read in one way only:
as a whole string, as none at all, or as the beginning of a string up to its first offence. The
parser succeeds on the first with what the string stands for, and fails on the others at the place
of the offence.
-/

namespace ParserCombinators.Lexical

open ParserCombinators.Parser ParserCombinators.Regex

/-- What a character after a backslash stands for. -/
def afterBackslash (c : Nat) : Nat :=
  if c = 'b'.toNat then 8
  else if c = 'f'.toNat then 12
  else if c = 'n'.toNat then 10
  else if c = 'r'.toNat then 13
  else if c = 't'.toNat then 9
  else c

/-- One item of a string: a plain character, one after a backslash, or the digits of a code unit. -/
inductive StringItem where
  | plain (c : Nat)
  | escaped (c : Nat)
  | codeUnit (digits : Text)
  deriving DecidableEq, Repr

def IsCodeUnit (digits : Text) : Prop :=
  digits.length = 4 ∧ ∀ c ∈ digits, Digit.isHexadecimal c = true

instance (digits : Text) : Decidable (IsCodeUnit digits) := inferInstanceAs (Decidable (_ ∧ _))

namespace StringItem

def written : StringItem → Text
  | plain c => [c]
  | escaped c => [CodePoint.backslash, c]
  | codeUnit digits => CodePoint.backslash :: 'u'.toNat :: digits

def meaning : StringItem → Nat
  | plain c => c
  | escaped c => afterBackslash c
  | codeUnit digits => Digit.number 16 digits

def WellFormed (quote : Nat) : StringItem → Prop
  | plain c => c ≠ quote ∧ c ≠ CodePoint.backslash
  | escaped c => c ≠ 'u'.toNat
  | codeUnit digits => IsCodeUnit digits

instance (quote : Nat) (item : StringItem) : Decidable (item.WellFormed quote) :=
  match item with
  | plain _ => inferInstanceAs (Decidable (_ ∧ _))
  | escaped _ => inferInstanceAs (Decidable (_ ≠ _))
  | codeUnit digits => inferInstanceAs (Decidable (IsCodeUnit digits))

/-- The item as a piece of a string of any quoting. -/
def piece : StringItem → Piece
  | plain c => .plain c
  | escaped c => if afterBackslash c = c then .itself c else .replaced c
  | codeUnit digits => .codeUnit digits

end StringItem

section Items

variable {ν : Type} {quote : Nat}

theorem lookup_controlEscapes_of_ne {c : Nat} (h : afterBackslash c ≠ c) :
    controlEscapes.lookup [c] = some [afterBackslash c] := by
  unfold afterBackslash at h ⊢
  split_ifs at h ⊢ with hb hf hn hr ht
  · rw [hb]
    rfl
  · rw [hf]
    rfl
  · rw [hn]
    rfl
  · rw [hr]
    rfl
  · rw [ht]
    rfl
  · exact absurd rfl h

theorem lookup_controlEscapes_of_eq {c : Nat} (h : afterBackslash c = c) :
    controlEscapes.lookup [c] = none := by
  have hletter : c ≠ 98 ∧ c ≠ 102 ∧ c ≠ 110 ∧ c ≠ 114 ∧ c ≠ 116 := by
    refine ⟨?_, ?_, ?_, ?_, ?_⟩ <;> (rintro rfl; cases h)
  simp [controlEscapes, List.lookup_eq_none_iff, hletter]

theorem written_piece (item : StringItem) :
    item.piece.written CodePoint.backslash = item.written := by
  cases item with
  | plain c => rfl
  | escaped c =>
      rw [StringItem.piece]
      split <;> rfl
  | codeUnit digits => rfl

theorem meaning_piece (item : StringItem) :
    item.piece.meaning (.standard : Quoting ν) = [item.meaning] := by
  cases item with
  | plain c => rfl
  | escaped c =>
      rw [StringItem.piece]
      split
      next hitself => exact congrArg List.singleton hitself.symm
      next hreplaced =>
        change (controlEscapes.lookup [c]).getD [] = _
        rw [lookup_controlEscapes_of_ne hreplaced]
        rfl
  | codeUnit digits => rfl

theorem admits_piece {item : StringItem} (h : item.WellFormed quote) :
    item.piece.Admits (.standard : Quoting ν) quote CodePoint.backslash := by
  cases item with
  | plain c => exact h
  | escaped c =>
      have hletter : c ≠ 117 := h
      rw [StringItem.piece]
      split
      next hitself =>
        refine ⟨lookup_controlEscapes_of_eq hitself, ?_⟩
        change List.lookup [c] [(Text.ofString "u", codeUnit)] = none
        rw [List.lookup_eq_none_iff]
        rintro _ hmember
        rw [List.mem_singleton.mp hmember]
        have hkey : Text.ofString "u" = [117] := rfl
        simpa [hkey] using hletter
      next hreplaced =>
        change (controlEscapes.lookup [c]).isSome = true
        rw [lookup_controlEscapes_of_ne hreplaced]
        rfl
  | codeUnit digits => exact ⟨rfl, rfl, h.1, h.2⟩

theorem flatMap_written_pieces (items : List StringItem) :
    (items.map StringItem.piece).flatMap (Piece.written CodePoint.backslash) =
      items.flatMap StringItem.written := by
  rw [List.flatMap_map]
  exact congrArg (items.flatMap ·) (funext written_piece)

theorem flatMap_meaning_pieces (items : List StringItem) :
    (items.map StringItem.piece).flatMap (Piece.meaning (.standard : Quoting ν)) =
      items.map StringItem.meaning := by
  rw [List.flatMap_map, List.map_eq_flatMap]
  exact congrArg (items.flatMap ·) (funext meaning_piece)

theorem admits_pieces {items : List StringItem} (h : ∀ item ∈ items, item.WellFormed quote) :
    ∀ piece ∈ items.map StringItem.piece,
      piece.Admits (.standard : Quoting ν) quote CodePoint.backslash := by
  intro piece hpiece
  obtain ⟨item, hitem, rfl⟩ := List.mem_map.mp hpiece
  exact admits_piece (h item hitem)

end Items

section Readings

def IsQuote (c : Nat) : Prop := c = CodePoint.doubleQuote ∨ c = CodePoint.apostrophe

/-- Some items of a string after its quote. -/
structure Opens (quote : Nat) (items : List StringItem) : Prop where
  isQuote : IsQuote quote
  wellFormed : ∀ item ∈ items, item.WellFormed quote

/-- How the reading of a string ends: so many characters stand for the text, or after so many of
them it fails. -/
inductive StringEnd where
  | closed (length : Nat) (text : Text)
  | refused (length : Nat) (kind : FailureKind)

/-- How a string at the beginning of a text is read. -/
inductive ReadsString : Text → StringEnd → Prop
  /-- No quote is ahead. -/
  | unopened {rest : Text} : (∀ c ∈ rest.head?, ¬ IsQuote c) →
      ReadsString rest (.refused 0 .noMatch)
  | closed {quote : Nat} {items : List StringItem} (tail : Text) : Opens quote items →
      ReadsString (quote :: (items.flatMap StringItem.written ++ quote :: tail))
        (.closed ((items.flatMap StringItem.written).length + 2) (items.map StringItem.meaning))
  /-- The text ends inside the string. -/
  | unclosed {quote : Nat} {items : List StringItem} : Opens quote items →
      ReadsString (quote :: (items.flatMap StringItem.written ++ []))
        (.refused ((items.flatMap StringItem.written).length + 1) .endOfInput)
  /-- The text ends right after a backslash. -/
  | dangling {quote : Nat} {items : List StringItem} : Opens quote items →
      ReadsString (quote :: (items.flatMap StringItem.written ++ [CodePoint.backslash]))
        (.refused ((items.flatMap StringItem.written).length + 2) .endOfInput)
  /-- A code unit has too few digits. -/
  | cut {quote : Nat} {items : List StringItem} {tail : Text} : Opens quote items →
      (∀ digits after, tail = digits ++ after → ¬ IsCodeUnit digits) →
      ReadsString
        (quote :: (items.flatMap StringItem.written ++ CodePoint.backslash :: 'u'.toNat :: tail))
        (.refused ((items.flatMap StringItem.written).length + 3)
          (if tail = [] then .endOfInput else .noMatch))

/-- The state that the parser returns, where it started from the other. -/
def StringEnd.Describes (state next : State) : StringEnd → Prop
  | closed length text =>
    next.failed = false ∧ next.pos = state.pos + length ∧ next.result = .text text
  | refused length kind =>
    next.failed = true ∧ next.pos = state.pos + length ∧ next.kind = some kind

variable {quote : Nat} {text : Text}

/-- What stands after the items of a string that are read without offence. -/
def Breaks (quote : Nat) (tail : Text) : Prop :=
  tail = [] ∨ (∃ after, tail = quote :: after) ∨ tail = [CodePoint.backslash] ∨
    ∃ after, tail = CodePoint.backslash :: 'u'.toNat :: after ∧
      ∀ digits others, after = digits ++ others → ¬ IsCodeUnit digits

/-- The text begins with items of a string, up to where they break off. -/
def HasItems (quote : Nat) (text : Text) : Prop :=
  ∃ items : List StringItem, ∃ tail, (∀ item ∈ items, item.WellFormed quote) ∧
    text = items.flatMap StringItem.written ++ tail ∧ Breaks quote tail

theorem Breaks.hasItems (h : Breaks quote text) : HasItems quote text := ⟨[], text, by simp, rfl, h⟩

theorem HasItems.cons (h : HasItems quote text) (item : StringItem)
    (hitem : item.WellFormed quote) : HasItems quote (item.written ++ text) := by
  obtain ⟨items, tail, hitems, rfl, hbreaks⟩ := h
  refine ⟨item :: items, tail, ?_, ?_, hbreaks⟩
  · simpa using ⟨hitem, hitems⟩
  · rw [List.flatMap_cons, List.append_assoc]

/-- Every text is read item by item until it ends, or a closing quote or an offence is ahead. -/
theorem hasItems (quote : Nat) (text : Text) : HasItems quote text := by
  -- An escape takes two or six characters at once, so the induction is on the length.
  induction hlength : text.length using Nat.strong_induction_on generalizing text with
  | _ length ih =>
      cases text with
      | nil => exact Breaks.hasItems (.inl rfl)
      | cons c rest =>
          by_cases hquote : c = quote
          · exact Breaks.hasItems (.inr (.inl ⟨rest, by rw [hquote]⟩))
          by_cases hbackslash : c = CodePoint.backslash
          · subst hbackslash
            cases rest with
            | nil => exact Breaks.hasItems (.inr (.inr (.inl rfl)))
            | cons d rest =>
                by_cases hletter : d = 'u'.toNat
                · subst hletter
                  by_cases hdigits : ∃ digits after, rest = digits ++ after ∧ IsCodeUnit digits
                  · obtain ⟨digits, after, rfl, hunit⟩ := hdigits
                    have hless : after.length < length := by
                      rw [← hlength, List.length_cons, List.length_cons, List.length_append]
                      omega
                    exact (ih after.length hless after rfl).cons (.codeUnit digits) hunit
                  · have hcut (digits after : Text) (hrest : rest = digits ++ after)
                        (hunit : IsCodeUnit digits) : False :=
                      hdigits ⟨digits, after, hrest, hunit⟩
                    exact Breaks.hasItems (.inr (.inr (.inr ⟨rest, rfl, hcut⟩)))
                · have hless : rest.length < length := by
                    rw [← hlength, List.length_cons, List.length_cons]
                    omega
                  exact (ih rest.length hless rest rfl).cons (.escaped d) hletter
          · have hless : rest.length < length := by
              rw [← hlength, List.length_cons]
              omega
            exact (ih rest.length hless rest rfl).cons (.plain c) ⟨hquote, hbackslash⟩

theorem exists_readsString (text : Text) : ∃ reading, ReadsString text reading := by
  cases text with
  | nil => exact ⟨_, .unopened (by simp)⟩
  | cons quote rest =>
      by_cases hquote : IsQuote quote
      · obtain ⟨items, tail, hitems, rfl, hbreaks⟩ := hasItems quote rest
        rcases hbreaks with rfl | ⟨after, rfl⟩ | rfl | ⟨after, rfl, hdigits⟩
        · exact ⟨_, .unclosed ⟨hquote, hitems⟩⟩
        · exact ⟨_, .closed after ⟨hquote, hitems⟩⟩
        · exact ⟨_, .dangling ⟨hquote, hitems⟩⟩
        · exact ⟨_, .cut ⟨hquote, hitems⟩ hdigits⟩
      · refine ⟨_, .unopened ?_⟩
        rintro c ⟨⟩
        exact hquote

end Readings

section Parsing

variable {ν : Type} [DecidableEq ν] {grammar : Grammar ν} {t tail : Text} {i j : Nat}
  {kind : FailureKind} {quote : Nat} {items : List StringItem} {chunks : List Value}

theorem ne_backslash_of_isQuote (h : IsQuote quote) : quote ≠ CodePoint.backslash := by
  rcases h with rfl | rfl <;> decide

omit [DecidableEq ν] in
theorem mem_quotes_iff {mark : Text} : mark ∈ (.standard : Quoting ν).quotes ↔
    ∃ quote, IsQuote quote ∧ mark = [quote] := by
  simp [Quoting.standard, IsQuote]

theorem answers_standardQuote (hquote : IsQuote quote) (hahead : t.drop i = quote :: tail) :
    Answers grammar t (.standard : Quoting ν).anyQuote i (.yields (i + 1) (.text [quote])) :=
  answers_anyQuote (by simp [Quoting.standard]) (mem_quotes_iff.mpr ⟨quote, hquote, rfl⟩) hahead

theorem answers_closed_string (hopens : Opens quote items)
    (hahead : t.drop i = quote :: (items.flatMap StringItem.written ++ quote :: tail)) :
    Answers grammar t (quotedString .standard) i
      (.yields (i + ((items.flatMap StringItem.written).length + 2))
        (.text (items.map StringItem.meaning))) := by
  rw [← flatMap_written_pieces items] at hahead ⊢
  rw [← flatMap_meaning_pieces (ν := ν) items]
  exact answers_quotedString (by simp [Quoting.standard]) rfl
    (mem_quotes_iff.mpr ⟨quote, hopens.isQuote, rfl⟩) (ne_backslash_of_isQuote hopens.isQuote)
    (admits_pieces hopens.wellFormed) hahead

theorem stops_unopened (hahead : ∀ c ∈ (t.drop i).head?, ¬ IsQuote c) :
    Stops grammar t (quotedString .standard) i i .noMatch := by
  have hquote : Stops grammar t (.standard : Quoting ν).anyQuote i i .noMatch := by
    rw [anyQuote_eq .standard (by simp [Quoting.standard]) (by simp [Quoting.standard])]
    refine .choice fun alternative halternative => ?_
    obtain ⟨mark, hmark, rfl⟩ := List.mem_map.mp halternative
    obtain ⟨quote, hquote, rfl⟩ := mem_quotes_iff.mp hmark
    refine .literal_other fun c hc hsame => hahead c hc ?_
    rwa [hsame]
  have hstart : (quotedMachine .standard).Reaches grammar t .opening i (FailedAt t i .noMatch) :=
    .stop rfl hquote
  exact hstart.stops "quoted"

/-- A string fails where what stands after its items does. -/
theorem stops_after_items (hopens : Opens quote items)
    (hahead : t.drop i = quote :: (items.flatMap StringItem.written ++ tail))
    (htail : ∀ mark ∈ tail.head?, mark = quote ∨ mark = CodePoint.backslash)
    (h : ∀ chunks, (quotedMachine .standard).Reaches grammar t (.escape [quote] chunks)
      (i + 1 + (items.flatMap StringItem.written).length) (FailedAt t j kind)) :
    Stops grammar t (quotedString .standard) i j kind := by
  have hbody : t.drop (i + 1) = [] ++ (items.flatMap StringItem.written ++ tail) :=
    drop_after_cons hahead
  have hnone : ∀ c ∈ ([] : Text), c ≠ quote ∧ c ≠ CodePoint.backslash := by simp
  rw [← flatMap_written_pieces items] at hbody h
  have hpieces : (quotedMachine .standard).Reaches grammar t
      (.plain [quote] (([] : List Text).map .text)) (i + 1) (FailedAt t j kind) :=
    reaches_after_pieces rfl (admits_pieces hopens.wellFormed) hnone hbody htail
      fun found _ => h (found.map .text)
  have hstart : (quotedMachine .standard).Reaches grammar t .opening i (FailedAt t j kind) :=
    .run rfl (answers_standardQuote hopens.isQuote hahead) hpieces
  exact hstart.stops "quoted"

/-- At the end of the text there is neither an escape nor the closing quote. -/
theorem reaches_end (hend : t.length ≤ i) :
    (quotedMachine .standard).Reaches grammar t (.escape [quote] chunks) i
      (FailedAt t i .endOfInput) := by
  have hescape : Answers grammar t (.literal [CodePoint.backslash] true) i .fails :=
    (Stops.literal_at_end hend).answers
  have hclosing : Stops grammar t (Quoting.closingQuote [quote]) i i .endOfInput := by
    unfold Quoting.closingQuote
    rw [ofExcept_literalOf (by simp)]
    exact Stops.mapError (.literal_at_end hend) _
  exact .run (step_escape rfl) (.optional_none hescape) (.stop rfl hclosing)

/-- After a backslash a character has to follow. -/
theorem reaches_dangling (hahead : t.drop i = [CodePoint.backslash]) :
    (quotedMachine .standard).Reaches grammar t (.escape [quote] chunks) i
      (FailedAt t (i + 1) .endOfInput) := by
  have hend : t.length ≤ i + 1 := List.drop_eq_nil_iff.mp (drop_after_cons hahead)
  have hany : Stops grammar t (Quoting.standard : Quoting ν).anyCharacter (i + 1) (i + 1)
      .endOfInput := by
    obtain ⟨wording, hcharacter⟩ := exists_anyCharacter_eq (.standard : Quoting ν)
    rw [hcharacter]
    exact Stops.mapError (.pattern_at_end hend) wording
  have hstart : (escapedMachine .standard).Reaches grammar t .character (i + 1)
      (FailedAt t (i + 1) .endOfInput) := .stop rfl hany
  exact reaches_escape_stage rfl hahead (.stop rfl (hstart.stops "escaped"))

/-- Fewer than four hexadecimal digits are no code unit. -/
theorem stops_codeUnit
    (hdigits : ∀ digits after, t.drop i = digits ++ after → ¬ IsCodeUnit digits) :
    Stops grammar t (codeUnit : Parser ν) i i
      (if t.drop i = [] then .endOfInput else .noMatch) := by
  obtain ⟨wording, hcodeUnit⟩ := exists_codeUnit_eq (ν := ν)
  rw [hcodeUnit]
  have hnone : codeUnitPattern.matchAt? t i = none := by
    rw [Pattern.matchAt?_class (rfl : codeUnitPattern.root = _) (by simp) t i]
    refine if_neg fun hfour => ?_
    obtain ⟨after, hafter⟩ := hexadecimalSet.run_prefix (some 4) (t.drop i)
    refine hdigits _ after hafter.symm ⟨?_, fun c hc => ?_⟩
    · exact Nat.le_antisymm (hexadecimalSet.length_run_le 4 _) hfour
    · rw [← has_hexadecimalSet]
      exact CharSet.has_of_mem_run hc
  exact Stops.map (Stops.mapError (.pattern_none hnone) wording) _

/-- A code unit begins after a backslash and its letter. -/
theorem reaches_cut (hahead : t.drop i = CodePoint.backslash :: 'u'.toNat :: tail)
    (hdigits : ∀ digits after, tail = digits ++ after → ¬ IsCodeUnit digits) :
    (quotedMachine .standard).Reaches grammar t (.escape [quote] chunks) i
      (FailedAt t (i + 2) (if tail = [] then .endOfInput else .noMatch)) := by
  have hletter : t.drop (i + 1) = 'u'.toNat :: tail := drop_after_cons hahead
  obtain rfl : t.drop (i + 2) = tail := drop_after_cons hletter
  have hstart : (escapedMachine .standard).Reaches grammar t .character (i + 1)
      (FailedAt t (i + 2) (if t.drop (i + 2) = [] then .endOfInput else .noMatch)) :=
    .run rfl (answers_anyCharacter hletter) (.stop rfl (stops_codeUnit hdigits))
  exact reaches_escape_stage rfl hahead (.stop rfl (hstart.stops "escaped"))

/-- The parser does what the reading says. -/
theorem ReadsString.describes {state : State} {reading : StringEnd}
    (h : ReadsString state.rest reading) (hstate : state.failed = false) :
    ∃ next, Returns grammar (quotedString .standard) state next ∧ reading.Describes state next := by
  have hstops {length j : Nat} {kind : FailureKind} (hj : j = state.pos + length)
      (hstop : Stops grammar state.input (quotedString .standard) state.pos j kind) :
      ∃ next, Returns grammar (quotedString .standard) state next ∧
        (StringEnd.refused length kind).Describes state next := by
    obtain ⟨next, hnext, hfailed⟩ := hstop state hstate rfl rfl
    exact ⟨next, hnext, hfailed.failed, hfailed.pos.trans hj, hfailed.kind⟩
  have hitems {quote : Nat} {items : List StringItem} {tail : Text}
      (hahead : state.rest = quote :: (items.flatMap StringItem.written ++ tail)) :
      state.input.drop (state.pos + 1 + (items.flatMap StringItem.written).length) = tail :=
    drop_after_append (drop_after_cons hahead)
  generalize hrest : state.rest = rest at h
  cases h with
  | unopened hahead =>
      rw [← hrest] at hahead
      exact hstops rfl (stops_unopened hahead)
  | closed tail hopens =>
      have hclosed : Answers grammar state.input (quotedString .standard) state.pos _ :=
        answers_closed_string hopens hrest
      obtain ⟨next, hnext, -, hends⟩ := hclosed.yields state hstate rfl rfl
      exact ⟨next, hnext, hends⟩
  | unclosed hopens =>
      have hend := List.drop_eq_nil_iff.mp (hitems hrest)
      refine hstops ?_ (stops_after_items hopens hrest (by simp) fun chunks => reaches_end hend)
      omega
  | dangling hopens =>
      have hdangling := hitems hrest
      refine hstops ?_ (stops_after_items hopens hrest (by rintro mark ⟨⟩; exact .inr rfl)
        fun chunks => reaches_dangling hdangling)
      omega
  | cut hopens hdigits =>
      have hcut := hitems hrest
      refine hstops ?_ (stops_after_items hopens hrest (by rintro mark ⟨⟩; exact .inr rfl)
        fun chunks => reaches_cut hcut hdigits)
      omega

/-- Two readings that describe the same state are the same. -/
theorem StringEnd.Describes.unique {state next : State} {reading other : StringEnd}
    (h : reading.Describes state next) (hother : other.Describes state next) : reading = other := by
  cases reading with
  | closed length text =>
      cases other with
      | closed _ _ =>
          obtain ⟨-, hpos, hresult⟩ := h
          obtain ⟨-, hotherPos, hotherResult⟩ := hother
          obtain rfl := Value.text.inj (hresult.symm.trans hotherResult)
          obtain rfl := Nat.add_left_cancel (hpos.symm.trans hotherPos)
          rfl
      | refused _ _ => exact absurd (h.1.symm.trans hother.1) Bool.false_ne_true
  | refused length kind =>
      cases other with
      | closed _ _ => exact absurd (hother.1.symm.trans h.1) Bool.false_ne_true
      | refused _ _ =>
          obtain ⟨-, hpos, hkind⟩ := h
          obtain ⟨-, hotherPos, hotherKind⟩ := hother
          obtain rfl := Option.some.inj (hkind.symm.trans hotherKind)
          obtain rfl := Nat.add_left_cancel (hpos.symm.trans hotherPos)
          rfl

/-- Where more input is wanted, nothing is left. -/
theorem ReadsString.length_of_endOfInput {rest : Text} {length : Nat}
    (h : ReadsString rest (.refused length .endOfInput)) : rest.length = length := by
  generalize hreading : StringEnd.refused length .endOfInput = reading at h
  cases h with
  | unopened _ => cases hreading
  | closed _ _ => cases hreading
  | unclosed _ =>
      cases hreading
      simp
  | dangling _ =>
      cases hreading
      simp
  | @cut _ _ tail _ _ =>
      obtain ⟨rfl, hkind⟩ := StringEnd.refused.inj hreading
      split at hkind
      next hend => simp [hend]
      next => cases hkind

/-- What is left of the input is read in exactly one way, and the parser does what the reading says.
It succeeds just when a whole string is ahead, and it fails for want of more input only at the end
of the input. -/
theorem quotedString_standard_exact {state : State} (hstate : state.failed = false)
    (hpos : state.pos ≤ state.input.length) :
    ∃ next, Returns grammar (quotedString .standard) state next ∧
      (∃ reading, ReadsString state.rest reading ∧ reading.Describes state next ∧
        ∀ other, ReadsString state.rest other → other = reading) ∧
      (next.failed = false ↔ ∃ quote items tail, Opens quote items ∧
        state.rest = quote :: (items.flatMap StringItem.written ++ quote :: tail)) ∧
      (next.failed = true → next.kind = some .endOfInput → next.pos = state.input.length) := by
  obtain ⟨reading, hreading⟩ := exists_readsString state.rest
  have hread {other : StringEnd} (hother : ReadsString state.rest other) :
      ∃ next, Returns grammar (quotedString .standard) state next ∧ other.Describes state next :=
    hother.describes hstate
  obtain ⟨next, hnext, hdescribes⟩ := hread hreading
  have hunique : ∀ other, ReadsString state.rest other → other = reading := by
    intro other hother
    obtain ⟨last, hlast, hlastDescribes⟩ := hread hother
    obtain rfl := hlast.unique hnext
    exact hlastDescribes.unique hdescribes
  refine ⟨next, hnext, ⟨reading, hreading, hdescribes, hunique⟩, ⟨fun hsuccess => ?_, ?_⟩, ?_⟩
  · generalize hrest : state.rest = rest at hreading
    cases hreading with
    | @closed quote items tail hopens => exact ⟨quote, items, tail, hopens, rfl⟩
    | _ => exact absurd (hsuccess.symm.trans hdescribes.1) Bool.false_ne_true
  · rintro ⟨quote, items, tail, hopens, hrest⟩
    rw [hrest] at hunique
    obtain rfl := hunique _ (.closed tail hopens)
    exact hdescribes.1
  · intro hfailed hend
    cases reading with
    | closed _ _ => exact absurd (hdescribes.1.symm.trans hfailed) Bool.false_ne_true
    | refused length kind =>
        obtain ⟨-, hplace, hkind⟩ := hdescribes
        obtain rfl := Option.some.inj (hkind.symm.trans hend)
        have hlength : state.rest.length = length := hreading.length_of_endOfInput
        have hleft : state.rest.length = state.input.length - state.pos := List.length_drop
        omega

/-- A grammar of one string. -/
def standardStrings : Grammar Unit := fun _ => .ok (quotedString .standard)

/-- One string, in which the other quote stands and both quotes are escaped, and one that a code
unit of three digits breaks off. Both stand after other text. -/
theorem quotedString_standard_escapes :
    (∃ next, Returns standardStrings (quotedString .standard)
        { State.start (Text.ofString "x'\"\\n\\u0041\\'\\\"'y") false with pos := 1 } next ∧
      next.failed = false ∧ next.pos = 16 ∧ next.result = .text [34, 10, 65, 39, 34]) ∧
    ∃ next, Returns standardStrings (quotedString .standard)
        { State.start (Text.ofString "x'a\\u00e'") false with pos := 1 } next ∧
      next.failed = true ∧ next.pos = 5 ∧ next.kind = some .noMatch := by
  constructor
  · obtain ⟨next, hnext, ⟨reading, -, hdescribes, hunique⟩, -, -⟩ :=
      @quotedString_standard_exact Unit _ standardStrings
        { State.start (Text.ofString "x'\"\\n\\u0041\\'\\\"'y") false with pos := 1 } rfl
        (by decide)
    have hitems : ∀ item ∈ [.plain 34, .escaped 110, .codeUnit (Text.ofString "0041"), .escaped 39,
        .escaped 34], StringItem.WellFormed 39 item := by decide
    obtain rfl := hunique _ (.closed (Text.ofString "y") ⟨.inr rfl, hitems⟩)
    exact ⟨next, hnext, hdescribes⟩
  · obtain ⟨next, hnext, ⟨reading, -, hdescribes, hunique⟩, -, -⟩ :=
      @quotedString_standard_exact Unit _ standardStrings
        { State.start (Text.ofString "x'a\\u00e'") false with pos := 1 } rfl (by decide)
    have hitems : ∀ item ∈ [StringItem.plain 97], item.WellFormed 39 := by decide
    have hdigits (digits after : Text) (htail : Text.ofString "00e'" = digits ++ after)
        (hunit : IsCodeUnit digits) : False := by
      have hall : digits = (Text.ofString "00e'").take 4 := by
        rw [htail, List.take_left' hunit.1]
      exact absurd (hall ▸ hunit) (by decide)
    obtain rfl := hunique _ (.cut ⟨.inr rfl, hitems⟩ hdigits)
    exact ⟨next, hnext, hdescribes⟩

end Parsing

end ParserCombinators.Lexical
