import ParserCombinators.Proofs.LexicalPatterns
import ParserCombinators.Proofs.SeparatedExpansion

/-!
Parsers with blanks around them. The blanks in front are gone before the parser begins, and those
after it once it has ended; a failure stays where it was met. No blank is left to skip a second
time, so it makes no difference whether blanks are skipped once or more often.
-/

namespace ParserCombinators.Lexical

open ParserCombinators.Parser ParserCombinators.Regex

section Blanks

/-- The end of the longest run of blanks from a position on. -/
def afterBlanks (text : Text) (pos : Nat) : Nat :=
  pos + ((text.drop pos).takeWhile isBlank).length

theorem takeWhile_afterBlanks (text : Text) (pos : Nat) :
    (text.drop (afterBlanks text pos)).takeWhile isBlank = [] := by
  have hsplit := List.takeWhile_append_dropWhile (p := isBlank) (l := text.drop pos)
  have hrest : text.drop (afterBlanks text pos) = (text.drop pos).dropWhile isBlank := by
    rw [afterBlanks, ← List.drop_drop]
    exact (congrArg (List.drop _) hsplit.symm).trans List.drop_left
  rw [hrest, List.takeWhile_eq_nil_iff]
  exact fun hleft => by simpa using List.dropWhile_get_zero_not isBlank _ hleft

theorem afterBlanks_afterBlanks (text : Text) (pos : Nat) :
    afterBlanks text (afterBlanks text pos) = afterBlanks text pos := by
  rw [afterBlanks, takeWhile_afterBlanks, List.length_nil, Nat.add_zero]

/-- The state after the blanks ahead. They are the result, which is null if there are none. -/
def skipped (state : State) : State :=
  let blanks := state.rest.takeWhile isBlank
  state.moveTo (afterBlanks state.input state.pos) (if blanks = [] then .null else .text blanks)

variable {state : State}

theorem skipped_of_nil (h : state.rest.takeWhile isBlank = []) :
    skipped state = state.withResult .null := by
  have hpos : afterBlanks state.input state.pos = state.pos := by
    rw [afterBlanks, ← State.rest, h, List.length_nil, Nat.add_zero]
  simp only [skipped, h, hpos, if_pos]
  rfl

theorem skipped_of_ne_nil (h : state.rest.takeWhile isBlank ≠ []) :
    skipped state = state.moveTo (state.pos + (state.rest.takeWhile isBlank).length)
      (.text (state.rest.takeWhile isBlank)) := by
  simp only [skipped, if_neg h]
  rfl

/-- Blanks that were skipped are not there to be skipped again. -/
theorem skipped_skipped (state : State) :
    skipped (skipped state) = (skipped state).withResult .null := by
  have hrest : (skipped state).rest = state.input.drop (afterBlanks state.input state.pos) := rfl
  have hpos : afterBlanks (skipped state).input (skipped state).pos = (skipped state).pos :=
    afterBlanks_afterBlanks state.input state.pos
  rw [skipped, hrest, takeWhile_afterBlanks, hpos]
  rfl

/-- Where the parser has ended in success, the blanks after it are skipped. -/
def trimmed (stop : State) : State :=
  if stop.failed then stop else (skipped stop).withResult stop.result

theorem trimmed_of_failed {stop : State} (h : stop.failed = true) : trimmed stop = stop := if_pos h

theorem trimmed_of_success {stop : State} (h : stop.failed = false) :
    trimmed stop = stop.moveTo (afterBlanks stop.input stop.pos) stop.result := by
  rw [trimmed, if_neg (by simp [h])]
  rfl

theorem trimmed_trimmed (stop : State) : trimmed (trimmed stop) = trimmed stop := by
  cases hstop : stop.failed with
  | true => rw [trimmed_of_failed hstop, trimmed_of_failed hstop]
  | false =>
      have hmoved : (stop.moveTo (afterBlanks stop.input stop.pos) stop.result).failed = false :=
        hstop
      rw [trimmed_of_success hstop, trimmed_of_success hmoved]
      exact congrArg (stop.moveTo · stop.result) (afterBlanks_afterBlanks stop.input stop.pos)

end Blanks

section Laws

variable {ν : Type} [DecidableEq ν] {grammar : Grammar ν} {parser : Parser ν}
  {state next : State} {fault : Fault}

theorem returns_blanks_iff (hstate : state.failed = false) :
    Returns grammar (.optional whitespace) state next ↔ next = skipped state := by
  have hset : blankSet.has = isBlank := funext has_blankSet
  have hroot : whitespacePattern.root = .loop 1 none .greedy (.one blankSet) := rfl
  simp only [returns_optional_iff hstate, whitespace, returns_pattern_iff hstate, exists_eq_left]
  by_cases hrun : state.rest.takeWhile isBlank = []
  · obtain ⟨kind, message, hfailed⟩ := matchPattern_class_failed (Text.ofString "whitespace")
      (Text.ofString "whitespace") hroot (hset ▸ hrun)
    rw [hfailed, skipped_of_nil hrun]
    rfl
  · rw [matchPattern_class_run hroot (hset ▸ hrun), hset, skipped_of_ne_nil hrun]
    exact iff_of_eq (congrArg (next = ·) (if_neg (by simp [State.moveTo, hstate])))

theorem not_raises_blanks : ¬ Raises grammar (.optional whitespace) state fault := by
  intro h
  rcases raises_iff_call.mp h with hself | ⟨part, middle, hcall, hraises⟩
  · cases hself
  · cases hcall
    exact not_raises_pattern hraises

/-- Skipping blanks never fails. -/
theorem returns_chain_blanks_iff {f : Value → Parser ν} (hstate : state.failed = false) :
    Returns grammar (.chain (.optional whitespace) f) state next ↔
      Returns grammar (f (skipped state).result) (skipped state) next := by
  have hskipped : (skipped state).failed = false := hstate
  simp only [returns_chain_iff, returns_blanks_iff hstate]
  constructor
  · rintro (⟨_, rfl, -, hnext⟩ | ⟨rfl, hfailed⟩)
    · exact hnext
    · simp [hskipped] at hfailed
  · exact fun hnext => Or.inl ⟨_, rfl, hskipped, hnext⟩

theorem raises_chain_blanks_iff {f : Value → Parser ν} (hstate : state.failed = false) :
    Raises grammar (.chain (.optional whitespace) f) state fault ↔
      Raises grammar (f (skipped state).result) (skipped state) fault := by
  have hskipped : (skipped state).failed = false := hstate
  simp only [raises_chain_iff, not_raises_blanks, false_or, returns_blanks_iff hstate]
  constructor
  · rintro ⟨_, rfl, -, hraises⟩
    exact hraises
  · exact fun hraises => ⟨_, rfl, hskipped, hraises⟩

/-- The parser between blanks ends where it does by itself, or after the blanks there. -/
theorem returns_surrounded_iff {whole : State} (hstate : state.failed = false) :
    Returns grammar (.sequence [.optional whitespace, parser, .optional whitespace]) state whole ↔
      ∃ stop, Returns grammar parser (skipped state) stop ∧
        ((stop.failed = true ∧ whole = stop) ∨ (stop.failed = false ∧
          whole = (skipped stop).withResult
            (.list [(skipped state).result, stop.result, (skipped stop).result]))) := by
  simp only [returns_sequence_iff_chained hstate, chained, returns_chain_blanks_iff hstate]
  rw [returns_chain_iff]
  constructor
  · rintro (⟨stop, hstop, hsuccess, hwhole⟩ | ⟨hstop, hfailed⟩)
    · have hskipped : (skipped stop).failed = false := hsuccess
      rw [returns_chain_blanks_iff hsuccess, returns_succeed_iff hskipped] at hwhole
      exact ⟨stop, hstop, Or.inr ⟨hsuccess, hwhole⟩⟩
    · exact ⟨whole, hstop, Or.inl ⟨hfailed, rfl⟩⟩
  · rintro ⟨stop, hstop, ⟨hfailed, rfl⟩ | ⟨hsuccess, rfl⟩⟩
    · exact Or.inr ⟨hstop, hfailed⟩
    · have hskipped : (skipped stop).failed = false := hsuccess
      refine Or.inl ⟨stop, hstop, hsuccess, ?_⟩
      rw [returns_chain_blanks_iff hsuccess, returns_succeed_iff hskipped]
      rfl

theorem returns_lexeme_iff (hstate : state.failed = false) :
    Returns grammar (lexeme parser) state next ↔
      ∃ stop, Returns grammar parser (skipped state) stop ∧ next = trimmed stop := by
  rw [lexeme, Parser.between, returns_map_ok_iff]
  simp only [returns_surrounded_iff hstate]
  constructor
  · rintro (⟨_, ⟨stop, hstop, ⟨hfailed, rfl⟩ | ⟨hsuccess, rfl⟩⟩, hgoes, rfl⟩ |
      ⟨⟨stop, hstop, ⟨-, rfl⟩ | ⟨hsuccess, rfl⟩⟩, hfailed⟩)
    · simp [hgoes] at hfailed
    · exact ⟨stop, hstop, (if_neg (by simp [hsuccess])).symm⟩
    · exact ⟨next, hstop, (trimmed_of_failed hfailed).symm⟩
    · cases hsuccess.symm.trans hfailed
  · rintro ⟨stop, hstop, rfl⟩
    cases hends : stop.failed with
    | true =>
        rw [trimmed_of_failed hends]
        exact Or.inr ⟨⟨stop, hstop, Or.inl ⟨hends, rfl⟩⟩, hends⟩
    | false =>
        rw [trimmed_of_success hends]
        exact Or.inl ⟨_, ⟨stop, hstop, Or.inr ⟨hends, rfl⟩⟩, hends, rfl⟩

theorem raises_lexeme_iff (hstate : state.failed = false) :
    Raises grammar (lexeme parser) state fault ↔ Raises grammar parser (skipped state) fault := by
  rw [lexeme, Parser.between, raises_map_ok_iff, raises_sequence_iff_chained hstate]
  simp only [chained, raises_chain_blanks_iff hstate]
  rw [raises_chain_iff]
  refine or_iff_left ?_
  rintro ⟨stop, -, hsuccess, hraises⟩
  rw [raises_chain_blanks_iff hsuccess] at hraises
  exact not_raises_succeed hraises

/-- A lexeme ends where its parser does after the blanks ahead, or after the blanks there. -/
theorem agree_lexeme (grammar : Grammar ν) (parser : Parser ν) (hstate : state.failed = false)
    {session session' : Session ν} (hsession : session.Coherent grammar)
    (hsession' : session'.Coherent grammar) :
    Agree (fun stop next => next = trimmed stop)
      (outcome grammar parser (skipped state) session)
      (outcome grammar (lexeme parser) state session') :=
  agree_of_returns hsession hsession'
    (fun stop hstop => ⟨_, (returns_lexeme_iff hstate).mpr ⟨stop, hstop, rfl⟩, rfl⟩)
    (fun _ => (returns_lexeme_iff hstate).mp) fun _ => (raises_lexeme_iff hstate).symm

end Laws

section Ends

/-- How a lexeme ends, told by how its parser ends after the blanks: in the same success, with the
blanks there skipped, or in the same failure, where the result that is kept does not count. -/
structure EndsLexeme (stop next : State) : Prop where
  success : stop.failed = false →
    next = stop.moveTo (afterBlanks stop.input stop.pos) stop.result
  failure : stop.failed = true → SameButResult stop next

variable {stop stop' : State}

theorem endsLexeme_trimmed (h : SameButRetained stop stop') : EndsLexeme stop (trimmed stop') where
  success hstop := by rw [← h.success hstop, trimmed_of_success hstop]
  failure hstop := by
    obtain ⟨value, rfl⟩ := h.rest
    have hother : (stop.withResult value).failed = true := hstop
    exact ⟨value, trimmed_of_failed hother⟩

theorem sameButRetained_trimmed (h : SameButRetained stop stop') :
    SameButRetained (trimmed stop) (trimmed stop') := by
  cases hstop : stop.failed with
  | true =>
      obtain ⟨value, rfl⟩ := h.rest
      have hother : (stop.withResult value).failed = true := hstop
      rwa [trimmed_of_failed hstop, trimmed_of_failed hother]
  | false =>
      rw [h.success hstop]
      exact .refl _

end Ends

section Main

variable {ν : Type} [DecidableEq ν] {grammar : Grammar ν} {session session' : Session ν}
  {parser : Parser ν} {state : State}

/-- A lexeme does what its parser does after the blanks ahead, whichever result is there, and then
skips the blanks it has come to. A lexeme of a lexeme is no different. -/
theorem lexeme_skips_blanks (hsession : session.Coherent grammar)
    (hsession' : session'.Coherent grammar)
    (hown : Everywhere grammar (fun part => part.isHandWritten = false) parser)
    (hstate : state.failed = false) :
    (∀ value, Agree EndsLexeme
      (outcome grammar parser (state.moveTo (afterBlanks state.input state.pos) value) session)
      (outcome grammar (lexeme parser) state session')) ∧
    Agree SameButRetained (outcome grammar (lexeme (lexeme parser)) state session)
      (outcome grammar (lexeme parser) state session') := by
  have hskipped : (skipped state).failed = false := hstate
  constructor
  · intro value
    have hmoved : (state.moveTo (afterBlanks state.input state.pos) value).failed = false := hstate
    have hresult : SameButResult (state.moveTo (afterBlanks state.input state.pos) value)
        (skipped state) := ⟨(skipped state).result, rfl⟩
    refine ((agree_sameButResult hown hmoved hresult hsession hsession).comp
      (agree_lexeme grammar parser hstate hsession hsession')).mono ?_
    rintro stop _ ⟨stop', hsame, rfl⟩
    exact endsLexeme_trimmed hsame
  · have hagain : (skipped (skipped state)).failed = false := hstate
    have hresult : SameButResult (skipped (skipped state)) (skipped state) :=
      ⟨(skipped state).result, by rw [skipped_skipped]; rfl⟩
    have hinner := (agree_lexeme grammar parser hskipped hsession hsession).comp
      (agree_lexeme grammar (lexeme parser) hstate hsession hsession)
    have hparser := agree_sameButResult hown hagain hresult hsession hsession
    refine ((hinner.flip.comp hparser).comp
      (agree_lexeme grammar parser hstate hsession hsession')).mono ?_
    rintro _ _ ⟨_, ⟨stop, ⟨_, rfl, rfl⟩, hsame⟩, rfl⟩
    rw [trimmed_trimmed]
    exact sameButRetained_trimmed hsame

/-- A word of letters. -/
def words : Grammar Unit := fun _ => .ok letters

/-- A tab and a space are skipped in front of the word `ab`, a space and a form feed after it. -/
theorem lexeme_skips_blanks_word : ∃ fuel fuel' next,
    outcome words (lexeme (.ref ())) (State.start [9, 32, 97, 98, 32, 12, 99] false) .empty fuel =
      .done next ∧
    outcome words (lexeme (lexeme (.ref ()))) (State.start [9, 32, 97, 98, 32, 12, 99] false)
      .empty fuel' = .done next ∧
    next.failed = false ∧ next.pos = 6 ∧ next.result = .text [97, 98] := by
  have hown : Everywhere words (fun part => part.isHandWritten = false) (.ref ()) := by
    refine .own_of_consistsOf (fun _ body h => ?_) rfl
    obtain rfl := Except.ok.inj h
    rfl
  have hsession : Session.Coherent .empty words := Session.empty_coherent
  have hstart : (State.start [9, 32, 97, 98, 32, 12, 99] false).failed = false := rfl
  obtain ⟨hsame, htwice⟩ := lexeme_skips_blanks hsession hsession hown hstart
  obtain ⟨fuel, next, hnext, hends⟩ := (hsame .null).returned 2 _ rfl
  obtain ⟨fuel', other, hother, ⟨value, hvalue⟩, hretained⟩ :=
    htwice.returned_back fuel next hnext
  have hplace := hends.success rfl
  have hsuccess : other.failed = next.failed := (congrArg State.failed hvalue).symm
  rw [hplace] at hsuccess
  obtain rfl := hretained hsuccess
  exact ⟨fuel, fuel', other, hnext, hother, hsuccess, by rw [hplace]; rfl, by rw [hplace]; rfl⟩

end Main

end ParserCombinators.Lexical
