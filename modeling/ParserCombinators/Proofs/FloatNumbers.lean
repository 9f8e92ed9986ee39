import ParserCombinators.Proofs.FloatTexts
import ParserCombinators.Proofs.LongestMatches
import ParserCombinators.Proofs.FailurePlaces

/-!
The parser of floats takes the longest one. Its pattern prefers digits to a bare point, a fraction
to an exponent, and has optional parts that can be given back, but wherever it has to choose, the
next code point decides: what makes a part longer never begins what comes after the part, and the
alternatives are told apart by their first two code points.
-/

namespace ParserCombinators.Lexical

open ParserCombinators.Parser ParserCombinators.Regex

section Floats

/-- ASCII digits, at least one. -/
abbrev IsDigits (text : Text) : Prop := text ≠ [] ∧ ∀ c ∈ text, Digit.isDecimal c = true

/-- A letter, an optional sign and digits. -/
def IsExponent (text : Text) : Prop :=
  ∃ letter ∈ ['e'.toNat, 'E'.toNat], ∃ sign ∈ [[], ['-'.toNat], ['+'.toNat]], ∃ digits,
    IsDigits digits ∧ text = letter :: (sign ++ digits)

/-- A float without its sign has a fraction or an exponent. A point needs digits after it, unless
there are digits in front of it and an exponent follows. -/
inductive IsUnsignedFloat : Text → Prop
  | pointed {whole fraction exponent : Text} : IsDigits whole → IsDigits fraction →
      (exponent = [] ∨ IsExponent exponent) →
      IsUnsignedFloat (whole ++ '.'.toNat :: (fraction ++ exponent))
  | scaled {whole point exponent : Text} : IsDigits whole → point ∈ [[], ['.'.toNat]] →
      IsExponent exponent → IsUnsignedFloat (whole ++ (point ++ exponent))
  | fraction {fraction exponent : Text} : IsDigits fraction →
      (exponent = [] ∨ IsExponent exponent) →
      IsUnsignedFloat ('.'.toNat :: (fraction ++ exponent))

inductive IsFloat : Text → Prop
  | unsigned {text : Text} : IsUnsignedFloat text → IsFloat text
  | minus {text : Text} : IsUnsignedFloat text → IsFloat ('-'.toNat :: text)

variable {text : Text}

theorem mem_exponentNode_iff : text ∈ exponentNode.language ↔ IsExponent text := by
  have hsign (sign : Text) : (sign = [] ∨ ∃ c ∈ [45, 43], sign = [c]) ↔
      sign ∈ [[], ['-'.toNat], ['+'.toNat]] := by simp
  simp only [exponentNode, Node.language, Language.mem_mul, mem_oneOf, mem_maybe, mem_someDigits,
    hsign]
  constructor
  · rintro ⟨_, ⟨letter, hletter, rfl⟩, _, ⟨sign, hsign, digits, hdigits, rfl⟩, rfl⟩
    exact ⟨letter, hletter, sign, hsign, digits, hdigits, rfl⟩
  · rintro ⟨letter, hletter, sign, hsign, digits, hdigits, rfl⟩
    exact ⟨_, ⟨letter, hletter, rfl⟩, _, ⟨sign, hsign, digits, hdigits, rfl⟩, rfl⟩

theorem mem_fractionNode_iff : text ∈ fractionNode.language ↔ ∃ digits exponent,
    IsDigits digits ∧ (exponent = [] ∨ IsExponent exponent) ∧
      text = '.'.toNat :: (digits ++ exponent) := by
  simp only [fractionNode, Node.language, Language.mem_mul, mem_oneOf, mem_maybe, mem_someDigits,
    mem_exponentNode_iff, List.mem_singleton, exists_eq_left]
  constructor
  · rintro ⟨_, ⟨digits, hdigits, exponent, hexponent, rfl⟩, rfl⟩
    exact ⟨digits, exponent, hdigits, hexponent, rfl⟩
  · rintro ⟨digits, exponent, hdigits, hexponent, rfl⟩
    exact ⟨_, ⟨digits, hdigits, exponent, hexponent, rfl⟩, rfl⟩

/-- What follows the digits in front where there is no fraction. -/
def scaledNode : Node := .seq (maybe (oneOf [46])) exponentNode

/-- What follows the sign. -/
def unsignedNode : Node :=
  .alt (.seq someDigits (.alt fractionNode scaledNode)) fractionNode

theorem mem_unsignedNode_iff : text ∈ unsignedNode.language ↔ IsUnsignedFloat text := by
  have hpoint (point : Text) : (point = [] ∨ point = [46]) ↔ point ∈ [[], ['.'.toNat]] := by simp
  simp only [unsignedNode, scaledNode, Node.language, Language.mem_mul, Language.mem_add,
    mem_oneOf, mem_maybe, mem_someDigits, mem_exponentNode_iff, mem_fractionNode_iff,
    List.mem_singleton, exists_eq_left, hpoint]
  constructor
  · rintro (⟨whole, hwhole, _, ⟨digits, exponent, hdigits, hexponent, rfl⟩ |
      ⟨point, hpoint, exponent, hexponent, rfl⟩, rfl⟩ | ⟨digits, exponent, hdigits, hexponent, rfl⟩)
    · exact .pointed hwhole hdigits hexponent
    · exact .scaled hwhole hpoint hexponent
    · exact .fraction hdigits hexponent
  · rintro (⟨hwhole, hdigits, hexponent⟩ | ⟨hwhole, hpoint, hexponent⟩ | ⟨hdigits, hexponent⟩)
    · exact Or.inl ⟨_, hwhole, _, Or.inl ⟨_, _, hdigits, hexponent, rfl⟩, rfl⟩
    · exact Or.inl ⟨_, hwhole, _, Or.inr ⟨_, hpoint, _, hexponent, rfl⟩, rfl⟩
    · exact Or.inr ⟨_, _, hdigits, hexponent, rfl⟩

/-- The language of the pattern is that of floats. -/
theorem mem_floatPattern_iff : text ∈ floatPattern.root.language ↔ IsFloat text := by
  have hroot : floatPattern.root = .seq (maybe (oneOf [45])) unsignedNode := rfl
  simp only [hroot, Node.language, Language.mem_mul, mem_oneOf, mem_maybe, mem_unsignedNode_iff,
    List.mem_singleton, exists_eq_left]
  constructor
  · rintro ⟨_, rfl | rfl, unsigned, hunsigned, rfl⟩
    · exact .unsigned hunsigned
    · exact .minus hunsigned
  · rintro (hunsigned | hunsigned)
    · exact ⟨_, Or.inl rfl, _, hunsigned, rfl⟩
    · exact ⟨_, Or.inr rfl, _, hunsigned, rfl⟩

end Floats

section Choices

variable {node : Node} {members : Text} {c : Nat}

theorem not_isDecimal_of_letter :
    ∀ c ∈ ['e'.toNat, 'E'.toNat], ¬ Digit.isDecimal c = true := by decide

theorem begins_oneOf (h : Begins (oneOf members).language c) : c ∈ members := by
  obtain ⟨rest, hword⟩ := h
  obtain ⟨d, hd, heq⟩ := mem_oneOf.mp hword
  cases heq
  exact hd

theorem begins_maybe (h : Begins (maybe node).language c) : Begins node.language c := by
  obtain ⟨rest, hword⟩ := h
  exact ⟨rest, (mem_maybe.mp hword).resolve_left (List.cons_ne_nil c rest)⟩

theorem begins_someDigits (h : Begins someDigits.language c) : Digit.isDecimal c = true := by
  obtain ⟨rest, hword⟩ := h
  exact (mem_someDigits.mp hword).2 c List.mem_cons_self

theorem begins_exponentNode (h : Begins exponentNode.language c) :
    c ∈ ['e'.toNat, 'E'.toNat] := by
  obtain ⟨rest, hword⟩ := h
  obtain ⟨letter, hletter, _, -, _, -, heq⟩ := mem_exponentNode_iff.mp hword
  cases heq
  exact hletter

theorem begins_fractionNode (h : Begins fractionNode.language c) : c = 46 := by
  obtain ⟨rest, hword⟩ := h
  obtain ⟨_, _, -, -, heq⟩ := mem_fractionNode_iff.mp hword
  cases heq
  rfl

/-- An optional part can be made longer only where it was left out. -/
theorem continues_maybe_oneOf (h : Continues (maybe (oneOf members)).language c) :
    c ∈ members := by
  obtain ⟨word, hword, rest, hlonger⟩ := h
  have hmore := (mem_maybe.mp hlonger).resolve_left (by simp)
  obtain ⟨d, hd, heq⟩ := mem_oneOf.mp hmore
  rcases mem_maybe.mp hword with rfl | hword
  · cases heq
    exact hd
  · obtain ⟨e, -, rfl⟩ := mem_oneOf.mp hword
    cases heq

theorem continues_someDigits (h : Continues someDigits.language c) :
    Digit.isDecimal c = true := by
  obtain ⟨word, -, rest, hlonger⟩ := h
  exact (mem_someDigits.mp hlonger).2 c (by simp)

/-- The digits of an exponent are at its end, so that only a digit makes it longer. -/
theorem continues_exponentNode (h : Continues exponentNode.language c) :
    Digit.isDecimal c = true := by
  obtain ⟨word, hword, rest, hlonger⟩ := h
  obtain ⟨_, -, sign, -, digits, ⟨hnonempty, -⟩, rfl⟩ := mem_exponentNode_iff.mp hword
  obtain ⟨_, -, sign', hsign, digits', ⟨-, hdigits⟩, heq⟩ := mem_exponentNode_iff.mp hlonger
  have hbody : sign ++ digits ++ c :: rest = sign' ++ digits' := (List.cons.inj heq).2
  have hshort : ∀ sign ∈ [[], ['-'.toNat], ['+'.toNat]], sign.length ≤ 1 := by decide
  have hlength : sign'.length ≤ (sign ++ digits).length := by
    have hpositive := List.length_pos_iff.mpr hnonempty
    have hle := hshort sign' hsign
    rw [List.length_append]
    omega
  have hrest : (sign ++ digits).drop sign'.length ++ c :: rest = digits' := by
    rw [← List.drop_append_of_le_length hlength, hbody, List.drop_left]
  exact hdigits c (by simp [← hrest])

theorem nil_notMem_someDigits : [] ∉ someDigits.language :=
  fun h => (mem_someDigits.mp h).1 rfl

theorem nil_notMem_exponentNode : [] ∉ exponentNode.language := by
  intro h
  obtain ⟨_, -, _, -, _, -, heq⟩ := mem_exponentNode_iff.mp h
  cases heq

theorem nil_notMem_fractionNode : [] ∉ fractionNode.language := by
  intro h
  obtain ⟨_, _, -, -, heq⟩ := mem_fractionNode_iff.mp h
  cases heq

/-- After the digits in front of the point comes the point, or else a letter. -/
theorem begins_scaledNode (h : Begins scaledNode.language c) :
    c = 46 ∨ c ∈ ['e'.toNat, 'E'.toNat] := by
  rcases begins_of_mul h with hpoint | ⟨-, hletter⟩
  · exact Or.inl (List.mem_singleton.mp (begins_oneOf (begins_maybe hpoint)))
  · exact Or.inr (begins_exponentNode hletter)

/-- Digits come first, or else the point. -/
theorem begins_unsignedNode (h : Begins unsignedNode.language c) :
    Digit.isDecimal c = true ∨ c = 46 := by
  obtain ⟨rest, hword | hword⟩ := h
  · refine Or.inl (begins_someDigits ?_)
    exact (begins_of_mul ⟨rest, hword⟩).resolve_right fun h => nil_notMem_someDigits h.1
  · exact Or.inr (begins_fractionNode ⟨rest, hword⟩)

/-- After the point come digits in a fraction, and otherwise the letter of an exponent. -/
theorem apart_fractionNode : Apart fractionNode.language scaledNode.language := by
  rintro _ hfraction _ ⟨point, hpoint, _, hexponent, rfl⟩
  obtain ⟨_, _, ⟨hnonempty, hdigits⟩, -, rfl⟩ := mem_fractionNode_iff.mp hfraction
  obtain ⟨letter, hletter, sign, -, others, -, rfl⟩ := mem_exponentNode_iff.mp hexponent
  obtain ⟨d, digits, rfl⟩ := List.exists_cons_of_ne_nil hnonempty
  have hdiffers : d ≠ letter := by
    rintro rfl
    exact not_isDecimal_of_letter d hletter (hdigits d List.mem_cons_self)
  have hpointDiffers : 46 ≠ letter := by
    rintro rfl
    simp at hletter
  rcases mem_maybe.mp hpoint with rfl | hpoint
  · simp [hpointDiffers, hpointDiffers.symm]
  · obtain ⟨c, hc, rfl⟩ := mem_oneOf.mp hpoint
    obtain rfl := List.mem_singleton.mp hc
    simp [hdiffers, hdiffers.symm]

end Choices

section Longest

theorem triesLongest_someDigits : someDigits.TriesLongest :=
  (triesLongest_one _).loop nil_notMem_one (decides_one _) 1 none

theorem triesLongest_maybe_oneOf (members : Text) : (maybe (oneOf members)).TriesLongest :=
  (triesLongest_one _).loop nil_notMem_one (decides_one _) 0 (some 1)

theorem triesLongest_exponentNode : exponentNode.TriesLongest := by
  have hsigns : ∀ c ∈ [45, 43], ¬ Digit.isDecimal c = true := by decide
  refine (triesLongest_one _).seq ?_ (decides_one _)
  refine (triesLongest_maybe_oneOf _).seq triesLongest_someDigits fun c hsign hdigit => ?_
  exact hsigns c (continues_maybe_oneOf hsign) (begins_someDigits hdigit)

theorem triesLongest_maybe_exponentNode : (maybe exponentNode).TriesLongest := by
  refine triesLongest_exponentNode.loop nil_notMem_exponentNode (fun c hdigit hletter => ?_) 0 _
  exact not_isDecimal_of_letter c (begins_exponentNode hletter) (continues_exponentNode hdigit)

theorem triesLongest_fractionNode : fractionNode.TriesLongest := by
  refine (triesLongest_one _).seq ?_ (decides_one _)
  refine triesLongest_someDigits.seq triesLongest_maybe_exponentNode fun c hdigit hletter => ?_
  exact not_isDecimal_of_letter c (begins_exponentNode (begins_maybe hletter))
    (continues_someDigits hdigit)

theorem triesLongest_scaledNode : scaledNode.TriesLongest := by
  refine (triesLongest_maybe_oneOf _).seq triesLongest_exponentNode fun c hpoint hletter => ?_
  obtain rfl := List.mem_singleton.mp (continues_maybe_oneOf hpoint)
  exact absurd (begins_exponentNode hletter) (by decide)

theorem triesLongest_unsignedNode : unsignedNode.TriesLongest := by
  have hends : (Node.alt fractionNode scaledNode).TriesLongest :=
    triesLongest_fractionNode.alt triesLongest_scaledNode apart_fractionNode
  have hpoint : ¬ Digit.isDecimal 46 = true := by decide
  refine (triesLongest_someDigits.seq hends ?_).alt triesLongest_fractionNode
    (apart_of_begins ?_ nil_notMem_fractionNode ?_)
  · rintro c hdigit ⟨rest, hword | hword⟩
    · obtain rfl := begins_fractionNode ⟨rest, hword⟩
      exact hpoint (continues_someDigits hdigit)
    · rcases begins_scaledNode ⟨rest, hword⟩ with rfl | hletter
      · exact hpoint (continues_someDigits hdigit)
      · exact not_isDecimal_of_letter c hletter (continues_someDigits hdigit)
  · rintro ⟨front, hfront, back, -, heq⟩
    exact (mem_someDigits.mp hfront).1 (List.append_eq_nil_iff.mp heq).1
  · intro c hdigit hfraction
    obtain rfl := begins_fractionNode hfraction
    rcases begins_of_mul hdigit with hdigit | ⟨hnone, -⟩
    · exact hpoint (begins_someDigits hdigit)
    · exact nil_notMem_someDigits hnone

/-- What is tried first is the longest float ahead. -/
theorem triesLongest_floatPattern : floatPattern.root.TriesLongest := by
  refine (triesLongest_maybe_oneOf [45]).seq triesLongest_unsignedNode fun c hminus hbegins => ?_
  obtain rfl := List.mem_singleton.mp (continues_maybe_oneOf hminus)
  rcases begins_unsignedNode hbegins with hdigit | hpoint
  · cases hdigit
  · cases hpoint

end Longest

section Parsing

variable {ν : Type} [DecidableEq ν] {grammar : Grammar ν} {state : State} {found : Text}

theorem returns_float_found (hstate : state.failed = false)
    (hleft : state.pos < state.input.length)
    (hfound : floatPattern.matchAt? state.input state.pos = some found) :
    ∃ value, floatOf (.text found) = .ok value ∧
      Returns grammar float state (state.moveTo (state.pos + found.length) value) := by
  obtain ⟨value, hvalue⟩ := exists_floatOf hfound
  refine ⟨value, hvalue, ?_⟩
  have hpattern : Returns grammar (ofPattern floatPattern) state
      (state.moveTo (state.pos + found.length) (.text found)) := by
    rw [← matchPattern_of_some hleft hfound]
    exact Returns.pattern hstate
  rw [float_eq]
  exact Returns.map hpattern hstate hvalue

theorem stops_float (hleft : state.pos < state.input.length)
    (hnone : floatPattern.matchAt? state.input state.pos = none) :
    Stops grammar state.input float state.pos state.pos .noMatch := by
  rw [float_eq]
  exact (Stops.pattern_differs hleft hnone).map floatOf

/-- Before the end of the input, the parser succeeds just where some float is ahead. It takes the
longest one, which is the text that is converted, and else it fails where it is. -/
theorem float_longest (hstate : state.failed = false) (hleft : state.pos < state.input.length) :
    ∃ next, Returns grammar float state next ∧
      (next.failed = false ↔ ∃ text, IsFloat text ∧ text <+: state.rest) ∧
      (next.failed = false → ∃ text value, IsFloat text ∧ text <+: state.rest ∧
        (∀ other, IsFloat other → other <+: state.rest → other.length ≤ text.length) ∧
        floatOf (.text text) = .ok value ∧
        next = state.moveTo (state.pos + text.length) value) ∧
      (next.failed = true → next.pos = state.pos) := by
  rcases floatPattern.matchAt?_of_triesLongest triesLongest_floatPattern state.input state.pos with
    ⟨text, hfound, hlongest⟩ | ⟨hnone, hnothing⟩
  · obtain ⟨value, hvalue, hreturns⟩ := @returns_float_found ν _ grammar _ _ hstate hleft hfound
    have hfloat : IsFloat text := mem_floatPattern_iff.mp hlongest.mem
    refine ⟨_, hreturns, ⟨fun _ => ⟨text, hfloat, hlongest.ahead⟩, fun _ => hstate⟩, ?_, ?_⟩
    · exact fun _ => ⟨text, value, hfloat, hlongest.ahead,
        fun other hother => hlongest.longest other (mem_floatPattern_iff.mpr hother), hvalue, rfl⟩
    · intro hfailed
      cases hstate.symm.trans hfailed
  · have hstops : Stops grammar state.input float state.pos state.pos .noMatch :=
      stops_float hleft hnone
    obtain ⟨next, hnext, hfailed⟩ := hstops state hstate rfl rfl
    have hnot : ¬ next.failed = false := by simp [hfailed.failed]
    refine ⟨next, hnext, ⟨fun h => absurd h hnot, ?_⟩, fun h => absurd h hnot, fun _ => hfailed.pos⟩
    rintro ⟨text, hfloat, hahead⟩
    exact absurd hahead (hnothing text (mem_floatPattern_iff.mpr hfloat))

/-- A grammar of one float. -/
def floats : Grammar Unit := fun _ => .ok float

/-- A float after other text, with both signs. -/
theorem float_signed : ∃ next,
    Returns floats float { State.start (Text.ofString "x-1.5e+7") false with pos := 1 } next ∧
      next.failed = false ∧ next.pos = 8 := by
  obtain ⟨next, hnext, hiff, htakes, -⟩ := @float_longest Unit _ floats
    { State.start (Text.ofString "x-1.5e+7") false with pos := 1 } rfl (by decide)
  have hfloat : IsFloat (Text.ofString "-1.5e+7") := by
    refine .minus (@IsUnsignedFloat.pointed (Text.ofString "1") (Text.ofString "5")
      (Text.ofString "e+7") (by decide) (by decide) (Or.inr ?_))
    exact ⟨'e'.toNat, by decide, ['+'.toNat], by decide, Text.ofString "7", by decide, rfl⟩
  have hsuccess : next.failed = false := hiff.mpr ⟨_, hfloat, by decide⟩
  obtain ⟨text, value, -, hahead, hlongest, -, rfl⟩ := htakes hsuccess
  have hle : text.length ≤ 7 := hahead.length_le
  have hge : 7 ≤ text.length := hlongest _ hfloat (by decide)
  exact ⟨_, hnext, hsuccess, congrArg (1 + ·) (Nat.le_antisymm hle hge)⟩

/-- What is no exponent is left to the rest of the input. -/
example : floatPattern.matchAt? (Text.ofString "1.5e+") 0 = some (Text.ofString "1.5") := by
  decide +kernel

end Parsing

end ParserCombinators.Lexical
