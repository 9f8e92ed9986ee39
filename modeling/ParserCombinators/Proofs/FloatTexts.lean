import ParserCombinators.Lexical.Float
import ParserCombinators.Proofs.Decimals
import ParserCombinators.Proofs.LexicalPatterns
import ParserCombinators.Proofs.MatchedTexts

/-!
The texts that the pattern of floats matches, and that each of them is read as a decimal. The
conversion knows nothing of the pattern, so its domain has to hold the language of the pattern, with
digits of any number in each of its places.
-/

namespace ParserCombinators.Lexical

open ParserCombinators.Regex

section Nodes

def oneOf (members : Text) : Node := .one (membersSet false members)

def maybe (node : Node) : Node := .loop 0 (some 1) .greedy node

/-- At least one digit. -/
def someDigits : Node := .loop 1 none .greedy (.one digitSet)

/-- A letter, an optional sign and digits. -/
def exponentNode : Node := .seq (oneOf [101, 69]) (.seq (maybe (oneOf [45, 43])) someDigits)

/-- A point, digits and an optional exponent. -/
def fractionNode : Node := .seq (oneOf [46]) (.seq someDigits (maybe exponentNode))

def floatPattern : Pattern where
  source := Text.ofString floatSource
  flags := { unicode := true }
  root := .seq (maybe (oneOf [45])) (.alt
    (.seq someDigits (.alt fractionNode (.seq (maybe (oneOf [46])) exponentNode))) fractionNode)

theorem compile_floatPattern : Pattern.compile floatPattern.source .none = .ok floatPattern :=
  eq_ok_of_toOption (by decide +kernel)

theorem float_eq {ν : Type} :
    (float : Parser ν) = .map (Parser.ofPattern floatPattern) floatOf := by
  have hpattern : Parser.ofExcept (Parser.regex (Text.ofString floatSource) .none) =
      (Parser.ofPattern floatPattern : Parser ν) := ofExcept_regex compile_floatPattern
  rw [float, hpattern]

end Nodes

section Languages

variable {node : Node} {members text : Text}

theorem mem_oneOf : text ∈ (oneOf members).language ↔ ∃ c ∈ members, text = [c] := by
  have hmem (c : Nat) : (membersSet false members).has c = true ↔ c ∈ members := by
    rw [has_membersSet, Bool.bne_false, List.contains_iff_mem]
  exact exists_congr fun c => and_congr_left' (hmem c)

theorem mem_maybe : text ∈ (maybe node).language ↔ text = [] ∨ text ∈ node.language := by
  constructor
  · rintro ⟨rounds, rfl, hrounds, -, hmost⟩
    have hlength : rounds.length ≤ 1 := hmost 1 rfl
    match rounds, hlength with
    | [], _ => exact Or.inl rfl
    | [round], _ =>
        rw [List.flatten_singleton]
        exact Or.inr (hrounds round List.mem_cons_self)
  · rintro (rfl | htext)
    · exact Loop.nil_mem_language rfl
    · exact ⟨[text], List.flatten_singleton, by simpa using htext, Nat.zero_le _,
        by rintro _ ⟨⟩; simp⟩

theorem mem_someDigits :
    text ∈ someDigits.language ↔ text ≠ [] ∧ ∀ c ∈ text, Digit.isDecimal c = true := by
  constructor
  · intro h
    obtain ⟨hdigits, hleast, -⟩ := Loop.mem_language_one h
    exact ⟨List.length_pos_iff.mp hleast, fun c hc => (has_digitSet c).symm.trans (hdigits c hc)⟩
  · rintro ⟨hnonempty, hdigits⟩
    refine ⟨text.map fun c => [c], ?_, ?_, ?_, by rintro _ ⟨⟩⟩
    · rw [← List.flatMap_def, List.flatMap_singleton']
    · simp only [List.forall_mem_map]
      exact fun c hc => ⟨c, (has_digitSet c).trans (hdigits c hc), rfl⟩
    · rw [List.length_map]
      exact List.length_pos_iff.mpr hnonempty

theorem mem_exponentNode (h : text ∈ exponentNode.language) : Decimal.isExponent text = true := by
  obtain ⟨_, hfirst, _, ⟨sign, hsecond, digits, hlast, rfl⟩, rfl⟩ := h
  obtain ⟨letter, hletter, rfl⟩ := mem_oneOf.mp hfirst
  obtain ⟨hnonempty, hdigits⟩ := mem_someDigits.mp hlast
  have hsign : sign = [] ∨ ∃ c ∈ [45, 43], sign = [c] := (mem_maybe.mp hsecond).imp id mem_oneOf.mp
  have hexponent := Decimal.isExponent_signed hletter hsign hnonempty hdigits
  exact hexponent

theorem mem_fractionNode (h : text ∈ fractionNode.language) :
    ∃ digits rest, text = 46 :: (digits ++ rest) ∧ digits ≠ [] ∧
      (∀ c ∈ digits, Digit.isDecimal c = true) ∧ Decimal.EndsDecimal rest := by
  obtain ⟨_, hfirst, _, ⟨digits, hsecond, rest, hrest, rfl⟩, rfl⟩ := h
  obtain ⟨point, hpoint, rfl⟩ := mem_oneOf.mp hfirst
  obtain rfl := List.mem_singleton.mp hpoint
  obtain ⟨hnonempty, hdigits⟩ := mem_someDigits.mp hsecond
  exact ⟨digits, rest, rfl, hnonempty, hdigits, (mem_maybe.mp hrest).imp id mem_exponentNode⟩

end Languages

/-- Whatever the pattern matches is a decimal. -/
theorem exists_read_of_mem {text : Text} (h : text ∈ floatPattern.root.language) :
    ∃ decimal, Decimal.read text = .ok decimal := by
  obtain ⟨sign, hfirst, unsigned, hunsigned, rfl⟩ := h
  obtain ⟨negative, rfl⟩ : ∃ negative, Decimal.signText negative = sign := by
    rcases mem_maybe.mp hfirst with rfl | hminus
    · exact ⟨false, rfl⟩
    · obtain ⟨c, hc, rfl⟩ := mem_oneOf.mp hminus
      obtain rfl := List.mem_singleton.mp hc
      exact ⟨true, rfl⟩
  rcases hunsigned with ⟨whole, hsecond, _, hrest, rfl⟩ | hfraction
  · obtain ⟨hnonempty, hwhole⟩ := mem_someDigits.mp hsecond
    rcases hrest with hfraction | ⟨point, hpoint, exponent, hexponent, rfl⟩
    · obtain ⟨digits, rest, rfl, -, hdigits, hend⟩ := mem_fractionNode hfraction
      exact ⟨_, Decimal.read_of_split (Decimal.split_pointed hwhole hdigits hend)
        (List.append_ne_nil_of_left_ne_nil hnonempty digits) hend⟩
    · have hend : Decimal.EndsDecimal exponent := Or.inr (mem_exponentNode hexponent)
      rcases mem_maybe.mp hpoint with rfl | hpoint
      · exact ⟨_, Decimal.read_of_split (Decimal.split_plain hwhole hnonempty hend)
          (List.append_ne_nil_of_left_ne_nil hnonempty []) hend⟩
      · obtain ⟨c, hc, rfl⟩ := mem_oneOf.mp hpoint
        obtain rfl := List.mem_singleton.mp hc
        exact ⟨_, Decimal.read_of_split (@Decimal.split_pointed _ _ [] _ hwhole (by simp) hend)
          (List.append_ne_nil_of_left_ne_nil hnonempty []) hend⟩
  · obtain ⟨digits, rest, rfl, hnonempty, hdigits, hend⟩ := mem_fractionNode hfraction
    exact ⟨_, Decimal.read_of_split (@Decimal.split_pointed _ [] _ _ (by simp) hdigits hend)
      hnonempty hend⟩

/-- The conversion is defined on whatever the pattern matches. -/
theorem exists_floatOf {input found : Text} {pos : Nat}
    (h : floatPattern.matchAt? input pos = some found) :
    ∃ value, floatOf (.text found) = .ok value := by
  obtain ⟨decimal, hdecimal⟩ := exists_read_of_mem (Pattern.mem_language_of_matchAt? h).1
  exact ⟨.float decimal.toDouble, by simp only [floatOf, hdecimal]⟩

end ParserCombinators.Lexical
