import ParserCombinators.Proofs.Agreement
import ParserCombinators.Proofs.AnchorScans
import ParserCombinators.Proofs.LexicalPatterns

/-!
Maximal munch. The words of the supplied parsers are runs of a class: letters, digits, blanks and
slugs, the digits of a base, and the text of a string between its escapes. Each of their patterns
is a class and a plus, some put together at run time. Whichever code points are meant, the pattern
takes all of them that come next, as repeating the class by itself would one at a time.
-/

namespace ParserCombinators

namespace Regex

/-- No bracket or circumflex among the members makes the scan see an anchor. -/
theorem showsStartAnchor_classSource {members : Text} (hmembers : members ≠ []) (negated : Bool) :
    showsStartAnchor (classSource negated members) = false := by
  calc showsStartAnchor (classSource negated members)
      = Scan.opened.findsIn (classTokens negated members [.plain '+'.toNat]) :=
        Scan.findsAnchor_eq_findsIn rfl (ofText?_classSource negated members)
    _ = Scan.outside.findsIn [.plain '+'.toNat] :=
        findsIn_of_readClass (readClass_classTokens hmembers negated _)
    _ = false := by decide

end Regex

namespace Parser

section Repetition

variable {ν : Type} [DecidableEq ν] {grammar : Grammar ν} {name expected : Text}
  {compiled : Regex.Pattern} {set : Regex.CharSet} {state : State}

theorem exists_cons_of_takeWhile {has : Nat → Bool} {text run : Text} {c : Nat}
    (h : text.takeWhile has = c :: run) :
    ∃ tail, text = c :: tail ∧ has c = true ∧ tail.takeWhile has = run := by
  cases text with
  | nil => cases h
  | cons d tail =>
      rw [List.takeWhile_cons] at h
      split at h
      next hhas =>
        cases h
        exact ⟨tail, rfl, hhas, rfl⟩
      next => cases h

/-- Members one after the other, each a text of its own. -/
theorem collects_class_one (hroot : compiled.root = .one set) (hstate : state.failed = false) :
    ∃ value, Collects (Returns grammar (.pattern name compiled expected)) state
      ((state.rest.takeWhile set.has).map fun c => .text [c])
      (state.moveTo (state.pos + (state.rest.takeWhile set.has).length) value) := by
  induction hrun : state.rest.takeWhile set.has generalizing state with
  | nil =>
      obtain ⟨kind, message, hfailed⟩ := matchPattern_class_one_failed name expected hroot hrun
      have hnone : Returns grammar (.pattern name compiled expected) state
          (state.fail kind message) := (returns_pattern_iff hstate).mpr hfailed.symm
      exact ⟨state.result, .refused (.nil state) hnone rfl⟩
  | cons c run ih =>
      obtain ⟨tail, hrest, hhas, rfl⟩ := exists_cons_of_takeWhile hrun
      have hnext : Returns grammar (.pattern name compiled expected) state
          (state.moveTo (state.pos + 1) (.text [c])) :=
        (returns_pattern_iff hstate).mpr (matchPattern_class_one hroot hrest hhas).symm
      have hafter : (state.moveTo (state.pos + 1) (.text [c])).rest = tail :=
        drop_after_cons hrest
      have hgoes : (state.moveTo (state.pos + 1) (.text [c])).failed = false := hstate
      obtain ⟨value, hcollects⟩ := ih hgoes (by rw [hafter])
      have hmoves : state.pos + 1 ≠ state.pos := by omega
      have hplace : (state.moveTo (state.pos + 1) (.text [c])).moveTo
          (state.pos + 1 + (tail.takeWhile set.has).length) value =
          state.moveTo (state.pos + (c :: tail.takeWhile set.has).length) value := by
        rw [List.length_cons, Nat.add_assoc, Nat.add_comm 1]
        rfl
      exact ⟨value, hplace ▸ Collects.cons ⟨hnext, hstate, hmoves, rfl⟩ hcollects⟩

theorem joinTexts_singletons (text : Text) :
    joinTexts (.list (text.map fun c => .text [c])) = .ok (.text text) := by
  have hsingletons := Lexical.joinTexts_texts (text.map ([·]))
  rwa [List.map_map, ← List.flatMap_def, List.flatMap_singleton'] at hsingletons

/-- Members one at a time, joined, are what a run of them is. -/
theorem returns_joined_class_one (hroot : compiled.root = .one set)
    (hstate : state.failed = false) :
    Returns grammar (.map (.many1 (.pattern name compiled expected)) joinTexts) state
      (if state.rest.takeWhile set.has = [] then state.fail .exhausted (Wording.noItem state)
        else state.moveTo (state.pos + (state.rest.takeWhile set.has).length)
          (.text (state.rest.takeWhile set.has))) := by
  obtain ⟨value, hcollects⟩ : ∃ value,
      Collects (Returns grammar (.pattern name compiled expected)) state _ _ :=
    collects_class_one hroot hstate
  have hmany := (returns_many1_iff_collects hstate).mpr ⟨_, _, hcollects, rfl⟩
  simp only [List.map_eq_nil_iff] at hmany
  split at hmany
  next hrun =>
    rw [if_pos hrun]
    exact Returns.map_failed hmany rfl
  next hrun =>
    rw [if_neg hrun]
    exact Returns.map hmany hstate (joinTexts_singletons _)

end Repetition

section Munching

/-- One of the characters that are meant is next, and all of them up to the first other one are
taken; or none is, and nothing is taken. -/
structure Munches (has : Nat → Bool) (state next : State) : Prop where
  succeeds_iff : next.failed = false ↔ ∃ c, state.input[state.pos]? = some c ∧ has c = true
  success : next.failed = false →
    next = state.moveTo (state.pos + (state.rest.takeWhile has).length)
      (.text (state.rest.takeWhile has))
  failure : next.failed = true → next.pos = state.pos

/-- The two have failed at one place, or have succeeded in the same state. -/
structure SameMatch (next next' : State) : Prop where
  failed_eq : next.failed = next'.failed
  pos_eq : next.pos = next'.pos
  success : next.failed = false → next = next'

variable {has : Nat → Bool} {state : State}

theorem takeWhile_rest_ne_nil_iff :
    state.rest.takeWhile has ≠ [] ↔ ∃ c, state.input[state.pos]? = some c ∧ has c = true := by
  have hhead : state.rest.head? = state.input[state.pos]? := List.head?_drop
  rw [← hhead]
  cases state.rest with
  | nil => simp
  | cons c rest => cases hc : has c <;> simp [hc]

theorem munches_fail (hrun : state.rest.takeWhile has = []) (kind : FailureKind)
    (message : Text) : Munches has state (state.fail kind message) where
  succeeds_iff := by
    rw [← takeWhile_rest_ne_nil_iff]
    simp [State.fail, hrun]
  success := nofun
  failure _ := rfl

theorem munches_moveTo (hstate : state.failed = false) (hrun : state.rest.takeWhile has ≠ []) :
    Munches has state (state.moveTo (state.pos + (state.rest.takeWhile has).length)
      (.text (state.rest.takeWhile has))) where
  succeeds_iff := iff_of_true hstate (takeWhile_rest_ne_nil_iff.mp hrun)
  success _ := rfl
  failure hfailed := by cases hstate.symm.trans hfailed

variable {ν : Type} [DecidableEq ν] {grammar : Grammar ν} {name expected name' expected' : Text}
  {compiled one : Regex.Pattern} {set : Regex.CharSet}

/-- A greedy loop over a class, and many of the class alone. -/
theorem exists_munched (hroot : compiled.root = .loop 1 none .greedy (.one set))
    (hone : one.root = .one set) (hstate : state.failed = false) :
    ∃ next next', Returns grammar (.pattern name compiled expected) state next ∧
      Returns grammar (.map (.many1 (.pattern name' one expected')) joinTexts) state next' ∧
      Munches set.has state next ∧ SameMatch next next' := by
  have hjoined : Returns grammar (.map (.many1 (.pattern name' one expected')) joinTexts) state _ :=
    returns_joined_class_one hone hstate
  have hmatch : Returns grammar (.pattern name compiled expected) state _ :=
    (returns_pattern_iff hstate).mpr rfl
  by_cases hrun : state.rest.takeWhile set.has = []
  · obtain ⟨kind, message, hfailed⟩ := matchPattern_class_failed name expected hroot hrun
    rw [if_pos hrun] at hjoined
    rw [hfailed] at hmatch
    exact ⟨_, _, hmatch, hjoined, munches_fail hrun kind message, rfl, rfl, nofun⟩
  · rw [if_neg hrun] at hjoined
    rw [matchPattern_class_run hroot hrun] at hmatch
    exact ⟨_, _, hmatch, hjoined, munches_moveTo hstate hrun, rfl, rfl, fun _ => rfl⟩

end Munching

end Parser

namespace Lexical

open ParserCombinators.Parser ParserCombinators.Regex

variable {ν : Type}

/-- The patterns that are a class and a plus. -/
inductive ClassRun (ν : Type) where
  | letters
  | digits
  | whitespace
  | slug
  /-- The digits of a base, or any other set of characters. -/
  | digitRun (chars : Text)
  /-- The text of a string up to its quote or an escape. -/
  | plain (quoting : Quoting ν) (quote : Text)

namespace ClassRun

/-- Only ASCII letters and digits are put into a class as they are. A class needs a member, and the
text of a string something to end at. -/
def Allowed : ClassRun ν → Prop
  | digitRun chars =>
    chars ≠ [] ∧ ∀ c ∈ chars, (Digit.isAsciiLetter c || Digit.isDecimal c) = true
  | plain quoting quote => quote ≠ [] ∧ quoting.escape ≠ []
  | _ => True

def source : ClassRun ν → Text
  | letters => lettersPattern.source
  | digits => digitsPattern.source
  | whitespace => whitespacePattern.source
  | slug => slugPattern.source
  | digitRun chars => digitRunSource chars
  | plain quoting quote => quoting.plainSource quote

def parser : ClassRun ν → Parser ν
  | letters => Lexical.letters
  | digits => Lexical.digits
  | whitespace => Lexical.whitespace
  | slug => Lexical.slug
  | digitRun chars => Lexical.digitRun chars
  | plain quoting quote => quoting.plainText quote

/-- The characters that are meant. -/
def has : ClassRun ν → Nat → Bool
  | letters, c => Digit.isAsciiLetter c
  | digits, c => Digit.isDecimal c
  | whitespace, c => isBlank c
  | slug, c => Digit.isAsciiLetter c || Digit.isDecimal c || c == 95 || c == 45
  | digitRun chars, c => chars.contains c
  | plain quoting quote, c => !quote.contains c && !quoting.escape.contains c

/-- Many of the class without its plus, joined. -/
def oneByOne (kind : ClassRun ν) : Parser ν :=
  .map (.many1 (.ofExcept (Parser.regex kind.source.dropLast .none))) joinTexts

/-- The pattern is a run of the set, and the set alone without its plus. -/
structure Compiles (kind : ClassRun ν) (set : CharSet) : Prop where
  has_eq : set.has = kind.has
  scan : showsStartAnchor kind.source = false
  run : ∃ name expected compiled, kind.parser = .pattern name compiled expected ∧
    Pattern.compile kind.source .none = .ok compiled ∧
    compiled.root = .loop 1 none .greedy (.one set)
  one : ∃ compiled, Pattern.compile kind.source.dropLast .none = .ok compiled ∧
    compiled.root = .one set

theorem scan_classPatterns :
    ∀ pattern ∈ [lettersPattern, digitsPattern, whitespacePattern, slugPattern],
      showsStartAnchor pattern.source = false := by decide

theorem one_of_classPatterns :
    ∀ pattern ∈ [lettersPattern, digitsPattern, whitespacePattern, slugPattern],
      ∃ one, Pattern.compile pattern.source.dropLast .none = .ok one ∧
        pattern.root = .loop 1 none .greedy one.root := by
  have hroots : ∀ pattern ∈ [lettersPattern, digitsPattern, whitespacePattern, slugPattern],
      (Pattern.compile pattern.source.dropLast .none).toOption.map
        (fun one => Node.loop 1 none .greedy one.root) = some pattern.root := by decide +kernel
  intro pattern hpattern
  obtain ⟨one, hone, hroot⟩ := Option.map_eq_some_iff.mp (hroots pattern hpattern)
  exact ⟨one, eq_ok_of_toOption hone, hroot.symm⟩

theorem compiles_of_classPattern {kind : ClassRun ν} {pattern : Pattern} {set : CharSet}
    {name expected : Text} (hhas : ∀ c, set.has c = kind.has c)
    (hpattern : pattern ∈ [lettersPattern, digitsPattern, whitespacePattern, slugPattern])
    (hsource : kind.source = pattern.source)
    (hparser : kind.parser = .pattern name pattern expected)
    (hroot : pattern.root = .loop 1 none .greedy (.one set)) : kind.Compiles set where
  has_eq := funext hhas
  scan := hsource ▸ scan_classPatterns pattern hpattern
  run := ⟨name, expected, pattern, hparser, hsource ▸ compile_classPatterns pattern hpattern, hroot⟩
  one := by
    obtain ⟨one, hone, hloop⟩ := one_of_classPatterns pattern hpattern
    refine ⟨one, hsource ▸ hone, ?_⟩
    exact (Node.loop.inj (hroot.symm.trans hloop)).2.2.2.symm

theorem compiles_of_members {kind : ClassRun ν} {negated : Bool} {members : Text}
    (hmembers : members ≠ []) (hhas : ∀ c, (members.contains c != negated) = kind.has c)
    (hsource : kind.source = classSource negated members)
    (hparser : kind.parser = .ofExcept (Parser.regex kind.source .none)) :
    kind.Compiles (membersSet negated members) where
  has_eq := funext fun c => (has_membersSet negated members c).trans (hhas c)
  scan := hsource ▸ showsStartAnchor_classSource hmembers negated
  run := by
    have hcompile := compile_classOf hmembers negated
    rw [hparser, hsource, ofExcept_regex hcompile]
    exact ⟨_, _, classOf negated members, rfl, hcompile, rfl⟩
  one := by
    rw [hsource, classSource_dropLast]
    exact ⟨memberOf negated members, compile_memberOf hmembers negated, rfl⟩

def lettersSet : CharSet := ⟨[.range 65 90, .range 97 122], false, .exact⟩

theorem has_lettersSet (c : Nat) : lettersSet.has c = Digit.isAsciiLetter c := by
  simp [lettersSet, CharSet.has, SetItem.has, Fold.variants, Digit.isAsciiLetter]

def slugSet : CharSet :=
  ⟨[.range 65 90, .range 97 122, .range 48 57, .range 95 95, .range 45 45], false, .exact⟩

theorem has_slugSet (c : Nat) : slugSet.has c = (slug : ClassRun ν).has c := by
  rw [Bool.eq_iff_iff]
  simp only [slugSet, CharSet.has, SetItem.has, Fold.variants, List.any_cons, List.any_nil,
    Bool.or_false, Bool.bne_false, Bool.or_eq_true, Bool.and_eq_true, decide_eq_true_eq,
    has, Digit.isAsciiLetter, Digit.isDecimal, beq_iff_eq]
  omega

/-- No letter and no digit has to be escaped. -/
theorem escape_eq_self {chars : Text}
    (h : ∀ c ∈ chars, (Digit.isAsciiLetter c || Digit.isDecimal c) = true) :
    escape chars = chars := by
  induction chars with
  | nil => rfl
  | cons c chars ih =>
      have hspecials : ∀ d ∈ specials, (Digit.isAsciiLetter d || Digit.isDecimal d) = false := by
        decide
      have hplain : specials.contains c = false := by
        rw [← Bool.not_eq_true, List.contains_iff_mem]
        intro hspecial
        cases (hspecials c hspecial).symm.trans (h c List.mem_cons_self)
      rw [escape_cons, hplain, ih fun d hd => h d (List.mem_cons_of_mem c hd)]
      rfl

theorem exists_compiles {kind : ClassRun ν} (h : kind.Allowed) : ∃ set, kind.Compiles set := by
  cases kind with
  | letters =>
      exact ⟨lettersSet, compiles_of_classPattern has_lettersSet (by simp) rfl rfl rfl⟩
  | digits =>
      exact ⟨digitSet, compiles_of_classPattern has_digitSet (by simp) rfl rfl rfl⟩
  | whitespace =>
      exact ⟨blankSet, compiles_of_classPattern has_blankSet (by simp) rfl rfl rfl⟩
  | slug =>
      exact ⟨slugSet, compiles_of_classPattern has_slugSet (by simp) rfl rfl rfl⟩
  | digitRun chars =>
      obtain ⟨hchars, hplain⟩ := h
      have hordered : ∀ c ∈ chars.mergeSort,
          (Digit.isAsciiLetter c || Digit.isDecimal c) = true :=
        fun c hc => hplain c (List.mem_mergeSort.mp hc)
      have hmembers : chars.mergeSort ≠ [] := by
        obtain ⟨c, hc⟩ := List.exists_mem_of_ne_nil chars hchars
        exact List.ne_nil_of_mem (List.mem_mergeSort.mpr hc)
      have hsource : digitRunSource chars = classSource false chars.mergeSort := by
        rw [digitRunSource, classSource, escape_eq_self hordered]
        rfl
      refine ⟨_, compiles_of_members hmembers ?_ hsource rfl⟩
      intro c
      simp [has]
  | plain quoting quote =>
      obtain ⟨hquote, -⟩ := h
      have hmembers : quote ++ quoting.escape ≠ [] := by simp [hquote]
      refine ⟨_, compiles_of_members hmembers ?_ (plainSource_eq quoting quote) rfl⟩
      intro c
      simp [has]

end ClassRun

section Main

variable [DecidableEq ν] {grammar : Grammar ν} {session session' : Session ν} {state : State}

/-- A pattern that is a class and a plus takes the longest run of the characters that are meant, and
fails if there are none. Its text shows no anchor, and the class alone takes the same run when it
is repeated. -/
theorem class_run_munches {kind : ClassRun ν} (hkind : kind.Allowed)
    (hsession : session.Coherent grammar) (hsession' : session'.Coherent grammar)
    (hstate : state.failed = false) :
    (∃ name expected compiled, kind.parser = .pattern name compiled expected ∧
      Pattern.compile kind.source .none = .ok compiled) ∧
    showsStartAnchor kind.source = false ∧
    (∃ fuel next, outcome grammar kind.parser state session fuel = .done next) ∧
    (∀ fuel next, outcome grammar kind.parser state session fuel = .done next →
      Munches kind.has state next) ∧
    Agree SameMatch (outcome grammar kind.parser state session)
      (outcome grammar kind.oneByOne state session') := by
  obtain ⟨set, hset, hscan, ⟨name, expected, compiled, hparser, hcompile, hroot⟩, one, hone,
    hclass⟩ := ClassRun.exists_compiles hkind
  have hsingle : kind.oneByOne = .map (.many1 (ofPattern one)) joinTexts := by
    rw [ClassRun.oneByOne, ofExcept_regex hone]
  obtain ⟨next, next', hnext, hnext', hmunches, hsame⟩ : ∃ next next',
      Returns grammar kind.parser state next ∧ Returns grammar kind.oneByOne state next' ∧
        Munches kind.has state next ∧ SameMatch next next' := by
    rw [hparser, hsingle, ← hset]
    exact exists_munched hroot hclass hstate
  refine ⟨⟨name, expected, compiled, hparser, hcompile⟩, hscan, ?_, ?_, ?_⟩
  · obtain ⟨fuel, hfuel⟩ := (returns_iff_outcome hsession).mp hnext
    exact ⟨fuel, next, hfuel⟩
  · intro fuel found hfound
    exact hnext.unique ((returns_iff_outcome hsession).mpr ⟨fuel, hfound⟩) ▸ hmunches
  · exact agree_of_both_return hsession hsession' hnext hnext' hsame

/-- Strings that end with a bracket and have a circumflex for their escape. -/
def bracketed : Quoting Unit := ⟨[[93]], [94], [], []⟩

def bracketedStrings : Grammar Unit := fun _ => .ok (quotedString bracketed)

/-- The text before the bracket is taken, a hyphen and a backslash included. -/
theorem class_run_munches_bracketed : ∃ fuel fuel' next,
    outcome bracketedStrings (ClassRun.plain bracketed [93]).parser
      (State.start [97, 45, 92, 93] false) .empty fuel = .done next ∧
    outcome bracketedStrings (ClassRun.plain bracketed [93]).oneByOne
      (State.start [97, 45, 92, 93] false) .empty fuel' = .done next ∧
    next.failed = false ∧ next.pos = 3 ∧ next.result = .text [97, 45, 92] := by
  have hkind : (ClassRun.plain bracketed [93]).Allowed := ⟨by decide, by decide⟩
  have hsession : Session.Coherent .empty bracketedStrings := Session.empty_coherent
  have hstart : (State.start [97, 45, 92, 93] false).failed = false := rfl
  obtain ⟨-, -, ⟨fuel, next, hnext⟩, hmunches, hagree⟩ :=
    class_run_munches hkind hsession hsession hstart
  have hplace := hmunches fuel next hnext
  have hsuccess : next.failed = false := hplace.succeeds_iff.mpr ⟨97, rfl, by decide⟩
  obtain ⟨fuel', next', hnext', hsame⟩ := hagree.returned fuel next hnext
  obtain rfl := hsame.success hsuccess
  obtain rfl := hplace.success hsuccess
  exact ⟨fuel, fuel', _, hnext, hnext', hsuccess, by decide, rfl⟩

end Main

end Lexical

end ParserCombinators
