import ParserCombinators.Proofs.ClassRuns

/-!
The text of a class, built from its members at run time. Escaped members between brackets compile to
the class of exactly these members, also when they are brackets, hyphens, carets or backslashes: no
member ends the class, negates it or makes a range of its neighbours.
-/

namespace ParserCombinators.Regex

/-- The token that an escaped code point is. -/
def memberToken (c : Nat) : Token := if specials.contains c then .escaped c else .plain c

theorem escape_cons (c : Nat) (members : Text) :
    escape (c :: members) =
      (if specials.contains c then [CodePoint.backslash, c] else [c]) ++ escape members :=
  List.flatMap_cons

theorem ofText?_plain {c : Nat} (h : c ≠ CodePoint.backslash) (text : Text) :
    Token.ofText? (c :: text) = (Token.ofText? text).map (.plain c :: ·) := by
  simp [Token.ofText?]

theorem ofText?_escaped (c : Nat) (text : Text) :
    Token.ofText? (CodePoint.backslash :: c :: text) =
      (Token.ofText? text).map (.escaped c :: ·) := by
  simp [Token.ofText?]

theorem ofText?_escape (members text : Text) :
    Token.ofText? (escape members ++ text) =
      (Token.ofText? text).map (members.map memberToken ++ ·) := by
  induction members with
  | nil => simp [escape]
  | cons c members ih =>
      rw [escape_cons, List.map_cons, memberToken]
      by_cases hspecial : specials.contains c = true
      · simp only [hspecial, if_true, List.cons_append, List.nil_append, ofText?_escaped, ih,
          Option.map_map, Function.comp_def]
      · have hplain : c ≠ CodePoint.backslash := by
          rintro rfl
          exact hspecial rfl
        simp only [hspecial, Bool.false_eq_true, if_false, List.cons_append, List.nil_append,
          ofText?_plain hplain, ih, Option.map_map, Function.comp_def]

/-- An escaped code point is none of the marks of a class. -/
theorem memberToken_ne_plain {c mark : Nat} (hmark : mark ∈ specials) :
    memberToken c ≠ .plain mark := by
  intro h
  unfold memberToken at h
  split at h
  · cases h
  · rename_i hspecial
    obtain rfl := Token.plain.inj h
    exact hspecial (List.contains_iff_mem.mpr hmark)

/-- A backslash before a special code point changes its meaning nowhere else. -/
theorem readMember_of_special {c : Nat} (h : c ∈ specials) (tokens : List Token) :
    readMember .none (.escaped c) tokens = .ok (.literal c, tokens) := by
  have hall : ∀ c ∈ specials, categoryEscape? .none c = none ∧ c ≠ 'b'.toNat ∧
      Digit.isOctal c = false ∧ controlEscape? c = none ∧ hexadecimalEscape? c = none ∧
      (Digit.isAsciiLetter c || Digit.isDecimal c) = false := by decide
  obtain ⟨hcategory, hb, hoctal, hcontrol, hhexadecimal, hletter⟩ := hall c h
  simp only [readMember, hcategory, hb, if_false, hoctal, Bool.false_eq_true, readCodePoint,
    hcontrol, hhexadecimal, hletter]
  rfl

theorem readMember_memberToken (c : Nat) (tokens : List Token) :
    readMember .none (memberToken c) tokens = .ok (.literal c, tokens) := by
  unfold memberToken
  split
  · rename_i hspecial
    exact readMember_of_special (List.contains_iff_mem.mp hspecial) tokens
  · rfl

/-- A member that no hyphen follows is read by itself. -/
theorem readMembers_member {fuel : Nat} {found : List SetItem} {c : Nat} {tokens : List Token}
    (hnext : tokens.head? ≠ some (.plain '-'.toNat)) :
    readMembers .none (fuel + 1) found (memberToken c :: tokens) =
      readMembers .none fuel (.range c c :: found) tokens := by
  have hclose : memberToken c ≠ .plain ']'.toNat := memberToken_ne_plain (by decide)
  rw [readMembers]
  simp only [hclose, decide_false, Bool.false_and, Bool.false_eq_true, if_false,
    readMember_memberToken, bind, Except.bind]
  split
  · simp at hnext
  · rfl

theorem readMembers_memberTokens {fuel : Nat} {found : List SetItem} {members : Text}
    (hfuel : members.length < fuel) (hnonempty : found ≠ [] ∨ members ≠ [])
    (rest : List Token) :
    readMembers .none fuel found (members.map memberToken ++ .plain ']'.toNat :: rest) =
      .ok (found.reverse ++ members.map fun c => .range c c, rest) := by
  induction members generalizing fuel found with
  | nil =>
      obtain ⟨more, rfl⟩ : ∃ more, fuel = more + 1 := ⟨fuel - 1, by omega⟩
      have hfound : found ≠ [] := hnonempty.resolve_right (by simp)
      simp [readMembers, hfound]
      rfl
  | cons c members ih =>
      obtain ⟨more, rfl⟩ : ∃ more, fuel = more + 1 := ⟨fuel - 1, by omega⟩
      simp only [List.length_cons] at hfuel
      have hnext : (members.map memberToken ++ .plain ']'.toNat :: rest).head? ≠
          some (.plain '-'.toNat) := by
        cases members with
        | nil => simp
        | cons c members => simpa using memberToken_ne_plain (by decide)
      rw [List.map_cons, List.cons_append, readMembers_member hnext, ih (by omega) (by simp)]
      simp

/-- The text of a class with these members, or of all code points but these. -/
def classSource (negated : Bool) (members : Text) : Text :=
  Text.ofString (if negated then "[^" else "[") ++ escape members ++ Text.ofString "]+"

/-- The set of these members, or of all code points but these. -/
def membersSet (negated : Bool) (members : Text) : CharSet :=
  ⟨members.map fun c => .range c c, negated, .exact⟩

theorem has_membersSet (negated : Bool) (members : Text) (c : Nat) :
    (membersSet negated members).has c = (members.contains c != negated) := by
  have hrange (member : Nat) : (SetItem.range member member).has .exact c = (c == member) := by
    rw [Bool.eq_iff_iff]
    simp only [SetItem.has, Fold.variants, List.any_cons, List.any_nil, Bool.or_false,
      Bool.and_eq_true, decide_eq_true_eq, beq_iff_eq]
    omega
  simp only [membersSet, CharSet.has, List.any_map, Function.comp_def, hrange,
    List.contains_eq_any_beq]

def classOf (negated : Bool) (members : Text) : Pattern where
  source := classSource negated members
  flags := { unicode := true }
  root := .loop 1 none .greedy (.one (membersSet negated members))

/-- The text of the class alone, which asks for one code point. -/
def memberSource (negated : Bool) (members : Text) : Text :=
  Text.ofString (if negated then "[^" else "[") ++ escape members ++ Text.ofString "]"

theorem classSource_dropLast (negated : Bool) (members : Text) :
    (classSource negated members).dropLast = memberSource negated members := by
  have hend : Text.ofString "]+" = Text.ofString "]" ++ ['+'.toNat] := by decide
  rw [classSource, hend, ← List.append_assoc, List.dropLast_concat, memberSource]

def memberOf (negated : Bool) (members : Text) : Pattern where
  source := memberSource negated members
  flags := { unicode := true }
  root := .one (membersSet negated members)

/-- The tokens of a class after its opening bracket, and those after the class. -/
def classTokens (negated : Bool) (members : Text) (rest : List Token) : List Token :=
  (if negated then [.plain '^'.toNat] else []) ++ members.map memberToken ++
    .plain ']'.toNat :: rest

theorem ofText?_class (negated : Bool) (members text : Text) :
    Token.ofText? (Text.ofString (if negated then "[^" else "[") ++ escape members ++
        ']'.toNat :: text) =
      (Token.ofText? text).map fun rest =>
        .plain '['.toNat :: classTokens negated members rest := by
  cases negated with
  | true =>
      change Token.ofText? ('['.toNat :: '^'.toNat :: (escape members ++ ']'.toNat :: text)) = _
      rw [ofText?_plain (by decide), ofText?_plain (by decide), ofText?_escape,
        ofText?_plain (by decide)]
      simp [classTokens, Function.comp_def]
  | false =>
      change Token.ofText? ('['.toNat :: (escape members ++ ']'.toNat :: text)) = _
      rw [ofText?_plain (by decide), ofText?_escape, ofText?_plain (by decide)]
      simp [classTokens, Function.comp_def]

theorem ofText?_classSource (negated : Bool) (members : Text) :
    Token.ofText? (classSource negated members) =
      some (.plain '['.toNat :: classTokens negated members [.plain '+'.toNat]) :=
  ofText?_class negated members ['+'.toNat]

theorem ofText?_memberSource (negated : Bool) (members : Text) :
    Token.ofText? (memberSource negated members) =
      some (.plain '['.toNat :: classTokens negated members []) :=
  ofText?_class negated members []

section Members

variable {members : Text} (hmembers : members ≠ []) (negated : Bool) (rest : List Token)

include hmembers

theorem head?_classTokens :
    (classTokens negated members rest).head? = some (.plain '^'.toNat) ↔ negated = true := by
  cases negated with
  | true => simp [classTokens]
  | false =>
      obtain ⟨c, members, rfl⟩ := List.exists_cons_of_ne_nil hmembers
      have hcaret : memberToken c ≠ .plain '^'.toNat := memberToken_ne_plain (by decide)
      simpa [classTokens] using hcaret

theorem readClass_classTokens :
    readClass .none (classTokens negated members rest) =
      .ok (membersSet negated members, rest) := by
  have hread (fuel : Nat) (hfuel : members.length < fuel) :
      readMembers .none fuel [] (members.map memberToken ++ .plain ']'.toNat :: rest) =
        .ok (members.map fun c => .range c c, rest) :=
    readMembers_memberTokens hfuel (Or.inr hmembers) rest
  have hafter : (if negated then (classTokens negated members rest).drop 1
      else classTokens negated members rest) =
      members.map memberToken ++ .plain ']'.toNat :: rest := by
    cases negated <;> simp [classTokens]
  simp only [readClass, head?_classTokens hmembers, Bool.decide_eq_true, hafter]
  rw [hread _ (by simp)]
  rfl

end Members

section Reading

variable {modes modes' : Flags} {first : Bool} {found found' : List Item}
  {reader reader' : Reader}

theorem items_more (h : (Reader.next modes first found).run reader =
    .ok (.more modes' found', reader')) (fuel : Nat) :
    (Reader.items (fuel + 1) modes first found).run reader =
      (Reader.items fuel modes' first found').run reader' := by
  simp only [Reader.items, StateT.run_bind, h]
  rfl

theorem items_finish (h : (Reader.next modes first found).run reader = .ok (.finish, reader'))
    (fuel : Nat) :
    (Reader.items (fuel + 1) modes first found).run reader =
      .ok (Item.toNode found.reverse, reader') := by
  simp only [Reader.items, StateT.run_bind, h]
  rfl

theorem alternatives_last {outermost : Bool} {node : Node} {fuel : Nat}
    (h : (Reader.items fuel modes first []).run reader = .ok (node, reader'))
    (hend : reader'.tokens = []) :
    (Reader.alternatives (fuel + 1) modes outermost first).run reader = .ok (node, reader') := by
  have haccept : (Reader.accept '|').run reader' = .ok (false, reader') := by
    simp only [Reader.accept, StateT.run_bind, StateT.run_get, pure_bind, hend]
    rfl
  have hbind {α β : Type} (value : α) (next : α → Except SyntaxError β) :
      (Except.ok value >>= next) = next value := rfl
  rw [Reader.alternatives, StateT.run_bind, h, hbind, StateT.run_bind, haccept]
  rfl

theorem next_class {tokens rest : List Token} {set : CharSet}
    (h : readClass .none tokens = .ok (set, rest)) :
    (Reader.next .none first found).run (.start (.plain '['.toNat :: tokens) .none) =
      .ok (.more .none (.plain (.one set) :: found), .start rest .none) := by
  change (do
    let set ← Reader.reading (readClass .none)
    return Reader.Next.more .none (.plain (.one set) :: found) : Read Reader.Next).run
      (.start tokens .none) = _
  have hread : (Reader.reading (readClass .none)).run (.start tokens .none) =
      .ok (set, .start rest .none) := by
    simp only [Reader.reading, StateT.run_bind, StateT.run_get, Reader.start, pure_bind, h]
    rfl
  simp only [StateT.run_bind, hread]
  rfl

theorem next_plus (node : Node) :
    (Reader.next .none first [.plain node]).run (.start [.plain '+'.toNat] .none) =
      .ok (.more .none [⟨.loop 1 none .greedy node, .repeated⟩], .start [] .none) := by
  have hquantified : (Reader.quantified 1 none [.plain node]).run (.start [] .none) =
      .ok ([⟨.loop 1 none .greedy node, .repeated⟩], .start [] .none) := rfl
  change (do
    return Reader.Next.more .none (← Reader.quantified 1 none [.plain node]) :
      Read Reader.Next).run (.start [] .none) = _
  rw [StateT.run_bind, hquantified]
  rfl

theorem whole_run (reader : Reader) : Reader.whole.run reader =
    (Reader.alternatives (3 * reader.tokens.length + 3) reader.flags true true).run reader := by
  simp only [Reader.whole, StateT.run_bind, StateT.run_get, pure_bind]

end Reading

/-- A pattern that is a class and a plus is a greedy loop over the class. -/
theorem whole_class {tokens : List Token} {set : CharSet}
    (h : readClass .none tokens = .ok (set, [.plain '+'.toNat])) :
    Reader.whole.run (.start (.plain '['.toNat :: tokens) .none) =
      .ok (.loop 1 none .greedy (.one set), .start [] .none) := by
  have hitems (fuel : Nat) :
      (Reader.items (fuel + 3) .none true []).run (.start (.plain '['.toNat :: tokens) .none) =
        .ok (.loop 1 none .greedy (.one set), .start [] .none) := by
    rw [items_more (next_class h), items_more (next_plus _), items_finish rfl]
    rfl
  have hfuel : 3 * (tokens.length + 1) + 3 = 3 * tokens.length + 2 + 3 + 1 := by omega
  rw [whole_run]
  simp only [Reader.start, List.length_cons] at hitems ⊢
  rw [hfuel]
  exact alternatives_last (hitems _) rfl

/-- A class alone is a node. -/
theorem whole_one {tokens : List Token} {set : CharSet}
    (h : readClass .none tokens = .ok (set, [])) :
    Reader.whole.run (.start (.plain '['.toNat :: tokens) .none) =
      .ok (.one set, .start [] .none) := by
  have hitems (fuel : Nat) :
      (Reader.items (fuel + 2) .none true []).run (.start (.plain '['.toNat :: tokens) .none) =
        .ok (.one set, .start [] .none) := by
    rw [items_more (next_class h), items_finish rfl]
    rfl
  have hfuel : 3 * (tokens.length + 1) + 3 = 3 * tokens.length + 3 + 2 + 1 := by omega
  rw [whole_run]
  simp only [Reader.start, List.length_cons] at hitems ⊢
  rw [hfuel]
  exact alternatives_last (hitems _) rfl

section Compilation

variable {members : Text} (hmembers : members ≠ []) (negated : Bool)

include hmembers

theorem compile_classOf :
    Pattern.compile (classSource negated members) .none = .ok (classOf negated members) := by
  simp only [Pattern.compile, ofText?_classSource,
    whole_class (readClass_classTokens hmembers negated _)]
  rfl

theorem compile_memberOf :
    Pattern.compile (memberSource negated members) .none = .ok (memberOf negated members) := by
  simp only [Pattern.compile, ofText?_memberSource,
    whole_one (readClass_classTokens hmembers negated _)]
  rfl

end Compilation

end ParserCombinators.Regex
