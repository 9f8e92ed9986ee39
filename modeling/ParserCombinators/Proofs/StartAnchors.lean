import ParserCombinators.Lexical.Classes
import ParserCombinators.Proofs.ClassSources
import ParserCombinators.Proofs.MatchLocality
import ParserCombinators.Proofs.PatternReading

/-!
The scan for anchors against the tree. The scan knows nothing of groups, quantifiers and modes, and
yet it finds an anchor just when the reader puts one into the tree, because each step of the reader
keeps what the items read so far and the rest of the text show together. The one step that does not
is a comment: the scan reads it as a part of the pattern. So the two agree on every pattern whose
comments leave the scan where it is, and a bracket in a comment is enough to part them.
-/

namespace ParserCombinators.Regex

theorem Node.hasStartAnchor_either (first second : Node) :
    (first.either second).hasStartAnchor = (first.hasStartAnchor || second.hasStartAnchor) := by
  unfold Node.either
  split
  · split_ifs <;> rfl
  · rfl

namespace Reader

theorem hasStartAnchor_toNode (items : List Item) :
    (Item.toNode items).hasStartAnchor = anyStartAnchor items := by
  fun_induction Item.toNode items with
  | case1 => rfl
  | case2 item => simp [anyStartAnchor]
  | case3 item next items ih =>
      rw [Node.hasStartAnchor, ih]
      rfl

/-- The comment that stands next, if one does: up to a closing parenthesis, or in verbose mode up
to the end of the line. -/
def comment? (modes : Flags) : List Token → Option (List Token)
  | .plain 40 :: .plain 63 :: .plain 35 :: text => (Token.splitAt? ')'.toNat text).map Prod.fst
  | .plain 35 :: text =>
    if modes.verbose then some (text.takeWhile (· != .plain CodePoint.newline)) else none
  | _ => none

/-- The scan finds no anchor in the comment, and is outside the classes after it. -/
def IsHarmless (comment : List Token) : Prop := Scan.outside.over? comment = some .outside

instance (comment : List Token) : Decidable (IsHarmless comment) :=
  inferInstanceAs (Decidable (_ = _))

/-- A comment without an opening bracket, a circumflex and an escaped A is harmless. -/
theorem isHarmless_of_forall {comment : List Token}
    (h : ∀ token ∈ comment, token ≠ .plain '['.toNat ∧ token ≠ .plain '^'.toNat ∧
      token ≠ .escaped 'A'.toNat) : IsHarmless comment := by
  induction comment with
  | nil => rfl
  | cons token comment ih =>
      obtain ⟨hopen, hcaret, hescaped⟩ := h token List.mem_cons_self
      have hpass : Scan.outside.pass? token = some .outside := by
        rw [Scan.pass?, if_neg hopen, if_neg (not_or.mpr ⟨hcaret, hescaped⟩)]
      have hrest : IsHarmless comment := ih fun other hmem => h other (List.mem_cons_of_mem _ hmem)
      rw [IsHarmless, Scan.over?, List.foldlM_cons, hpass]
      exact hrest

/-- Whether an anchor for the start is among the items read or is found in the rest. -/
def shows (items : List Item) (tokens : List Token) : Bool :=
  anyStartAnchor items || Scan.outside.findsIn tokens

/-- The items up to here, where `found` holds those before. -/
def Next.items (found : List Item) : Next → List Item
  | .finish => found
  | .more _ items => items
  | .enter _ => found

variable {modes : Flags} {first : Bool} {found : List Item} {reader : Reader}

theorem outside_plain {c : Nat} (hopen : c ≠ '['.toNat) (hcaret : c ≠ '^'.toNat)
    (tokens : List Token) :
    Scan.outside.findsIn (.plain c :: tokens) = Scan.outside.findsIn tokens := by
  have hanchor : ¬(Token.plain c = .plain '^'.toNat ∨ Token.plain c = .escaped 'A'.toNat) := by
    rintro (h | h)
    · exact hcaret (Token.plain.inj h)
    · cases h
  rw [Scan.findsIn_cons, Scan.pass?, if_neg fun h => hopen (Token.plain.inj h), if_neg hanchor]
  rfl

theorem outside_escaped (c : Nat) (tokens : List Token) :
    Scan.outside.findsIn (.escaped c :: tokens) =
      ((c = 'A'.toNat : Bool) || Scan.outside.findsIn tokens) := by
  by_cases hc : c = 'A'.toNat
  · subst hc
    rfl
  · have hanchor : ¬(Token.escaped c = .plain '^'.toNat ∨
        Token.escaped c = .escaped 'A'.toNat) := by
      rintro (h | h)
      · cases h
      · exact hc (Token.escaped.inj h)
    rw [Scan.findsIn_cons, Scan.pass?, if_neg (by rintro ⟨⟩), if_neg hanchor,
      decide_eq_false hc]
    rfl

theorem shows_cons (item : Item) (tokens : List Token) :
    shows (item :: found) tokens = (item.node.hasStartAnchor || shows found tokens) := by
  simp [shows, anyStartAnchor, Bool.or_assoc]

theorem shows_congr {tokens rest : List Token}
    (h : Scan.outside.findsIn tokens = Scan.outside.findsIn rest) :
    shows found tokens = shows found rest := by rw [shows, shows, h]

/-- A quantifier changes neither the items nor what the scan finds. -/
theorem yields_repeat {least : Nat} {most : Option Nat} :
    (quantified least most found >>= fun items => pure (Next.more modes items)).Yields reader
      fun result next => shows (result.items found) next.tokens = shows found reader.tokens := by
  refine .bind (yields_quantified.mono fun items next h => .pure ?_)
  rw [Next.items, shows, shows, h.1.outside, h.2]

/-- A harmless comment up to a closing parenthesis means nothing to the scan. -/
theorem outside_comment {text comment rest : List Token}
    (hsplit : Token.splitAt? ')'.toNat text = some (comment, rest))
    (hharmless : IsHarmless comment) :
    Scan.outside.findsIn text = Scan.outside.findsIn rest := by
  rw [eq_append_of_splitAt? hsplit, Scan.findsIn_append hharmless]
  exact outside_plain (by decide) (by decide) rest

/-- A harmless comment up to the end of the line means nothing to the scan. -/
theorem outside_line {text : List Token}
    (hharmless : IsHarmless (text.takeWhile (· != .plain CodePoint.newline))) :
    Scan.outside.findsIn text =
      Scan.outside.findsIn ((text.dropWhile (· != .plain CodePoint.newline)).drop 1) := by
  have hsplit := List.takeWhile_append_dropWhile (p := (· != .plain CodePoint.newline)) (l := text)
  rw [← congrArg Scan.outside.findsIn hsplit, Scan.findsIn_append hharmless]
  cases hline : text.dropWhile (· != .plain CodePoint.newline) with
  | nil => rfl
  | cons token rest =>
      have hne : text.dropWhile (· != .plain CodePoint.newline) ≠ [] := by
        rw [hline]
        exact List.cons_ne_nil token rest
      have hhead := List.head_dropWhile_not _ hne
      simp only [hline, List.head_cons, bne_eq_false_iff_eq] at hhead
      rw [hhead]
      exact outside_plain (by decide) (by decide) rest

theorem yields_opened
    (hcomment : ∀ comment, comment? modes (.plain '('.toNat :: reader.tokens) = some comment →
      IsHarmless comment) :
    (special modes first found '('.toNat).Yields reader fun result next =>
      shows (result.items found) next.tokens = shows found reader.tokens := by
  change Read.Yields (opening >>= _) _ _
  refine .bind (yields_opening.mono fun result next h => ?_)
  cases result with
  | comment =>
      obtain ⟨text, comment, htokens, hsplit⟩ := h
      rw [htokens] at hcomment ⊢
      have hharmless : IsHarmless comment := hcomment comment (by
        rw [show comment? modes (.plain '('.toNat :: .plain '?'.toNat :: .plain '#'.toNat :: text) =
          (Token.splitAt? ')'.toNat text).map Prod.fst from rfl, hsplit]
        rfl)
      refine .pure (shows_congr ?_)
      rw [outside_plain (by decide) (by decide), outside_plain (by decide) (by decide),
        outside_comment hsplit hharmless]
  | flags added =>
      dsimp only
      split
      next => exact .bind (.modify (.bind (.get (.pure (shows_congr h.outside.symm)))))
      next => exact .bind (.throw _)
  | backref index =>
      refine .bind (yields_backref.mono ?_)
      rintro _ _ ⟨rfl, rfl⟩
      refine .pure ?_
      rw [Next.items, shows_cons]
      exact shows_congr h.outside.symm
  | group kind => exact .pure (shows_congr h.outside.symm)

theorem yields_special {c : Nat} (hcaret : c ≠ '^'.toNat)
    (hcomment : ∀ comment, comment? modes (.plain c :: reader.tokens) = some comment →
      IsHarmless comment) :
    (special modes first found c).Yields reader fun result next =>
      shows (result.items found) next.tokens = shows found (.plain c :: reader.tokens) := by
  by_cases hclass : c = '['.toNat
  · subst hclass
    refine .bind (yields_reading fun set rest hread => .pure ?_)
    rw [Next.items, shows_cons]
    exact shows_congr (findsIn_of_readClass hread).symm
  rw [shows_congr (outside_plain hclass hcaret reader.tokens)]
  by_cases hparenthesis : c = '('.toNat
  · subst hparenthesis
    exact yields_opened hcomment
  unfold special
  rw [if_neg hclass, if_neg hparenthesis]
  split
  · exact yields_repeat
  split
  · exact yields_repeat
  split
  · exact yields_repeat
  refine .bind (.get ?_)
  split
  next low high rest hbraces =>
    refine .bind (.modify (.bind (yields_bound.mono ?_)))
    rintro least _ rfl
    refine .bind (yields_bound.mono ?_)
    rintro most _ rfl
    rw [shows_congr (skips_braces? hbraces).outside]
    exact yields_repeat
  next =>
    refine .pure ?_
    rw [Next.items, shows_cons]
    rfl

/-- The circumflex is the only mark outside a class that is an item by itself. -/
theorem hasStartAnchor_of_single? {c : Nat} {item : Item} (h : single? modes c = some item) :
    c ≠ '['.toNat ∧ item.node.hasStartAnchor = (c = '^'.toNat : Bool) := by
  by_cases hcaret : c = '^'.toNat
  · subst hcaret
    cases h
    refine ⟨by decide, ?_⟩
    cases modes.multiline <;> rfl
  rw [decide_eq_false hcaret]
  unfold single? at h
  rw [if_neg hcaret] at h
  split at h
  next hdot =>
    cases h
    exact ⟨by rw [hdot]; decide, rfl⟩
  split at h
  next hdollar =>
    cases h
    refine ⟨by rw [hdollar]; decide, ?_⟩
    cases modes.multiline <;> rfl
  split at h
  next => cases h
  next hspecial =>
    cases h
    refine ⟨?_, rfl⟩
    rintro rfl
    exact hspecial (by decide)

theorem ne_caret_of_single? {c : Nat} (h : single? modes c = none) : c ≠ '^'.toNat := by
  rintro rfl
  cases h

/-- A step of the reader keeps what the items and the rest show together, so long as a comment that
stands there is harmless. -/
theorem yields_next
    (hcomment : ∀ comment, comment? modes reader.tokens = some comment → IsHarmless comment) :
    (next modes first found).Yields reader fun result next =>
      shows (result.items found) next.tokens = shows found reader.tokens := by
  unfold next
  refine .bind (.get ?_)
  split
  next htokens => exact .pure rfl
  next c rest htokens =>
    refine .bind (.set (.bind (yields_escape.mono fun item next h => .pure ?_)))
    rw [Next.items, shows_cons, h.anchored, htokens, shows, shows, outside_escaped,
      ← h.skips.outside]
    exact Bool.or_left_comm _ _ _
  next c rest htokens =>
    rw [htokens] at hcomment ⊢
    split
    next hfinish => exact .pure (by rw [htokens]; rfl)
    refine .bind (.set ?_)
    split
    next hblank =>
      have hc : c ≠ '['.toNat ∧ c ≠ '^'.toNat := by
        simp only [isBlank, Bool.and_eq_true, Bool.or_eq_true, decide_eq_true_eq,
          beq_iff_eq] at hblank
        constructor <;> (rintro rfl; simp at hblank)
      exact .pure (shows_congr (outside_plain hc.1 hc.2 rest).symm)
    split
    next hline =>
      obtain ⟨hverbose, rfl⟩ : modes.verbose = true ∧ c = '#'.toNat := by simpa using hline
      refine .bind (.modify (.pure (shows_congr ?_)))
      rw [outside_plain (by decide) (by decide)]
      refine (outside_line (hcomment _ ?_)).symm
      exact if_pos hverbose
    split
    next item hitem =>
      obtain ⟨hclass, hanchored⟩ := hasStartAnchor_of_single? hitem
      refine .pure ?_
      rw [Next.items, shows_cons, hanchored]
      by_cases hcaret : c = '^'.toNat
      · subst hcaret
        exact (Bool.or_true _).symm
      · rw [decide_eq_false hcaret, Bool.false_or]
        exact shows_congr (outside_plain hclass hcaret rest).symm
    next hsingle => exact yields_special (ne_caret_of_single? hsingle) hcomment

/-- What is done before the body of a group is read, with the flags inside it. -/
def enter (modes : Flags) : GroupKind → Read Flags
  | .capture name => do
    let _ ← openGroup name
    return modes
  | .plain added removed => return modes.within added removed
  | .behind _ => do
    modify fun reader => { reader with
      groupsBeforeBehind := some (reader.groupsBeforeBehind.getD reader.groups.length) }
    return modes
  | .atomic => return modes
  | .ahead _ => return modes
  | .conditional _ => return modes

mutual

/-- The comments that the reader skips in alternatives. -/
def alternativesComments : Nat → Flags → Bool → Bool → Reader → List (List Token)
  | 0, _, _, _, _ => []
  | fuel + 1, modes, outermost, first, reader =>
    itemsComments fuel modes first [] reader ++
      match (items fuel modes first [] >>= fun _ => accept '|').run reader with
      | .ok (true, after) =>
        alternativesComments fuel (if outermost then after.flags else modes) outermost false after
      | _ => []

/-- The comments that the reader skips from here to the end of an alternative. -/
def itemsComments : Nat → Flags → Bool → List Item → Reader → List (List Token)
  | 0, _, _, _, _ => []
  | fuel + 1, modes, first, found, reader =>
    (comment? modes reader.tokens).toList ++
      match (next modes first found).run reader with
      | .ok (.more modes found, after) => itemsComments fuel modes first found after
      | .ok (.enter kind, after) =>
        bodyComments fuel modes kind after ++
          match (body fuel modes kind).run after with
          | .ok (node, after) => itemsComments fuel modes first (.plain node :: found) after
          | .error _ => []
      | _ => []

/-- The comments that the reader skips in the body of a group. -/
def bodyComments : Nat → Flags → GroupKind → Reader → List (List Token)
  | 0, _, _, _ => []
  | fuel + 1, modes, .conditional _, reader =>
    itemsComments fuel modes false [] reader ++
      match (items fuel modes false [] >>= fun _ => accept '|').run reader with
      | .ok (true, after) => itemsComments fuel modes false [] after
      | _ => []
  | fuel + 1, modes, kind, reader =>
    match (enter modes kind).run reader with
    | .ok (inner, after) => alternativesComments fuel inner false false after
    | .error _ => []

end

theorem bodyComments_of_enter {fuel : Nat} {kind : GroupKind} {inner : Flags} {after : Reader}
    (hkind : ∀ index, kind ≠ .conditional index)
    (henter : (enter modes kind).run reader = .ok (inner, after)) :
    bodyComments (fuel + 1) modes kind reader =
      alternativesComments fuel inner false false after := by
  cases kind with
  | conditional index => exact absurd rfl (hkind index)
  | _ => simp only [bodyComments, henter]

/-- The tree has an anchor for the start, or the scan finds one after it, just when the scan finds
one before it. -/
def Shown (reader : Reader) (node : Node) (after : Reader) : Prop :=
  Scan.outside.findsIn reader.tokens =
    (node.hasStartAnchor || Scan.outside.findsIn after.tokens)

structure ReadsShown (fuel : Nat) : Prop where
  alternatives : ∀ modes outermost first reader,
    (∀ comment ∈ alternativesComments fuel modes outermost first reader, IsHarmless comment) →
    (alternatives fuel modes outermost first).Yields reader (Shown reader)
  items : ∀ modes first found reader,
    (∀ comment ∈ itemsComments fuel modes first found reader, IsHarmless comment) →
    (items fuel modes first found).Yields reader fun node after =>
      shows found reader.tokens = (node.hasStartAnchor || Scan.outside.findsIn after.tokens)
  body : ∀ modes kind reader,
    (∀ comment ∈ bodyComments fuel modes kind reader, IsHarmless comment) →
    (body fuel modes kind).Yields reader (Shown reader)

theorem ReadsShown.zero : ReadsShown 0 where
  alternatives _ _ _ _ _ := .throw _
  items _ _ _ _ _ := .throw _
  body _ _ _ _ := .throw _

theorem yields_skips_accept {c : Char} (hc : isScanMark c.toNat = false) :
    (accept c).Yields reader fun _ after => Skips reader.tokens after.tokens :=
  yields_accept (fun _ htokens => skips_mark hc htokens) (.refl _)

theorem yields_skips_expect {c : Char} (hc : isScanMark c.toNat = false) {error : SyntaxError} :
    (expect c error).Yields reader fun _ after => Skips reader.tokens after.tokens := by
  unfold expect
  refine .bind ((yields_skips_accept hc).mono fun accepted after hskips => ?_)
  cases accepted with
  | true => exact .pure hskips
  | false => exact .throw _

theorem run_then_accept {fuel : Nat} {node : Node} {middle after : Reader} {accepted : Bool}
    (hitems : (items fuel modes first found).run reader = .ok (node, middle))
    (haccept : (accept '|').run middle = .ok (accepted, after)) :
    (items fuel modes first found >>= fun _ => accept '|').run reader = .ok (accepted, after) := by
  rw [StateT.run_bind, hitems]
  exact haccept

theorem Shown.skip {node : Node} {middle after : Reader} (h : Shown reader node middle)
    (hskips : Skips middle.tokens after.tokens) : Shown reader node after := by
  rw [Shown, ← hskips.outside]
  exact h

/-- A group shows what its body shows. -/
theorem yields_closing {node whole : Node} {middle : Reader} (hshown : Shown reader node middle)
    (hwhole : whole.hasStartAnchor = node.hasStartAnchor) :
    (expect ')' .unterminatedGroup >>= fun _ => pure whole).Yields middle (Shown reader) := by
  refine .bind ((yields_skips_expect (by decide)).mono fun _ after hskips => .pure ?_)
  rw [Shown, hwhole]
  exact hshown.skip hskips

theorem yields_openGroup {name : Option Text} :
    (openGroup name).Yields reader fun _ after => after.tokens = reader.tokens := by
  unfold openGroup
  refine .bind (.get ?_)
  cases name with
  | none => exact .bind (.pure (.bind (.set (.pure rfl))))
  | some name =>
      simp only [Read.throw_bind]
      split
      next => exact .throw _
      next => exact .bind (.pure (.bind (.set (.pure rfl))))

section Step

variable {fuel : Nat} (ih : ReadsShown fuel)
include ih

theorem ReadsShown.succ_alternatives (modes : Flags) (outermost first : Bool) (reader : Reader)
    (hcomments : ∀ comment ∈ alternativesComments (fuel + 1) modes outermost first reader,
      IsHarmless comment) :
    (Reader.alternatives (fuel + 1) modes outermost first).Yields reader (Shown reader) := by
  rw [alternativesComments] at hcomments
  rw [Reader.alternatives]
  refine .bind fun branch middle hbranch => ?_
  have hshown : Shown reader branch middle := ih.items modes first [] reader
    (fun comment hmem => hcomments comment (List.mem_append_left _ hmem)) branch middle hbranch
  refine .bind fun accepted after haccepted => ?_
  have hafter : Shown reader branch after :=
    hshown.skip (yields_skips_accept (by decide) accepted after haccepted)
  rw [run_then_accept hbranch haccepted] at hcomments
  cases accepted with
  | false => exact .pure hafter
  | true =>
      refine .bind (.get (.bind fun others last hothers => .pure ?_))
      have hrest : Shown after others last := ih.alternatives _ outermost false after
        (fun comment hmem => hcomments comment (List.mem_append_right _ hmem)) others last hothers
      rw [Shown, Node.hasStartAnchor_either, Bool.or_assoc, ← hrest]
      exact hafter

theorem ReadsShown.succ_items (modes : Flags) (first : Bool) (found : List Item) (reader : Reader)
    (hcomments : ∀ comment ∈ itemsComments (fuel + 1) modes first found reader,
      IsHarmless comment) :
    (Reader.items (fuel + 1) modes first found).Yields reader fun node after =>
      shows found reader.tokens = (node.hasStartAnchor || Scan.outside.findsIn after.tokens) := by
  rw [itemsComments] at hcomments
  rw [Reader.items]
  refine .bind fun result middle hnext => ?_
  have hkept := yields_next (fun comment hcomment => hcomments comment
    (List.mem_append_left _ (by rw [hcomment]; exact List.mem_singleton_self comment)))
    result middle hnext
  rw [← hkept]
  rw [hnext] at hcomments
  cases result with
  | finish =>
      refine .pure ?_
      rw [hasStartAnchor_toNode, anyStartAnchor, List.any_reverse]
      rfl
  | more inner items =>
      exact ih.items inner first items middle fun comment hmem =>
        hcomments comment (List.mem_append_right _ hmem)
  | enter kind =>
      refine .bind fun node after hbody => ?_
      have hshown := ih.body modes kind middle (fun comment hmem =>
        hcomments comment (List.mem_append_right _ (List.mem_append_left _ hmem))) node after hbody
      simp only [hbody] at hcomments
      have hrest := ih.items modes first (.plain node :: found) after fun comment hmem =>
        hcomments comment (List.mem_append_right _ (List.mem_append_right _ hmem))
      refine hrest.mono fun whole last h => ?_
      rw [← h, shows_cons, Next.items, shows, shows, hshown]
      exact Bool.or_left_comm _ _ _

/-- A group that keeps its marks and flags to itself shows what its alternatives show. -/
theorem ReadsShown.group {inner : Flags} {reader : Reader} {whole : Node → Node}
    (hwhole : ∀ node, (whole node).hasStartAnchor = node.hasStartAnchor)
    (hcomments : ∀ comment ∈ alternativesComments fuel inner false false reader,
      IsHarmless comment) :
    (Reader.alternatives fuel inner false false >>= fun node =>
      expect ')' .unterminatedGroup >>= fun _ => pure (whole node)).Yields reader
        (Shown reader) := by
  refine .bind fun node after hnode => ?_
  exact yields_closing (ih.alternatives _ false false reader hcomments node after hnode)
    (hwhole node)

theorem ReadsShown.succ_body (modes : Flags) (kind : GroupKind) (reader : Reader)
    (hcomments : ∀ comment ∈ bodyComments (fuel + 1) modes kind reader, IsHarmless comment) :
    (Reader.body (fuel + 1) modes kind).Yields reader (Shown reader) := by
  cases kind with
  | capture name =>
      rw [Reader.body]
      refine .bind fun index middle hopen => ?_
      have hstart := yields_openGroup index middle hopen
      have henter : (enter modes (.capture name)).run reader = .ok (modes, middle) := by
        simp only [enter, StateT.run_bind, hopen]
        rfl
      rw [bodyComments_of_enter (by nofun) henter] at hcomments
      refine .bind fun node after hnode => ?_
      have hshown : Shown reader node after := by
        rw [Shown, ← hstart]
        exact ih.alternatives modes false false middle hcomments node after hnode
      exact .bind ((yields_skips_expect (by decide)).mono fun _ _ hskips =>
        .bind (.modify (.pure (hshown.skip hskips))))
  | plain added removed =>
      rw [bodyComments_of_enter (by nofun) rfl] at hcomments
      rw [Reader.body]
      exact ih.group (fun _ => rfl) hcomments
  | atomic =>
      rw [bodyComments_of_enter (by nofun) rfl] at hcomments
      rw [Reader.body]
      exact ih.group (fun _ => rfl) hcomments
  | ahead negated =>
      rw [bodyComments_of_enter (by nofun) rfl] at hcomments
      rw [Reader.body]
      exact ih.group (fun _ => rfl) hcomments
  | behind negated =>
      rw [bodyComments_of_enter (by nofun) rfl] at hcomments
      rw [Reader.body]
      refine .bind (.get (.bind (.modify (.bind fun node after hnode => ?_))))
      have hshown := ih.alternatives _ false false _ hcomments node after hnode
      exact .bind (.get (.bind (.set (yields_closing hshown rfl))))
  | conditional index =>
      rw [bodyComments] at hcomments
      rw [Reader.body]
      simp only [Read.throw_bind]
      refine .bind fun yes middle hyes => ?_
      have hshown : Shown reader yes middle := ih.items modes false [] reader
        (fun comment hmem => hcomments comment (List.mem_append_left _ hmem)) yes middle hyes
      refine .bind fun accepted after haccepted => ?_
      have hafter := hshown.skip (yields_skips_accept (by decide) accepted after haccepted)
      rw [run_then_accept hyes haccepted] at hcomments
      cases accepted with
      | false =>
          refine .bind (.pure (.bind (.get ?_)))
          split
          next => exact .throw _
          next => exact yields_closing hafter (Bool.or_false _)
      | true =>
          refine .bind fun no last hno => .bind (.get ?_)
          have hno : Shown after no last := ih.items modes false [] after
            (fun comment hmem => hcomments comment (List.mem_append_right _ hmem)) no last hno
          have hboth : Shown reader (.conditional index yes no) last := by
            rw [Shown, Node.hasStartAnchor, Bool.or_assoc, ← hno]
            exact hafter
          split
          next => exact .throw _
          next => exact yields_closing hboth rfl

end Step

theorem readsShown (fuel : Nat) : ReadsShown fuel := by
  -- The three readers call one another with one unit of fuel less.
  induction fuel with
  | zero => exact .zero
  | succ fuel ih =>
      exact ⟨ih.succ_alternatives, ih.succ_items, ih.succ_body⟩

end Reader

namespace Pattern

open Reader

variable {source : Text} {flags : Flags} {pattern : Pattern}

/-- The comments in the text of a pattern, where the reader skips them. -/
def comments (source : Text) (flags : Flags) : List (List Token) :=
  match Token.ofText? source with
  | some tokens =>
    alternativesComments (3 * tokens.length + 3) flags true true (.start tokens flags)
  | none => []

theorem exists_of_compile (h : compile source flags = .ok pattern) : ∃ tokens reader,
    Token.ofText? source = some tokens ∧
      whole.run (.start tokens flags) = .ok (pattern.root, reader) ∧
      reader.tokens = [] ∧ pattern.source = source := by
  unfold compile at h
  cases htokens : Token.ofText? source with
  | none =>
      rw [htokens] at h
      cases h
  | some tokens =>
      simp only [htokens] at h
      cases hrun : whole.run (.start tokens flags) with
      | error error =>
          rw [hrun] at h
          cases h
      | ok read =>
          obtain ⟨root, reader⟩ := read
          rw [hrun] at h
          dsimp only at h
          split at h
          next => cases h
          split at h
          next hempty =>
            split at h
            next => cases h
            split at h
            next => cases h
            cases h
            exact ⟨tokens, reader, rfl, hrun, List.isEmpty_iff.mp hempty, rfl⟩
          next => cases h

theorem showsStartAnchor_eq (h : compile source flags = .ok pattern)
    (hcomments : ∀ comment ∈ comments source flags, IsHarmless comment) :
    showsStartAnchor source = pattern.root.hasStartAnchor := by
  obtain ⟨tokens, reader, htokens, hrun, hend, -⟩ := exists_of_compile h
  simp only [comments, htokens] at hcomments
  rw [whole_run] at hrun
  have hshown := (readsShown _).alternatives flags true true (.start tokens flags) hcomments
    pattern.root reader hrun
  rw [Shown, hend] at hshown
  calc showsStartAnchor source
      = Scan.outside.findsIn tokens := Scan.findsAnchor_eq_findsIn rfl htokens
    _ = (pattern.root.hasStartAnchor || false) := hshown
    _ = pattern.root.hasStartAnchor := Bool.or_false _

/-- The scan finds an anchor just when the tree has one. Then the input begins for the pattern
wherever it is matched, and otherwise the pattern sees the text before. Only a comment may deceive
the scan. -/
theorem scan_exact_apart_from_comments (h : compile source flags = .ok pattern)
    (hcomments : ∀ comment ∈ comments source flags, IsHarmless comment) :
    showsStartAnchor source = pattern.root.hasStartAnchor ∧
      (pattern.root.hasStartAnchor = true → ∀ input pos,
        (pattern.cursorAt input pos).satisfies .inputStart = true ∧
        (pattern.cursorAt input pos).satisfies .lineStart = true ∧
        pattern.matchAt? input pos = pattern.matchAt? (input.drop pos) 0) ∧
      (pattern.root.hasStartAnchor = false → ∀ input pos,
        pattern.cursorAt input pos = .within input pos) := by
  have hshown := showsStartAnchor_eq h hcomments
  obtain ⟨tokens, reader, -, -, -, hsource⟩ := exists_of_compile h
  have hstarts : pattern.startsAtCursor = pattern.root.hasStartAnchor := by
    rw [startsAtCursor, hsource, hshown]
  refine ⟨hshown, fun hanchor input pos => ?_, fun hanchor input pos => ?_⟩
  · have hcursor : pattern.cursorAt input pos = .startingAt input pos := by
      rw [cursorAt, hstarts, if_pos hanchor]
    rw [hcursor]
    refine ⟨rfl, rfl, matchAt?_eq_drop ?_ input pos⟩
    rw [seesRestOnly, hstarts, hanchor, Bool.true_or]
  · rw [cursorAt, hstarts, hanchor]
    rfl

/-- A verbose pattern with brackets in a class and in two comments, an escaped backslash and an
anchor in the middle. -/
theorem scan_exact_verbose : ∃ pattern,
    compile (Text.ofString "(?x)[]^]+ # not [^b]\n(?:\\\\A|(?#[x])\\A)b") .none = .ok pattern ∧
      showsStartAnchor (Text.ofString "(?x)[]^]+ # not [^b]\n(?:\\\\A|(?#[x])\\A)b") =
        pattern.root.hasStartAnchor ∧
      pattern.root.hasStartAnchor = true := by
  obtain ⟨pattern, hpattern⟩ : ∃ pattern,
      (compile (Text.ofString "(?x)[]^]+ # not [^b]\n(?:\\\\A|(?#[x])\\A)b") .none).toOption =
        some pattern :=
    Option.isSome_iff_exists.mp (by decide +kernel)
  have hcompile := Lexical.eq_ok_of_toOption hpattern
  have hexact := (scan_exact_apart_from_comments hcompile (by decide +kernel)).1
  exact ⟨pattern, hcompile, hexact, hexact.symm.trans (by decide +kernel)⟩

/-- A bracket in a comment hides the circumflex after it, and the pattern matches nowhere but at the
start of the input. -/
theorem comment_hides_anchor : ∃ pattern,
    compile (Text.ofString "(?#[)^a") .none = .ok pattern ∧
    pattern.root.hasStartAnchor = true ∧ showsStartAnchor (Text.ofString "(?#[)^a") = false ∧
    pattern.matchAt? (Text.ofString "xa") 1 = none :=
  ⟨⟨Text.ofString "(?#[)^a", { unicode := true },
    .seq (.anchor .inputStart) (.one (.single 97 .exact))⟩,
    Lexical.eq_ok_of_toOption (by decide +kernel), rfl, by decide +kernel, by decide +kernel⟩

end Pattern

end ParserCombinators.Regex
