import ParserCombinators.Proofs.AnchorScans
import ParserCombinators.Proofs.Numerals

/-!
What the steps of the reader do to the tokens that remain, by rules for each way to combine them.
Escapes, quantifiers, names, flags and the marks that begin a group are made of code points that
mean nothing to the scan for anchors; only a comment may hold any text.
-/

namespace ParserCombinators.Regex

variable {α β : Type}

/-- Whatever a computation gives at a point of the pattern is good. -/
def Read.Yields (computation : Read α) (reader : Reader) (good : α → Reader → Prop) : Prop :=
  ∀ result next, computation.run reader = .ok (result, next) → good result next

namespace Read

theorem throw_bind (error : SyntaxError) (rest : β → Read α) :
    ((throw error : Read β) >>= rest) = throw error := rfl

namespace Yields

variable {computation : Read α} {reader : Reader} {good : α → Reader → Prop}

theorem mono {better : α → Reader → Prop} (h : computation.Yields reader better)
    (himp : ∀ result next, better result next → good result next) :
    computation.Yields reader good := fun result next hrun => himp result next (h result next hrun)

theorem pure {result : α} (h : good result reader) :
    (Pure.pure result : Read α).Yields reader good := by
  rintro _ _ ⟨⟩
  exact h

theorem throw (error : SyntaxError) : (MonadExcept.throw error : Read α).Yields reader good := by
  rintro _ _ ⟨⟩

theorem bind {first : Read β} {rest : β → Read α}
    (h : first.Yields reader fun found middle => (rest found).Yields middle good) :
    (first >>= rest).Yields reader good := by
  intro result next hrun
  rw [StateT.run_bind] at hrun
  cases hfirst : first.run reader with
  | error error =>
      rw [hfirst] at hrun
      cases hrun
  | ok found => exact h _ _ hfirst _ _ (by rwa [hfirst] at hrun)

theorem get {good : Reader → Reader → Prop} (h : good reader reader) :
    (MonadState.get : Read Reader).Yields reader good := by
  rintro _ _ ⟨⟩
  exact h

theorem set {good : PUnit → Reader → Prop} {other : Reader} (h : good .unit other) :
    (MonadStateOf.set other : Read PUnit).Yields reader good := by
  rintro _ _ ⟨⟩
  exact h

theorem modify {good : PUnit → Reader → Prop} {change : Reader → Reader}
    (h : good .unit (change reader)) :
    (modify change : Read PUnit).Yields reader good := by
  rintro _ _ ⟨⟩
  exact h

end Yields

end Read

namespace Reader

variable {reader : Reader} {good : α → Reader → Prop}

theorem yields_reading {read : List Token → Except SyntaxError (α × List Token)}
    (h : ∀ result rest, read reader.tokens = .ok (result, rest) →
      good result { reader with tokens := rest }) :
    (reading read).Yields reader good := by
  unfold reading
  refine .bind (.get ?_)
  split
  next result rest hread => exact .bind (.set (.pure (h result rest hread)))
  next => exact .throw _

theorem yields_accept {c : Char} {good : Bool → Reader → Prop}
    (hyes : ∀ rest, reader.tokens = .plain c.toNat :: rest →
      good true { reader with tokens := rest })
    (hno : good false reader) : (accept c).Yields reader good := by
  unfold accept
  refine .bind (.get ?_)
  split
  next next rest htokens =>
    split_ifs with hnext
    · subst hnext
      exact .bind (.set (.pure (hyes rest htokens)))
    · exact .pure hno
  next => exact .pure hno

/-- A choice by the next token. -/
theorem yields_ifAccept {c : Char} {yes no : Read α}
    (hyes : ∀ rest, reader.tokens = .plain c.toNat :: rest →
      yes.Yields { reader with tokens := rest } good)
    (hno : no.Yields reader good) :
    (accept c >>= fun accepted => if accepted = true then yes else no).Yields reader good :=
  .bind (yields_accept hyes hno)

theorem skips_mark {c : Char} (hc : isScanMark c.toNat = false) {tokens rest : List Token}
    (h : tokens = .plain c.toNat :: rest) : Skips tokens rest := by
  rw [h]
  exact .cons hc (.refl rest)

theorem yields_requireClosed {good : Unit → Reader → Prop} {index : Nat} (h : good () reader) :
    (requireClosed index).Yields reader good := by
  unfold requireClosed
  refine .bind (.get ?_)
  split
  · split_ifs
    · exact .throw _
    · exact .pure h
  · exact .throw _

theorem yields_backref {modes : Flags} {index : Nat} :
    (backref modes index).Yields reader fun item next =>
      next = reader ∧ item = .plain (.backref index modes.fold) :=
  .bind (yields_requireClosed (.pure ⟨rfl, rfl⟩))

/-- An item was read that is an anchor for the start or not, and nothing but its first token means
something to the scan. -/
structure ReadsItem (anchored : Bool) (reader : Reader) (item : Item) (next : Reader) : Prop where
  skips : Skips reader.tokens next.tokens
  anchored : item.node.hasStartAnchor = anchored

section Escapes

variable {modes : Flags} {c : Nat}

theorem yields_numericEscape : (numericEscape modes c).Yields reader (ReadsItem false reader) := by
  unfold numericEscape
  simp only [Read.throw_bind]
  refine .bind (.get ?_)
  split_ifs
  · exact .throw _
  · refine .bind (.set (.pure ⟨?_, rfl⟩))
    exact Skips.takeRun (fun c hc => isScanMark_of_isOctal hc) 2 reader.tokens
  · exact .bind (.set (.throw _))
  · refine .bind (.set (yields_backref.mono ?_))
    rintro _ _ ⟨rfl, rfl⟩
    exact ⟨Skips.takeRun (fun c hc => isScanMark_of_isDecimal hc) 1 reader.tokens, rfl⟩

theorem yields_escape_of_ne (hc : c ≠ 'A'.toNat) :
    (escape modes c).Yields reader (ReadsItem false reader) := by
  unfold escape
  split
  · exact .pure ⟨.refl _, rfl⟩
  rw [if_neg hc]
  split_ifs
  · exact .pure ⟨.refl _, rfl⟩
  · exact .pure ⟨.refl _, rfl⟩
  · exact .pure ⟨.refl _, rfl⟩
  · refine .bind (yields_reading fun digits rest hread => .pure ⟨?_, rfl⟩)
    have hrun := Skips.takeRun (fun c hc => isScanMark_of_isOctal hc) 2 reader.tokens
    rwa [Except.ok.inj hread] at hrun
  · exact yields_numericEscape
  · exact .bind (yields_reading fun value rest hread => .pure ⟨skips_readCodePoint hread, rfl⟩)

/-- Of the escapes only that of a capital A is an anchor for the start. -/
theorem yields_escape : (escape modes c).Yields reader (ReadsItem (c = 'A'.toNat) reader) := by
  by_cases hc : c = 'A'.toNat
  · subst hc
    exact .pure ⟨.refl _, rfl⟩
  · simpa only [hc, decide_false] using yields_escape_of_ne hc

end Escapes

section Names

theorem isScanMark_iff {c : Nat} : isScanMark c = true ↔ c = 91 ∨ c = 93 ∨ c = 94 := by
  simp [isScanMark, or_assoc]

variable {text : Text}

theorem isScanMark_of_isIdentifier (h : Unicode.isIdentifier text = true) {c : Nat}
    (hc : c ∈ text) : isScanMark c = false := by
  have hpart : Unicode.isIdentifierPart c = true := by
    cases text with
    | nil => cases hc
    | cons first text =>
        obtain ⟨hfirst, hrest⟩ := Bool.and_eq_true_iff.mp h
        rcases List.mem_cons.mp hc with rfl | hc
        · exact Unicode.isIdentifierPart_of_isIdentifierStart hfirst
        · exact List.all_eq_true.mp hrest c hc
  refine Bool.eq_false_iff.mpr fun hmark => ?_
  rcases isScanMark_iff.mp hmark with rfl | rfl | rfl <;> revert hpart <;> decide +kernel

theorem isScanMark_of_readGrouped {value : Int} (h : Numeral.readGrouped 10 text = .ok value)
    {c : Nat} (hc : c ∈ text) : isScanMark c = false := by
  have hpart := Numeral.part_of_readGrouped h hc
  refine Bool.eq_false_iff.mpr fun hmark => ?_
  rcases isScanMark_iff.mp hmark with rfl | rfl | rfl <;> revert hpart <;> decide +kernel

theorem skips_map_plain (h : ∀ c ∈ text, isScanMark c = false) (rest : List Token) :
    Skips (text.map .plain ++ rest) rest := by
  induction text with
  | nil => exact .refl rest
  | cons c text ih =>
      exact (ih fun other hother => h other (List.mem_cons_of_mem c hother)).cons
        (h c List.mem_cons_self)

theorem eq_append_of_splitAt? {stop : Nat} {tokens before after : List Token}
    (h : Token.splitAt? stop tokens = some (before, after)) :
    tokens = before ++ .plain stop :: after := by
  induction tokens generalizing before with
  | nil => cases h
  | cons token tokens ih =>
      rw [Token.splitAt?] at h
      split_ifs at h with hstop
      · subst hstop
        cases h
        rfl
      · obtain ⟨⟨others, _⟩, hothers, heq⟩ := Option.map_eq_some_iff.mp h
        cases heq
        rw [ih hothers]
        rfl

theorem eq_map_of_mapM_plain? {tokens : List Token} (h : tokens.mapM Token.plain? = some text) :
    tokens = text.map .plain := by
  induction tokens generalizing text with
  | nil =>
      obtain rfl := Option.some.inj h
      rfl
  | cons token tokens ih =>
      rw [List.mapM_cons] at h
      obtain ⟨c, hc, h⟩ := Option.bind_eq_some_iff.mp h
      obtain ⟨others, hothers, h⟩ := Option.bind_eq_some_iff.mp h
      obtain rfl := Option.some.inj h
      cases token with
      | plain =>
          obtain rfl := Option.some.inj hc
          rw [ih hothers, List.map_cons]
      | escaped => cases hc

theorem yields_name {stop : Char} : (name stop).Yields reader fun text next =>
    reader.tokens = text.map .plain ++ .plain stop.toNat :: next.tokens := by
  unfold name
  refine .bind (yields_reading fun tokens rest hread => ?_)
  split at hread
  next found hsplit =>
    cases hread
    split
    next text htext =>
      refine .pure ?_
      rw [← eq_map_of_mapM_plain? htext]
      exact eq_append_of_splitAt? hsplit
    next => exact .throw _
  next => cases hread

/-- A name without marks means nothing to the scan. -/
theorem skips_name {stop : Char} (hstop : isScanMark stop.toNat = false)
    (htext : ∀ c ∈ text, isScanMark c = false) {tokens rest : List Token}
    (htokens : tokens = text.map .plain ++ .plain stop.toNat :: rest) : Skips tokens rest := by
  rw [htokens]
  exact (skips_map_plain htext _).trans (.cons hstop (.refl rest))

theorem yields_identifier {stop : Char} (hstop : isScanMark stop.toNat = false) :
    (identifier stop).Yields reader fun _ next => Skips reader.tokens next.tokens := by
  unfold identifier
  simp only [Read.throw_bind]
  refine .bind (yields_name.mono fun text next htokens => ?_)
  split_ifs with hidentifier
  · exact .pure (skips_name hstop (fun c hc => isScanMark_of_isIdentifier hidentifier hc) htokens)
  · exact .throw _

theorem yields_condition :
    condition.Yields reader fun _ next => Skips reader.tokens next.tokens := by
  unfold condition
  simp only [Read.throw_bind]
  refine .bind (yields_name.mono fun text next htokens => ?_)
  split_ifs with hidentifier
  · have hskips := skips_name (by decide)
      (fun c hc => isScanMark_of_isIdentifier hidentifier hc) htokens
    refine .bind (.get ?_)
    split
    · refine .bind (.pure (.bind (.get ?_)))
      split_ifs
      · exact .bind (yields_requireClosed (.pure hskips))
      · exact .pure hskips
    · exact .throw _
  · split
    · exact .throw _
    · next hread =>
      have hskips := skips_name (by decide)
        (fun c hc => isScanMark_of_readGrouped hread hc) htokens
      refine .bind (.modify (.bind (.pure (.bind (.get ?_)))))
      split_ifs
      · exact .bind (yields_requireClosed (.pure hskips))
      · exact .pure hskips
    · exact .throw _

end Names

section Flags

theorem isScanMark_of_ofLetter? {c : Nat} {flag : Flags} (h : Flags.ofLetter? c = some flag) :
    isScanMark c = false := by
  refine Bool.eq_false_iff.mpr fun hmark => ?_
  rcases isScanMark_iff.mp hmark with rfl | rfl | rfl <;> cases h

theorem skips_flagLetters {stops : List Nat} (hstops : ∀ c ∈ stops, isScanMark c = false)
    {found : Flags} {tokens rest : List Token} {result : Flags × Nat}
    (h : flagLetters stops found tokens = .ok (result, rest)) : Skips tokens rest := by
  fun_induction flagLetters stops found tokens with
  | case1 => cases h
  | case2 => cases h
  | case3 found c rest hstop =>
      cases h
      exact .cons (hstops c (List.contains_iff_mem.mp hstop)) (.refl _)
  | case4 => cases h
  | case5 => cases h
  | case6 found c rest hstop flag hflag _ hunion ih =>
      exact .cons (isScanMark_of_ofLetter? hflag) (ih h)

theorem yields_flagGroup :
    flagGroup.Yields reader fun _ next => Skips reader.tokens next.tokens := by
  unfold flagGroup
  simp only [Read.throw_bind]
  refine .bind (yields_reading fun added rest hread => ?_)
  have hadded : Skips reader.tokens rest := skips_flagLetters (by decide) hread
  split_ifs
  · exact .pure hadded
  · exact .pure hadded
  · refine .bind (yields_reading fun removed rest hread => ?_)
    have hremoved := hadded.trans (skips_flagLetters (by decide) hread)
    split_ifs
    · exact .throw _
    · exact .pure hremoved

end Flags

section Quantifiers

theorem skips_braces? {tokens rest : List Token} {low high : Text}
    (h : braces? tokens = some (low, high, rest)) : Skips tokens rest := by
  have hrun (limit : Nat) (tokens : List Token) :=
    Skips.takeRun (fun c hc => isScanMark_of_isDecimal hc) limit tokens
  have hlow := hrun tokens.length tokens
  simp only [braces?, Option.bind_eq_bind] at h
  by_cases hempty : tokens.head? = some (.plain '\x7d'.toNat)
  · rw [if_pos hempty] at h
    cases h
  rw [if_neg hempty] at h
  split at h
  next after hafter =>
    split at h <;> cases h
    rw [hafter] at hlow
    exact hlow.trans (.cons (by decide) (.refl rest))
  next after hafter =>
    have hhigh := hrun after.length after
    rw [hafter] at hlow
    split at h
    next others hothers =>
      cases h
      rw [hothers] at hhigh
      exact hlow.trans (.cons (by decide) (hhigh.trans (.cons (by decide) (.refl rest))))
    next => cases h
  next => cases h

theorem yields_bound {digits : Text} :
    (bound digits).Yields reader fun _ next => next = reader := by
  unfold bound
  simp only [Read.throw_bind]
  split_ifs
  · exact .pure rfl
  · exact .throw _
  · exact .throw _
  · exact .pure rfl

/-- Whether one of the items has an anchor for the start. -/
def anyStartAnchor (items : List Item) : Bool := items.any (·.node.hasStartAnchor)

theorem anyStartAnchor_of_quantify {least : Nat} {most : Option Nat} {greed : Greed}
    {items result : List Item} (h : Item.quantify least most greed items = .ok result) :
    anyStartAnchor result = anyStartAnchor items := by
  unfold Item.quantify at h
  split at h <;> cases h
  rfl

theorem yields_greed : greed.Yields reader fun _ next => Skips reader.tokens next.tokens := by
  unfold greed
  refine yields_ifAccept (fun rest htokens => .pure (skips_mark (by decide) htokens)) ?_
  exact yields_ifAccept (fun rest htokens => .pure (skips_mark (by decide) htokens))
    (.pure (.refl _))

theorem yields_quantified {least : Nat} {most : Option Nat} {items : List Item} :
    (quantified least most items).Yields reader fun result next =>
      Skips reader.tokens next.tokens ∧ anyStartAnchor result = anyStartAnchor items := by
  unfold quantified
  simp only [Read.throw_bind]
  split_ifs
  · exact .throw _
  · refine .bind (yields_greed.mono fun greed next hskips => ?_)
    split
    next result hresult => exact .pure ⟨hskips, anyStartAnchor_of_quantify hresult⟩
    next => exact .throw _

end Quantifiers

section Groups

/-- What stands between an opening parenthesis and the point that its kind is known at: a comment,
or what means nothing to the scan. -/
def Opening.Passes (tokens rest : List Token) : Opening → Prop
  | .comment => ∃ text comment, tokens = .plain '?'.toNat :: .plain '#'.toNat :: text ∧
      Token.splitAt? ')'.toNat text = some (comment, rest)
  | .flags _ => Skips tokens rest
  | .backref _ => Skips tokens rest
  | .group _ => Skips tokens rest

theorem yields_opening : opening.Yields reader fun found next =>
    found.Passes reader.tokens next.tokens := by
  unfold opening
  simp only [Read.throw_bind]
  refine yields_ifAccept (fun rest hquestion => ?_) (.pure (.refl _))
  have hstart : Skips reader.tokens rest := skips_mark (by decide) hquestion
  have hmark {c : Char} {after : List Token} (hc : isScanMark c.toNat = false)
      (h : rest = .plain c.toNat :: after) : Skips reader.tokens after :=
    hstart.trans (skips_mark hc h)
  refine yields_ifAccept (fun after hafter => .pure (hmark (by decide) hafter)) ?_
  refine yields_ifAccept (fun after hafter => .pure (hmark (by decide) hafter)) ?_
  refine yields_ifAccept (fun after hafter => .pure (hmark (by decide) hafter)) ?_
  refine yields_ifAccept (fun after hafter => .pure (hmark (by decide) hafter)) ?_
  refine yields_ifAccept (fun after hafter => ?_) ?_
  · have hbehind := hmark (by decide) hafter
    refine yields_ifAccept
      (fun last hlast => .pure (hbehind.trans (skips_mark (by decide) hlast))) ?_
    exact yields_ifAccept (fun last hlast => .pure (hbehind.trans (skips_mark (by decide) hlast)))
      (.throw _)
  refine yields_ifAccept (fun text htext => ?_) ?_
  · refine .bind (yields_reading fun comment last hread => .pure ⟨text, comment, ?_, ?_⟩)
    · exact hquestion.trans (congrArg (List.cons _) htext)
    · split at hread
      next found hsplit =>
        cases hread
        exact hsplit
      next => cases hread
  refine yields_ifAccept (fun after hafter => ?_) ?_
  · have hnamed := hmark (by decide) hafter
    refine yields_ifAccept (fun last hlast => ?_) ?_
    · have hlast := hnamed.trans (skips_mark (by decide) hlast)
      exact .bind ((yields_identifier (by decide)).mono fun _ _ h => .pure (hlast.trans h))
    refine yields_ifAccept (fun last hlast => ?_) (.throw _)
    have hlast := hnamed.trans (skips_mark (by decide) hlast)
    refine .bind (.get (.bind ((yields_identifier (by decide)).mono fun _ _ h => ?_)))
    split
    · exact .pure (hlast.trans h)
    · exact .throw _
  refine yields_ifAccept (fun after hafter => ?_) ?_
  · have hconditional := hmark (by decide) hafter
    exact .bind (yields_condition.mono fun _ _ h => .pure (hconditional.trans h))
  refine .bind (.get ?_)
  split
  · split_ifs
    · refine .bind (yields_flagGroup.mono fun _ _ h => ?_)
      split
      · exact .pure (hstart.trans h)
      · exact .pure (hstart.trans h)
    · exact .throw _
  · exact .throw _

end Groups

end Reader
end ParserCombinators.Regex
