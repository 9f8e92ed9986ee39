import Mathlib.Tactic.SplitIfs
import ParserCombinators.Regex.Pattern

/-!
The scan for anchors, followed by tokens and along the reading of escapes and classes. What stands
for a class ends for the scan where it ends for the reader, and what an escape takes besides its
letter means nothing to the scan, neither inside a class nor outside.
-/

namespace ParserCombinators.Regex

namespace Scan

/-- The place after one more token, none if it is an anchor. No token begins within an escape. -/
def pass? : Scan → Token → Option Scan
  | outside, token =>
    if token = .plain '['.toNat then some opened
    else if token = .plain '^'.toNat ∨ token = .escaped 'A'.toNat then none
    else some outside
  | opened, token => some (if token = .plain '^'.toNat then negated else inside)
  | negated, _ => some inside
  | inside, token => some (if token = .plain ']'.toNat then outside else inside)
  | escaped, _ => some outside
  | insideEscaped, _ => some inside

def findsIn : Scan → List Token → Bool
  | _, [] => false
  | scan, token :: rest =>
    match scan.pass? token with
    | some scan => scan.findsIn rest
    | none => true

def isBetweenTokens : Scan → Bool
  | escaped | insideEscaped => false
  | outside | opened | negated | inside => true

theorem isBetweenTokens_of_pass? {scan next : Scan} {token : Token}
    (h : scan.pass? token = some next) : next.isBetweenTokens = true := by
  cases scan <;> grind [pass?, isBetweenTokens]

/-- A code point that is no backslash is a token. -/
theorem step?_of_ne_backslash {scan : Scan} (hscan : scan.isBetweenTokens = true) {c : Nat}
    (hc : c ≠ CodePoint.backslash) : scan.step? c = scan.pass? (.plain c) := by
  cases scan with
  | escaped => cases hscan
  | insideEscaped => cases hscan
  | _ => simp [step?, pass?, ofMember, hc]

/-- A backslash and the code point after it are a token. -/
theorem step?_backslash {scan : Scan} (hscan : scan.isBetweenTokens = true) (c : Nat) :
    (scan.step? CodePoint.backslash).bind (·.step? c) = scan.pass? (.escaped c) := by
  cases scan with
  | escaped => cases hscan
  | insideEscaped => cases hscan
  | _ => simp [step?, pass?, ofMember, CodePoint.backslash]

theorem findsAnchor_cons (scan : Scan) (c : Nat) (text : Text) :
    scan.findsAnchor (c :: text) = ((scan.step? c).map (·.findsAnchor text)).getD true := by
  rw [findsAnchor]
  cases scan.step? c <;> rfl

theorem findsIn_cons (scan : Scan) (token : Token) (tokens : List Token) :
    scan.findsIn (token :: tokens) = ((scan.pass? token).map (·.findsIn tokens)).getD true := by
  rw [findsIn]
  cases scan.pass? token <;> rfl

theorem findsAnchor_backslash (scan : Scan) (c : Nat) (text : Text) :
    scan.findsAnchor (CodePoint.backslash :: c :: text) =
      (((scan.step? CodePoint.backslash).bind (·.step? c)).map (·.findsAnchor text)).getD true := by
  rw [findsAnchor_cons]
  cases scan.step? CodePoint.backslash with
  | none => rfl
  | some next => exact findsAnchor_cons next c text

/-- Token by token the scan finds what it finds in the text. -/
theorem findsAnchor_eq_findsIn {scan : Scan} (hscan : scan.isBetweenTokens = true) {text : Text}
    {tokens : List Token} (h : Token.ofText? text = some tokens) :
    scan.findsAnchor text = scan.findsIn tokens := by
  fun_induction Token.ofText? text generalizing scan tokens with
  | case1 =>
      obtain rfl := Option.some.inj h
      rfl
  | case2 => cases h
  | case3 c rest ih =>
      obtain ⟨others, hothers, rfl⟩ := Option.map_eq_some_iff.mp h
      rw [findsIn_cons, findsAnchor_backslash, step?_backslash hscan]
      cases hnext : scan.pass? (.escaped c) with
      | none => rfl
      | some next => exact ih (isBetweenTokens_of_pass? hnext) hothers
  | case4 c rest hc ih =>
      obtain ⟨others, hothers, rfl⟩ := Option.map_eq_some_iff.mp h
      rw [findsIn_cons, findsAnchor_cons, step?_of_ne_backslash hscan hc]
      cases hnext : scan.pass? (.plain c) with
      | none => rfl
      | some next => exact ih (isBetweenTokens_of_pass? hnext) hothers

/-- The place after some tokens, none if one of them is an anchor. -/
def over? (scan : Scan) (tokens : List Token) : Option Scan := tokens.foldlM pass? scan

theorem findsIn_append {scan next : Scan} {tokens : List Token} (h : scan.over? tokens = some next)
    (rest : List Token) : scan.findsIn (tokens ++ rest) = next.findsIn rest := by
  induction tokens generalizing scan with
  | nil =>
      obtain rfl := Option.some.inj h
      rfl
  | cons token tokens ih =>
      rw [over?, List.foldlM_cons] at h
      obtain ⟨middle, hmiddle, hnext⟩ := Option.bind_eq_some_iff.mp h
      rw [List.cons_append, findsIn_cons, hmiddle]
      exact ih hnext

end Scan

/-- The code points that mean something to the scan without a backslash. -/
def isScanMark (c : Nat) : Bool := c = '['.toNat || c = ']'.toNat || c = '^'.toNat

/-- What stands before the rest means nothing to the scan, neither outside a class nor inside. -/
structure Skips (tokens rest : List Token) : Prop where
  outside : Scan.outside.findsIn tokens = Scan.outside.findsIn rest
  inside : Scan.inside.findsIn tokens = Scan.inside.findsIn rest

namespace Skips

variable {tokens rest : List Token}

theorem refl (tokens : List Token) : Skips tokens tokens := ⟨rfl, rfl⟩

theorem trans {middle : List Token} (h : Skips tokens middle) (hrest : Skips middle rest) :
    Skips tokens rest := ⟨h.outside.trans hrest.outside, h.inside.trans hrest.inside⟩

theorem cons {c : Nat} (hc : isScanMark c = false) (h : Skips tokens rest) :
    Skips (.plain c :: tokens) rest := by
  obtain ⟨⟨hopen, hclose⟩, hcaret⟩ : (c ≠ 91 ∧ c ≠ 93) ∧ c ≠ 94 := by
    simpa [isScanMark] using hc
  refine ⟨?_, ?_⟩
  · rw [← h.outside, Scan.findsIn_cons]
    simp [Scan.pass?, hopen, hcaret]
  · rw [← h.inside, Scan.findsIn_cons]
    simp [Scan.pass?, hclose]

/-- A run of plain code points that are no marks means nothing to the scan. -/
theorem takeRun {kind : Nat → Bool} (hkind : ∀ c, kind c = true → isScanMark c = false)
    (limit : Nat) (tokens : List Token) : Skips tokens (Token.takeRun kind limit tokens).2 := by
  fun_induction Token.takeRun kind limit tokens with
  | case1 tokens => exact refl tokens
  | case2 => exact refl []
  | case3 limit rest c hc run others heq ih =>
      rw [heq] at ih
      exact ih.cons (hkind c hc)
  | case4 => exact refl _
  | case5 => exact refl _

end Skips

section Digits

variable {c : Nat}

theorem isScanMark_of_isHexadecimal (h : Digit.isHexadecimal c = true) : isScanMark c = false := by
  simp [Digit.isHexadecimal, Digit.isDecimal, isScanMark] at h ⊢
  omega

theorem isScanMark_of_isDecimal (h : Digit.isDecimal c = true) : isScanMark c = false := by
  refine isScanMark_of_isHexadecimal ?_
  rw [Digit.isHexadecimal, h]
  rfl

theorem isScanMark_of_isOctal (h : Digit.isOctal c = true) : isScanMark c = false := by
  refine isScanMark_of_isDecimal ?_
  simp only [Digit.isOctal, Digit.isDecimal, Bool.and_eq_true, decide_eq_true_eq] at h ⊢
  omega

end Digits

section Escapes

variable {modes : Flags} {c value : Nat} {tokens rest : List Token}

theorem skips_readHexadecimal {count : Nat}
    (h : readHexadecimal count tokens = .ok (value, rest)) : Skips tokens rest := by
  have hrun := Skips.takeRun (fun c hc => isScanMark_of_isHexadecimal hc) count tokens
  simp only [readHexadecimal] at h
  split_ifs at h
  cases h
  exact hrun

theorem skips_readCodePoint (h : readCodePoint c tokens = .ok (value, rest)) :
    Skips tokens rest := by
  unfold readCodePoint at h
  split at h
  · cases h
    exact .refl tokens
  · exact skips_readHexadecimal h
  · split_ifs at h
    cases h
    exact .refl tokens

/-- Whatever a member takes besides its own token means nothing to the scan. -/
theorem skips_readMember {token : Token} {member : Member}
    (h : readMember modes token tokens = .ok (member, rest)) : Skips tokens rest := by
  unfold readMember at h
  split at h
  next =>
    cases h
    exact .refl tokens
  next c =>
    split at h
    · cases h
      exact .refl tokens
    · have hrun := Skips.takeRun (fun c hc => isScanMark_of_isOctal hc) 2 tokens
      split_ifs at h
      · cases h
        exact .refl tokens
      · dsimp only at h
        split_ifs at h
        cases h
        exact hrun
      · cases hcode : readCodePoint c tokens with
        | error error =>
            rw [hcode] at h
            cases h
        | ok found =>
            obtain ⟨code, others⟩ := found
            rw [hcode] at h
            cases h
            exact skips_readCodePoint hcode

end Escapes

section Classes

variable {modes : Flags} {tokens rest : List Token}

/-- Where the scan is before the next member, when these were found. -/
def Scan.ofMembers (found : List SetItem) : Scan := if found.isEmpty then .negated else .inside

/-- A token that does not close the class is a member for the scan too. -/
theorem Scan.findsIn_ofMembers {found : List SetItem} {token : Token}
    (h : (token = .plain ']'.toNat && !found.isEmpty) = false) (tokens : List Token) :
    (Scan.ofMembers found).findsIn (token :: tokens) = Scan.inside.findsIn tokens := by
  rw [Scan.ofMembers, Scan.findsIn_cons]
  split_ifs with hfound
  · rfl
  · have htoken : token ≠ .plain ']'.toNat := by simpa [hfound] using h
    rw [Scan.pass?, if_neg htoken]
    rfl

theorem Scan.ofMembers_cons (item : SetItem) (found : List SetItem) :
    Scan.ofMembers (item :: found) = .inside := rfl

theorem Scan.inside_close (tokens : List Token) :
    Scan.inside.findsIn (.plain ']'.toNat :: tokens) = Scan.outside.findsIn tokens := rfl

theorem Scan.inside_cons {token : Token} (h : token ≠ .plain ']'.toNat) (tokens : List Token) :
    Scan.inside.findsIn (token :: tokens) = Scan.inside.findsIn tokens := by
  rw [findsIn_cons, pass?, if_neg h]
  rfl

/-- The scan leaves the class at the bracket at which the reader does. -/
theorem findsIn_of_readMembers {fuel : Nat} {found items : List SetItem}
    (h : readMembers modes fuel found tokens = .ok (items, rest)) :
    (Scan.ofMembers found).findsIn tokens = Scan.outside.findsIn rest := by
  fun_induction readMembers modes fuel found tokens with
  | case1 => cases h
  | case2 => cases h
  | case3 fuel found token others hclose =>
      obtain ⟨rfl, hfound⟩ : token = .plain ']'.toNat ∧ found.isEmpty = false := by
        simpa using hclose
      cases h
      rw [Scan.ofMembers, hfound]
      exact Scan.inside_close rest
  | case4 fuel found token others hclose ihRange ihMember =>
      rw [Scan.findsIn_ofMembers (Bool.eq_false_iff.mpr hclose)]
      cases hmember : readMember modes token others with
      | error error =>
          rw [hmember] at h
          cases h
      | ok read =>
          obtain ⟨member, middle⟩ := read
          rw [hmember] at h
          rw [(skips_readMember hmember).inside]
          simp only [bind, Except.bind] at h
          split at h
          next after =>
            rw [Scan.inside_cons (by decide)]
            split at h
            next => cases h
            next stop others =>
              split_ifs at h with hstop
              · subst hstop
                cases h
                exact Scan.inside_close rest
              · rw [Scan.inside_cons hstop]
                cases hlast : readMember modes stop others with
                | error error =>
                    rw [hlast] at h
                    cases h
                | ok read =>
                    obtain ⟨last, others⟩ := read
                    rw [hlast] at h
                    rw [(skips_readMember hlast).inside]
                    simp only at h
                    split at h
                    next first last =>
                      split_ifs at h
                      exact ihRange others first last h
                    next => cases h
          next =>
            rw [← Scan.ofMembers_cons member.item found]
            exact ihMember member middle h

/-- The members begin after a circumflex that negates the class. -/
theorem Scan.findsIn_opened (tokens : List Token) :
    Scan.opened.findsIn tokens = (Scan.ofMembers []).findsIn
      (if tokens.head? = some (.plain '^'.toNat) then tokens.drop 1 else tokens) := by
  cases tokens with
  | nil => rfl
  | cons token others =>
      by_cases hcaret : token = .plain '^'.toNat
      · subst hcaret
        rfl
      · rw [if_neg (by simpa using hcaret), findsIn_cons, pass?, if_neg hcaret]
        exact (findsIn_ofMembers (by simp) others).symm

/-- A class ends for the scan where it ends for the reader. -/
theorem findsIn_of_readClass {set : CharSet} (h : readClass modes tokens = .ok (set, rest)) :
    Scan.opened.findsIn tokens = Scan.outside.findsIn rest := by
  rw [Scan.findsIn_opened]
  simp only [readClass] at h
  cases hitems : readMembers modes _ []
      (if tokens.head? = some (.plain '^'.toNat) then tokens.drop 1 else tokens) with
  | error error =>
      rw [hitems] at h
      cases h
  | ok read =>
      rw [hitems] at h
      cases h
      exact findsIn_of_readMembers hitems

end Classes

end ParserCombinators.Regex
