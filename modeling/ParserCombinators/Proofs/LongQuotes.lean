import ParserCombinators.Proofs.FailurePlaces
import ParserCombinators.Proofs.QuotedStrings

/-!
Strings between quotes of any length. A quote is a text where a string is opened and closed, but the
plain characters between are those that occur nowhere in it: the pattern that takes them is a class,
and a class knows no order. So a string ends at the first character that the quote has, and is read
only if the quote begins there. A body with some characters of a longer quote, in another order or
not all of them, is written as any other and not read back.
-/

namespace ParserCombinators.Lexical

open ParserCombinators.Parser

variable {ν : Type} [DecidableEq ν] {grammar : Grammar ν} {quoting : Quoting ν} {escape : Nat}
  {quote body t tail : Text} {i : Nat}

/-- The text goes on with characters that neither mark has, and then with one of the quote or with
nothing. -/
structure BodyAhead (quote : Text) (escape : Nat) (body tail : Text) : Prop where
  body : ∀ c ∈ body, c ∉ quote ∧ c ≠ escape
  tail : ∀ c ∈ tail.head?, c ∈ quote

/-- Every text without an escape begins with such a body. -/
theorem exists_bodyAhead (quote : Text) {text : Text} (htext : escape ∉ text) :
    ∃ body tail, text = body ++ tail ∧ BodyAhead quote escape body tail := by
  refine ⟨text.takeWhile (!quote.contains ·), text.dropWhile (!quote.contains ·),
    List.takeWhile_append_dropWhile.symm, ?_, ?_⟩
  · intro c hc
    have houtside : c ∉ quote := by simpa using List.mem_takeWhile_imp hc
    exact ⟨houtside, ne_of_mem_of_not_mem (List.takeWhile_prefix _ |>.mem hc) htext⟩
  · intro c hc
    have hstops := List.head?_dropWhile_not (!quote.contains ·) text
    rw [Option.mem_def] at hc
    rw [hc] at hstops
    simpa using hstops

theorem answers_openingQuote (hquotes : quoting.quotes = [quote]) (hquote : quote ≠ [])
    (hahead : t.drop i = quote ++ tail) :
    Answers grammar t quoting.anyQuote i (.yields (i + quote.length) (.text quote)) := by
  rw [anyQuote_eq quoting (by simp [hquotes]) (by simpa [hquotes] using hquote), hquotes]
  exact .choice_first (.literal_ahead hahead hquote)

/-- The quote opens a string, the body is taken at once, and what follows it decides. -/
theorem reaches_after_body {post : State → Prop} (hquotes : quoting.quotes = [quote])
    (hescape : quoting.escape = [escape]) (hquote : quote ≠ [])
    (hahead : t.drop i = quote ++ (body ++ tail)) (hbody : BodyAhead quote escape body tail)
    (h : (quotedMachine quoting).Reaches grammar t
      (.escape quote ((pushRun body []).map .text)) (i + quote.length + body.length) post) :
    (quotedMachine quoting).Reaches grammar t .opening i post := by
  have hplain : (quotedMachine quoting).Reaches grammar t
      (.plain quote (([] : List Text).map .text)) (i + quote.length) post :=
    reaches_plain_run hescape (drop_after_append hahead) hbody.body
      (fun mark hmark => .inl (hbody.tail mark hmark)) h
  exact .run rfl (answers_openingQuote hquotes hquote hahead) hplain

section Strings

variable (hquotes : quoting.quotes = [quote]) (hescape : quoting.escape = [escape])
  (hquote : quote ≠ []) (hne : escape ∉ quote)

include hquotes hescape hquote hne

/-- Where the quote follows the body, the string is read. -/
theorem answers_closed {rest : Text} (hahead : t.drop i = quote ++ (body ++ (quote ++ rest)))
    (hbody : BodyAhead quote escape body (quote ++ rest)) :
    Answers grammar t (quotedString quoting) i
      (.yields (i + quote.length + body.length + quote.length) (.text body)) := by
  have hclosing : t.drop (i + quote.length + body.length) = quote ++ rest :=
    drop_after_append (drop_after_append hahead)
  have hread : (quotedMachine quoting).Answers grammar t
      (.escape quote ((pushRun body []).map .text)) (i + quote.length + body.length)
      (.yields (i + quote.length + body.length + quote.length)
        (.text (pushRun body []).reverse.flatten)) :=
    answers_closing_quote hescape hquote hne hclosing
  rw [flatten_pushRun] at hread
  have hstart : (quotedMachine quoting).Answers grammar t .opening i
      (.yields (i + quote.length + body.length + quote.length) (.text body)) :=
    reaches_after_body hquotes hescape hquote hahead hbody hread
  exact hstart.of_start "quoted"

/-- Where something else follows the body, the string breaks off there. -/
theorem stops_unclosed (hahead : t.drop i = quote ++ (body ++ tail))
    (hbody : BodyAhead quote escape body tail) (htail : ¬ quote <+: tail) :
    Stops grammar t (quotedString quoting) i (i + quote.length + body.length)
      (if tail = [] then .endOfInput else .noMatch) := by
  have hrest : t.drop (i + quote.length + body.length) = tail :=
    drop_after_append (drop_after_append hahead)
  have hnone : Answers grammar t (.literal [escape] true) (i + quote.length + body.length)
      .fails := by
    refine .literal_other fun c hc => ?_
    rw [hrest] at hc
    exact ne_of_mem_of_not_mem (hbody.tail c hc) hne
  have hclosing : Stops grammar t (Quoting.closingQuote quote) (i + quote.length + body.length)
      (i + quote.length + body.length) (if tail = [] then .endOfInput else .noMatch) := by
    unfold Quoting.closingQuote
    rw [ofExcept_literalOf hquote, ← hrest]
    exact Stops.mapError (.literal_absent (by rwa [hrest])) _
  have hstart : (quotedMachine quoting).Reaches grammar t .opening i
      (FailedAt t (i + quote.length + body.length) (if tail = [] then .endOfInput else .noMatch)) :=
    reaches_after_body hquotes hescape hquote hahead hbody
      (.run (step_escape hescape) (.optional_none hnone) (.stop rfl hclosing))
  exact hstart.stops "quoted"

/-- A text without an escape is read as a string up to a quote that no character of the quote comes
before, and in no other way. -/
theorem parses_string_iff {text : Text} (htext : escape ∉ text) {pos : Nat} {value : Value} :
    Parses grammar (quotedString quoting) (quote ++ text) pos value ↔
      ∃ body rest, text = body ++ (quote ++ rest) ∧ (∀ c ∈ body, c ∉ quote) ∧
        pos = quote.length + body.length + quote.length ∧ value = .text body := by
  have hread (body rest : Text) (htext : text = body ++ (quote ++ rest))
      (hbody : BodyAhead quote escape body (quote ++ rest)) :
      Parses grammar (quotedString quoting) (quote ++ text)
        (quote.length + body.length + quote.length) (.text body) := by
    have hstart := @answers_closed ν _ grammar quoting escape quote body (quote ++ text) 0 hquotes
      hescape hquote hne rest (by rw [htext]; rfl) hbody
    rw [Nat.zero_add] at hstart
    exact hstart.parses
  constructor
  · intro hparses
    obtain ⟨body, tail, rfl, hbody⟩ := exists_bodyAhead quote htext
    by_cases hclosed : quote <+: tail
    · obtain ⟨rest, rfl⟩ := hclosed
      obtain ⟨rfl, rfl⟩ := hparses.unique (hread body rest rfl hbody)
      exact ⟨body, rest, rfl, fun c hc => (hbody.body c hc).1, rfl, rfl⟩
    · have hstops := @stops_unclosed ν _ grammar quoting escape quote body
        (quote ++ (body ++ tail)) tail 0 hquotes hescape hquote hne rfl hbody hclosed
      exact absurd hparses hstops.answers.rejects.not_parses
  · rintro ⟨body, rest, rfl, hbody, rfl, rfl⟩
    refine hread body rest rfl ⟨fun c hc => ⟨hbody c hc, ?_⟩, fun c hc => ?_⟩
    · exact ne_of_mem_of_not_mem (List.mem_append_left _ hc) htext
    · rw [List.head?_append_of_ne_nil _ hquote] at hc
      exact List.mem_of_mem_head? hc

/-- A string without escapes is what stands between the quote it began with and the first character
after it that the quote has, if the quote begins there; there is no other way to end it. So a body
between two quotes is read back just if it has no character of the quote. Where such a character is
met and the quote does not begin there, or the text ends, the string breaks off in that place. -/
theorem quotedString_ends_at_quote :
    (∀ (text : Text) (pos : Nat) (value : Value), escape ∉ text →
      (Parses grammar (quotedString quoting) (quote ++ text) pos value ↔
        ∃ body rest, text = body ++ (quote ++ rest) ∧ (∀ c ∈ body, c ∉ quote) ∧
          pos = quote.length + body.length + quote.length ∧ value = .text body)) ∧
    (∀ body : Text, escape ∉ body →
      (Parses grammar (quotedString quoting) (quote ++ (body ++ quote))
          (quote.length + body.length + quote.length) (.text body) ↔
        ∀ c ∈ body, c ∉ quote)) ∧
    ∀ body tail : Text, escape ∉ body → (∀ c ∈ body, c ∉ quote) → (∀ c ∈ tail.head?, c ∈ quote) →
      ¬ quote <+: tail → ∀ debug, ∃ final,
        RunsTo grammar (quotedString quoting) (quote ++ (body ++ tail)) debug final ∧
        FailedAt (quote ++ (body ++ tail)) (quote.length + body.length)
          (if tail = [] then .endOfInput else .noMatch) final := by
  refine ⟨fun text pos value htext => ?_, fun body hbody => ?_, ?_⟩
  · exact parses_string_iff hquotes hescape hquote hne htext
  · have hwhole : escape ∉ body ++ quote := by simp [hbody, hne]
    rw [parses_string_iff hquotes hescape hquote hne hwhole]
    constructor
    · rintro ⟨other, rest, -, hother, -, hvalue⟩
      obtain rfl := Value.text.inj hvalue
      exact hother
    · exact fun hplain => ⟨body, [], by rw [List.append_nil], hplain, rfl, rfl⟩
  · intro body tail hbody hplain htail hunclosed debug
    have hstops := @stops_unclosed ν _ grammar quoting escape quote body
      (quote ++ (body ++ tail)) tail 0 hquotes hescape hquote hne rfl
      ⟨fun c hc => ⟨hplain c hc, ne_of_mem_of_not_mem hc hbody⟩, htail⟩ hunclosed
    rw [Nat.zero_add] at hstops
    obtain ⟨final, hfinal, hfailed⟩ :=
      hstops (State.start (quote ++ (body ++ tail)) debug) rfl rfl rfl
    exact ⟨final, hfinal.runsTo, hfailed⟩

end Strings

/-- Strings between pairs of apostrophes. -/
def doubledQuoting : Quoting Unit :=
  { Quoting.standard with quotes := [Text.ofString "''"] }

/-- Other quotes are plain, and a third apostrophe is left. Without a second one at its end a string
breaks off. -/
theorem doubledQuoting_ends_at_quote :
    Parses (fun _ => .ok .endOfInput) (quotedString doubledQuoting)
      (Text.ofString "''say \"so\"'''") 12 (.text (Text.ofString "say \"so\"")) ∧
    ∃ final, RunsTo (fun _ => .ok .endOfInput) (quotedString doubledQuoting)
      (Text.ofString "''so'") false final ∧ final.failed = true ∧ final.pos = 4 := by
  have hends := @quotedString_ends_at_quote Unit _ (fun _ => .ok .endOfInput) doubledQuoting 92
    (Text.ofString "''") rfl rfl (by decide) (by decide)
  obtain ⟨final, hfinal, hfailed⟩ := hends.2.2 (Text.ofString "so") (Text.ofString "'")
    (by decide) (by decide) (by decide) (by decide) false
  refine ⟨(hends.1 _ _ _ (by decide)).mpr ?_, final, hfinal, hfailed.failed, hfailed.pos⟩
  exact ⟨Text.ofString "say \"so\"", Text.ofString "'", rfl, by decide, rfl, rfl⟩

/-- In `''a'b''` the quote comes for the first time at the end of the body, and the string is
rejected all the same: the apostrophe in the body belongs to the quote. -/
theorem doubledQuoting_rejects_part_of_quote :
    (∀ k < (Text.ofString "a'b").length,
      ¬ Text.ofString "''" <+: (Text.ofString "a'b''").drop k) ∧
    Rejects (fun _ => .ok .endOfInput) (quotedString doubledQuoting)
      (Text.ofString "''a'b''") := by
  refine ⟨by decide, ?_⟩
  have hbody : BodyAhead (Text.ofString "''") 92 (Text.ofString "a") (Text.ofString "'b''") :=
    ⟨by decide, by decide⟩
  have hstops := @stops_unclosed Unit _ (fun _ => .ok .endOfInput) doubledQuoting 92
    (Text.ofString "''") (Text.ofString "a") (Text.ofString "''a'b''") (Text.ofString "'b''") 0
    rfl rfl (by decide) (by decide) rfl hbody (by decide)
  exact hstops.answers.rejects

end ParserCombinators.Lexical
