import ParserCombinators.Proofs.Coupling

/-!
Parsers of the same make agree on all states that a coupling lets in. What the first returns the
second returns too, up to the relation, and a fault that the first raises somewhere in its
application is raised in that of the second.

Parsers of one form are compared form by form: what the first does the second does beside it, if
their parts do. The second may have traces around what answers to the first.
-/

namespace ParserCombinators.Parser

open Relation

variable {ν μ : Type}

theorem forall₂_append_cons {α β : Type} {P : α → β → Prop} {before after : List α} {part : α}
    {others : List β} (h : List.Forall₂ P (before ++ part :: after) others) :
    ∃ before' other after', others = before' ++ other :: after' ∧
      List.Forall₂ P before before' ∧ P part other := by
  induction before generalizing others with
  | nil =>
      cases h with
      | cons hpart _ => exact ⟨[], _, _, rfl, .nil, hpart⟩
  | cons first before ih =>
      cases h with
      | @cons _ first' _ _ hfirst hrest =>
          obtain ⟨before', other, after', rfl, hbefore, hpart⟩ := ih hrest
          exact ⟨first' :: before', other, after', rfl, .cons hfirst hbefore, hpart⟩

variable {like : Likeness ν μ} {grammar : Grammar ν} {other : Grammar μ}
  {enters leaves : State → State → Prop}

section Calls

variable [DecidableEq ν] [DecidableEq μ]

/-- Every call of the first parser has its like among the calls of the second. -/
def CallsAlike (like : Likeness ν μ) (enters : State → State → Prop) (grammar : Grammar ν)
    (other : Grammar μ) (parser : Parser ν) (parser' : Parser μ) : Prop :=
  ∀ state state' part middle, enters state state' → Calls grammar parser state part middle →
    ∃ part' middle', Calls other parser' state' part' middle' ∧ Alike like part part' ∧
      enters middle middle'

theorem CallsAlike.applied {parser part : Parser ν} {parser' : Parser μ}
    {state state' middle : State} (h : CallsAlike like enters grammar other parser parser')
    (henters : enters state state') (hcall : Calls grammar parser state part middle) :
    ∃ part' middle', Applied other parser' state' part' middle' ∧ Alike like part part' ∧
      enters middle middle' := by
  obtain ⟨part', middle', hcall', hpart, hmiddle⟩ := h state state' part middle henters hcall
  exact ⟨part', middle', hcall'.applied, hpart, hmiddle⟩

end Calls

namespace Coupling

section Forms

variable {R : Parser ν → State → State → Prop} {R' : Parser μ → State → State → Prop}
  {parts : List (Parser ν)} {parts' : List (Parser μ)} {item separator source : Parser ν}
  {item' separator' source' : Parser μ} (h : Coupling like enters leaves)

include h

theorem acts_literal (text : Text) (caseSensitive : Bool) :
    Follows enters leaves (Acts grammar R (.literal text caseSensitive))
      (Acts other R' (.literal text caseSensitive)) := by
  intro state state' next henters hacts
  cases hacts with
  | literal _ =>
      exact ⟨_, .literal (h.succeeded _ _ henters).2, h.literal henters text caseSensitive⟩

theorem acts_pattern {compiled : Regex.Pattern} (name expected : Text)
    (hfits : like.fits compiled) :
    Follows enters leaves (Acts grammar R (.pattern name compiled expected))
      (Acts other R' (.pattern name compiled expected)) := by
  intro state state' next henters hacts
  cases hacts with
  | pattern _ =>
      exact ⟨_, .pattern (h.succeeded _ _ henters).2, h.pattern henters name expected hfits⟩

theorem acts_endOfInput :
    Follows enters leaves (Acts grammar R .endOfInput) (Acts other R' .endOfInput) := by
  intro state state' next henters hacts
  cases hacts with
  | endOfInput _ => exact ⟨_, .endOfInput (h.succeeded _ _ henters).2, h.endOfInput henters⟩

theorem acts_fail (message : Text) :
    Follows enters leaves (Acts grammar R (.fail message)) (Acts other R' (.fail message)) := by
  intro state state' next henters hacts
  cases hacts with
  | fail _ =>
      exact ⟨_, .fail (h.succeeded _ _ henters).2,
        h.fail _ _ _ (fun _ => message) henters fun _ _ _ _ => rfl⟩

theorem acts_succeed (value : Value) :
    Follows enters leaves (Acts grammar R (.succeed value)) (Acts other R' (.succeed value)) := by
  intro state state' next henters hacts
  cases hacts with
  | succeed _ => exact ⟨_, .succeed (h.succeeded _ _ henters).2, h.withResult _ _ _ henters⟩

theorem acts_transform (name : Text) (f : State → State) (hwritten : like.written) :
    Follows enters leaves (Acts grammar R (.transform name f))
      (Acts other R' (.transform name f)) := by
  intro state state' next henters hacts
  cases hacts with
  | transform => exact ⟨f state', .transform, h.transform _ _ f hwritten henters⟩

theorem acts_sequence
    (hparts : List.Forall₂ (fun part part' => Follows enters leaves (R part) (R' part'))
      parts parts') :
    Follows enters leaves (Acts grammar R (.sequence parts))
      (Acts other R' (.sequence parts')) := by
  intro state state' next henters hacts
  have hstate' := (h.succeeded _ _ henters).2
  cases hacts with
  | sequence _ hthrough =>
      obtain ⟨last', hthrough', hlast⟩ := h.through hparts hthrough henters
      exact ⟨_, .sequence hstate' hthrough', h.withResult _ _ _ hlast⟩
  | sequence_stop _ hthrough hpart hfailed =>
      obtain ⟨before', part', after', rfl, hbefore, hhere⟩ := forall₂_append_cons hparts
      obtain ⟨middle', hthrough', hmiddle⟩ := h.through hbefore hthrough henters
      obtain ⟨next', hpart', hleaves⟩ := hhere _ _ _ hmiddle hpart
      exact ⟨next', .sequence_stop hstate' hthrough' hpart' (h.fails hleaves hfailed), hleaves⟩

theorem acts_choice
    (hparts : List.Forall₂ (fun part part' => Follows enters leaves (R part) (R' part'))
      parts parts') :
    Follows enters leaves (Acts grammar R (.choice parts)) (Acts other R' (.choice parts')) := by
  intro state state' next henters hacts
  have hstate' := (h.succeeded _ _ henters).2
  cases hacts with
  | choice _ hrefuses hpart hnext =>
      obtain ⟨before', part', after', rfl, hbefore, hhere⟩ := forall₂_append_cons hparts
      have hrefuses' := h.refuses hbefore hrefuses henters
      obtain ⟨next', hpart', hleaves⟩ := hhere _ _ _ henters hpart
      have hnext' := (h.passes hleaves hnext).2.1
      exact ⟨next', .choice hstate' hrefuses' hpart' hnext', hleaves⟩
  | choice_none _ hrefuses =>
      exact ⟨_, .choice_none hstate' (h.refuses hparts hrefuses henters),
        h.fail _ _ _ _ henters ofPlace_noAlternative⟩

theorem acts_many (hitem : Follows enters leaves (R item) (R' item')) :
    Follows enters leaves (Acts grammar R (.many item)) (Acts other R' (.many item')) := by
  intro state state' next henters hacts
  cases hacts with
  | many _ hcollects =>
      obtain ⟨last', hcollects', hlast⟩ := h.collects hitem hcollects henters
      exact ⟨_, .many (h.succeeded _ _ henters).2 hcollects', h.withResult _ _ _ hlast⟩

theorem acts_many1 (hitem : Follows enters leaves (R item) (R' item')) :
    Follows enters leaves (Acts grammar R (.many1 item)) (Acts other R' (.many1 item')) := by
  intro state state' next henters hacts
  have hstate' := (h.succeeded _ _ henters).2
  cases hacts with
  | many1 _ hcollects hsome =>
      obtain ⟨last', hcollects', hlast⟩ := h.collects hitem hcollects henters
      exact ⟨_, .many1 hstate' hcollects' hsome, h.withResult _ _ _ hlast⟩
  | many1_none _ hcollects =>
      obtain ⟨last', hcollects', -⟩ := h.collects hitem hcollects henters
      exact ⟨_, .many1_none hstate' hcollects', h.fail _ _ _ _ henters ofPlace_noItem⟩

theorem acts_separated (hseparator : Follows enters leaves (R separator) (R' separator'))
    (hitem : Follows enters leaves (R item) (R' item')) :
    Follows enters leaves (Acts grammar R (.separated separator item))
      (Acts other R' (.separated separator' item')) := by
  intro state state' next henters hacts
  cases hacts with
  | separated _ hcollects =>
      obtain ⟨last', hcollects', hlast⟩ :=
        h.collectsSeparated hseparator hitem hcollects henters
      exact ⟨_, .separated (h.succeeded _ _ henters).2 hcollects', h.withResult _ _ _ hlast⟩

theorem acts_separated1 (hseparator : Follows enters leaves (R separator) (R' separator'))
    (hitem : Follows enters leaves (R item) (R' item')) :
    Follows enters leaves (Acts grammar R (.separated1 separator item))
      (Acts other R' (.separated1 separator' item')) := by
  intro state state' next henters hacts
  have hstate' := (h.succeeded _ _ henters).2
  cases hacts with
  | separated1 _ hcollects hsome =>
      obtain ⟨last', hcollects', hlast⟩ :=
        h.collectsSeparated hseparator hitem hcollects henters
      exact ⟨_, .separated1 hstate' hcollects' hsome, h.withResult _ _ _ hlast⟩
  | separated1_none _ hcollects =>
      obtain ⟨last', hcollects', -⟩ := h.collectsSeparated hseparator hitem hcollects henters
      exact ⟨_, .separated1_none hstate' hcollects',
        h.fail _ _ _ _ henters ofPlace_noSeparatedItem⟩

theorem acts_optional (hitem : Follows enters leaves (R item) (R' item')) :
    Follows enters leaves (Acts grammar R (.optional item)) (Acts other R' (.optional item')) := by
  intro state state' next henters hacts
  have hstate' := (h.succeeded _ _ henters).2
  cases hacts with
  | optional _ hreturns hnext =>
      obtain ⟨next', hreturns', hleaves⟩ := hitem _ _ _ henters hreturns
      exact ⟨next', .optional hstate' hreturns' (h.passes hleaves hnext).2.1, hleaves⟩
  | optional_none _ hreturns hfailed =>
      obtain ⟨next', hreturns', hleaves⟩ := hitem _ _ _ henters hreturns
      exact ⟨_, .optional_none hstate' hreturns' (h.fails hleaves hfailed),
        h.withResult _ _ _ henters⟩

theorem acts_map {f : Value → Except Fault Value}
    (hsource : Follows enters leaves (R source) (R' source')) :
    Follows enters leaves (Acts grammar R (.map source f)) (Acts other R' (.map source' f)) := by
  intro state state' next henters hacts
  cases hacts with
  | map hreturns hnext hvalue =>
      obtain ⟨next', hreturns', hleaves⟩ := hsource _ _ _ henters hreturns
      obtain ⟨henters', hnext', hresult⟩ := h.passes hleaves hnext
      rw [hresult] at hvalue
      exact ⟨_, .map hreturns' hnext' hvalue, h.withResult _ _ _ henters'⟩
  | map_failed hreturns hfailed =>
      obtain ⟨next', hreturns', hleaves⟩ := hsource _ _ _ henters hreturns
      exact ⟨next', .map_failed hreturns' (h.fails hleaves hfailed), hleaves⟩

theorem acts_chain {f : Value → Parser ν} {g : Value → Parser μ}
    (hsource : Follows enters leaves (R source) (R' source'))
    (hcontinue : ∀ value, Follows enters leaves (R (f value)) (R' (g value))) :
    Follows enters leaves (Acts grammar R (.chain source f))
      (Acts other R' (.chain source' g)) := by
  intro state state' next henters hacts
  cases hacts with
  | chain hreturns hmiddle hnext =>
      obtain ⟨middle', hreturns', hleaves⟩ := hsource _ _ _ henters hreturns
      obtain ⟨henters', hmiddle', hresult⟩ := h.passes hleaves hmiddle
      rw [hresult] at hnext
      obtain ⟨next', hnext', hlast⟩ := hcontinue _ _ _ _ henters' hnext
      exact ⟨next', .chain hreturns' hmiddle' hnext', hlast⟩
  | chain_failed hreturns hfailed =>
      obtain ⟨next', hreturns', hleaves⟩ := hsource _ _ _ henters hreturns
      exact ⟨next', .chain_failed hreturns' (h.fails hleaves hfailed), hleaves⟩

theorem acts_mapError {f : Option Text → Nat → Text}
    (hsource : Follows enters leaves (R source) (R' source')) :
    Follows enters leaves (Acts grammar R (.mapError source f))
      (Acts other R' (.mapError source' f)) := by
  intro state state' next henters hacts
  cases hacts with
  | mapError hreturns hnext =>
      obtain ⟨next', hreturns', hleaves⟩ := hsource _ _ _ henters hreturns
      exact ⟨next', .mapError hreturns' (h.passes hleaves hnext).2.1, hleaves⟩
  | mapError_failed hreturns hfailed =>
      obtain ⟨next', hreturns', hleaves⟩ := hsource _ _ _ henters hreturns
      exact ⟨_, .mapError_failed hreturns' (h.fails hleaves hfailed),
        h.reword _ _ f hleaves hfailed⟩

theorem acts_routine {steps : List Value → Step ν} {steps' : List Value → Step μ} (name : Text)
    (hsteps : ∀ received, SameStep (steps received) (steps' received))
    (hparts : ∀ received part part', steps received = .run part → steps' received = .run part' →
      Follows enters leaves (R part) (R' part')) :
    Follows enters leaves (Acts grammar R (.routine name steps))
      (Acts other R' (.routine name steps')) := by
  intro state state' next henters hacts
  have hstate' := (h.succeeded _ _ henters).2
  cases hacts with
  | routine _ hdriven hend =>
      obtain ⟨last', hdriven', hlast⟩ := h.driven hsteps hparts hdriven henters
      exact ⟨_, .routine hstate' hdriven' ((hsteps _).eq_of_finish hend),
        h.withResult _ _ _ hlast⟩
  | routine_stop _ hdriven hend hreturns hfailed =>
      obtain ⟨middle', hdriven', hmiddle⟩ := h.driven hsteps hparts hdriven henters
      obtain ⟨part', hend'⟩ := (hsteps _).of_run hend
      obtain ⟨next', hreturns', hleaves⟩ := hparts _ _ _ hend hend' _ _ _ hmiddle hreturns
      exact ⟨next', .routine_stop hstate' hdriven' hend' hreturns' (h.fails hleaves hfailed),
        hleaves⟩

omit h

theorem acts_lazy (hbody : Follows enters leaves (R source) (R' source')) :
    Follows enters leaves (Acts grammar R (.lazy source)) (Acts other R' (.lazy source')) := by
  intro state state' next henters hacts
  cases hacts with
  | lazy hreturns =>
      obtain ⟨next', hreturns', hleaves⟩ := hbody _ _ _ henters hreturns
      exact ⟨next', .lazy hreturns', hleaves⟩

theorem acts_ref {name : ν} {name' : μ} (hdefinitions : AlikeDefinitions like grammar other)
    (hparts : ∀ part part', Alike like part part' → Follows enters leaves (R part) (R' part'))
    (hname : like.names name name') :
    Follows enters leaves (Acts grammar R (.ref name)) (Acts other R' (.ref name')) := by
  intro state state' next henters hacts
  cases hacts with
  | ref hbody hreturns =>
      obtain ⟨body', hbody', hsame⟩ := hdefinitions.of_ok hname hbody
      obtain ⟨next', hreturns', hleaves⟩ := hparts _ _ hsame _ _ _ henters hreturns
      exact ⟨next', .ref hbody' hreturns', hleaves⟩

end Forms

variable [DecidableEq μ] {parser part : Parser ν} {parser' : Parser μ}
  {state state' middle next : State} {fault : Fault}

/-- What the first parser does the second returns beside it, if what the parts of the second return
answers to what those of the first do. -/
theorem follows_acts (h : Coupling like enters leaves)
    (hdefinitions : AlikeDefinitions like grammar other) {R : Parser ν → State → State → Prop}
    (hparts : ∀ part part', Alike like part part' →
      Follows enters leaves (R part) (Returns other part'))
    (halike : Alike like parser parser') :
    Follows enters leaves (Acts grammar R parser) (Returns other parser') := by
  -- The hypotheses of the induction serve only for what stands around the second parser alone. It
  -- answers to nothing in the first; everywhere else the parts are asked.
  induction halike with
  | literal text caseSensitive => exact (h.acts_literal text caseSensitive).returns
  | pattern name expected hfits => exact (h.acts_pattern name expected hfits).returns
  | endOfInput => exact h.acts_endOfInput.returns
  | fail message => exact (h.acts_fail message).returns
  | succeed value => exact (h.acts_succeed value).returns
  | transform name f hwritten => exact (h.acts_transform name f hwritten).returns
  | sequence hlength hget _ =>
      have hall := List.forall₂_iff_get.mpr ⟨hlength, hget⟩
      exact (h.acts_sequence (hall.imp hparts)).returns
  | choice hlength hget _ =>
      have hall := List.forall₂_iff_get.mpr ⟨hlength, hget⟩
      exact (h.acts_choice (hall.imp hparts)).returns
  | many hitem _ => exact (h.acts_many (hparts _ _ hitem)).returns
  | many1 hitem _ => exact (h.acts_many1 (hparts _ _ hitem)).returns
  | separated hseparator hitem _ _ =>
      exact (h.acts_separated (hparts _ _ hseparator) (hparts _ _ hitem)).returns
  | separated1 hseparator hitem _ _ =>
      exact (h.acts_separated1 (hparts _ _ hseparator) (hparts _ _ hitem)).returns
  | optional hitem _ => exact (h.acts_optional (hparts _ _ hitem)).returns
  | lazy hbody _ => exact (acts_lazy (hparts _ _ hbody)).returns
  | ref hname => exact (acts_ref hdefinitions hparts hname).returns
  | map f hsource _ => exact (h.acts_map (hparts _ _ hsource)).returns
  | chain hsource hcontinue _ _ =>
      exact (h.acts_chain (hparts _ _ hsource) fun value => hparts _ _ (hcontinue value)).returns
  | mapError f hsource _ => exact (h.acts_mapError (hparts _ _ hsource)).returns
  | routine name hsteps hrun _ =>
      exact (h.acts_routine name hsteps fun received part part' hstep hstep' =>
        hparts _ _ (hrun received part part' hstep hstep')).returns
  | broken fault =>
      intro state state' next _ hacts
      cases hacts
  | trace_left label hbody _ =>
      intro state state' next henters hacts
      cases hacts with
      | trace hreturns => exact hparts _ _ hbody _ _ _ henters hreturns
  | trace_right label _ ih =>
      intro state state' next henters hacts
      obtain ⟨next', hreturns', hleaves⟩ := ih _ _ _ henters hacts
      exact ⟨next', .trace hreturns', hleaves⟩
  | mapError_left f hsilent hsource _ =>
      intro state state' next henters hacts
      cases hacts with
      | mapError hreturns _ => exact hparts _ _ hsource _ _ _ henters hreturns
      | mapError_failed hreturns hfailed =>
          obtain ⟨next', hreturns', hleaves⟩ := hparts _ _ hsource _ _ _ henters hreturns
          exact ⟨next', hreturns', h.reword_left _ _ _ hsilent hleaves⟩
  | mapError_right f hsilent _ ih =>
      intro state state' next henters hacts
      obtain ⟨next', hreturns', hleaves⟩ := ih _ _ _ henters hacts
      cases hnext' : next'.failed with
      | false => exact ⟨next', .mapError hreturns' hnext', hleaves⟩
      | true =>
          exact ⟨_, .mapError_failed hreturns' hnext', h.reword_right _ _ _ hsilent hleaves⟩

variable [DecidableEq ν]

/-- What the first parser returns the second returns beside it. -/
theorem follows (h : Coupling like enters leaves)
    (hdefinitions : AlikeDefinitions like grammar other) (halike : Alike like parser parser') :
    Follows enters leaves (Returns grammar parser) (Returns other parser') := by
  intro state state' next henters hreturns
  refine Returns.induction (motive := fun parser state next => ∀ parser' state',
    Alike like parser parser' → enters state state' →
      ∃ next', Returns other parser' state' next' ∧ leaves next next') ?_ hreturns parser' state'
    halike henters
  intro parser state next hlayer parser' state' halike henters
  have hacts := hlayer.of_succeeded (h.succeeded state state' henters).1
  refine h.follows_acts hdefinitions ?_ halike state state' next henters hacts
  intro part part' hpart middle middle' last hmiddle hlast
  exact hlast.2 part' middle' hpart hmiddle

section Calls

variable {parts : List (Parser ν)} {parts' : List (Parser μ)} {item separator source : Parser ν}
  {item' separator' source' : Parser μ}

variable (h : Coupling like enters leaves)
  (hfollows : ∀ part part', Alike like part part' →
    Follows enters leaves (Returns grammar part) (Returns other part'))

include h hfollows

theorem calls_sequence (hall : List.Forall₂ (Alike like) parts parts') :
    CallsAlike like enters grammar other (.sequence parts) (.sequence parts') := by
  intro state state' part middle henters hcall
  cases hcall with
  | sequence _ hthrough =>
      obtain ⟨before', part', after', rfl, hbefore, hhere⟩ := forall₂_append_cons hall
      obtain ⟨middle', hthrough', hmiddle⟩ := h.through (hbefore.imp hfollows) hthrough henters
      exact ⟨part', middle', .sequence (h.succeeded _ _ henters).2 hthrough', hhere, hmiddle⟩

theorem calls_choice (hall : List.Forall₂ (Alike like) parts parts') :
    CallsAlike like enters grammar other (.choice parts) (.choice parts') := by
  intro state state' part middle henters hcall
  cases hcall with
  | choice _ hrefuses =>
      obtain ⟨before', part', after', rfl, hbefore, hhere⟩ := forall₂_append_cons hall
      have hrefuses' := h.refuses (hbefore.imp hfollows) hrefuses henters
      exact ⟨part', state', .choice (h.succeeded _ _ henters).2 hrefuses', hhere, henters⟩

theorem calls_many (hitem : Alike like item item') :
    CallsAlike like enters grammar other (.many item) (.many item') := by
  intro state state' part middle henters hcall
  cases hcall with
  | many _ hrounds =>
      obtain ⟨middle', hrounds', hmiddle⟩ :=
        rounds (h.round (hfollows _ _ hitem)) hrounds henters
      exact ⟨item', middle', .many (h.succeeded _ _ henters).2 hrounds', hitem, hmiddle⟩

theorem calls_many1 (hitem : Alike like item item') :
    CallsAlike like enters grammar other (.many1 item) (.many1 item') := by
  intro state state' part middle henters hcall
  cases hcall with
  | many1 _ hrounds =>
      obtain ⟨middle', hrounds', hmiddle⟩ :=
        rounds (h.round (hfollows _ _ hitem)) hrounds henters
      exact ⟨item', middle', .many1 (h.succeeded _ _ henters).2 hrounds', hitem, hmiddle⟩

theorem calls_separated (hseparator : Alike like separator separator')
    (hitem : Alike like item item') :
    CallsAlike like enters grammar other (.separated separator item)
      (.separated separator' item') := by
  intro state state' part middle henters hcall
  have hturn := h.turn (hfollows _ _ hseparator) (hfollows _ _ hitem)
  have hstate' := (h.succeeded _ _ henters).2
  cases hcall with
  | separated_item _ hturns =>
      obtain ⟨middle', hturns', hmiddle⟩ := rounds hturn hturns henters
      exact ⟨item', middle', .separated_item hstate' hturns', hitem, hmiddle⟩
  | separated_separator _ hturns hreturns hnext =>
      obtain ⟨middle', hturns', hmiddle⟩ := rounds hturn hturns henters
      obtain ⟨next', hreturns', hleaves⟩ := hfollows _ _ hitem _ _ _ hmiddle hreturns
      obtain ⟨henters', hnext', -⟩ := h.passes hleaves hnext
      exact ⟨separator', next', .separated_separator hstate' hturns' hreturns' hnext',
        hseparator, henters'⟩

theorem calls_separated1 (hseparator : Alike like separator separator')
    (hitem : Alike like item item') :
    CallsAlike like enters grammar other (.separated1 separator item)
      (.separated1 separator' item') := by
  intro state state' part middle henters hcall
  have hturn := h.turn (hfollows _ _ hseparator) (hfollows _ _ hitem)
  have hstate' := (h.succeeded _ _ henters).2
  cases hcall with
  | separated1_item _ hturns =>
      obtain ⟨middle', hturns', hmiddle⟩ := rounds hturn hturns henters
      exact ⟨item', middle', .separated1_item hstate' hturns', hitem, hmiddle⟩
  | separated1_separator _ hturns hreturns hnext =>
      obtain ⟨middle', hturns', hmiddle⟩ := rounds hturn hturns henters
      obtain ⟨next', hreturns', hleaves⟩ := hfollows _ _ hitem _ _ _ hmiddle hreturns
      obtain ⟨henters', hnext', -⟩ := h.passes hleaves hnext
      exact ⟨separator', next', .separated1_separator hstate' hturns' hreturns' hnext',
        hseparator, henters'⟩

theorem calls_chain {f : Value → Parser ν} {g : Value → Parser μ}
    (hsource : Alike like source source') (hcontinue : ∀ value, Alike like (f value) (g value)) :
    CallsAlike like enters grammar other (.chain source f) (.chain source' g) := by
  intro state state' part middle henters hcall
  cases hcall with
  | chain_source => exact ⟨source', state', .chain_source _ _ _, hsource, henters⟩
  | chain_next hreturns hmiddle =>
      obtain ⟨middle', hreturns', hleaves⟩ := hfollows _ _ hsource _ _ _ henters hreturns
      obtain ⟨henters', hmiddle', hresult⟩ := h.passes hleaves hmiddle
      rw [hresult]
      exact ⟨_, middle', .chain_next hreturns' hmiddle', hcontinue _, henters'⟩

theorem calls_routine {steps : List Value → Step ν} {steps' : List Value → Step μ} (name : Text)
    (hsteps : ∀ received, SameStep (steps received) (steps' received))
    (hrun : ∀ received part part', steps received = .run part → steps' received = .run part' →
      Alike like part part') :
    CallsAlike like enters grammar other (.routine name steps) (.routine name steps') := by
  intro state state' part middle henters hcall
  cases hcall with
  | routine _ hdriven hstep =>
      obtain ⟨middle', hdriven', hmiddle⟩ := h.driven hsteps
        (fun received part part' hstep hstep' => hfollows _ _ (hrun received _ _ hstep hstep'))
        hdriven henters
      obtain ⟨part', hstep'⟩ := (hsteps _).of_run hstep
      exact ⟨part', middle', .routine (h.succeeded _ _ henters).2 hdriven' hstep',
        hrun _ _ _ hstep hstep', hmiddle⟩

omit hfollows

/-- A call that the first parser makes has its like somewhere in the application of the second. -/
theorem call (hdefinitions : AlikeDefinitions like grammar other)
    (halike : Alike like parser parser') (henters : enters state state')
    (hcall : Calls grammar parser state part middle) :
    ∃ part' middle', Applied other parser' state' part' middle' ∧ Alike like part part' ∧
      enters middle middle' := by
  have hfollows (source : Parser ν) (source' : Parser μ) (hsource : Alike like source source') :
      Follows enters leaves (Returns grammar source) (Returns other source') :=
    h.follows hdefinitions hsource
  induction halike with
  | sequence hlength hget _ =>
      have hall := List.forall₂_iff_get.mpr ⟨hlength, hget⟩
      exact (h.calls_sequence hfollows hall).applied henters hcall
  | choice hlength hget _ =>
      have hall := List.forall₂_iff_get.mpr ⟨hlength, hget⟩
      exact (h.calls_choice hfollows hall).applied henters hcall
  | many hitem _ => exact (h.calls_many hfollows hitem).applied henters hcall
  | many1 hitem _ => exact (h.calls_many1 hfollows hitem).applied henters hcall
  | separated hseparator hitem _ _ =>
      exact (h.calls_separated hfollows hseparator hitem).applied henters hcall
  | separated1 hseparator hitem _ _ =>
      exact (h.calls_separated1 hfollows hseparator hitem).applied henters hcall
  | chain hsource hcontinue _ _ =>
      exact (h.calls_chain hfollows hsource hcontinue).applied henters hcall
  | routine name hsteps hrun _ =>
      exact (h.calls_routine hfollows name hsteps hrun).applied henters hcall
  | optional hitem _ =>
      cases hcall with
      | optional _ =>
          exact ⟨_, _, (Calls.optional (h.succeeded _ _ henters).2).applied, hitem, henters⟩
  | lazy hbody _ =>
      cases hcall with
      | lazy => exact ⟨_, _, (Calls.lazy _ _).applied, hbody, henters⟩
  | ref hname =>
      cases hcall with
      | ref hbody =>
          obtain ⟨body', hbody', hsame⟩ := hdefinitions.of_ok hname hbody
          exact ⟨_, _, (Calls.ref hbody').applied, hsame, henters⟩
  | map f hsource _ =>
      cases hcall with
      | map => exact ⟨_, _, (Calls.map _ _ _).applied, hsource, henters⟩
  | mapError f hsource _ =>
      cases hcall with
      | mapError => exact ⟨_, _, (Calls.mapError _ _ _).applied, hsource, henters⟩
  | trace_left label hbody _ =>
      cases hcall with
      | trace => exact ⟨_, _, .self _ _, hbody, henters⟩
  | trace_right label _ ih =>
      obtain ⟨part', middle', happlied, hsame⟩ := ih hcall
      exact ⟨part', middle', happlied.of_call (.trace _ _ _), hsame⟩
  | mapError_left f _ hsource _ =>
      cases hcall with
      | mapError => exact ⟨_, _, .self _ _, hsource, henters⟩
  | mapError_right f _ _ ih =>
      obtain ⟨part', middle', happlied, hsame⟩ := ih hcall
      exact ⟨part', middle', happlied.of_call (.mapError _ _ _), hsame⟩
  | _ => cases hcall

end Calls

/-- A fault that the first parser raises by itself ends the second, too. -/
theorem faults (h : Coupling like enters leaves)
    (hdefinitions : AlikeDefinitions like grammar other) (halike : Alike like parser parser')
    (henters : enters state state')
    (hfaults : Faults grammar parser state fault) : Raises other parser' state' fault := by
  obtain ⟨-, hstate'⟩ := h.succeeded state state' henters
  induction halike with
  | ref hname =>
      cases hfaults with
      | ref hfault => exact (Faults.ref (hdefinitions.of_error hname hfault)).raises
  | map f hsource _ =>
      cases hfaults with
      | map hreturns hnext hvalue =>
          obtain ⟨next', hreturns', hleaves⟩ :=
            h.follows hdefinitions hsource _ _ _ henters hreturns
          obtain ⟨-, hnext', hresult⟩ := h.passes hleaves hnext
          rw [hresult] at hvalue
          exact (Faults.map hreturns' hnext' hvalue).raises
  | routine name hsteps hrun _ =>
      have hparts (received : List Value) (part : Parser ν) (part' : Parser μ) hstep hstep' :=
        h.follows hdefinitions (hrun received part part' hstep hstep')
      cases hfaults with
      | raise _ hdriven hstep =>
          obtain ⟨middle', hdriven', -⟩ := h.driven hsteps hparts hdriven henters
          exact (Faults.raise hstate' hdriven' ((hsteps _).eq_of_raise hstep)).raises
      | offer _ hdriven hstep =>
          obtain ⟨middle', hdriven', -⟩ := h.driven hsteps hparts hdriven henters
          exact (Faults.offer hstate' hdriven' ((hsteps _).eq_of_offer hstep)).raises
  | broken fault =>
      cases hfaults with
      | broken => exact (Faults.broken fault state').raises
  | trace_right label _ ih => exact (Calls.trace label _ state').raises (ih hfaults)
  | mapError_right f _ _ ih => exact (Calls.mapError _ f state').raises (ih hfaults)
  | _ => cases hfaults

theorem raises (h : Coupling like enters leaves)
    (hdefinitions : AlikeDefinitions like grammar other) (halike : Alike like parser parser')
    (henters : enters state state')
    (hraises : Raises grammar parser state fault) : Raises other parser' state' fault := by
  refine Raises.induction (motive := fun parser state => ∀ parser' state',
    Alike like parser parser' → enters state state' → Raises other parser' state' fault)
    ?_ ?_ hraises parser' state' halike henters
  · intro parser state hfaults parser' state' halike henters
    exact h.faults hdefinitions halike henters hfaults
  · intro parser state part middle hcall _ ih parser' state' halike henters
    obtain ⟨part', middle', happlied, hpart, hmiddle⟩ :=
      h.call hdefinitions halike henters hcall
    exact happlied.raises (ih part' middle' hpart hmiddle)

/-- Parsers of the same make agree on the states that the coupling lets in, whatever the sessions
keep of their grammars' definitions. -/
theorem agree (h : Coupling like enters leaves) (hdefinitions : AlikeDefinitions like grammar other)
    (halike : Alike like parser parser') (henters : enters state state') {session : Session ν}
    {session' : Session μ} (hsession : session.Coherent grammar)
    (hsession' : session'.Coherent other) :
    Agree leaves (outcome grammar parser state session)
      (outcome other parser' state' session') := by
  have hreturns (next : State) (hnext : Returns grammar parser state next) :
      ∃ next', Returns other parser' state' next' ∧ leaves next next' :=
    h.follows hdefinitions halike state state' next henters hnext
  have hback (next' : State) (hnext' : Returns other parser' state' next') :
      ∃ next, Returns grammar parser state next ∧ leaves next next' :=
    h.flip.follows hdefinitions.symm halike.symm state' state next' henters hnext'
  refine agree_of_returns hsession hsession' hreturns hback fun fault => ⟨?_, ?_⟩
  · exact h.raises hdefinitions halike henters
  · exact h.flip.raises hdefinitions.symm halike.symm henters

end Coupling

end ParserCombinators.Parser
