import ParserCombinators.Parser.Apply

/-!
Reasoning about runs without their sessions. A session changes what a run does only through the
definitions it keeps, and these are always the grammar's own. So a run is described by the values
and the faults it can end with, and by the value or the fault it does end with, from any session
that belongs to the grammar.
-/

namespace ParserCombinators

variable {ν α β : Type} [DecidableEq ν] {grammar : Grammar ν}

/-- Every definition that the session keeps is the one the grammar gives for the name. This holds
of the empty session, and every application preserves it. -/
def Session.Coherent (session : Session ν) (grammar : Grammar ν) : Prop :=
  ∀ name body, session.definitions.lookup name = some body → grammar name = .ok body

theorem Session.empty_coherent : (Session.empty : Session ν).Coherent grammar := by
  intro name body h
  simp [Session.empty] at h

/-- Keeping one more definition of the grammar leaves the session coherent. -/
theorem Session.Coherent.keep {session : Session ν} (h : session.Coherent grammar) {name : ν}
    {body : Parser ν} (hbody : grammar name = .ok body) (built : List ν) :
    Session.Coherent ⟨(name, body) :: session.definitions, built, session.records⟩ grammar := by
  intro other found hfound
  simp only [List.lookup_cons] at hfound
  split at hfound
  next heq =>
    rw [beq_iff_eq] at heq
    rw [heq, hbody, Option.some.inj hfound]
  next => exact h other found hfound

namespace Run

/-- Every value that the run ends with from a coherent session satisfies `post`, and the session
it leaves is coherent again. -/
def Gives (grammar : Grammar ν) (run : Run ν α) (post : α → Prop) : Prop :=
  ∀ session value after, session.Coherent grammar → run session = (.done value, after) →
    post value ∧ after.Coherent grammar

/-- The run ends with `value` from every coherent session, and leaves a coherent one. -/
def Delivers (grammar : Grammar ν) (run : Run ν α) (value : α) : Prop :=
  ∀ session, session.Coherent grammar →
    ∃ after, run session = (.done value, after) ∧ after.Coherent grammar

/-- From every coherent session the run goes on as the other does from a coherent one. -/
def Leads (grammar : Grammar ν) (run rest : Run ν α) : Prop :=
  ∀ session, session.Coherent grammar →
    ∃ between, run session = rest between ∧ between.Coherent grammar

/-- The run ends with the fault from every coherent session, and leaves a coherent one. -/
def Aborts (grammar : Grammar ν) (run : Run ν α) (fault : Fault) : Prop :=
  Leads grammar run (raise fault)

/-- Every fault that the run ends with from a coherent session satisfies `post`. -/
def Blames (grammar : Grammar ν) (run : Run ν α) (post : Fault → Prop) : Prop :=
  ∀ session fault after, session.Coherent grammar → run session = (.raised fault, after) →
    post fault

theorem Gives.pure {post : α → Prop} {value : α} (h : post value) :
    Gives grammar (pure value) post := by
  intro session returned after hsession hrun
  cases hrun
  exact ⟨h, hsession⟩

theorem Gives.bind {run : Run ν α} {next : α → Run ν β} {middle : α → Prop} {post : β → Prop}
    (hrun : Gives grammar run middle)
    (hnext : ∀ value, middle value → Gives grammar (next value) post) :
    Gives grammar (run >>= next) post := by
  intro session value after hsession h
  obtain ⟨found, between, hfirst, hsecond⟩ := bind_eq_done_iff.mp h
  obtain ⟨hmiddle, hbetween⟩ := hrun session found between hsession hfirst
  exact hnext found hmiddle between value after hbetween hsecond

theorem Gives.mono {run : Run ν α} {first second : α → Prop} (hrun : Gives grammar run first)
    (h : ∀ value, first value → second value) : Gives grammar run second := by
  intro session value after hsession hdone
  obtain ⟨hvalue, hafter⟩ := hrun session value after hsession hdone
  exact ⟨h value hvalue, hafter⟩

theorem Gives.and {run : Run ν α} {first second : α → Prop} (hfirst : Gives grammar run first)
    (hsecond : Gives grammar run second) :
    Gives grammar run fun value => first value ∧ second value := by
  intro session value after hsession hdone
  obtain ⟨hvalue, hafter⟩ := hfirst session value after hsession hdone
  exact ⟨⟨hvalue, (hsecond session value after hsession hdone).1⟩, hafter⟩

theorem Gives.raise {post : α → Prop} {fault : Fault} : Gives grammar (raise fault) post := by
  intro session value after _ h
  cases h

theorem Gives.outOfFuel {post : α → Prop} : Gives grammar outOfFuel post := by
  intro session value after _ h
  cases h

theorem Gives.ofExcept {post : α → Prop} {result : Except Fault α}
    (h : ∀ value, result = .ok value → post value) : Gives grammar (ofExcept result) post := by
  cases result with
  | ok value => exact Gives.pure (h value rfl)
  | error fault => exact Gives.raise

theorem Gives.log (level : Level) (moment : Moment) (subject : Text) (state : State) :
    Gives grammar (log level moment subject state) fun _ => True := by
  intro session value after hsession h
  cases h
  exact ⟨trivial, hsession⟩

/-- A name resolves to the grammar's definition, whether it was kept or is built now. -/
theorem Gives.resolve (name : ν) :
    Gives grammar (resolve grammar name) fun body => grammar name = .ok body := by
  intro session value after hsession h
  unfold Run.resolve at h
  split at h
  next parser hkept =>
    cases h
    exact ⟨hsession name _ hkept, hsession⟩
  next =>
    cases hbody : grammar name with
    | ok parser =>
      simp only [hbody] at h
      cases h
      exact ⟨rfl, hsession.keep hbody _⟩
    | error fault =>
      simp only [hbody] at h
      cases h

theorem Gives.ite {post : α → Prop} {condition : Prop} [Decidable condition]
    {first second : Run ν α}
    (hfirst : condition → Gives grammar first post)
    (hsecond : ¬ condition → Gives grammar second post) :
    Gives grammar (if condition then first else second) post := by
  split
  next h => exact hfirst h
  next h => exact hsecond h

theorem Delivers.pure (value : α) : Delivers grammar (pure value : Run ν α) value := by
  intro session hsession
  exact ⟨session, rfl, hsession⟩

theorem Delivers.bind {run : Run ν α} {next : α → Run ν β} {middle : α} {value : β}
    (hrun : Delivers grammar run middle) (hnext : Delivers grammar (next middle) value) :
    Delivers grammar (run >>= next) value := by
  intro session hsession
  obtain ⟨between, hfirst, hbetween⟩ := hrun session hsession
  obtain ⟨after, hsecond, hafter⟩ := hnext between hbetween
  exact ⟨after, bind_eq_done_iff.mpr ⟨middle, between, hfirst, hsecond⟩, hafter⟩

theorem Delivers.of_true {flag : Bool} {first second : Run ν α} {value : α} (h : flag = true)
    (hfirst : Delivers grammar first value) :
    Delivers grammar (if flag then first else second) value := by
  rwa [if_pos h]

theorem Delivers.of_false {flag : Bool} {first second : Run ν α} {value : α} (h : flag = false)
    (hsecond : Delivers grammar second value) :
    Delivers grammar (if flag then first else second) value := by
  rwa [if_neg (Bool.eq_false_iff.mp h)]

theorem Delivers.log (level : Level) (moment : Moment) (subject : Text) (state : State) :
    Delivers grammar (log level moment subject state) () := by
  intro session hsession
  exact ⟨_, rfl, hsession⟩

theorem Delivers.resolve {name : ν} {body : Parser ν} (hbody : grammar name = .ok body) :
    Delivers grammar (resolve grammar name) body := by
  intro session hsession
  unfold Run.resolve
  cases hkept : session.definitions.lookup name with
  | some parser =>
    have hsame : parser = body := by
      have hparser := hsession name parser hkept
      rw [hbody] at hparser
      exact (Except.ok.inj hparser).symm
    exact ⟨session, by simp only [hsame], hsession⟩
  | none =>
    simp only [hbody]
    exact ⟨_, rfl, hsession.keep hbody _⟩

theorem Leads.refl (run : Run ν α) : Leads grammar run run :=
  fun session hsession => ⟨session, rfl, hsession⟩

theorem Leads.trans {first second third : Run ν α} (hfirst : Leads grammar first second)
    (hsecond : Leads grammar second third) : Leads grammar first third := by
  intro session hsession
  obtain ⟨between, hrun, hbetween⟩ := hfirst session hsession
  obtain ⟨last, hrest, hlast⟩ := hsecond between hbetween
  exact ⟨last, hrun.trans hrest, hlast⟩

theorem Leads.bind {run rest : Run ν α} (h : Leads grammar run rest) (next : α → Run ν β) :
    Leads grammar (run >>= next) (rest >>= next) := by
  intro session hsession
  obtain ⟨between, hrun, hbetween⟩ := h session hsession
  exact ⟨between, by rw [bind_apply, bind_apply, hrun], hbetween⟩

theorem Leads.of_false {flag : Bool} {first rest : Run ν α} (h : flag = false) :
    Leads grammar (if flag then first else rest) rest := by
  rw [if_neg (Bool.eq_false_iff.mp h)]
  exact .refl rest

theorem Leads.delivers {run rest : Run ν α} {value : α} (h : Leads grammar run rest)
    (hrest : Delivers grammar rest value) : Delivers grammar run value := Leads.trans h hrest

theorem Delivers.leads {run : Run ν α} {value : α} (h : Delivers grammar run value)
    (next : α → Run ν β) : Leads grammar (run >>= next) (next value) := by
  have hrun : Leads grammar run (Pure.pure value) := h
  exact hrun.bind next

theorem Aborts.bind {run : Run ν α} {fault : Fault} (h : Aborts grammar run fault)
    (next : α → Run ν β) : Aborts grammar (run >>= next) fault := Leads.bind h next

theorem Blames.outOfFuel {post : Fault → Prop} :
    Blames grammar (outOfFuel : Run ν α) post := by
  intro session fault after _ h
  cases h

theorem Blames.mono {run : Run ν α} {first second : Fault → Prop} (hrun : Blames grammar run first)
    (h : ∀ fault, first fault → second fault) : Blames grammar run second :=
  fun session fault after hsession hraised => h fault (hrun session fault after hsession hraised)

/-- A name whose definition cannot be built ends the run, whether or not it was tried before. -/
theorem Aborts.resolve {name : ν} {fault : Fault} (hname : grammar name = .error fault) :
    Aborts grammar (resolve grammar name) fault := by
  intro session hsession
  unfold Run.resolve
  cases hkept : session.definitions.lookup name with
  | some parser =>
    have hparser := hsession name parser hkept
    simp [hname] at hparser
  | none =>
    simp only [hname]
    exact ⟨_, rfl, hsession⟩

end Run

end ParserCombinators
