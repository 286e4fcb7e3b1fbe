import WindowPlacement.Desktop.Plan

/-!
# Laws of inquiries

What comes of a series of questions, and in which order the questions are asked.  An inquiry
heeds the failures of a desktop if a question without an answer ends it, and the failure is
what came of it.  This property is kept by every way of building an inquiry from smaller
ones, so it holds of the plans of all commands once it holds of the single questions.
-/

namespace WindowPlacement

def Event.query? : Event → Option Query
  | .asked query => some query
  | .remarked _ => none

def Desktop.FailsWith {Failure : Type} (d : Desktop Failure) : Query → Failure → Prop
  | .root, failure => d.root = .error failure
  | .heads, failure => d.heads = .error failure
  | .activeWindow, failure => d.activeWindow = .error failure
  | .clientList, failure => d.clientList = .error failure
  | .stackingOrder, failure => d.stackingOrder = .error failure
  | .frame window, failure => d.frame window = .error failure
  | .frameExtents window, failure => d.frameExtents window = .error failure
  | .title window, failure => d.title window = .error failure
  | .strut window, failure => d.strut window = .error failure

namespace Inquiry

variable {Failure α β : Type}

def queries (inquiry : Inquiry Failure α) : List Query :=
  inquiry.events.filterMap Event.query?

section Results

@[simp]
theorem result_pure (value : α) :
    (Pure.pure value : Inquiry Failure α).result = .ok value :=
  rfl

@[simp]
theorem result_note (remark : Remark) :
    (note remark : Inquiry Failure Unit).result = .ok () :=
  rfl

@[simp]
theorem result_ask (query : Query) (answer : Except Failure α) :
    (ask query answer).result = answer.mapError .desktop :=
  rfl

@[simp]
theorem result_tryAsk (query : Query) (answer : Except Failure α) :
    (tryAsk query answer).result = .ok answer.toOption :=
  rfl

@[simp]
theorem result_ofExcept (result : Except (RunError Failure) α) :
    (ofExcept result).result = result :=
  rfl

@[simp]
theorem result_giveUp (reason : RunError Failure) :
    (giveUp reason : Inquiry Failure α).result = .error reason :=
  rfl

@[simp]
theorem mapError_ok {Reason : Type} (wrap : Reason → RunError Failure) (value : α) :
    (Except.ok value).mapError wrap = .ok value :=
  rfl

@[simp]
theorem mapError_error {Reason : Type} (wrap : Reason → RunError Failure) (reason : Reason) :
    (Except.error reason : Except Reason α).mapError wrap = .error (wrap reason) :=
  rfl

theorem mapError_eq_ok_iff {Reason : Type} {result : Except Reason α}
    {wrap : Reason → RunError Failure} {value : α} :
    result.mapError wrap = .ok value ↔ result = .ok value := by
  cases result <;> simp

theorem result_ask_eq_ok_iff {query : Query} {answer : Except Failure α} {value : α} :
    (ask query answer).result = .ok value ↔ answer = .ok value :=
  mapError_eq_ok_iff

/-- Two inquiries in a row have a value iff the first one has and the second one has from
there. -/
theorem result_bind_eq_ok_iff {first : Inquiry Failure α} {next : α → Inquiry Failure β}
    {value : β} :
    (first >>= next).result = .ok value ↔
      ∃ middle, first.result = .ok middle ∧ (next middle).result = .ok value := by
  change (first.bind next).result = _ ↔ _
  unfold bind
  cases first.result <;> simp

theorem result_bind (first : Inquiry Failure α) (next : α → Inquiry Failure β) :
    (first >>= next).result = first.result.bind fun value => (next value).result := by
  change (first.bind next).result = _
  unfold bind
  cases first.result <;> rfl

theorem result_bind_congr {first first' : Inquiry Failure α} {next next' : α → Inquiry Failure β}
    (same : first.result = first'.result)
    (onward : ∀ value, first.result = .ok value → (next value).result = (next' value).result) :
    (first >>= next).result = (first' >>= next').result := by
  rw [result_bind, result_bind, ← same]
  cases known : first.result with
  | error reason => rfl
  | ok value => exact onward value known

theorem result_map_congr {inquiry inquiry' : Inquiry Failure α}
    (same : inquiry.result = inquiry'.result) (f : α → β) :
    (f <$> inquiry).result = (f <$> inquiry').result :=
  result_bind_congr same fun _ _ => rfl

theorem result_map_eq_ok_iff {inquiry : Inquiry Failure α} {f : α → β} {value : β} :
    (f <$> inquiry).result = .ok value ↔
      ∃ middle, inquiry.result = .ok middle ∧ f middle = value := by
  change (inquiry >>= fun middle => Pure.pure (f middle)).result = _ ↔ _
  simp [result_bind_eq_ok_iff]

end Results

section Queries

theorem queries_bind_of_ok {first : Inquiry Failure α} {next : α → Inquiry Failure β}
    {value : α} (known : first.result = .ok value) :
    (first >>= next).queries = first.queries ++ (next value).queries := by
  change (first.bind next).queries = _
  simp [bind, known, queries]

theorem bind_of_error {first : Inquiry Failure α} (next : α → Inquiry Failure β)
    {reason : RunError Failure} (givenUp : first.result = .error reason) :
    (first >>= next).queries = first.queries ∧
      (first >>= next).result = .error reason := by
  change (first.bind next).queries = _ ∧ (first.bind next).result = _
  simp [bind, givenUp, queries]

theorem queries_map (inquiry : Inquiry Failure α) (f : α → β) :
    (f <$> inquiry).queries = inquiry.queries := by
  cases known : inquiry.result with
  | error reason => exact (bind_of_error _ known).1
  | ok value => exact (queries_bind_of_ok known).trans (List.append_nil _)

/-- No question of an inquiry is of a kind that is not allowed. -/
def AsksOnly (allowed : Query → Prop) (inquiry : Inquiry Failure α) : Prop :=
  ∀ query ∈ inquiry.queries, allowed query

variable {allowed : Query → Prop}

theorem asksOnly_of_queries_eq_nil {inquiry : Inquiry Failure α} (silent : inquiry.queries = []) :
    inquiry.AsksOnly allowed := by
  simp [AsksOnly, silent]

theorem asksOnly_ask {query : Query} (answer : Except Failure α) (permitted : allowed query) :
    (ask query answer).AsksOnly allowed :=
  List.forall_mem_singleton.mpr permitted

theorem AsksOnly.bind {first : Inquiry Failure α} {next : α → Inquiry Failure β}
    (firstAsks : first.AsksOnly allowed)
    (nextAsks : ∀ value, first.result = .ok value → (next value).AsksOnly allowed) :
    (first >>= next).AsksOnly allowed := by
  intro query asked
  cases known : first.result with
  | error reason =>
    rw [(bind_of_error next known).1] at asked
    exact firstAsks query asked
  | ok value =>
    rw [queries_bind_of_ok known, List.mem_append] at asked
    rcases asked with early | late
    · exact firstAsks query early
    · exact nextAsks value known query late

end Queries

/-- An inquiry heeds the failures of a desktop, apart from those of tolerated questions: a
question that fails is the last one, and its failure is the reason to give up.  No other
failure of the desktop is ever given as the reason. -/
structure Heeds (d : Desktop Failure) (tolerated : Query → Prop)
    (inquiry : Inquiry Failure α) : Prop where
  stops : ∀ before query after failure, inquiry.queries = before ++ query :: after →
    d.FailsWith query failure → ¬ tolerated query →
      after = [] ∧ inquiry.result = .error (.desktop failure)
  blames : ∀ failure, inquiry.result = .error (.desktop failure) →
    ∃ before query, inquiry.queries = before ++ [query] ∧ d.FailsWith query failure ∧
      ¬ tolerated query

section Heeds

variable {d : Desktop Failure} {tolerated : Query → Prop}

/-- An inquiry without questions heeds all failures unless it makes one up. -/
theorem Heeds.of_queries_eq_nil {inquiry : Inquiry Failure α} (silent : inquiry.queries = [])
    (innocent : ∀ failure, inquiry.result ≠ .error (.desktop failure)) :
    inquiry.Heeds d tolerated where
  stops := by simp [silent]
  blames failure blamed := absurd blamed (innocent failure)

theorem heeds_pure (value : α) : (Pure.pure value : Inquiry Failure α).Heeds d tolerated :=
  .of_queries_eq_nil rfl (by simp)

theorem heeds_note (remark : Remark) : (note remark).Heeds d tolerated :=
  .of_queries_eq_nil rfl (by simp)

theorem heeds_giveUp {reason : RunError Failure}
    (innocent : ∀ failure, reason ≠ .desktop failure) :
    (giveUp reason : Inquiry Failure α).Heeds d tolerated :=
  .of_queries_eq_nil rfl (by simpa using innocent)

theorem heeds_ofExcept {result : Except (RunError Failure) α}
    (innocent : ∀ failure, result ≠ .error (.desktop failure)) :
    (ofExcept result).Heeds d tolerated :=
  .of_queries_eq_nil rfl innocent

theorem heeds_ofExcept_mapError {Reason : Type} {result : Except Reason α}
    {wrap : Reason → RunError Failure}
    (innocent : ∀ reason failure, wrap reason ≠ .desktop failure) :
    (ofExcept (result.mapError wrap)).Heeds d tolerated := by
  apply heeds_ofExcept
  cases result <;> simp [innocent]

theorem heeds_ask {query : Query} {answer : Except Failure α} (strict : ¬ tolerated query)
    (faithful : ∀ failure, d.FailsWith query failure ↔ answer = .error failure) :
    (ask query answer).Heeds d tolerated where
  stops before asked after failure split fails _ := by
    have single : [query] = before ++ asked :: after := split
    obtain ⟨rfl, rfl, rfl⟩ : before = [] ∧ asked = query ∧ after = [] := by
      cases before <;> simp_all
    rw [faithful] at fails
    simp [ask, fails]
  blames failure blamed := by
    refine ⟨[], query, rfl, (faithful failure).mpr ?_, strict⟩
    cases answer with
    | ok value => simp [ask] at blamed
    | error actual => simpa [ask] using blamed

theorem heeds_tryAsk {query : Query} {answer : Except Failure α} (tolerable : tolerated query) :
    (tryAsk query answer).Heeds d tolerated where
  stops before asked after failure split _ strict := by
    have single : [query] = before ++ asked :: after := split
    have same : asked = query := by cases before <;> simp_all
    exact absurd (same ▸ tolerable) strict
  blames failure blamed := by simp at blamed

theorem Heeds.bind {first : Inquiry Failure α} {next : α → Inquiry Failure β}
    (firstHeeds : first.Heeds d tolerated)
    (nextHeeds : ∀ value, first.result = .ok value → (next value).Heeds d tolerated) :
    (first >>= next).Heeds d tolerated := by
  cases known : first.result with
  | error reason =>
    obtain ⟨sameQueries, sameResult⟩ := bind_of_error next known
    constructor
    · intro before query after failure split fails strict
      rw [sameQueries] at split
      obtain ⟨last, givenUp⟩ := firstHeeds.stops before query after failure split fails strict
      have blamed : reason = .desktop failure := by simpa [known] using givenUp
      exact ⟨last, by rw [sameResult, blamed]⟩
    · intro failure blamed
      have named : reason = .desktop failure := by simpa [sameResult] using blamed
      rw [sameQueries]
      exact firstHeeds.blames failure (by rw [known, named])
  | ok value =>
    have sameResult : (first >>= next).result = (next value).result := by
      change (first.bind next).result = _
      simp [Inquiry.bind, known]
    constructor
    · intro before query after failure split fails strict
      rw [queries_bind_of_ok known] at split
      rw [sameResult]
      -- A failing question among those of the first inquiry would have ended it.
      rcases List.append_eq_append_iff.mp split with ⟨middle, rfl, late⟩ | ⟨middle, early, late⟩
      · exact (nextHeeds value known).stops middle query after failure late fails strict
      · cases middle with
        | nil =>
          exact (nextHeeds value known).stops [] query after failure late.symm fails strict
        | cons asked behind =>
          obtain ⟨rfl, -⟩ := List.cons.inj late
          obtain ⟨-, givenUp⟩ := firstHeeds.stops before query behind failure early fails strict
          simp [known] at givenUp
    · intro failure blamed
      rw [sameResult] at blamed
      obtain ⟨before, query, last, fails, strict⟩ := (nextHeeds value known).blames failure blamed
      refine ⟨first.queries ++ before, query, ?_, fails, strict⟩
      rw [queries_bind_of_ok known, last, List.append_assoc]

theorem Heeds.map {inquiry : Inquiry Failure α} (heeds : inquiry.Heeds d tolerated) (f : α → β) :
    (f <$> inquiry).Heeds d tolerated :=
  heeds.bind fun value _ => heeds_pure (f value)

end Heeds

end Inquiry

end WindowPlacement
