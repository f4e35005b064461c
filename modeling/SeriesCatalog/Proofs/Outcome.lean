import Mathlib.Data.List.Forall2
import SeriesCatalog.ClickHouse.Source

/-! # Steps that may fail

A chain of steps succeeds when each of them does. Later proofs take such a chain apart with these
laws and do not unfold it.
-/

namespace SeriesCatalog

namespace Outcome

variable {ε ε' α β : Type}

theorem bind_eq_ok {x : Except ε α} {next : α → Except ε β} {b : β} (h : x >>= next = .ok b) :
    ∃ a, x = .ok a ∧ next a = .ok b := by
  cases x with
  | error e => cases h
  | ok a => exact ⟨a, rfl, h⟩

theorem map_eq_ok {x : Except ε α} {f : α → β} {b : β} (h : x.map f = .ok b) :
    ∃ a, x = .ok a ∧ f a = b := by
  cases x with
  | error e => cases h
  | ok a =>
    cases h
    exact ⟨a, rfl, rfl⟩

theorem map_eq_error {x : Except ε α} {f : α → β} {e : ε} (h : x.map f = .error e) :
    x = .error e := by
  cases x with
  | error reason =>
    cases h
    rfl
  | ok a => cases h

theorem mapError_eq_ok {x : Except ε α} {f : ε → ε'} {a : α} (h : x.mapError f = .ok a) :
    x = .ok a := by
  cases x with
  | error e => cases h
  | ok b =>
    cases h
    rfl

@[simp] theorem mapError_ok (f : ε → ε') (a : α) : (Except.ok a : Except ε α).mapError f = .ok a :=
  rfl

@[simp] theorem mapError_error (f : ε → ε') (e : ε) :
    (Except.error e : Except ε α).mapError f = .error (f e) :=
  rfl

theorem exists_ok_of_any {x : Except ε α} {p : α → Bool} (passed : x.toOption.any p = true) :
    ∃ a, x = .ok a ∧ p a = true := by
  cases x with
  | error e => cases passed
  | ok a => exact ⟨a, rfl, passed⟩

theorem exists_error {x : Except ε α} (failed : x.toOption.isNone = true) : ∃ e, x = .error e := by
  cases x with
  | error e => exact ⟨e, rfl⟩
  | ok a => cases failed

/-- What holds of whatever a reader gives holds of all that it gives for the items of a list. -/
theorem mapM_forall {f : α → Except ε β} {P : β → Prop} (each : ∀ a b, f a = .ok b → P b)
    {items : List α} {results : List β} (h : items.mapM f = .ok results) :
    ∀ b ∈ results, P b := by
  induction items generalizing results with
  | nil =>
    cases h
    intro b member
    cases member
  | cons item rest ih =>
    rw [List.mapM_cons] at h
    obtain ⟨first, firstOk, h⟩ := bind_eq_ok h
    obtain ⟨others, othersOk, h⟩ := bind_eq_ok h
    cases h
    intro b member
    rcases List.mem_cons.1 member with rfl | member
    · exact each item b firstOk
    · exact ih othersOk b member

theorem mapM_of_forall₂ {f : α → Except ε β} {items : List α} {results : List β}
    (each : List.Forall₂ (fun b a => f a = .ok b) results items) : items.mapM f = .ok results := by
  induction each with
  | nil => rfl
  | cons first rest ih =>
    rw [List.mapM_cons, first, ih]
    rfl

theorem mapM_self {f : α → Except ε α} {items : List α} (each : ∀ a ∈ items, f a = .ok a) :
    items.mapM f = .ok items := by
  apply mapM_of_forall₂
  exact List.forall₂_same.2 each

theorem forM_ok {check : α → Except ε Unit} {items : List α}
    (each : ∀ item ∈ items, check item = .ok ()) : items.forM check = .ok () := by
  induction items with
  | nil => rfl
  | cons item items ih =>
    obtain ⟨first, others⟩ := List.forall_mem_cons.1 each
    change check item >>= (fun _ => items.forM check) = _
    rw [first]
    exact ih others

theorem mapM_ok_mem {f : α → Except ε β} {items : List α} {results : List β}
    (done : items.mapM f = .ok results) : ∀ a ∈ items, ∃ b, f a = .ok b := by
  induction items generalizing results with
  | nil =>
    intro a member
    cases member
  | cons item rest ih =>
    rw [List.mapM_cons] at done
    obtain ⟨first, firstOk, done⟩ := bind_eq_ok done
    obtain ⟨others, othersOk, -⟩ := bind_eq_ok done
    intro a member
    rcases List.mem_cons.1 member with rfl | later
    · exact ⟨first, firstOk⟩
    · exact ih othersOk a later

/-- The first item that has no result is the one whose error is reported. -/
theorem mapM_eq_error {f : α → Except ε β} {items : List α} {e : ε}
    (failed : items.mapM f = .error e) : ∃ a ∈ items, f a = .error e := by
  induction items with
  | nil => cases failed
  | cons item rest ih =>
    rw [List.mapM_cons] at failed
    cases first : f item with
    | error reason =>
      rw [first] at failed
      cases failed
      exact ⟨item, List.mem_cons_self, first⟩
    | ok b =>
      cases others : rest.mapM f with
      | error reason =>
        rw [first, others] at failed
        cases failed
        obtain ⟨a, member, bad⟩ := ih others
        exact ⟨a, List.mem_cons_of_mem _ member, bad⟩
      | ok results =>
        rw [first, others] at failed
        cases failed

theorem mapM_refused {f : α → Except ε β} {P : α → Prop} {items : List α}
    (accepts : ∀ a ∈ items, P a → ∃ b, f a = .ok b)
    (refuses : ∀ a ∈ items, ¬ P a → ∃ e, f a = .error e) (bad : ¬ ∀ a ∈ items, P a) :
    ∃ a ∈ items, ¬ P a ∧ ∀ e, f a = .error e → items.mapM f = .error e := by
  cases read : items.mapM f with
  | ok results =>
    refine absurd (fun a member => Classical.byContradiction fun refused => ?_) bad
    obtain ⟨b, done⟩ := mapM_ok_mem read a member
    obtain ⟨e, failed⟩ := refuses a member refused
    rw [failed] at done
    cases done
  | error e =>
    obtain ⟨a, member, failed⟩ := mapM_eq_error read
    refine ⟨a, member, fun accepted => ?_, fun reason same => ?_⟩
    · obtain ⟨b, done⟩ := accepts a member accepted
      rw [failed] at done
      cases done
    · rw [failed] at same
      cases same
      rfl

end Outcome

namespace Exchange

variable {ε ε' α β : Type}

theorem bind_result (x : Exchange ε α) (next : α → Exchange ε β) :
    (x.bind next).result = x.result.bind fun a => (next a).result := by
  unfold Exchange.bind
  cases x.result <;> rfl

theorem bind_result_ok {x : Exchange ε α} {next : α → Exchange ε β} {b : β}
    (h : (x.bind next).result = .ok b) : ∃ a, x.result = .ok a ∧ (next a).result = .ok b := by
  rw [bind_result] at h
  exact Outcome.bind_eq_ok h

theorem bind_result_error {x : Exchange ε α} {next : α → Exchange ε β} {e : ε}
    (h : (x.bind next).result = .error e) :
    x.result = .error e ∨ ∃ a, x.result = .ok a ∧ (next a).result = .error e := by
  rw [bind_result] at h
  cases found : x.result with
  | error reason =>
    rw [found] at h
    cases h
    exact .inl rfl
  | ok a =>
    rw [found] at h
    exact .inr ⟨a, rfl, h⟩

theorem bind_failed {x : Exchange ε α} {e : ε} (failed : x.result = .error e)
    (next : α → Exchange ε β) : x.bind next = ⟨x.queries, .error e⟩ := by
  unfold Exchange.bind
  rw [failed]

theorem bind_queries_quiet {x : Exchange ε α} {next : α → Exchange ε β}
    (quiet : ∀ a, x.result = .ok a → (next a).queries = []) :
    (x.bind next).queries = x.queries := by
  unfold Exchange.bind
  cases found : x.result with
  | error e => rfl
  | ok a =>
    dsimp only
    rw [quiet a found, List.append_nil]

theorem mapError_result (x : Exchange ε α) (f : ε → ε') :
    (x.mapError f).result = x.result.mapError f :=
  rfl

theorem mapError_result_ok {x : Exchange ε α} {f : ε → ε'} {a : α}
    (h : (x.mapError f).result = .ok a) : x.result = .ok a :=
  Outcome.mapError_eq_ok h

/-- The queries are the first of those that are planned, and all of them if the request succeeds. -/
structure AsksInTurn (x : Exchange ε α) (planned : List String) : Prop where
  isPrefix : x.queries <+: planned
  complete : ∀ a, x.result = .ok a → x.queries = planned

namespace AsksInTurn
variable {x : Exchange ε α} {next : α → Exchange ε β} {planned later : List String}

theorem bind (first : x.AsksInTurn planned) (rest : ∀ a, (next a).AsksInTurn later) :
    (x.bind next).AsksInTurn (planned ++ later) := by
  unfold Exchange.bind
  cases found : x.result with
  | error e =>
    refine ⟨first.isPrefix.trans (List.prefix_append _ _), fun b failed => ?_⟩
    cases failed
  | ok a =>
    have all := first.complete a found
    refine ⟨?_, fun b done => ?_⟩
    · rw [all]
      exact (List.prefix_append_right_inj planned).2 (rest a).isPrefix
    · have others := (rest a).complete b done
      simp only [all, others]

theorem bind_quiet (first : x.AsksInTurn planned) (rest : ∀ a, (next a).queries = []) :
    (x.bind next).AsksInTurn planned := by
  have silent : ∀ a, (next a).AsksInTurn [] := fun a =>
    ⟨rest a ▸ List.prefix_refl _, fun _ _ => rest a⟩
  simpa only [List.append_nil] using first.bind silent

theorem mapError (asks : x.AsksInTurn planned) (f : ε → ε') :
    (x.mapError f).AsksInTurn planned :=
  ⟨asks.isPrefix, fun a done => asks.complete a (mapError_result_ok done)⟩

end AsksInTurn
end Exchange

theorem Store.ask_sent {α : Type} {query : ClickHouse.Query} {text : String}
    (sent : query.sent? = some text) (answer : Except QueryFailure α) :
    (Store.ask query answer).result = answer := by
  unfold Store.ask
  rw [sent]
  cases answer <;> rfl

theorem Store.ask_unsent {α : Type} {query : ClickHouse.Query} (unsent : query.sent? = none)
    (answer : Except QueryFailure α) : Store.ask query answer = .fail .unboundArgument := by
  unfold Store.ask
  rw [unsent]

theorem Store.ask_inTurn {α : Type} (query : ClickHouse.Query) (answer : Except QueryFailure α) :
    (Store.ask query answer).AsksInTurn query.sent?.toList := by
  unfold Store.ask
  cases query.sent? with
  | none => exact ⟨List.prefix_refl _, fun _ failed => by cases failed⟩
  | some text =>
    cases answer with
    | ok a => exact ⟨List.prefix_refl _, fun _ _ => rfl⟩
    | error e =>
      refine ⟨?_, fun _ failed => by cases failed⟩
      change (if e.isAnswer then [text] else []) <+: [text]
      split
      · exact List.prefix_refl _
      · exact List.nil_prefix

end SeriesCatalog
