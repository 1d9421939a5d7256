import SheetSuite.Task
import SheetSuite.Proofs.Except

namespace SheetSuite.Task

variable {σ α β : Type}

def ends (x : Task σ α) (s : σ) : Except Failure α × σ :=
  ((x.run s).result, (x.run s).store)

@[simp] theorem ends_pure (a : α) (s : σ) : (pure a : Task σ α).ends s = (.ok a, s) := rfl

@[simp] theorem ends_log (level : Log.Level) (origin : Log.Origin) (message : String) (s : σ) :
    (log level origin message).ends s = (.ok (), s) := rfl

@[simp] theorem ends_print (text : String) (s : σ) : (print text).ends s = (.ok (), s) := rfl

@[simp] theorem ends_ofExcept (r : Except Failure α) (s : σ) : (ofExcept r).ends s = (r, s) := rfl

@[simp] theorem ends_update (f : σ → Except Failure α × σ) (s : σ) : (update f).ends s = f s := rfl

@[simp] theorem ends_exchange (e : Http.Exchange α) (s : σ) :
    (exchange e).ends s = (e.result.mapError .fetch, s) := rfl

theorem ends_bind (x : Task σ α) (f : α → Task σ β) (s : σ) :
    (x >>= f).ends s = match x.ends s with
      | (.ok a, t) => (f a).ends t
      | (.error e, t) => (.error e, t) := by
  obtain ⟨result, t, trail, run⟩ : ∃ result t trail, x.run s = ⟨result, t, trail⟩ := ⟨_, _, _, rfl⟩
  cases result with
  | ok a => simp only [ends, bind_of_ok run, run]
  | error e => simp only [ends, bind_of_error run, run]

def asks (x : Task σ α) (s : σ) : List String :=
  (x.run s).requests

@[simp] theorem asks_pure (a : α) (s : σ) : (pure a : Task σ α).asks s = [] := rfl

@[simp] theorem asks_log (level : Log.Level) (origin : Log.Origin) (message : String) (s : σ) :
    (log level origin message).asks s = [] := rfl

@[simp] theorem asks_print (text : String) (s : σ) : (print text).asks s = [] := rfl

@[simp] theorem asks_ofExcept (r : Except Failure α) (s : σ) : (ofExcept r).asks s = [] := rfl

@[simp] theorem asks_update (f : σ → Except Failure α × σ) (s : σ) : (update f).asks s = [] := rfl

@[simp] theorem asks_exchange (e : Http.Exchange α) (s : σ) : (exchange e).asks s = e.requests := by
  unfold asks exchange run Outcome.requests
  rw [List.filterMap_map]
  exact List.filterMap_some

theorem asks_bind (x : Task σ α) (f : α → Task σ β) (s : σ) :
    (x >>= f).asks s = x.asks s ++ match x.ends s with
      | (.ok a, t) => (f a).asks t
      | (.error _, _) => [] := by
  obtain ⟨result, t, trail, run⟩ : ∃ result t trail, x.run s = ⟨result, t, trail⟩ := ⟨_, _, _, rfl⟩
  cases result with
  | ok a => simp [asks, ends, bind_of_ok run, run, Outcome.requests]
  | error e => simp [asks, ends, bind_of_error run, run, Outcome.requests]

/-- A task that sends no requests, wherever it is done. -/
def Silent (x : Task σ α) : Prop :=
  ∀ s, x.asks s = []

theorem Silent.bind {x : Task σ α} {f : α → Task σ β} (first : x.Silent) (next : ∀ a, (f a).Silent) :
    (x >>= f).Silent := by
  intro s
  rw [asks_bind, first s, List.nil_append]
  split
  · exact next _ _
  · rfl

end SheetSuite.Task
