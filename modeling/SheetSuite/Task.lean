import SheetSuite.Failure
import SheetSuite.Log.Basic

namespace SheetSuite

inductive Sign where
  | log (event : Log.Event)
  | line (text : String)
  | request (text : String)
  deriving Repr, DecidableEq

structure Outcome (σ α : Type) where
  result : Except Failure α
  store : σ
  trail : List Sign

def Outcome.requests {σ α : Type} (o : Outcome σ α) : List String :=
  o.trail.filterMap fun
    | .request text => some text
    | _ => none

def Task (σ α : Type) : Type :=
  σ → Outcome σ α

namespace Task

variable {σ α β : Type}

def run (x : Task σ α) (s : σ) : Outcome σ α :=
  x s

def done (a : α) : Task σ α :=
  fun s => ⟨.ok a, s, []⟩

def andThen (x : Task σ α) (f : α → Task σ β) : Task σ β :=
  fun s => match x s with
    | ⟨.error e, s, trail⟩ => ⟨.error e, s, trail⟩
    | ⟨.ok a, s, trail⟩ =>
      let next := f a s
      ⟨next.result, next.store, trail ++ next.trail⟩

instance : Monad (Task σ) where
  pure := done
  bind := andThen

def ofExcept (r : Except Failure α) : Task σ α :=
  fun s => ⟨r, s, []⟩

def update (f : σ → Except Failure α × σ) : Task σ α :=
  fun s => ⟨(f s).1, (f s).2, []⟩

def leave (sign : Sign) : Task σ Unit :=
  fun s => ⟨.ok (), s, [sign]⟩

def log (level : Log.Level) (origin : Log.Origin) (message : String) : Task σ Unit :=
  leave (.log ⟨level, origin, message⟩)

def print (text : String) : Task σ Unit :=
  leave (.line text)

def exchange (e : Http.Exchange α) : Task σ α :=
  fun s => ⟨e.result.mapError .fetch, s, e.requests.map .request⟩

@[simp] theorem run_pure (a : α) (s : σ) : (pure a : Task σ α).run s = ⟨.ok a, s, []⟩ := rfl

theorem bind_of_ok {x : Task σ α} {f : α → Task σ β} {s t : σ} {a : α} {trail : List Sign}
    (h : x.run s = ⟨.ok a, t, trail⟩) :
    (x >>= f).run s =
      ⟨((f a).run t).result, ((f a).run t).store, trail ++ ((f a).run t).trail⟩ := by
  unfold run at h
  show andThen x f s = _
  rw [andThen, h]
  rfl

theorem bind_of_error {x : Task σ α} {f : α → Task σ β} {s t : σ} {e : Failure} {trail : List Sign}
    (h : x.run s = ⟨.error e, t, trail⟩) : (x >>= f).run s = ⟨.error e, t, trail⟩ := by
  unfold run at h
  show andThen x f s = _
  rw [andThen, h]

end Task

end SheetSuite
