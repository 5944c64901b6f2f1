/-
# Actions

An action reads and changes a state of its own and the world, and leaves behind
a result or an error, the state, the world, and the events that it caused. State
and events stay when it fails: rows that were sent before a failure have been
sent.

Key definitions: `Act`, `Ran`, `Act.attempt`, `Act.always`, `Act.within`,
`Act.emit`.
Key lemmas: `bind_of_ok`, `bind_of_error`.
-/
import TableLoader.Event
import TableLoader.World

namespace TableLoader

/-- What an action leaves behind. -/
structure Ran (σ α : Type) where
  result : Except Error α
  state : σ
  world : World
  events : List Event

/-- An action on a state of type `σ` with a result of type `α`. -/
def Act (σ α : Type) : Type := σ → World → Ran σ α

namespace Act

variable {σ τ α β : Type}

/-- The action that only has a result. -/
def done (a : α) : Act σ α := fun s w => ⟨.ok a, s, w, []⟩

/-- One action, and if it does not fail the next. -/
def andThen (a : Act σ α) (f : α → Act σ β) : Act σ β := fun s w =>
  let first := a s w
  match first.result with
  | .error e => ⟨.error e, first.state, first.world, first.events⟩
  | .ok x =>
    let second := f x first.state first.world
    { second with events := first.events ++ second.events }

instance : Monad (Act σ) where
  pure := done
  bind := andThen

/-- The action that fails. -/
def fail (e : Error) : Act σ α := fun s w => ⟨.error e, s, w, []⟩

/-- The action with a given result or failure. -/
def ofExcept : Except Error α → Act σ α
  | .ok a => done a
  | .error e => fail e

/-- Causes an event. -/
def emit (e : Event) : Act σ Unit := fun s w => ⟨.ok (), s, w, [e]⟩

/-- Writes a log record. -/
def log (level : LogLevel) (logger text : String) : Act σ Unit := emit (.log level logger text)

/-- The state. -/
def get : Act σ σ := fun s w => ⟨.ok s, s, w, []⟩

/-- Changes the state. -/
def modify (f : σ → σ) : Act σ Unit := fun s w => ⟨.ok (), f s, w, []⟩

/-- Changes the state if the change does not fail. -/
def update (f : σ → Except Error σ) : Act σ Unit := fun s w =>
  match f s with
  | .ok s => ⟨.ok (), s, w, []⟩
  | .error e => ⟨.error e, s, w, []⟩

/-- The world. -/
def world : Act σ World := fun s w => ⟨.ok w, s, w, []⟩

/-- Changes the world. -/
def changeWorld (f : World → World) : Act σ Unit := fun s w => ⟨.ok (), s, f w, []⟩

/-- The failure or result of an action, as a result. -/
def attempt (a : Act σ α) : Act σ (Except Error α) := fun s w =>
  let ran := a s w
  ⟨.ok ran.result, ran.state, ran.world, ran.events⟩

/-- An action and, whether it fails or not, a last one that does not fail. -/
def always (a : Act σ α) (last : Act σ Unit) : Act σ α := fun s w =>
  let first := a s w
  let second := last first.state first.world
  { second with
    result := match second.result with
      | .ok () => first.result
      | .error e => .error e
    events := first.events ++ second.events }

/-- An action on a state of its own, which is lost if the action fails. -/
def within (s : τ) (a : Act τ α) : Act σ (α × τ) := fun outer w =>
  let ran := a s w
  ⟨ran.result.map (·, ran.state), outer, ran.world, ran.events⟩

/-- A reading of the clock, in seconds. -/
def readClock : Act σ Number.Binary64 := fun s w =>
  let (reading, w) := w.nextReading
  ⟨.ok reading, s, w, []⟩

theorem bind_of_ok {a : Act σ α} {f : α → Act σ β} {s : σ} {w : World} {x : α}
    (h : (a s w).result = .ok x) :
    (a >>= f) s w =
      { f x (a s w).state (a s w).world with
        events := (a s w).events ++ (f x (a s w).state (a s w).world).events } := by
  show andThen a f s w = _
  simp only [andThen, h]

theorem bind_of_error {a : Act σ α} {f : α → Act σ β} {s : σ} {w : World} {e : Error}
    (h : (a s w).result = .error e) :
    (a >>= f) s w = ⟨.error e, (a s w).state, (a s w).world, (a s w).events⟩ := by
  show andThen a f s w = _
  simp only [andThen, h]

end Act
end TableLoader
