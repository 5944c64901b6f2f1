/-
# Running actions

What each action leaves behind, as rules that rewrite a run step by step: an
action that cannot fail is passed over, and its event goes in front of the
events of what follows (`Ran.after`). An action may leave its state alone and
not look at it (`Act.Stateless`). Of the events, the calls of the database
client are those that the database sees (`clientCalls`), and by those that succeed
it gets its rows (`deliveredRows`); an action may also do without them
(`Act.Silent`).

Key definitions: `Ran.after`, `Act.Stateless`, `clientCalls`, `Act.Silent`,
`deliveredRows`.
-/
import TableLoader.Connection

namespace TableLoader

variable {σ τ α β : Type}

/-- A run with events in front of its own. -/
def Ran.after (events : List Event) (r : Ran σ α) : Ran σ α :=
  { r with events := events ++ r.events }

@[simp] theorem Ran.after_result (es : List Event) (r : Ran σ α) :
    (r.after es).result = r.result := rfl

@[simp] theorem Ran.after_state (es : List Event) (r : Ran σ α) :
    (r.after es).state = r.state := rfl

@[simp] theorem Ran.after_world (es : List Event) (r : Ran σ α) :
    (r.after es).world = r.world := rfl

@[simp] theorem Ran.after_events (es : List Event) (r : Ran σ α) :
    (r.after es).events = es ++ r.events := rfl

@[simp] theorem Ran.after_nil (r : Ran σ α) : r.after [] = r := rfl

@[simp] theorem Ran.after_after (es fs : List Event) (r : Ran σ α) :
    (r.after fs).after es = r.after (es ++ fs) := by
  simp [Ran.after]

@[simp] theorem Ran.after_mk (es fs : List Event) (x : Except Error α) (s : σ) (w : World) :
    Ran.after es ⟨x, s, w, fs⟩ = ⟨x, s, w, es ++ fs⟩ := rfl

namespace Act

variable (s : σ) (w : World)

/-- An action that ends well is followed by the next one. -/
theorem bind_ok {a : Act σ α} {f : α → Act σ β} {s s' : σ} {w w' : World} {x : α}
    {es : List Event} (h : a s w = ⟨.ok x, s', w', es⟩) :
    (a >>= f) s w = (f x s' w').after es := by
  rw [bind_of_ok (x := x) (by rw [h]), h]
  rfl

/-- An action that fails is the last one. -/
theorem bind_error {a : Act σ α} {f : α → Act σ β} {s s' : σ} {w w' : World} {e : Error}
    {es : List Event} (h : a s w = ⟨.error e, s', w', es⟩) :
    (a >>= f) s w = ⟨.error e, s', w', es⟩ := by
  rw [bind_of_error (e := e) (by rw [h]), h]

/-- What follows an action depends on the run of the action only. -/
theorem bind_congr {a b : Act σ α} (f : α → Act σ β) {s : σ} {w : World} (h : a s w = b s w) :
    (a >>= f) s w = (b >>= f) s w := by
  show andThen a f s w = andThen b f s w
  simp only [andThen, h]

@[simp] theorem pure_apply (a : α) : (pure a : Act σ α) s w = ⟨.ok a, s, w, []⟩ := rfl

@[simp] theorem fail_apply (e : Error) : (fail e : Act σ α) s w = ⟨.error e, s, w, []⟩ := rfl

@[simp] theorem log_apply (l : LogLevel) (n t : String) :
    (log l n t : Act σ Unit) s w = ⟨.ok (), s, w, [.log l n t]⟩ := rfl

@[simp] theorem emit_apply (e : Event) : (emit e : Act σ Unit) s w = ⟨.ok (), s, w, [e]⟩ := rfl

@[simp] theorem modify_apply (f : σ → σ) : modify f s w = ⟨.ok (), f s, w, []⟩ := rfl

@[simp] theorem get_bind (f : σ → Act σ β) : (get >>= f) s w = f s s w := rfl

@[simp] theorem world_bind (f : World → Act σ β) : (world >>= f) s w = f w s w := rfl

@[simp] theorem readClock_bind (f : Number.Binary64 → Act σ β) :
    (readClock >>= f) s w = f w.nextReading.1 s w.nextReading.2 := rfl

@[simp] theorem modify_bind (g : σ → σ) (f : Unit → Act σ β) :
    (modify g >>= f) s w = f () (g s) w := rfl

@[simp] theorem log_bind (l : LogLevel) (n t : String) (f : Unit → Act σ β) :
    (log l n t >>= f) s w = (f () s w).after [.log l n t] := rfl

@[simp] theorem emit_bind (e : Event) (f : Unit → Act σ β) :
    (emit e >>= f) s w = (f () s w).after [e] := rfl

theorem ofExcept_apply (x : Except Error α) :
    (ofExcept x : Act σ α) s w = ⟨x, s, w, []⟩ := by
  cases x with
  | ok => rfl
  | error => rfl

@[simp] theorem ofExcept_ok_bind (a : α) (f : α → Act σ β) :
    (ofExcept (.ok a) >>= f) s w = f a s w := rfl

@[simp] theorem ofExcept_error_bind (e : Error) (f : α → Act σ β) :
    (ofExcept (.error e) >>= f) s w = ⟨.error e, s, w, []⟩ := rfl

@[simp] theorem fail_bind (e : Error) (f : α → Act σ β) :
    (fail e >>= f) s w = ⟨.error e, s, w, []⟩ := rfl

@[simp] theorem pure_bind_apply (a : α) (f : α → Act σ β) : (pure a >>= f) s w = f a s w := rfl

/-- A change of the state that succeeds. -/
theorem update_ok {f : σ → Except Error σ} {s s' : σ} (h : f s = .ok s') (w : World) :
    update f s w = ⟨.ok (), s', w, []⟩ := by
  simp [update, h]

/-- A change of the state that fails leaves the state as it is. -/
theorem update_error {f : σ → Except Error σ} {s : σ} {e : Error} (h : f s = .error e) (w : World) :
    update f s w = ⟨.error e, s, w, []⟩ := by
  simp [update, h]

/-- An action with a state of its own that ends well. -/
theorem within_ok {a : Act τ α} {t t' : τ} {w w' : World} {x : α} {es : List Event} (s : σ)
    (h : a t w = ⟨.ok x, t', w', es⟩) : within t a s w = ⟨.ok (x, t'), s, w', es⟩ := by
  simp [within, h, Except.map]

/-- An action with a state of its own that fails. -/
theorem within_error {a : Act τ α} {t t' : τ} {w w' : World} {e : Error} {es : List Event} (s : σ)
    (h : a t w = ⟨.error e, t', w', es⟩) : within t a s w = ⟨.error e, s, w', es⟩ := by
  simp [within, h, Except.map]

/-- A last action that is one event adds it, whether the first one fails or not. -/
theorem always_emit (a : Act σ α) (e : Event) :
    always a (emit e) s w =
      ⟨(a s w).result, (a s w).state, (a s w).world, (a s w).events ++ [e]⟩ := rfl

/-! ### Actions without a state -/

/-- The action does not look at its state and does not change it. -/
def Stateless (a : Act σ α) : Prop :=
  ∀ w, ∃ x w' es, ∀ s, a s w = ⟨x, s, w', es⟩

theorem stateless_pure (x : α) : Stateless (pure x : Act σ α) :=
  fun w => ⟨.ok x, w, [], fun _ => rfl⟩

theorem stateless_fail (e : Error) : Stateless (fail e : Act σ α) :=
  fun w => ⟨.error e, w, [], fun _ => rfl⟩

theorem stateless_ofExcept (x : Except Error α) : Stateless (ofExcept x : Act σ α) := by
  cases x with
  | ok x => exact stateless_pure x
  | error e => exact stateless_fail e

theorem stateless_emit (e : Event) : Stateless (emit e : Act σ Unit) :=
  fun w => ⟨.ok (), w, [e], fun _ => rfl⟩

theorem stateless_log (level : LogLevel) (name text : String) :
    Stateless (log level name text : Act σ Unit) :=
  stateless_emit (.log level name text)

/-- An action on a state of its own does not look at the state outside. -/
theorem stateless_within (t : τ) (a : Act τ α) : Stateless (within t a : Act σ (α × τ)) :=
  fun w => ⟨_, (a t w).world, (a t w).events, fun _ => rfl⟩

theorem Stateless.bind {a : Act σ α} {f : α → Act σ β} (ha : Stateless a)
    (hf : ∀ x, Stateless (f x)) : Stateless (a >>= f) := by
  intro w
  obtain ⟨x, w', es, h⟩ := ha w
  cases x with
  | error e => exact ⟨.error e, w', es, fun s => bind_error (h s)⟩
  | ok x =>
    obtain ⟨y, w'', fs, h'⟩ := hf x w'
    exact ⟨y, w'', es ++ fs, fun s => by rw [bind_ok (h s), h', Ran.after_mk]⟩

theorem Stateless.always {a : Act σ α} {b : Act σ Unit} (ha : Stateless a) (hb : Stateless b) :
    Stateless (always a b) := by
  intro w
  obtain ⟨x, w', es, h⟩ := ha w
  obtain ⟨y, w'', fs, h'⟩ := hb w'
  cases y with
  | error e => exact ⟨.error e, w'', es ++ fs, fun s => by simp only [Act.always, h, h']⟩
  | ok => exact ⟨x, w'', es ++ fs, fun s => by simp only [Act.always, h, h']⟩

/-- An action that does not look at its state leaves it as it is. -/
theorem Stateless.state_eq {a : Act σ α} (h : Stateless a) : (a s w).state = s := by
  obtain ⟨x, w', es, hrun⟩ := h w
  rw [hrun]

end Act

theorem stateless_withConnection {a : Act σ α} (settings : ConnectionSettings)
    (ha : Act.Stateless a) : Act.Stateless (withConnection settings a) := by
  have hopen : Act.Stateless (openConnection settings : Act σ Unit) :=
    (Act.stateless_ofExcept _).bind fun _ => Act.stateless_emit _
  exact hopen.bind fun _ => ha.always (Act.stateless_emit .disconnect)

/-- A connection whose settings give an address is opened. -/
theorem openConnection_ok {settings : ConnectionSettings} {url : String}
    (h : settings.address = .ok url) (s : σ) (w : World) :
    openConnection settings s w = ⟨.ok (), s, w, [.connect url]⟩ := by
  simp [openConnection, h]

/-- Settings that give no address open nothing. -/
theorem openConnection_error {settings : ConnectionSettings} {e : Error}
    (h : settings.address = .error e) (s : σ) (w : World) :
    openConnection settings s w = ⟨.error e, s, w, []⟩ := by
  simp [openConnection, h]

/-- What is done over a connection stands between its opening and its closing, whether it fails
or not. -/
theorem withConnection_ok {settings : ConnectionSettings} {url : String}
    (h : settings.address = .ok url) (a : Act σ α) (s : σ) (w : World) :
    withConnection settings a s w =
      ⟨(a s w).result, (a s w).state, (a s w).world,
        .connect url :: ((a s w).events ++ [.disconnect])⟩ := by
  rw [withConnection, Act.bind_ok (openConnection_ok h s w), Act.always_emit]
  rfl

/-- Over a connection that cannot be opened nothing is done. -/
theorem withConnection_error {settings : ConnectionSettings} {e : Error}
    (h : settings.address = .error e) (a : Act σ α) (s : σ) (w : World) :
    withConnection settings a s w = ⟨.error e, s, w, []⟩ := by
  rw [withConnection, Act.bind_error (openConnection_error h s w)]

/-! ### Calls of the client -/

/-- The event is a call of the database client. -/
def Event.isClientCall : Event → Bool
  | .connect _ | .describe .. | .insert .. | .disconnect => true
  | _ => false

/-- The calls of the database client among events. -/
def clientCalls (events : List Event) : List Event := events.filter Event.isClientCall

@[simp] theorem clientCalls_nil : clientCalls [] = [] := rfl

@[simp] theorem clientCalls_append (es fs : List Event) :
    clientCalls (es ++ fs) = clientCalls es ++ clientCalls fs := List.filter_append ..

/-- The action does not look at its state, does not change it, and does not call the client. -/
def Act.Silent (a : Act σ α) : Prop :=
  ∀ w, ∃ x w' es, clientCalls es = [] ∧ ∀ s, a s w = ⟨x, s, w', es⟩

theorem Act.silent_readClock : Silent (readClock : Act σ Number.Binary64) :=
  fun w => ⟨.ok w.nextReading.1, w.nextReading.2, [], rfl, fun _ => rfl⟩

theorem Act.Silent.bind {a : Act σ α} {f : α → Act σ β} (ha : Silent a)
    (hf : ∀ x, Silent (f x)) : Silent (a >>= f) := by
  intro w
  obtain ⟨x, w', es, hes, h⟩ := ha w
  cases x with
  | error e => exact ⟨.error e, w', es, hes, fun s => bind_error (h s)⟩
  | ok x =>
    obtain ⟨y, w'', fs, hfs, h'⟩ := hf x w'
    refine ⟨y, w'', es ++ fs, ?_, fun s => by rw [bind_ok (h s), h', Ran.after_mk]⟩
    rw [clientCalls_append, hes, hfs]
    rfl

theorem Act.Silent.stateless {a : Act σ α} (h : Silent a) : Stateless a := by
  intro w
  obtain ⟨x, w', es, -, hrun⟩ := h w
  exact ⟨x, w', es, hrun⟩

theorem Act.Silent.calls {a : Act σ α} (h : Silent a) (s : σ) (w : World) :
    clientCalls (a s w).events = [] := by
  obtain ⟨x, w', es, hes, hrun⟩ := h w
  rw [hrun]
  exact hes

/-- What an action calls is called whatever follows the action. -/
theorem clientCalls_bind_ne_nil {a : Act σ α} {f : α → Act σ β} {s : σ} {w : World}
    (h : clientCalls (a s w).events ≠ []) : clientCalls ((a >>= f) s w).events ≠ [] := by
  cases hresult : (a s w).result with
  | error e => rwa [Act.bind_of_error hresult]
  | ok x =>
    rw [Act.bind_of_ok hresult, clientCalls_append]
    exact List.append_ne_nil_of_left_ne_nil h _

@[simp] theorem clientCalls_log (l : LogLevel) (n t : String) (es : List Event) :
    clientCalls (.log l n t :: es) = clientCalls es := rfl

@[simp] theorem clientCalls_insert (sql : String) (rows : List (List Cell)) (checked : Bool)
    (o : Option Error) (es : List Event) :
    clientCalls (.insert sql rows checked o :: es) = .insert sql rows checked o :: clientCalls es :=
  rfl

@[simp] theorem clientCalls_connect (url : String) (es : List Event) :
    clientCalls (.connect url :: es) = .connect url :: clientCalls es := rfl

@[simp] theorem clientCalls_describe (sql : String) (o : Option Error) (es : List Event) :
    clientCalls (.describe sql o :: es) = .describe sql o :: clientCalls es := rfl

@[simp] theorem clientCalls_disconnect (es : List Event) :
    clientCalls (.disconnect :: es) = .disconnect :: clientCalls es := rfl

@[simp] theorem clientCalls_partition (stats : PartitionStats) (es : List Event) :
    clientCalls (.partition stats :: es) = clientCalls es := rfl

/-- The rows of the insertions that succeeded, in their order. -/
def deliveredRows (events : List Event) : List (List Cell) :=
  events.flatMap fun
    | .insert _ rows _ none => rows
    | _ => []

@[simp] theorem deliveredRows_nil : deliveredRows [] = [] := rfl

@[simp] theorem deliveredRows_append (es fs : List Event) :
    deliveredRows (es ++ fs) = deliveredRows es ++ deliveredRows fs := List.flatMap_append

/-- Rows are delivered by calls of the client only. -/
theorem deliveredRows_clientCalls (es : List Event) :
    deliveredRows (clientCalls es) = deliveredRows es := by
  induction es with
  | nil => rfl
  | cons e es ih =>
    rw [show deliveredRows (e :: es) = deliveredRows [e] ++ deliveredRows es from
      deliveredRows_append [e] es, ← ih]
    cases e with
    | insert sql rows checked o => exact deliveredRows_append [.insert sql rows checked o] _
    | connect | describe | disconnect => rfl
    | partition | log | isEmpty | output | session | isStopped => rfl

end TableLoader
