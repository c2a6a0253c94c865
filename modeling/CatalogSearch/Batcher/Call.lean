import CatalogSearch.Batcher.Consumer

/-!
# Calls of a batcher

What callers do: a call ends at once, or it is launched and gets on by itself. It may be given up
at any time. A call that takes over the queue needs room for a buffer, and crashes without it.
-/

namespace CatalogSearch.Batcher

/-- A declaration is refused if a required field is missing. -/
def validate (d : Declaration) : Except Error Unit :=
  match d.missingField with
  | some field => .error (.search (.refused (.missingField field)))
  | none => .ok ()

/-- Declarations are refused if one of them is, for the cause of the first such one. -/
def validateAll : List Declaration → Except Error Unit
  | [] => .ok ()
  | d :: ds =>
    match validate d with
    | .error e => .error e
    | .ok () => validateAll ds

theorem validate_eq_ok {d : Declaration} : validate d = .ok () ↔ d.missingField = none := by
  unfold validate; split <;> simp_all

theorem validateAll_eq_ok {ds : List Declaration} :
    validateAll ds = .ok () ↔ ∀ d ∈ ds, d.missingField = none := by
  induction ds with
  | nil => simp [validateAll]
  | cons d ds ih =>
    rw [List.forall_mem_cons, ← ih, ← validate_eq_ok, validateAll]
    split <;> simp_all

/-- The error of a check that fails. -/
def failure? : Except Error Unit → Option Outcome
  | .error e => some (.error e)
  | .ok () => none

/-- The outcome of a call that ends at once, if it does. The worker is started once, while the
batcher is running. Declarations are queued while it is running, and written directly until it is
closed. It is told to close once: any other call of close ends at once, even while the queue is
being drained. -/
def immediate? (s : State) : Operation → Option Outcome
  | .run =>
    if s.phase ≠ .running then some (.error .closed)
    else if s.hasReceiver then none
    else some (.error .alreadyRunning)
  | .enqueue d =>
    failure? (validate d) <|>
      if s.phase = .running ∧ s.hasSender then none else some (.error .closed)
  | .apply d => if s.phase = .closed then some (.error .closed) else failure? (validate d)
  | .applyBatch ds =>
    if s.phase = .closed then some (.error .closed)
    else if ds.isEmpty then some (.ok (.summary .nothing))
    else failure? (validateAll ds)
  | .close => if s.phase ≠ .running then some (.ok .ok) else none

theorem failure?_eq_none {check : Except Error Unit} : failure? check = none ↔ check = .ok () := by
  unfold failure?; split <;> simp

theorem immediate?_run {s : State} :
    immediate? s .run = none ↔ s.phase = .running ∧ s.hasReceiver = true := by
  by_cases running : s.phase = .running <;> simp [immediate?, running]

theorem immediate?_enqueue {s : State} {d : Declaration} :
    immediate? s (.enqueue d) = none ↔
      d.missingField = none ∧ s.phase = .running ∧ s.hasSender = true := by
  rw [← validate_eq_ok, ← failure?_eq_none]
  simp [immediate?]

theorem immediate?_apply {s : State} {d : Declaration} :
    immediate? s (.apply d) = none ↔ s.phase ≠ .closed ∧ d.missingField = none := by
  rw [← validate_eq_ok, ← failure?_eq_none]
  by_cases closed : s.phase = .closed <;> simp [immediate?, closed]

theorem immediate?_applyBatch {s : State} {ds : List Declaration} :
    immediate? s (.applyBatch ds) = none ↔
      s.phase ≠ .closed ∧ ds ≠ [] ∧ ∀ d ∈ ds, d.missingField = none := by
  rw [← validateAll_eq_ok, ← failure?_eq_none]
  by_cases closed : s.phase = .closed <;> by_cases empty : ds = [] <;>
    simp [immediate?, closed, empty]

theorem immediate?_close {s : State} : immediate? s .close = none ↔ s.phase = .running := by
  simp [immediate?]

/-- The engine is asked for a direct write. -/
def launchWrite (s : State) (call : Nat) (write : Write) : Move :=
  ({ s with direct := s.direct ++ [⟨call, write, .first⟩] }, [.asked (.call call) write])

/-- The worker is started, if there is room for its buffer. -/
def launchRun (c : Deployment) (s : State) (call : Nat) : Move :=
  if c.Fits then
    ({ s with hasReceiver := false, hasWorker := true, consumer := .starting },
      [.started, .returned call (.ok .ok)])
  else (unmake s, [.crashed call])

/-- The batcher is told to close: the worker is told to shut down, or without a worker the caller
drains the queue, if there is room for a buffer. If nothing is left to take, the batcher is about to
be closed. -/
def launchClose (c : Deployment) (s : State) (call : Nat) : Move :=
  let t := { s with phase := .draining, hasWorker := false, hasReceiver := false }
  if s.hasWorker then ({ t with shutdown := true, closing := some call }, [])
  else if s.hasReceiver then
    if c.Fits then ({ t with consumer := .shutting (.caller call) }, [])
    else (unmake t, [.crashed call])
  else ({ t with closing := some call }, [])

/-- A call that does not end at once. -/
def launch (c : Deployment) (s : State) (call : Nat) : Operation → Move
  | .run => launchRun c s call
  | .enqueue d => ({ s with queue := s.queue.arrive ⟨call, d⟩ }, [])
  | .apply d => launchWrite s call (.single d)
  | .applyBatch ds => launchWrite s call (.bulk ds c.flushTimeout)
  | .close => launchClose c s call

/-- Begin a call. -/
def beginCall (c : Deployment) (s : State) (call : Nat) (op : Operation) : Move :=
  match immediate? s op with
  | some outcome => (s, [.returned call outcome])
  | none => launch c s call op

/-- Give a call up. A declaration on its way into the queue is withdrawn, a direct write is not
tried again, and a queue that the call was draining is lost. A worker that was told to shut down
goes on doing so. -/
def cancelCall (s : State) (call : Nat) : State :=
  let s :=
    { s with
      queue := s.queue.withdraw call
      direct := s.direct.filter fun w => w.call ≠ call
      closing := s.closing.filter (· ≠ call) }
  if s.consumer.owner? = some (.caller call) then
    { s with consumer := .ended, buffer := [], queue := s.queue.discard }
  else s

theorem cancelCall_of_drains {s : State} {call : Nat}
    (h : s.consumer.owner? = some (.caller call)) :
    cancelCall s call =
      { s with
        queue := (s.queue.withdraw call).discard
        direct := s.direct.filter fun w => w.call ≠ call
        closing := s.closing.filter (· ≠ call)
        consumer := .ended
        buffer := [] } := by
  simp only [cancelCall, if_pos h]

theorem cancelCall_of_ne {s : State} {call : Nat} (h : s.consumer.owner? ≠ some (.caller call)) :
    cancelCall s call =
      { s with
        queue := s.queue.withdraw call
        direct := s.direct.filter fun w => w.call ≠ call
        closing := s.closing.filter (· ≠ call) } := by
  simp only [cancelCall, if_neg h]

/-- When a call is given up, the consumer goes on as before or ends with it. -/
theorem consumer_cancelCall (s : State) (call : Nat) :
    (cancelCall s call).consumer = .ended ∨ (cancelCall s call).consumer = s.consumer := by
  by_cases own : s.consumer.owner? = some (.caller call)
  · exact .inl (by rw [cancelCall_of_drains own])
  · exact .inr (by rw [cancelCall_of_ne own])

@[simp] theorem phase_cancelCall (s : State) (call : Nat) :
    (cancelCall s call).phase = s.phase := by
  simp only [cancelCall]
  split <;> rfl

@[simp] theorem hasReceiver_cancelCall (s : State) (call : Nat) :
    (cancelCall s call).hasReceiver = s.hasReceiver := by
  simp only [cancelCall]
  split <;> rfl

@[simp] theorem direct_cancelCall (s : State) (call : Nat) :
    (cancelCall s call).direct = s.direct.filter fun w => w.call ≠ call := by
  simp only [cancelCall]
  split <;> rfl

/-- What is seen when an offer gets on. -/
def Passage.events (o : Offer) : Passage → List Event
  | .entered => [.accepted o, .returned o.call (.ok .ok)]
  | .waits => []
  | .refused => [.returned o.call (.error .closed)]

/-- The offer of a call gets on. -/
def send (s : State) (call : Nat) : Option Move :=
  match s.queue.offers.find? fun o => o.call = call with
  | some o => (s.queue.proceed? o).map fun (queue, p) => ({ s with queue }, p.events o)
  | none => none

/-- What a direct call gets for an answer to its write. -/
def directOutcome (write : Write) (written : Written) : Outcome :=
  match written, write with
  | .error e, _ => .error (.search e)
  | .ok s, .bulk .. => .ok (.summary s)
  | .ok _, _ => .ok .ok

/-- Set how far the direct write of a call has got. -/
def setAttempt (call : Nat) (attempt : Attempt) (ws : List Direct) : List Direct :=
  ws.map fun w => if w.call = call then { w with attempt } else w

/-- The direct write of a call. -/
def State.direct? (s : State) (call : Nat) : Option Direct :=
  s.direct.find? fun w => w.call = call

/-- The engine answers a direct call. -/
def answerDirect (c : Deployment) (s : State) (w : Direct) (written : Written) : Move :=
  match w.attempt.after s.now c.retryDelay written with
  | some attempt => ({ s with direct := setAttempt w.call attempt s.direct }, [])
  | none =>
    ({ s with direct := s.direct.filter fun v => v.call ≠ w.call },
      [.returned w.call (directOutcome w.write written)])

/-- A direct call makes its second attempt. -/
def retryDirect (s : State) (w : Direct) : Move :=
  ({ s with direct := setAttempt w.call .second s.direct }, [.asked (.call w.call) w.write])

end CatalogSearch.Batcher
