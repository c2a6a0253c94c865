import CatalogSearch.Batcher.Step
import CatalogSearch.Simulation.Backend

/-!
# A world with a virtual clock

A batcher, a simulated engine and the tasks of callers in one world, whose time moves only when
nothing can be done, and then to the next timer. Whatever can be done at one time is done in a
fixed order, so a world has one course.

## Main definitions

* `Step`: what a caller can do; `Task`: a step that is under way.
* `World.progress?`: do one thing that can be done now.
* `World.carryOut`: do a step to its end, or to its time limit.
* `World.perform`: do a step and everything else that can be done by then.
-/

namespace CatalogSearch.Simulation

open Batcher (Operation Outcome)

/-- What a caller does in a world with engine states `σ`, with a result of type `ρ`. -/
inductive Step (σ ρ : Type) where
  /-- Hold a dialogue with the engine. -/
  | read (dialogue : Dialogue ρ)
  /-- Make one request of the engine. -/
  | request (request : Request) (present : Response → ρ)
  /-- Ask the batcher for something. -/
  | operate (op : Operation) (present : Outcome → ρ)
  /-- Queue declarations one after the other. -/
  | enqueueAll (ds : List Declaration) (present : List Outcome → ρ)
  /-- Look at the engine. -/
  | inspect (present : σ → ρ)
  /-- Let time pass. -/
  | sleep (ms : Nat) (result : ρ)
  /-- Start a named task that does a step within a time limit. -/
  | spawn (name : String) (step : Step σ ρ) (limit : Option (Nat × ρ)) (result : ρ)
  /-- See whether a named task has ended. -/
  | isDone (name : String) (present : Bool → ρ)
  /-- Wait for the result of a named task. -/
  | join (name : String)

/-- What a task is waiting for. -/
inductive Activity (ρ : Type) where
  /-- The engine's answer to a question. -/
  | reading (next : Reply → Dialogue ρ)
  /-- The engine's answer to a request. -/
  | requesting (present : Response → ρ)
  /-- The end of a call. -/
  | calling (call : Nat) (present : Outcome → ρ)
  /-- The end of a call, if one is under way, before further declarations are queued. -/
  | queueing (call : Option Nat) (rest : List Declaration) (outcomes : List Outcome)
      (present : List Outcome → ρ)
  /-- A time. -/
  | sleeping (wake : Nat) (result : ρ)
  /-- The end of a named task. -/
  | joining (name : String)
  /-- Nothing: it has ended. -/
  | ended (result : ρ)

/-- A step that is under way. -/
structure Task (ρ : Type) where
  id : Nat
  name : Option String
  /-- The time at which it is given up, and the result it has then. -/
  deadline : Option (Nat × ρ)
  activity : Activity ρ

/-- Who has asked the engine. -/
inductive Origin where
  | batcher (who : Batcher.Asker)
  | task (id : Nat)
  deriving DecidableEq

/-- A request that the engine has not answered. -/
structure Pending (τ : Type) where
  origin : Origin
  ticket : τ
  /-- When it is answered, if ever. -/
  due : Option Nat

/-- A world. -/
structure World (σ τ ρ : Type) where
  config : Batcher.Config
  backend : Backend σ τ
  batcher : Batcher.State
  engine : σ
  pending : List (Pending τ)
  tasks : List (Task ρ)
  /-- How many calls and tasks there have been. -/
  counter : Nat

namespace World

variable {σ τ ρ : Type}

/-- A configuration on the machine of a world: a common one, but for its queues, which can be as
large as they are asked for. -/
def deploy (config : Batcher.Config) : Batcher.Deployment :=
  ⟨config, { Batcher.Machine.common with slots := config.capacity }, Nat.le_refl _⟩

/-- A world in which nothing has happened. -/
def initial (config : Batcher.Config) (backend : Backend σ τ) (engine : σ) : World σ τ ρ :=
  { config, backend, batcher := .initial (deploy config), engine, pending := [], tasks := []
    counter := 0 }

/-- The time. -/
def now (w : World σ τ ρ) : Nat := w.batcher.now

/-- Change what a task is waiting for. -/
def setActivity (w : World σ τ ρ) (id : Nat) (activity : Activity ρ) : World σ τ ρ :=
  { w with tasks := w.tasks.map fun t => if t.id = id then { t with activity } else t }

/-- What a task is waiting for. -/
def activity? (w : World σ τ ρ) (id : Nat) : Option (Activity ρ) :=
  (w.tasks.find? fun t => t.id = id).map Task.activity

/-- The result of an activity that has ended. -/
def Activity.result? : Activity ρ → Option ρ
  | .ended r => some r
  | _ => none

/-- The result of a task that has ended. -/
def result? (w : World σ τ ρ) (id : Nat) : Option ρ := (w.activity? id).bind Activity.result?

/-- The result of a named task that has ended. -/
def namedResult? (w : World σ τ ρ) (name : String) : Option ρ :=
  (w.tasks.find? fun t => t.name = some name).bind fun t => Activity.result? t.activity

/-- The engine is asked. -/
def ask (w : World σ τ ρ) (origin : Origin) (request : Request) : World σ τ ρ :=
  let (engine, ticket, due) := w.backend.receive w.engine w.now request
  { w with engine, pending := w.pending ++ [⟨origin, ticket, due⟩] }

/-- A task goes on with a dialogue. -/
def converse (w : World σ τ ρ) (id : Nat) : Dialogue ρ → World σ τ ρ
  | .done r => w.setActivity id (.ended r)
  | .ask q next => (w.setActivity id (.reading next)).ask (.task id) (.read q)

/-- A call of the batcher has ended. -/
def endCall (w : World σ τ ρ) (call : Nat) (outcome : Outcome) : World σ τ ρ :=
  { w with
    tasks := w.tasks.map fun t =>
      match t.activity with
      | .calling c present =>
        if c = call then { t with activity := .ended (present outcome) } else t
      | .queueing (some c) rest outcomes present =>
        if c = call then { t with activity := .queueing none rest (outcomes ++ [outcome]) present }
        else t
      | _ => t }

/-- A call of the batcher has crashed, and with it the task that made it. -/
def crash (w : World σ τ ρ) (call : Nat) : World σ τ ρ :=
  { w with
    tasks := w.tasks.filter fun t =>
      match t.activity with
      | .calling c _ => c ≠ call
      | _ => true }

/-- What an event of the batcher means to the world. -/
def see (w : World σ τ ρ) : Batcher.Event → World σ τ ρ
  | .asked who write => w.ask (.batcher who) (.write write)
  | .returned call outcome => w.endCall call outcome
  | .crashed call => w.crash call
  | .begun .. | .cancelled _ | .started | .accepted _ | .taken _ | .flushed .. => w

/-- Something happens to the batcher. -/
def act? (w : World σ τ ρ) (a : Batcher.Action) : Option (World σ τ ρ) :=
  (Batcher.step (deploy w.config) w.batcher a).map fun (batcher, events) =>
    events.foldl see { w with batcher }

/-- Something happens to the batcher, if it can. -/
def act (w : World σ τ ρ) (a : Batcher.Action) : World σ τ ρ := (w.act? a).getD w

/-- A task makes a call of the batcher. An offer to the queue gets on as far as it can. -/
def call (w : World σ τ ρ) (call : Nat) (op : Operation) : World σ τ ρ :=
  (w.act (.begin call op)).act (.send call)

/-- A new number for a call or a task. -/
def fresh (w : World σ τ ρ) : Nat × World σ τ ρ := (w.counter, { w with counter := w.counter + 1 })

/-- A task queues the next of its declarations. -/
def queueNext (w : World σ τ ρ) (id : Nat) (d : Declaration) (rest : List Declaration)
    (outcomes : List Outcome) (present : List Outcome → ρ) : World σ τ ρ :=
  let (call, w) := w.fresh
  (w.setActivity id (.queueing (some call) rest outcomes present)).call call (.enqueue d)

/-- Add a task that waits for something, with a time limit if there is one. -/
def addTask (w : World σ τ ρ) (name : Option String) (limit : Option (Nat × ρ))
    (activity : Activity ρ) : Nat × World σ τ ρ :=
  let (id, w) := w.fresh
  let deadline := limit.map fun (ms, late) => (w.now + ms, late)
  (id, { w with tasks := w.tasks ++ [⟨id, name, deadline, activity⟩] })

/-- Begin a step as a new task. -/
def start (w : World σ τ ρ) (name : Option String) (limit : Option (Nat × ρ)) :
    Step σ ρ → Nat × World σ τ ρ
  | .read (.done r) => w.addTask name limit (.ended r)
  | .read (.ask q next) =>
    let (id, w) := w.addTask name limit (.reading next)
    (id, w.ask (.task id) (.read q))
  | .request r present =>
    let (id, w) := w.addTask name limit (.requesting present)
    (id, w.ask (.task id) r)
  | .operate op present =>
    let (call, w) := w.fresh
    let (id, w) := w.addTask name limit (.calling call present)
    (id, w.call call op)
  | .enqueueAll ds present => w.addTask name limit (.queueing none ds [] present)
  | .inspect present => w.addTask name limit (.ended (present w.engine))
  | .sleep ms result => w.addTask name limit (.sleeping (w.now + ms) result)
  | .spawn inner step innerLimit result =>
    let (_, w) := w.start (some inner) innerLimit step
    w.addTask name limit (.ended result)
  | .isDone other present =>
    w.addTask name limit (.ended (present (w.namedResult? other).isSome))
  | .join other => w.addTask name limit (.joining other)

/-! ## Doing what can be done -/

/-- Whether whoever made a request still waits for its answer. -/
def awaits (w : World σ τ ρ) : Origin → Bool
  | .batcher .flush =>
    match w.batcher.consumer with
    | .flushing f => f.attempt.awaits
    | _ => false
  | .batcher (.call call) =>
    (w.batcher.direct.find? fun d => d.call = call).any fun d => d.attempt.awaits
  | .task id =>
    match w.activity? id with
    | some (.reading _) | some (.requesting _) => true
    | _ => false

/-- A task is given up. The engine no longer answers requests that nobody waits for. -/
def giveUp (w : World σ τ ρ) (t : Task ρ) (late : ρ) : World σ τ ρ :=
  let w := match t.activity with
    | .calling call _ => w.act (.cancel call)
    | .queueing (some call) _ _ _ => w.act (.cancel call)
    | _ => w
  let w := w.setActivity t.id (.ended late)
  { w with pending := w.pending.filter fun p => w.awaits p.origin }

/-- The engine answers a request. -/
def deliver (w : World σ τ ρ) (p : Pending τ) : World σ τ ρ :=
  let (engine, response) := w.backend.answer w.engine p.ticket
  let w := { w with engine }
  match p.origin, response with
  | .batcher who, .write written => w.act (.answer who written)
  | .batcher _, _ => w
  | .task id, response =>
    match w.activity? id, response with
    | some (.reading next), .read reply => w.converse id (next reply)
    | some (.requesting present), response => w.setActivity id (.ended (present response))
    | _, _ => w

/-- Whether a time has come. -/
def isDue (w : World σ τ ρ) (time : Option Nat) : Bool := time.any (· ≤ w.now)

/-- A task goes on by itself. -/
def continueTask (w : World σ τ ρ) (t : Task ρ) : Option (World σ τ ρ) :=
  match t.activity with
  | .queueing none [] outcomes present => some (w.setActivity t.id (.ended (present outcomes)))
  | .queueing none (d :: rest) outcomes present =>
    some (w.queueNext t.id d rest outcomes present)
  | .sleeping wake result =>
    if wake ≤ w.now then some (w.setActivity t.id (.ended result)) else none
  | .joining name => (w.namedResult? name).map fun r => w.setActivity t.id (.ended r)
  | _ => none

/-- The first request that is due is answered. -/
def deliverNext (w : World σ τ ρ) : Option (World σ τ ρ) :=
  match w.pending.span fun p => !w.isDue p.due with
  | (_, []) => none
  | (before, p :: after) => some ({ w with pending := before ++ after }.deliver p)

/-- The first task whose time is up is given up. -/
def giveUpNext (w : World σ τ ρ) : Option (World σ τ ρ) :=
  w.tasks.findSome? fun t =>
    match t.activity, t.deadline with
    | .ended _, _ => none
    | _, some (time, late) => if time ≤ w.now then some (w.giveUp t late) else none
    | _, none => none

/-- Do one thing that can be done now: a task goes on, the engine answers, the batcher does what it
has to do, the engine does something by itself, or a task is given up. -/
def progress? (w : World σ τ ρ) : Option (World σ τ ρ) :=
  w.tasks.findSome? w.continueTask <|>
    w.deliverNext <|>
    (Batcher.ready w.batcher).bind w.act? <|>
    (if w.isDue (w.backend.nextTimer w.engine) then
      some { w with engine := w.backend.fire w.engine w.now }
    else none) <|>
    w.giveUpNext

/-- More things than can be done at one time. Every declaration on its way is queued, taken and
flushed, and a flush takes two attempts. -/
def effort (w : World σ τ ρ) : Nat :=
  let onTheWay := w.tasks.map fun t =>
    match t.activity with
    | .queueing _ rest _ _ => rest.length + 1
    | _ => 1
  16 * (onTheWay.foldl (· + ·) 0 + w.pending.length + w.batcher.queue.items.length +
    w.batcher.queue.offers.length + w.batcher.buffer.length + w.batcher.direct.length + 8)

/-- Do at most so many things that can be done now, up to a point. -/
def settleWithin (w : World σ τ ρ) (reached : World σ τ ρ → Bool) : Nat → World σ τ ρ
  | 0 => w
  | fuel + 1 =>
    if reached w then w
    else
      match w.progress? with
      | some w => w.settleWithin reached fuel
      | none => w

/-- Do everything that can be done now. -/
def settle (w : World σ τ ρ) : World σ τ ρ := w.settleWithin (fun _ => false) w.effort

/-- Do what can be done now until a task has ended. -/
def settleUntil (w : World σ τ ρ) (id : Nat) : World σ τ ρ :=
  w.settleWithin (fun w => (w.result? id).isSome) w.effort

/-! ## Letting time pass -/

/-- The times at which something is due. -/
def timers (w : World σ τ ρ) : List Nat :=
  Batcher.timers w.batcher ++ w.pending.filterMap Pending.due ++
    (w.backend.nextTimer w.engine).toList ++
    w.tasks.flatMap fun t =>
      match t.activity with
      | .ended _ => []
      | .sleeping wake _ => wake :: (t.deadline.map Prod.fst).toList
      | _ => (t.deadline.map Prod.fst).toList

/-- The next timer after a time, but not past a limit. -/
def nextTime (w : World σ τ ρ) (time limit : Nat) : Nat :=
  (w.timers.filter (time < ·)).foldl min limit

/-- Let time pass until a task has ended, but not past a limit. -/
def runUntil (w : World σ τ ρ) (id time limit : Nat) : World σ τ ρ :=
  let settled := w.settleUntil id
  if (settled.result? id).isSome then settled
  else
    let next := settled.nextTime time limit
    if _later : time < next ∧ next ≤ limit then
      if Batcher.mayPass settled.batcher next then
        match settled.act? (.advance next) with
        | some moved => moved.runUntil id next limit
        | none => settled
      else settled
    else settled
termination_by limit - time
decreasing_by
  exact Nat.sub_lt_sub_left (Nat.lt_of_lt_of_le _later.1 _later.2) _later.1

/-- The time by which a task has ended. -/
def horizon (w : World σ τ ρ) (id : Nat) : Nat :=
  match w.tasks.find? fun t => t.id = id with
  | none => w.now
  | some t =>
    match t.deadline, t.activity with
    | some (time, _), _ => time
    | none, .sleeping wake _ => wake
    | none, _ => w.now

/-- Do a step to its end, within a time limit if there is one, and nothing after that. -/
def carryOut (w : World σ τ ρ) (limit : Option (Nat × ρ)) (step : Step σ ρ) :
    Option ρ × World σ τ ρ :=
  let (id, w) := w.start none limit step
  let w := w.runUntil id w.now (w.horizon id)
  (w.result? id, { w with tasks := w.tasks.filter fun t => t.id ≠ id })

/-- Do a step to its end and then everything else that can be done at that time. -/
def perform (w : World σ τ ρ) (limit : Option (Nat × ρ)) (step : Step σ ρ) :
    Option ρ × World σ τ ρ :=
  let (result, w) := w.carryOut limit step
  (result, w.settle)

end World

end CatalogSearch.Simulation
