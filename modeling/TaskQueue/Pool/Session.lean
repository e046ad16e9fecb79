import TaskQueue.Pool.Crew

/-!
# Sessions with a pool

A session is what one client does with a pool: it submits jobs, sleeps, cancels and closes, one
after the other. The clock stands still while anything can happen, and then goes to the next
instant for which something is set. A submission holds the client up until it is answered, unless
the client leaves it to itself; a session ends with the pool closed and drained.
-/

namespace TaskQueue

inductive ClientStep where
  /-- Submits a job; `spawned` leaves the submission to itself. -/
  | submit (submission : Submission) (spawned : Bool)
  | sleep (millis : Nat)
  | cancel
  | close
deriving Repr, Inhabited

/-- How many instants are set while a step is done: each sleep of each callback, and each time
limit. -/
def ClientStep.instants : ClientStep → Nat
  | .submit { work := .callback callback _, .. } _ => callback.steps.length + 2
  | _ => 2

inductive StepOutcome where
  /-- A job was submitted; its place among the jobs. -/
  | submitted (job : Nat)
  | nothing
  | closed (instant : Instant)
deriving Repr

structure PoolSession where
  now : Instant := 0
  crew : Crew

namespace PoolSession

/-- Lets everything happen that can happen at this instant. -/
def settle (s : PoolSession) : PoolSession :=
  { s with crew := s.crew.settle s.now }

/-- Moves the clock to the next instant for which something is set, but not beyond a given one.
There is none if nothing is set and no instant given. -/
def tick? (s : PoolSession) (until? : Option Instant) : Option PoolSession :=
  match s.crew.nextTimer?, until? with
  | some timer, some target => some { s with now := max s.now (min timer target) }
  | some timer, none => some { s with now := max s.now timer }
  | none, some target => some { s with now := max s.now target }
  | none, none => none

/-- Lets time pass until a condition holds when everything is settled; the clock is moved at most
`fuel` times. -/
def waitFor (enough : PoolSession → Bool) (until? : Option Instant) :
    Nat → PoolSession → PoolSession
  | 0, s => s
  | fuel + 1, s =>
    let s := s.settle
    if enough s then s
    else
      match s.tick? until? with
      | some s => waitFor enough until? fuel s
      | none => s

def isAnswered (i : Nat) (s : PoolSession) : Bool :=
  (s.crew.pool.jobs[i]?).any fun j => !j.isWaiting

def isDrained (s : PoolSession) : Bool := s.crew.pool.isDrained

/-- Answers the call of the last job at once if it can be answered: it is refused, or admitted
without giving way to anything else. -/
def answerNow (s : PoolSession) : PoolSession :=
  let moves := s.crew.pool.indices.map Pool.Move.refuse ++ [Pool.Move.enqueue]
  match moves.findSome? fun m => s.crew.step? s.now m with
  | some crew => { s with crew }
  | none => s

def tell (s : PoolSession) (m : Pool.Move Work) : PoolSession :=
  { s with crew := (s.crew.step? s.now m).getD s.crew }

/-- What follows the call for a job: the client leaves it to itself, or waits for the answer. -/
def await? (fuel : Nat) (s : PoolSession) (i : Nat) (spawned : Bool) :
    Option (PoolSession × StepOutcome) :=
  if spawned then some (s.settle, .submitted i)
  else
    let s := s.answerNow
    if s.isAnswered i then some (s, .submitted i)
    else
      let s := s.waitFor (isAnswered i) none fuel
      if s.isAnswered i then some (s, .submitted i) else none

/-- Does one step of a client. There is no session after it if a time limit lies beyond the
clock, nor if the client is held up for ever. -/
def step? (fuel : Nat) (s : PoolSession) : ClientStep → Option (PoolSession × StepOutcome)
  | .submit job spawned =>
    (s.crew.call? s.now job).bind fun crew =>
      { s with crew }.await? fuel s.crew.pool.jobs.length spawned
  | .sleep millis =>
    let target := s.now + Instant.ofMillis millis
    if millis = 0 then some (s, .nothing)
    else some (s.waitFor (fun s => target ≤ s.now) (some target) fuel, .nothing)
  | .cancel => some (s.tell .cancel, .nothing)
  | .close =>
    let s := (s.tell .close).waitFor isDrained none fuel
    if s.isDrained then some (s, .closed s.now) else none

/-- Does the steps of a client, and then closes the pool. -/
def runSteps (fuel : Nat) (s : PoolSession) :
    List ClientStep → Option (PoolSession × List StepOutcome)
  | [] => do
    let (s, last) ← s.step? fuel .close
    return (s, [last])
  | step :: steps => do
    let (s, outcome) ← s.step? fuel step
    let (s, outcomes) ← runSteps fuel s steps
    return (s, outcome :: outcomes)

/-- Runs a session with a pool of the given size: what each step came to, and last of all the
closing of the pool. There is no such session if a time limit lies beyond the clock, or if a step
never comes to an end. -/
def run? (size : Nat) (steps : List ClientStep) : Option (PoolSession × List StepOutcome) :=
  let fuel := (steps.map ClientStep.instants).foldl (· + ·) 2
  runSteps fuel { crew := .ofSize size } steps

end PoolSession

end TaskQueue
