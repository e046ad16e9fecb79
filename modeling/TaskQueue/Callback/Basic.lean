import TaskQueue.Callback.ErrorValue
import TaskQueue.Pool.Failure
import TaskQueue.Time.Instant

/-!
# Callbacks

A callback is described by what can be seen of it from outside: it waits, for some time or until
it is told to stop, and then ends well, fails or panics. The description is run by looking at it
again and again: it goes on as far as it can at that instant, and says where it waits.
-/

namespace TaskQueue

inductive CallbackStep where
  | sleep (millis : Nat)
  /-- Waits until it is told to stop. -/
  | waitCancel
  /-- Waits some milliseconds, or until it is told to stop if that is earlier. -/
  | sleepOrCancel (millis : Nat)
deriving Repr, DecidableEq

inductive CallbackEnd where
  | ok
  | error (value : ErrorValue)
  /-- It panics, with a text or with something else. -/
  | panic (text : Option String)
deriving Repr, Inhabited

namespace CallbackEnd

def wordlessPanic : String := "unknown panic payload"

/-- The reason why a run fails that ends this way, if it fails. -/
def failure? : CallbackEnd → Option Failure
  | ok => none
  | error value => some (.callback value.render)
  | panic text => some (.panic (text.getD wordlessPanic))

end CallbackEnd

structure Callback where
  steps : List CallbackStep := []
  ending : CallbackEnd := .ok
deriving Repr, Inhabited

/-- How far a callback has come: what it has still to do, the instant at which its present sleep
ends, and whether a sleep of it was cut short. -/
structure CallbackProgress where
  steps : List CallbackStep
  wakes : Option Instant := none
  interrupted : Bool := false
deriving Repr, Inhabited

namespace CallbackProgress

def start (c : Callback) : CallbackProgress :=
  { steps := c.steps }

def isDone (p : CallbackProgress) : Bool := p.steps.isEmpty

def advance (now : Instant) (cancelled : Bool) :
    List CallbackStep → Option Instant → Bool → CallbackProgress
  | [], _, interrupted => ⟨[], none, interrupted⟩
  | .sleep millis :: rest, wakes, interrupted =>
    let ends := wakes.getD (now + Instant.ofMillis millis)
    if ends ≤ now then advance now cancelled rest none interrupted
    else ⟨.sleep millis :: rest, some ends, interrupted⟩
  | .waitCancel :: rest, _, interrupted =>
    if cancelled then advance now cancelled rest none interrupted
    else ⟨.waitCancel :: rest, none, interrupted⟩
  | .sleepOrCancel millis :: rest, wakes, interrupted =>
    let ends := wakes.getD (now + Instant.ofMillis millis)
    if cancelled then advance now cancelled rest none true
    else if ends ≤ now then advance now cancelled rest none interrupted
    else ⟨.sleepOrCancel millis :: rest, some ends, interrupted⟩

/-- Looks at a callback at an instant: it goes on as far as it can. -/
def poll (now : Instant) (cancelled : Bool) (p : CallbackProgress) : CallbackProgress :=
  advance now cancelled p.steps p.wakes p.interrupted

end CallbackProgress

end TaskQueue
