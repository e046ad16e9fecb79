import TaskQueue.Time.Instant

/-!
# Shutting down

A cancellation that follows a signal: it happens with the signal, or earlier when it is cancelled
by hand. The signals of the system that ask a process to end count as signals to shut down.
-/

namespace TaskQueue.Shutdown

def signals : List String := ["SIGINT", "SIGTERM", "SIGHUP", "SIGQUIT"]

/-- Whether a cancellation that follows a signal has happened by an instant. Either of the two may
never come. -/
def isCancelledAt (signalAt cancelAt : Option Instant) (now : Instant) : Bool :=
  signalAt.any (· ≤ now) || cancelAt.any (· ≤ now)

/-- Whether a cancellation that follows the signals to shut down has happened after the given
signals were raised. -/
def isCancelledAfter (raised : List String) : Bool :=
  raised.any signals.contains

end TaskQueue.Shutdown
