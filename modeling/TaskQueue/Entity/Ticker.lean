import TaskQueue.Time.Timestamp

/-!
# Tickers

A ticker fires again and again, an interval after it last fired.
-/

namespace TaskQueue

structure Ticker where
  ns : String
  ticker : String
  interval : Option Span
  ts : Option Timestamp
deriving DecidableEq, Repr, Inhabited

namespace Ticker

def fresh (ns ticker : String) (interval : Option Span) : Ticker :=
  ⟨ns, ticker, interval, none⟩

end Ticker

structure TickerPatch where
  ticker : String
  interval : Option Span := none
deriving DecidableEq, Repr, Inhabited

def defaultTickerPeriod : Span := .ofSecs 15

end TaskQueue
