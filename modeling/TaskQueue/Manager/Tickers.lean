import TaskQueue.Manager.Basic
import TaskQueue.Table.Ticker

/-!
# Operations on tickers

Registering, finding, listing, changing, deleting and claiming tickers. A ticker whose interval is
changed, or that is registered again, fires on the next poll.
-/

namespace TaskQueue

namespace Listing

/-- A count of the database as the count of a listing, which is not negative. -/
def countOf (n : Int64) : UInt64 :=
  UInt64.ofNat n.toInt.toNat

end Listing

namespace Manager

def tickerThing (name : String) : String := s!"ticker {name}"

def patchInterval (interval : Option Span) : Action (Option Interval) :=
  Operation.ofExcept (interval.mapM OperationError.interval)

/-- Creates a ticker, or changes its interval if one is given. -/
def registerTicker (m : Manager) (patch : TickerPatch) : Action Ticker := do
  let name ← Action.name "ticker" patch.ticker
  Action.transaction do
    let _ ← Action.ofQuery (TickerTable.insert m.schema m.ns name)
    let interval ← patchInterval patch.interval
    let ticker ← Action.found (tickerThing name) (TickerTable.patch m.schema m.ns name interval)
    return .keep ticker

def getTicker (m : Manager) (name : String) : Action Ticker := do
  let name ← Action.name "ticker" name
  Action.found (tickerThing name) (TickerTable.find m.schema m.ns name)

def listTickers (m : Manager) (page : Page) : Action (Listing Ticker) :=
  Action.transaction do
    let count ← Action.ofQuery (TickerTable.count m.schema m.ns)
    let body ← Action.ofQuery (TickerTable.list m.schema m.ns page)
    return .keep { count := Listing.countOf count, body }

def updateTicker (m : Manager) (name : String) (patch : TickerPatch) : Action Ticker := do
  let name ← Action.name "ticker" name
  if patch.interval.isNone then
    throw (.badRequest s!"Nothing to update on ticker {name}")
  let interval ← patchInterval patch.interval
  Action.found (tickerThing name) (TickerTable.patch m.schema m.ns name interval)

def deleteTicker (m : Manager) (name : String) : Action Ticker := do
  let name ← Action.name "ticker" name
  Action.found (tickerThing name) (TickerTable.delete m.schema m.ns name)

/-- Claims the ticker that is due first, if one is due. -/
def nextTicker (m : Manager) : Action (Option Ticker) :=
  Action.ofQuery (TickerTable.next m.schema m.ns)

def everything : Page := { limit := 18446744073709551615 }

/-- The cleanup tickers of the queues of the namespace. -/
def cleanupTickers (m : Manager) : Action (Listing Ticker) := do
  let start := CleanupTicker.name m.ns ""
  let all ← m.cleanup.listTickers everything
  let body := all.body.filter fun t => start.isPrefixOf t.ticker
  return { count := UInt64.ofNat body.length, body }

end Manager

end TaskQueue
