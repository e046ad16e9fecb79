import TaskQueue.Database.Query
import TaskQueue.Entity.Page
import TaskQueue.Entity.Ticker

/-!
# The tickers of the database

Queries on tickers, and the reading of a ticker from a row.
-/

namespace TaskQueue

namespace Ticker

def ofRow : RowReader Ticker := fun row => do
  let interval ← row.optional "interval" Datum.interval?
  let ns ← row.required "ns" Datum.text?
  let ticker ← row.required "ticker" Datum.text?
  let ts ← row.optional "ts" Datum.timestamp?
  return { ns, ticker, interval := interval.map Interval.toSpan, ts }

end Ticker

namespace TickerTable

def find (schema ns ticker : String) : Query (Option Ticker) :=
  Query.fetchOptional ⟨schema, .findTicker ns ticker⟩ Ticker.ofRow

/-- Adds a ticker with the usual interval unless it exists. Whether it was added. -/
def insert (schema ns ticker : String) : Query Bool :=
  Query.execute ⟨schema, .insertTicker ns ticker⟩

/-- Changes the interval of a ticker if one is given, and forgets when it last fired. -/
def patch (schema ns ticker : String) (interval : Option Interval) : Query (Option Ticker) :=
  Query.fetchOptional ⟨schema, .patchTicker ns ticker interval⟩ Ticker.ofRow

def delete (schema ns ticker : String) : Query (Option Ticker) :=
  Query.fetchOptional ⟨schema, .deleteTicker ns ticker⟩ Ticker.ofRow

def count (schema ns : String) : Query Int64 :=
  Query.fetchOne ⟨schema, .countTickers ns⟩ (Row.first Datum.int64?)

def list (schema ns : String) (page : Page) : Query (List Ticker) :=
  Query.fetchAll ⟨schema, .listTickers ns page.bounds.1 page.bounds.2⟩ Ticker.ofRow

def next (schema ns : String) : Query (Option Ticker) :=
  Query.fetchOptional ⟨schema, .nextTicker ns⟩ Ticker.ofRow

end TickerTable

end TaskQueue
