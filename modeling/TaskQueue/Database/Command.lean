import TaskQueue.Database.Datum
import TaskQueue.Entity.Task

/-!
# Commands

Everything that is asked of the database, as data. A command is written as a statement text for a
schema and the list of its arguments. Names of schemas stand in the texts as they are, so they
have to be quoted already.
-/

namespace TaskQueue

inductive Command where
  /-- Asks for a name quoted as an identifier. -/
  | quoteIdentifier (name : String)
  | lockMigrations
  | serverVersion
  | createSchema
  | createMigrations
  | lastMigration
  /-- A statement of a migration, with its schema in place. -/
  | script (text : String)
  | recordMigration (number : Int32) (breaking : Bool)
  | findQueue (ns queue : String)
  | insertQueue (ns queue : String)
  /-- Changes what is given of a queue; `setTtl` says whether its time to live is changed. -/
  | patchQueue (ns queue : String) (rename : Option String) (ttl : Option Interval)
      (retries : Option Int32) (retryDelay : Option Interval) (setTtl : Bool)
  | deleteQueue (ns queue : String)
  | countQueues (ns : String)
  | listQueues (ns : String) (offset limit : Int64)
  | queueStatus (ns : String) (queue : Option String)
  | cleanQueue (ns queue : String) (limit : Int64)
  | insertTask (ns queue : String) (payload : Json) (delayedAt : Option Timestamp)
  | findTask (ns : String) (id : Int64)
  | lockTask (ns worker : String)
  | unlockTask (ns : String) (id : Int64) (result : Json)
  | failTask (ns : String) (id : Int64) (result : Json)
  | returnTask (ns : String) (id : Int64) (worker : String)
  | countTasks (ns : String) (queue : Option String) (status : Option TaskStatus)
  | listTasks (ns : String) (queue : Option String) (status : Option TaskStatus)
      (offset limit : Int64)
  | findTicker (ns ticker : String)
  | insertTicker (ns ticker : String)
  | patchTicker (ns ticker : String) (interval : Option Interval)
  | deleteTicker (ns ticker : String)
  | countTickers (ns : String)
  | listTickers (ns : String) (offset limit : Int64)
  | nextTicker (ns : String)
deriving Repr, Inhabited

namespace Command

def queueColumns : String := "ns, queue, ttl, retries, retry_delay"

def tickerColumns : String := "ns, ticker, \"interval\", ts"

/-- The columns of a task, with the status that is derived for it. -/
def taskColumns (schema : String) : String :=
  s!"t.*, {schema}.queue_task_status(t)::text as status"

/-- A query over the tasks of a namespace, a queue or a status, with what is asked of them. -/
def taskQuery (schema projection page : String) : String :=
  s!"with q as ( select {taskColumns schema} from {schema}.task t " ++
  "where t.ns = $1 and ($2::text is null or t.queue = $2::text) ) " ++
  s!"select {projection} from q where ($3::text is null or q.status = $3::text){page}"

def sql (schema : String) : Command → String
  | quoteIdentifier _ => "select format('%I', $1::text)"
  | lockMigrations => "select pg_advisory_xact_lock(hashtext($1))"
  | serverVersion => "select current_setting('server_version_num') as server_version_num"
  | createSchema => s!"create schema if not exists {schema};"
  | createMigrations =>
    s!"create table if not exists {schema}.migrations ( id int primary key, " ++
    "ts timestamptz default now() not null, breaking boolean not null default false );"
  | lastMigration =>
    s!"select (select id from {schema}.migrations order by id desc limit 1) as id, " ++
    s!"(select id from {schema}.migrations where breaking is true order by id desc limit 1) " ++
    "as biggest_breaking_id;"
  | script text => text
  | recordMigration _ _ => s!"insert into {schema}.migrations (id, breaking) values ($1, $2)"
  | findQueue _ _ => s!"select {queueColumns} from {schema}.queue where ns = $1 and queue = $2;"
  | insertQueue _ _ =>
    s!"insert into {schema}.queue (ns, queue) values ($1, $2) on conflict (ns, queue) do nothing;"
  | patchQueue .. =>
    s!"update {schema}.queue set queue = coalesce($3::text, queue), " ++
    "ttl = case when $7::boolean then $4::interval else ttl end, " ++
    "retries = coalesce($5::integer, retries), " ++
    "retry_delay = coalesce($6::interval, retry_delay) " ++
    s!"where ns = $1 and queue = $2 returning {queueColumns};"
  | deleteQueue _ _ =>
    s!"delete from {schema}.queue where ns = $1 and queue = $2 returning {queueColumns};"
  | countQueues _ => s!"select count(*) from {schema}.queue where ns = $1;"
  | listQueues .. =>
    s!"select {queueColumns} from {schema}.queue where ns = $1 order by queue offset $2 limit $3;"
  | queueStatus _ _ =>
    s!"select queue, status::text as status, count from {schema}.queue_status " ++
    "where ns = $1 and ($2::text is null or queue = $2::text) order by queue, status;"
  | cleanQueue .. =>
    s!"select {taskColumns schema} from {schema}.queue_clean($1, $2, $3) t " ++
    "order by t.created_at, t.id;"
  | insertTask .. => s!"select {schema}.queue_insert($1, $2, $3, $4);"
  | findTask _ _ =>
    s!"select {taskColumns schema} from {schema}.task t where t.ns = $1 and t.id = $2;"
  | lockTask _ _ => s!"select {schema}.queue_lock($1, $2);"
  | unlockTask .. => s!"select {schema}.queue_unlock($1, $2, $3);"
  | failTask .. => s!"select {schema}.queue_fail($1, $2, $3);"
  | returnTask .. => s!"select {schema}.queue_return($1, $2, $3);"
  | countTasks .. => taskQuery schema "count(*)" ""
  | listTasks .. => taskQuery schema "q.*" " order by q.created_at, q.id offset $4 limit $5"
  | findTicker _ _ =>
    s!"select {tickerColumns} from {schema}.ticker where ns = $1 and ticker = $2;"
  | insertTicker _ _ =>
    s!"insert into {schema}.ticker (ns, ticker) values ($1, $2) " ++
    "on conflict (ns, ticker) do nothing;"
  | patchTicker .. =>
    s!"update {schema}.ticker set \"interval\" = coalesce($3::interval, \"interval\"), " ++
    s!"ts = null where ns = $1 and ticker = $2 returning {tickerColumns};"
  | deleteTicker _ _ =>
    s!"delete from {schema}.ticker where ns = $1 and ticker = $2 returning {tickerColumns};"
  | countTickers _ => s!"select count(*) from {schema}.ticker where ns = $1;"
  | listTickers .. =>
    s!"select {tickerColumns} from {schema}.ticker where ns = $1 order by ticker " ++
    "offset $2 limit $3;"
  | nextTicker _ => s!"select {tickerColumns} from {schema}.ticker_next($1);"

def int64 (n : Int64) : Datum := .int n.toInt

/-- The name of the lock that keeps two migrations of a schema apart. -/
def migrationLock (schema : String) : String :=
  "pgqueue_migrate:" ++ schema

/-- The arguments of a command for a schema, in the order in which its text numbers them. -/
def args (schema : String) : Command → List Datum
  | quoteIdentifier name => [.text name]
  | lockMigrations => [.text (migrationLock schema)]
  | serverVersion | createSchema | createMigrations | lastMigration | script _ => []
  | recordMigration number breaking => [.int number.toInt, .bool breaking]
  | findQueue ns queue | insertQueue ns queue | deleteQueue ns queue => [.text ns, .text queue]
  | patchQueue ns queue rename ttl retries retryDelay setTtl =>
    [.text ns, .text queue, .ofOption .text rename, .ofOption .interval ttl,
      .ofOption (fun n => .int n.toInt) retries, .ofOption .interval retryDelay, .bool setTtl]
  | countQueues ns | countTickers ns | nextTicker ns => [.text ns]
  | listQueues ns offset limit | listTickers ns offset limit =>
    [.text ns, int64 offset, int64 limit]
  | queueStatus ns queue => [.text ns, .ofOption .text queue]
  | cleanQueue ns queue limit => [.text ns, .text queue, int64 limit]
  | insertTask ns queue payload delayedAt =>
    [.text ns, .text queue, .json payload, .ofOption .timestamp delayedAt]
  | findTask ns id => [.text ns, int64 id]
  | lockTask ns worker => [.text ns, .text worker]
  | unlockTask ns id result | failTask ns id result => [.text ns, int64 id, .json result]
  | returnTask ns id worker => [.text ns, int64 id, .text worker]
  | countTasks ns queue status =>
    [.text ns, .ofOption .text queue, .ofOption (fun s => .text s.name) status]
  | listTasks ns queue status offset limit =>
    [.text ns, .ofOption .text queue, .ofOption (fun s => .text s.name) status, int64 offset,
      int64 limit]
  | findTicker ns ticker | insertTicker ns ticker | deleteTicker ns ticker =>
    [.text ns, .text ticker]
  | patchTicker ns ticker interval => [.text ns, .text ticker, .ofOption .interval interval]

end Command

structure Statement where
  schema : String
  command : Command
deriving Repr, Inhabited

namespace Statement

def sql (s : Statement) : String := s.command.sql s.schema

def args (s : Statement) : List Datum := s.command.args s.schema

end Statement

end TaskQueue
