/-!
# Statements of the migrations

The statements that create the tables, the types and the functions of a schema, line by line. The
name of the schema is left open: it goes where the placeholder stands.
-/

namespace TaskQueue.Migration

/-- What stands in a statement where the name of the schema goes. -/
def placeholder : String := ":PGQUEUE_SCHEMA"

/-! ## Tables -/

def createQueueTable : List String := [
  "create table :PGQUEUE_SCHEMA.queue (",
  "    ns text not null,",
  "    queue text not null,",
  "    ttl interval default interval '1 hour',",
  "    retries integer not null default 3 check (retries >= 0),",
  "    retry_delay interval not null default interval '2 minutes',",
  "    primary key (ns, queue)",
  ");"]

def createTaskTable : List String := [
  "create table :PGQUEUE_SCHEMA.task (",
  "    id bigserial primary key,",
  "    ns text not null,",
  "    queue text not null,",
  "    payload jsonb not null default '\x7b\x7d',",
  "    result jsonb not null default 'null',",
  "    worker text,",
  "    created_at timestamptz not null default now(),",
  "    delayed_at timestamptz,",
  "    started_at timestamptz,",
  "    finished_at timestamptz,",
  "    dies_at timestamptz,",
  "    retries integer not null,",
  "    initial_retries integer not null,",
  "    foreign key (ns, queue) references :PGQUEUE_SCHEMA.queue (ns, queue)",
  "        on update cascade on delete cascade",
  ");"]

def createQueueIndex : List String := [
  "create index task_ns_queue_idx on :PGQUEUE_SCHEMA.task (ns, queue);"]

def createUnstartedIndex : List String := [
  "create index task_ns_created_at_unstarted_idx",
  "    on :PGQUEUE_SCHEMA.task (ns, created_at)",
  "    where started_at is null and finished_at is null and retries > 0;"]

def createTickerTable : List String := [
  "create table :PGQUEUE_SCHEMA.ticker (",
  "    ns text not null,",
  "    ticker text not null,",
  "    \"interval\" interval default interval '1 minute',",
  "    ts timestamptz,",
  "    primary key (ns, ticker)",
  ");"]

def createStatusType : List String := [
  "create type :PGQUEUE_SCHEMA.status as enum (",
  "    'expired', 'new', 'failed', 'retry', 'retained', 'released', 'unknown'",
  ");"]

/-! ## Functions -/

def createTaskStatus : List String := [
  "create function :PGQUEUE_SCHEMA.queue_task_status(t :PGQUEUE_SCHEMA.task)",
  "returns :PGQUEUE_SCHEMA.status as $$",
  "    select case",
  "        when t.dies_at is not null and t.dies_at < now() then 'expired':::PGQUEUE_SCHEMA.status",
  "        when t.started_at is null and t.finished_at is null and t.retries = t.initial_retries then 'new':::PGQUEUE_SCHEMA.status",
  "        when t.started_at is null and t.finished_at is null and t.retries = 0 then 'failed':::PGQUEUE_SCHEMA.status",
  "        when t.started_at is null and t.finished_at is null then 'retry':::PGQUEUE_SCHEMA.status",
  "        when t.started_at is not null and t.finished_at is null then 'retained':::PGQUEUE_SCHEMA.status",
  "        when t.started_at is not null and t.finished_at is not null then 'released':::PGQUEUE_SCHEMA.status",
  "        else 'unknown':::PGQUEUE_SCHEMA.status",
  "    end",
  "$$ language sql stable;"]

def createQueueInsert : List String := [
  "create function :PGQUEUE_SCHEMA.queue_insert(n text, q text, p jsonb, d timestamptz)",
  "returns bigint as $$",
  "    insert into :PGQUEUE_SCHEMA.task (ns, queue, payload, delayed_at, retries, initial_retries, dies_at)",
  "    select",
  "        n,",
  "        q,",
  "        p,",
  "        case",
  "            when d is null then null",
  "            when d < now() then now()",
  "            else d",
  "        end,",
  "        queue.retries,",
  "        queue.retries,",
  "        case",
  "            when queue.ttl is null then null",
  "            when d is null or d < now() then now() + queue.ttl",
  "            else d + queue.ttl",
  "        end",
  "    from :PGQUEUE_SCHEMA.queue",
  "    where queue.ns = n and queue.queue = q",
  "    returning id",
  "$$ language sql;"]

def createQueueNotify : List String := [
  "create function :PGQUEUE_SCHEMA.queue_notify() returns trigger as $$",
  "begin",
  "    perform pg_notify(new.ns || '_queue_insert', new.queue);",
  "    return new;",
  "end;",
  "$$ language plpgsql;"]

def createInsertTrigger : List String := [
  "create trigger queue_insert_trigger",
  "    after insert on :PGQUEUE_SCHEMA.task",
  "    for each row execute procedure :PGQUEUE_SCHEMA.queue_notify();"]

def createQueueLock : List String := [
  "create function :PGQUEUE_SCHEMA.queue_lock(n text, w text) returns bigint as $$",
  "    update :PGQUEUE_SCHEMA.task",
  "    set started_at = now(), worker = w, result = 'null'",
  "    where id = (",
  "        select id",
  "        from :PGQUEUE_SCHEMA.task",
  "        where ns = n",
  "            and started_at is null",
  "            and finished_at is null",
  "            and (dies_at is null or dies_at > now())",
  "            and (delayed_at is null or delayed_at <= now())",
  "            and retries > 0",
  "        order by created_at, id",
  "        limit 1",
  "        for update skip locked",
  "    )",
  "    returning id",
  "$$ language sql;"]

def createQueueUnlock : List String := [
  "create function :PGQUEUE_SCHEMA.queue_unlock(n text, tid bigint, r jsonb) returns bigint as $$",
  "    update :PGQUEUE_SCHEMA.task",
  "    set finished_at = now(), dies_at = null, result = r",
  "    where id = tid",
  "        and ns = n",
  "        and started_at is not null",
  "        and finished_at is null",
  "        and (dies_at is null or dies_at > now())",
  "    returning id",
  "$$ language sql;"]

/-- The delay before the next attempt, which grows with the square of the attempts made. -/
def createQueueBackoff : List String := [
  "create function :PGQUEUE_SCHEMA.queue_backoff(retries integer, initial_retries integer, retry_delay interval)",
  "returns timestamptz as $$",
  "    select case",
  "        when retries <= 0 then null",
  "        else now() + retry_delay * power(initial_retries - retries + 1, 2)",
  "    end",
  "$$ language sql stable;"]

def createQueueFail : List String := [
  "create function :PGQUEUE_SCHEMA.queue_fail(n text, tid bigint, r jsonb) returns bigint as $$",
  "    update :PGQUEUE_SCHEMA.task t",
  "    set",
  "        retries = t.retries - 1,",
  "        result = r,",
  "        started_at = null,",
  "        finished_at = null,",
  "        delayed_at = :PGQUEUE_SCHEMA.queue_backoff(t.retries, t.initial_retries, q.retry_delay)",
  "    from :PGQUEUE_SCHEMA.queue q",
  "    where t.id = tid",
  "        and t.ns = n",
  "        and q.ns = t.ns",
  "        and q.queue = t.queue",
  "        and t.retries > 0",
  "        and t.started_at is not null",
  "        and t.finished_at is null",
  "        and (t.dies_at is null or t.dies_at > now())",
  "    returning t.id",
  "$$ language sql;"]

def createQueueReturn : List String := [
  "create function :PGQUEUE_SCHEMA.queue_return(n text, tid bigint, w text) returns bigint as $$",
  "    update :PGQUEUE_SCHEMA.task",
  "    set started_at = null, worker = null",
  "    where id = tid",
  "        and ns = n",
  "        and worker = w",
  "        and started_at is not null",
  "        and finished_at is null",
  "        and (dies_at is null or dies_at > now())",
  "    returning id",
  "$$ language sql;"]

def createQueueClean : List String := [
  "create function :PGQUEUE_SCHEMA.queue_clean(n text, q text, lim bigint)",
  "returns setof :PGQUEUE_SCHEMA.task as $$",
  "    delete from :PGQUEUE_SCHEMA.task",
  "    where id in (",
  "        select t.id",
  "        from :PGQUEUE_SCHEMA.task t",
  "        where t.ns = n",
  "            and t.queue = q",
  "            and (t.dies_at is null or t.dies_at < now())",
  "            and :PGQUEUE_SCHEMA.queue_task_status(t) in ('expired', 'released', 'failed')",
  "        order by t.created_at, t.id",
  "        limit lim",
  "        for update skip locked",
  "    )",
  "    returning *",
  "$$ language sql;"]

def createTickerNext : List String := [
  "create function :PGQUEUE_SCHEMA.ticker_next(n text)",
  "returns setof :PGQUEUE_SCHEMA.ticker as $$",
  "    update :PGQUEUE_SCHEMA.ticker",
  "    set ts = now()",
  "    where ns = n and ticker = (",
  "        select ticker",
  "        from :PGQUEUE_SCHEMA.ticker",
  "        where ns = n and (ts is null or ts + \"interval\" < now())",
  "        order by ts nulls first, ticker",
  "        limit 1",
  "        for update skip locked",
  "    )",
  "    returning *",
  "$$ language sql;"]

def createQueueStatus : List String := [
  "create view :PGQUEUE_SCHEMA.queue_status as",
  "    select q.ns, q.queue, s.status, count(t.id) as count",
  "    from :PGQUEUE_SCHEMA.queue q",
  "    cross join unnest(enum_range(null:::PGQUEUE_SCHEMA.status)) as s (status)",
  "    left join :PGQUEUE_SCHEMA.task t",
  "        on t.ns = q.ns",
  "        and t.queue = q.queue",
  "        and :PGQUEUE_SCHEMA.queue_task_status(t) = s.status",
  "    group by q.ns, q.queue, s.status;"]

end TaskQueue.Migration
