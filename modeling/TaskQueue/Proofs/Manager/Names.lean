import TaskQueue.Proofs.Manager.Confined
import TaskQueue.Proofs.Name.Spelling

/-!
# The names that are given to a manager

Thirteen operations of a manager are given the name of a queue, a ticker or a namespace. Each of
them is refused before anything is said when a name is not accepted, and says nothing but normal
forms otherwise. So a call goes on as it would with any other spelling of its names.
-/

namespace TaskQueue

open Name Manager.QueueChange

variable {α : Type}

/-- The names that are given to an operation, as they are spelled. -/
structure Names where
  queue : Option String := none
  /-- Whether the queue may be a new one. -/
  isNew : Bool := false
  rename : Option String := none
  ticker : Option String := none
  ns : Option String := none

namespace Names

/-- The names of new things may not be reserved. -/
@[mk_iff]
structure Accepted (names : Names) : Prop where
  queue : ∀ text ∈ names.queue, if names.isNew then IsFree text else IsName text
  rename : ∀ text ∈ names.rename, IsFree text
  ticker : ∀ text ∈ names.ticker, IsName text
  ns : ∀ text ∈ names.ns, IsFree text

end Names

/-- A row of a queue was shown in the answer to a command on a queue. -/
def Shows (log : List Exchange) (q : Queue) : Prop :=
  ∃ e ∈ log, ∃ s, e.request = .run s ∧ s.command.readsQueue = true ∧
    e.reply.optional Queue.ofRow = .ok (some q)

/-- The name of a cleanup ticker is made of the normal form of the queue's name, or of the row of a
queue that was shown. -/
def CleanupTicker.IsNormal (ns : String) (names : Names) (shown : Queue → Prop)
    (ticker : String) : Prop :=
  (∃ queue, names.queue.map normalForm = some queue ∧ ticker = CleanupTicker.name ns queue) ∨
    ∃ q, shown q ∧ ticker = CleanupTicker.name q.ns q.queue

/-- What a command says in a namespace when every name in it is the normal form of the name that
was given for it. -/
def Command.IsNormal (ns : String) (names : Names) (shown : Queue → Prop) : Command → Prop
  | findQueue ns' queue | insertQueue ns' queue | deleteQueue ns' queue | cleanQueue ns' queue _
  | insertTask ns' queue _ _ => ns' = ns ∧ names.queue.map normalForm = some queue
  | queueStatus ns' queue | countTasks ns' queue _ | listTasks ns' queue _ _ _ =>
    ns' = ns ∧ names.queue.map normalForm = queue
  | patchQueue ns' queue rename _ _ _ _ =>
    ns' = ns ∧ names.queue.map normalForm = some queue ∧ names.rename.map normalForm = rename
  | findTask ns' _ => ns' = ns
  | findTicker ns' ticker | insertTicker ns' ticker | patchTicker ns' ticker _
  | deleteTicker ns' ticker =>
    (ns' = ns ∧ names.ticker.map normalForm = some ticker) ∨
      ns' = cleanupNamespace ∧ CleanupTicker.IsNormal ns names shown ticker
  | _ => False

namespace Manager

/-- The operations that are given names. -/
inductive NamedCall : Type → Type
  | registerQueue (patch : QueuePatch) : NamedCall Queue
  | getQueue (name : String) : NamedCall Queue
  | updateQueue (name : String) (patch : QueuePatch) : NamedCall Queue
  | deleteQueue (name : String) : NamedCall Queue
  | queueStatus (queue : Option String) : NamedCall (List QueueCount)
  | cleanQueue (queue : String) : NamedCall (List Task)
  | createTask (queue : String) (draft : TaskDraft) : NamedCall Task
  | listTasks (queue : Option String) (page : TaskPage) : NamedCall (Listing Task)
  | registerTicker (patch : TickerPatch) : NamedCall Ticker
  | getTicker (name : String) : NamedCall Ticker
  | updateTicker (name : String) (patch : TickerPatch) : NamedCall Ticker
  | deleteTicker (name : String) : NamedCall Ticker
  | withNamespace (ns : String) : NamedCall Manager

namespace NamedCall

def run (m : Manager) (now : Timestamp) : NamedCall α → Action α
  | registerQueue patch => m.registerQueue patch
  | getQueue name => m.getQueue name
  | updateQueue name patch => m.updateQueue name patch
  | deleteQueue name => m.deleteQueue name
  | queueStatus queue => m.queueStatus queue
  | cleanQueue queue => m.cleanQueue queue
  | createTask queue draft => m.createTask now queue draft
  | listTasks queue page => m.listTasks queue page
  | registerTicker patch => m.registerTicker patch
  | getTicker name => m.getTicker name
  | updateTicker name patch => m.updateTicker name patch
  | deleteTicker name => m.deleteTicker name
  | withNamespace ns => Operation.ofExcept (m.withNamespace ns)

/-- The names that are given to a call. A blank text gives a queue no new name. -/
def names : NamedCall α → Names
  | registerQueue patch => { queue := some patch.queue, isNew := true }
  | updateQueue name patch =>
    { queue := some name
      rename := if Text.isBlankText patch.queue then none else some patch.queue }
  | getQueue name | deleteQueue name | cleanQueue name | createTask name _ => { queue := some name }
  | queueStatus queue | listTasks queue _ => { queue }
  | registerTicker patch => { ticker := some patch.ticker }
  | getTicker name | updateTicker name _ | deleteTicker name => { ticker := some name }
  | withNamespace ns => { ns := some ns }

/-- A call that differs from another one in the spelling of its names, if it differs at all. -/
inductive Respelled : {α : Type} → NamedCall α → NamedCall α → Prop
  | registerQueue {patch : QueuePatch} {text : String} (h : Alike patch.queue text) :
      Respelled (registerQueue patch) (registerQueue { patch with queue := text })
  | getQueue {a b : String} (h : Alike a b) : Respelled (getQueue a) (getQueue b)
  | updateQueue {a b text : String} {patch : QueuePatch} (h : Alike a b)
      (hrename : Alike patch.queue text) :
      Respelled (updateQueue a patch) (updateQueue b { patch with queue := text })
  | deleteQueue {a b : String} (h : Alike a b) : Respelled (deleteQueue a) (deleteQueue b)
  | queueStatus {a b : Option String} (h : Option.Rel Alike a b) :
      Respelled (queueStatus a) (queueStatus b)
  | cleanQueue {a b : String} (h : Alike a b) : Respelled (cleanQueue a) (cleanQueue b)
  | createTask {a b : String} {draft : TaskDraft} (h : Alike a b) :
      Respelled (createTask a draft) (createTask b draft)
  | listTasks {a b : Option String} {page : TaskPage} (h : Option.Rel Alike a b) :
      Respelled (listTasks a page) (listTasks b page)
  | registerTicker {patch : TickerPatch} {text : String} (h : Alike patch.ticker text) :
      Respelled (registerTicker patch) (registerTicker { patch with ticker := text })
  | getTicker {a b : String} (h : Alike a b) : Respelled (getTicker a) (getTicker b)
  | updateTicker {a b : String} {patch : TickerPatch} (h : Alike a b) :
      Respelled (updateTicker a patch) (updateTicker b patch)
  | deleteTicker {a b : String} (h : Alike a b) : Respelled (deleteTicker a) (deleteTicker b)
  | withNamespace {a b : String} (h : Alike a b) : Respelled (withNamespace a) (withNamespace b)

section Names

variable {kind text a b : String} {m : Manager} {now : Timestamp}

/-! ## Names that are not accepted -/

theorem name_of_not_isName (h : ¬ IsName text) :
    ∃ e : NameError, Action.name kind text = throw (.ofName e) :=
  let ⟨e, he⟩ := normalize_of_not_isName h
  ⟨e, Call.name_of_error he⟩

theorem unreservedName_of_not_isFree (h : ¬ IsFree text) :
    ∃ e : NameError, Action.unreservedName kind text = throw (.ofName e) :=
  let ⟨e, he⟩ := validate_of_not_isFree h
  ⟨e, Call.unreservedName_of_error he⟩

theorem name_of_isName (h : IsName text) : Action.name kind text = pure (normalForm text) :=
  Call.name_of_ok (normalize_eq_ok_iff.mpr ⟨h, rfl⟩)

theorem unreservedName_of_isFree (h : IsFree text) :
    Action.unreservedName kind text = pure (normalForm text) :=
  Call.unreservedName_of_ok (validate_eq_ok_iff.mpr ⟨h, rfl⟩)

/-- An action that begins with a name that is refused is refused. -/
theorem refused_bind {β : Type} {op : Action β} {f : β → Action α}
    (h : ∃ e : NameError, op = throw (.ofName e)) :
    ∃ e : NameError, op >>= f = throw (.ofName e) := by
  obtain ⟨e, rfl⟩ := h
  exact ⟨e, rfl⟩

theorem refused_updateQueue {patch : QueuePatch}
    (h : ¬ (updateQueue text patch).names.Accepted) :
    ∃ e : NameError, m.updateQueue text patch = throw (.ofName e) := by
  -- The new name is looked at only if the name of the queue is accepted.
  by_cases hname : IsName text
  · rw [Manager.updateQueue, name_of_isName hname, pure_bind]
    cases hblank : Text.isBlankText patch.queue with
    | true => simp [names, Names.accepted_iff, hname, hblank] at h
    | false =>
        have hfree : ¬ IsFree patch.queue := by
          simpa [names, Names.accepted_iff, hname, hblank] using h
        refine refused_bind ?_
        rw [renameOf, isEmpty_trim, hblank]
        exact unreservedName_of_not_isFree hfree
  · exact refused_bind (name_of_not_isName hname)

theorem refused_optionalName {queue : Option String}
    (h : ¬ ({ queue } : Names).Accepted) :
    ∃ e : NameError, Action.optionalName kind queue = throw (.ofName e) := by
  cases queue with
  | none => simp [Names.accepted_iff] at h
  | some text =>
      have hname : ¬ IsName text := by simpa [Names.accepted_iff] using h
      exact refused_bind (name_of_not_isName hname)

/-- A call is refused before anything is said if one of its names is not accepted. -/
theorem refused_of_not_accepted {call : NamedCall α} (h : ¬ call.names.Accepted) :
    ∃ e : NameError, call.run m now = throw (.ofName e) := by
  cases call with
  | registerQueue patch =>
      have hfree : ¬ IsFree patch.queue := by simpa [names, Names.accepted_iff] using h
      exact refused_bind (unreservedName_of_not_isFree hfree)
  | updateQueue name patch => exact refused_updateQueue h
  | queueStatus queue | listTasks queue page => exact refused_bind (refused_optionalName h)
  | withNamespace ns =>
      have hfree : ¬ IsFree ns := by simpa [names, Names.accepted_iff] using h
      obtain ⟨e, he⟩ : ∃ e, validate "namespace" ns = .error e := validate_of_not_isFree hfree
      exact ⟨e, by rw [run, Manager.withNamespace, he]; rfl⟩
  | _ =>
      refine refused_bind (name_of_not_isName ?_)
      simpa [names, Names.accepted_iff] using h

/-! ## Names that are accepted -/

section Accepted

variable {names : Names} {whole : List Exchange}

/-- What a manager may say when its names are all normal. -/
def Fine (m : Manager) (names : Names) (whole : List Exchange) (s : Statement) : Prop :=
  s.schema = m.schema ∧ s.command.IsNormal m.ns names (Shows whole)

theorem confined_registerCleanupTicker {q : Queue} (hq : Shows whole q) :
    Confined whole (Fine m names whole) (fun _ => True) (m.registerCleanupTicker q) := by
  have hnormal : CleanupTicker.IsNormal m.ns names (Shows whole)
      (CleanupTicker.name q.ns q.queue) := .inr ⟨q, hq, rfl⟩
  refine .bind (.query ⟨rfl, .inr ⟨rfl, hnormal⟩⟩ (Query.execute_eq _) fun _ _ _ _ => trivial)
    fun _ (_ : True) => ?_
  refine .bind (.ofExcept fun _ _ => trivial) fun interval (_ : True) => ?_
  exact .bind (.query ⟨rfl, .inr ⟨rfl, hnormal⟩⟩ (Query.fetchOptional_eq ..)
    fun _ _ _ _ => trivial) fun _ (_ : True) => .pure trivial

theorem confined_deleteCleanupTicker {queue : String}
    (hqueue : names.queue.map normalForm = some queue) :
    Confined whole (Fine m names whole) (fun _ => True) (m.deleteCleanupTicker queue) :=
  .bind (.query ⟨rfl, .inr ⟨rfl, .inl ⟨queue, hqueue, rfl⟩⟩⟩ (Query.fetchOptional_eq ..)
    fun _ _ _ _ => trivial) fun _ (_ : True) => .pure trivial

theorem shows_of_mem {s : Statement} {reply : Reply} {q : Queue}
    (hreads : s.command.readsQueue = true) (h : ⟨.run s, reply⟩ ∈ whole)
    (hread : reply.optional Queue.ofRow = .ok (some q)) : Shows whole q :=
  ⟨_, h, s, rfl, hreads, hread⟩

theorem confined_patchQueue {queue : String} {patch : QueuePatch}
    (hqueue : names.queue.map normalForm = some queue)
    (hrename : names.rename.map normalForm =
      if patch.queue.isEmpty then none else some patch.queue) :
    Confined whole (Fine m names whole) (fun a? => ∀ q, a? = some q → Shows whole q)
      (m.patchQueue queue patch) := by
  refine .bind (.ofExcept fun _ => patchCommand_eq_ok) fun command hcommand => ?_
  obtain ⟨ttl, retries, retryDelay, setTtl, rfl⟩ := hcommand
  exact .query ⟨rfl, rfl, hqueue, hrename⟩ (Query.fetchOptional_eq ..)
    fun _ _ hreply hread q hq => shows_of_mem rfl hreply (hq ▸ hread)

theorem confined_kept {q : Queue} (hq : Shows whole q) :
    Confined whole (Fine m names whole) (fun _ => True) (do
      m.registerCleanupTicker q
      return Operation.Verdict.keep q) :=
  .bind (confined_registerCleanupTicker hq) fun _ (_ : True) => .pure trivial

theorem confined_registerQueue {patch : QueuePatch} (h : IsFree patch.queue) :
    Confined whole (Fine m (registerQueue patch).names whole) (fun _ => True)
      (m.registerQueue patch) := by
  rw [Manager.registerQueue, unreservedName_of_isFree h, pure_bind]
  refine .transaction (.bind (.query ⟨rfl, rfl, rfl⟩ (Query.execute_eq _) fun _ _ _ _ => trivial)
    fun _ (_ : True) => ?_)
  dsimp only
  -- A patch that changes nothing reads the queue, any other one writes it.
  split
  · refine .bind (Q := fun a? => ∀ q, a? = some q → Shows whole q)
      (.query ⟨rfl, rfl, rfl⟩ (Query.fetchOptional_eq ..) fun _ _ hreply hread q hq => ?_)
      fun _ hshown => .bind (.orFail hshown) fun _ => confined_kept
    exact shows_of_mem rfl hreply (hq ▸ hread)
  · exact .bind (confined_patchQueue rfl rfl) fun _ hshown =>
      .bind (.orFail hshown) fun _ => confined_kept

theorem renameOf_eq {patch : QueuePatch}
    (h : Text.isBlankText patch.queue = false → IsFree patch.queue) :
    ∃ rename, renameOf patch = pure rename ∧
      (if Text.isBlankText patch.queue then none else some patch.queue).map normalForm =
        if rename.isEmpty then none else some rename := by
  rw [renameOf, isEmpty_trim]
  cases hblank : Text.isBlankText patch.queue with
  | true => exact ⟨"", rfl, rfl⟩
  | false =>
      have hfree := h hblank
      refine ⟨normalForm patch.queue, unreservedName_of_isFree hfree, ?_⟩
      have hvalid : validate "queue" patch.queue = .ok (normalForm patch.queue) :=
        validate_eq_ok_iff.mpr ⟨hfree, rfl⟩
      rw [Call.isEmpty_of_validate hvalid]
      rfl

theorem confined_updateQueue {name : String} {patch : QueuePatch} (h : IsName name)
    (hfree : Text.isBlankText patch.queue = false → IsFree patch.queue) :
    Confined whole (Fine m (updateQueue name patch).names whole) (fun _ => True)
      (m.updateQueue name patch) := by
  obtain ⟨rename, hrun, hrename⟩ := renameOf_eq hfree
  rw [Manager.updateQueue, name_of_isName h, pure_bind, hrun, pure_bind]
  dsimp only
  split
  · exact .throw
  refine .transaction (.bind (confined_patchQueue rfl hrename) fun _ hshown =>
    .bind (.orFail hshown) fun queue hqueue => ?_)
  split
  · exact .bind (confined_deleteCleanupTicker rfl) fun _ _ => confined_kept hqueue
  · exact confined_kept hqueue

theorem optionalName_of_accepted {queue : Option String} (h : ({ queue } : Names).Accepted) :
    Action.optionalName kind queue = pure (queue.map normalForm) := by
  cases queue with
  | none => rfl
  | some text =>
      have hname : IsName text := by simpa [Names.accepted_iff] using h
      rw [Action.optionalName, name_of_isName hname]
      rfl

theorem confined_listTasks {queue : Option String} {page : TaskPage}
    (h : (listTasks queue page).names.Accepted) :
    Confined whole (Fine m (listTasks queue page).names whole) (fun _ => True)
      (m.listTasks queue page) := by
  rw [Manager.listTasks, optionalName_of_accepted h, pure_bind]
  refine .transaction ?_
  refine .bind (.query ⟨rfl, rfl, rfl⟩ (Query.fetchOne_eq ..) fun _ _ _ _ => trivial)
    fun _ (_ : True) => ?_
  exact .bind (.query ⟨rfl, rfl, rfl⟩ (Query.fetchAll_eq ..) fun _ _ _ _ => trivial)
    fun _ (_ : True) => .pure trivial

theorem confined_createTask {queue : String} {draft : TaskDraft} (h : IsName queue) :
    Confined whole (Fine m (createTask queue draft).names whole) (fun _ => True)
      (m.createTask now queue draft) := by
  have hcreate : Confined whole (Fine m (createTask queue draft).names whole) (fun _ => True)
      (Action.transaction do
        let id ← Action.found s!"queue {normalForm queue}"
          (TaskTable.insert m.schema m.ns (normalForm queue) draft)
        let task ← Action.found (taskThing id) (TaskTable.find m.schema m.ns id)
        return .keep task) := by
    refine .transaction (.bind (.found ⟨rfl, rfl, rfl⟩ (Query.fetchOne_eq ..)
      fun _ _ _ _ => trivial) fun id (_ : True) => ?_)
    exact .bind (.found ⟨rfl, rfl⟩ (Query.fetchOptional_eq ..) fun _ _ _ _ => trivial)
      fun _ (_ : True) => .pure trivial
  rw [Manager.createTask, name_of_isName h, pure_bind]
  dsimp only
  split
  · split
    · exact .throw
    · exact hcreate
  · exact hcreate

theorem confined_registerTicker {patch : TickerPatch} (h : IsName patch.ticker) :
    Confined whole (Fine m (registerTicker patch).names whole) (fun _ => True)
      (m.registerTicker patch) := by
  rw [Manager.registerTicker, name_of_isName h, pure_bind]
  refine .transaction (.bind (.query ⟨rfl, .inl ⟨rfl, rfl⟩⟩ (Query.execute_eq _)
    fun _ _ _ _ => trivial) fun _ (_ : True) => ?_)
  refine .bind (.ofExcept fun _ _ => trivial) fun interval (_ : True) => ?_
  exact .bind (.found ⟨rfl, .inl ⟨rfl, rfl⟩⟩ (Query.fetchOptional_eq ..) fun _ _ _ _ => trivial)
    fun _ (_ : True) => .pure trivial

theorem confined_updateTicker {name : String} {patch : TickerPatch} (h : IsName name) :
    Confined whole (Fine m (updateTicker name patch).names whole) (fun _ => True)
      (m.updateTicker name patch) := by
  rw [Manager.updateTicker, name_of_isName h, pure_bind]
  dsimp only
  split
  · exact .throw
  · exact .bind (.ofExcept fun _ _ => trivial) fun interval (_ : True) =>
      .found ⟨rfl, .inl ⟨rfl, rfl⟩⟩ (Query.fetchOptional_eq ..) fun _ _ _ _ => trivial

theorem confined_deleteQueue {name : String} (h : IsName name) :
    Confined whole (Fine m (deleteQueue name).names whole) (fun _ => True)
      (m.deleteQueue name) := by
  rw [Manager.deleteQueue, name_of_isName h, pure_bind]
  refine .transaction (.bind (.found ⟨rfl, rfl, rfl⟩ (Query.fetchOptional_eq ..)
    fun _ _ _ _ => trivial) fun _ (_ : True) => ?_)
  exact .bind (confined_deleteCleanupTicker rfl) fun _ (_ : True) => .pure trivial

theorem confined_of_accepted {call : NamedCall α} (h : call.names.Accepted) :
    Confined whole (Fine m call.names whole) (fun _ => True) (call.run m now) := by
  cases call with
  | registerQueue patch => exact confined_registerQueue (h.queue _ rfl)
  | updateQueue name patch =>
      refine confined_updateQueue (h.queue _ rfl) fun hblank => h.rename _ ?_
      simp [names, hblank]
  | getQueue name =>
      rw [run, Manager.getQueue, name_of_isName (h.queue _ rfl), pure_bind]
      exact .found ⟨rfl, rfl, rfl⟩ (Query.fetchOptional_eq ..) fun _ _ _ _ => trivial
  | deleteQueue name => exact confined_deleteQueue (h.queue _ rfl)
  | queueStatus queue =>
      rw [run, Manager.queueStatus, optionalName_of_accepted h, pure_bind]
      exact .query ⟨rfl, rfl, rfl⟩ (Query.fetchAll_eq ..) fun _ _ _ _ => trivial
  | cleanQueue queue =>
      rw [run, Manager.cleanQueue, name_of_isName (h.queue _ rfl), pure_bind]
      exact .query ⟨rfl, rfl, rfl⟩ (Query.fetchAll_eq ..) fun _ _ _ _ => trivial
  | createTask queue draft => exact confined_createTask (h.queue _ rfl)
  | listTasks queue page => exact confined_listTasks h
  | registerTicker patch => exact confined_registerTicker (h.ticker _ rfl)
  | getTicker name =>
      rw [run, Manager.getTicker, name_of_isName (h.ticker _ rfl), pure_bind]
      exact .found ⟨rfl, .inl ⟨rfl, rfl⟩⟩ (Query.fetchOptional_eq ..) fun _ _ _ _ => trivial
  | updateTicker name patch => exact confined_updateTicker (h.ticker _ rfl)
  | deleteTicker name =>
      rw [run, Manager.deleteTicker, name_of_isName (h.ticker _ rfl), pure_bind]
      exact .found ⟨rfl, .inl ⟨rfl, rfl⟩⟩ (Query.fetchOptional_eq ..) fun _ _ _ _ => trivial
  | withNamespace ns => exact .ofExcept fun _ _ => trivial

end Accepted

/-! ## Names that are spelled differently -/

theorem name_of_alike (h : Alike a b) : Action.name kind a = Action.name kind b := by
  rw [Action.name, Action.name, normalize_of_alike h]

theorem unreservedName_of_alike (h : Alike a b) :
    Action.unreservedName kind a = Action.unreservedName kind b := by
  rw [Action.unreservedName, Action.unreservedName, validate_of_alike h]

theorem optionalName_of_alike {a b : Option String} (h : Option.Rel Alike a b) :
    Action.optionalName kind a = Action.optionalName kind b := by
  cases h with
  | none => rfl
  | some h => rw [Action.optionalName, Action.optionalName, name_of_alike h]

theorem renameOf_of_alike {patch : QueuePatch} (h : Alike patch.queue text) :
    renameOf patch = renameOf { patch with queue := text } := by
  rw [renameOf, renameOf, isEmpty_trim_of_alike h, unreservedName_of_alike h]

/-- Two spellings of a call are one action. -/
theorem run_of_respelled {call call' : NamedCall α} (h : Respelled call call') :
    call.run m now = call'.run m now := by
  cases h with
  | registerQueue h => simp only [run, Manager.registerQueue, unreservedName_of_alike h]
  | getQueue h => simp only [run, Manager.getQueue, name_of_alike h]
  | updateQueue h hrename =>
      simp only [run, Manager.updateQueue, name_of_alike h, renameOf_of_alike hrename]
      rfl
  | deleteQueue h => simp only [run, Manager.deleteQueue, name_of_alike h]
  | queueStatus h => simp only [run, Manager.queueStatus, optionalName_of_alike h]
  | cleanQueue h => simp only [run, Manager.cleanQueue, name_of_alike h]
  | createTask h => simp only [run, Manager.createTask, name_of_alike h]
  | listTasks h => simp only [run, Manager.listTasks, optionalName_of_alike h]
  | registerTicker h => simp only [run, Manager.registerTicker, name_of_alike h]
  | getTicker h => simp only [run, Manager.getTicker, name_of_alike h]
  | updateTicker h => simp only [run, Manager.updateTicker, name_of_alike h]
  | deleteTicker h => simp only [run, Manager.deleteTicker, name_of_alike h]
  | withNamespace h => simp only [run, Manager.withNamespace, validate_of_alike h]

/-- Against every server, a call with a name that is not accepted says nothing and is a bad
request, and any other call says nothing but normal forms; the namespace of a manager is one, too.
A call with other spellings of its names says the same and comes to the same. -/
theorem names_are_normalized {σ : Type} (call : NamedCall α) (m : Manager) (now : Timestamp)
    (server : Dialogue.Server σ) (s : σ) :
    (¬ call.names.Accepted → ∃ e : NameError, Dialogue.run server (call.run m now).run s =
      { result := .error (.badRequest e.message), server := s, log := [] }) ∧
    (call.names.Accepted →
      ∀ statement, .run statement ∈ (Dialogue.run server (call.run m now).run s).log →
        statement.schema = m.schema ∧ statement.command.IsNormal m.ns call.names
          (Shows (Dialogue.said server (call.run m now).run s))) ∧
    (∀ text, IsFree text → m.withNamespace text = .ok (m.within (normalForm text))) ∧
    ∀ call', call.Respelled call' →
      Dialogue.run server (call'.run m now).run s = Dialogue.run server (call.run m now).run s := by
  refine ⟨fun h => ?_, fun h statement hmem => ?_, fun text h => ?_, fun call' h => ?_⟩
  · obtain ⟨e, he⟩ : ∃ e : NameError, call.run m now = throw (.ofName e) :=
      refused_of_not_accepted h
    exact ⟨e, by rw [he]; rfl⟩
  · rw [← Dialogue.map_request_said] at hmem
    obtain ⟨e, he, hrequest⟩ := List.mem_map.mp hmem
    have hholds : (call.run m now).Holds _ _ := Dialogue.holds_said server (call.run m now).run s
    exact (confined_of_accepted h _ _ hholds (List.Subset.refl _)).1 e he statement hrequest
  · rw [Manager.withNamespace, validate_eq_ok_iff.mpr ⟨h, rfl⟩]
    rfl
  · rw [run_of_respelled h]

/-- An update of a queue with its names in capital letters and between blanks. -/
def shoutedUpdate : NamedCall Queue :=
  updateQueue " JOBS" { queue := "Work\t", ttl := .remove }

def plainUpdate : NamedCall Queue :=
  updateQueue "jobs" { queue := "work", ttl := .remove }

theorem accepted_shoutedUpdate : shoutedUpdate.names.Accepted := by
  rw [Names.accepted_iff]
  decide +kernel

theorem respelled_shoutedUpdate : shoutedUpdate.Respelled plainUpdate :=
  .updateQueue (by decide +kernel) (by decide +kernel)

theorem shoutedUpdate_is_normalized :
    (∀ statement, .run statement ∈
        (Dialogue.run renamingServer (shoutedUpdate.run shop default).run ()).log →
      statement.schema = shop.schema ∧ statement.command.IsNormal shop.ns shoutedUpdate.names
        (Shows (Dialogue.said renamingServer (shoutedUpdate.run shop default).run ()))) ∧
    Dialogue.run renamingServer (plainUpdate.run shop default).run () =
      Dialogue.run renamingServer (shoutedUpdate.run shop default).run () ∧
    ∃ e : NameError, Dialogue.run renamingServer
        ((registerQueue { queue := " CleanUp" }).run shop default).run () =
      { result := .error (.badRequest e.message), server := (), log := [] } := by
  have hshouted := names_are_normalized shoutedUpdate shop default renamingServer ()
  refine ⟨hshouted.2.1 accepted_shoutedUpdate, hshouted.2.2.2 _ respelled_shoutedUpdate, ?_⟩
  refine (names_are_normalized (registerQueue { queue := " CleanUp" }) _ _ _ _).1 ?_
  rw [Names.accepted_iff]
  decide +kernel

end Names

end NamedCall

end Manager

end TaskQueue
