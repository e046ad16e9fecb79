import TaskQueue.Proofs.Signal.History
import TaskQueue.Proofs.TaskLoop.History

/-!
# Wake-ups of the task loop

A task loop asks for announcements before it claims anything, and an announcement that reaches its
stream waits there until it is read. Each signal leads to an attempt to claim, and each delivery to
another one, until there is no task. So a loop that waits with nothing to read has learned that
there is no task from an attempt that began when all announcements had arrived.
-/

namespace TaskQueue

namespace TaskLoop

/-- What happens to a loop that has to do with its waking. -/
inductive Entry where
  /-- The server took the request for announcements. -/
  | listening
  | arrived (queue : String)
  | yielded (signal : Signal)
  /-- An attempt to claim a task begins. -/
  | began
  | answered (result : Except OperationError (Option Task))

namespace Entry

def arrival? : Entry → Option String
  | .arrived queue => some queue
  | _ => none

/-- The announcement that is read, if the entry is the reading of one. -/
def reading? : Entry → Option String
  | .yielded (.notification queue) => some queue
  | _ => none

def isArrival (e : Entry) : Bool := e.arrival?.isSome

end Entry

def arrivals (j : List Entry) : List String := j.filterMap Entry.arrival?

def readings (j : List Entry) : List String := j.filterMap Entry.reading?

/-- The announcements that arrived since an attempt began, after one more entry. -/
def refresh (queues : List String) : Entry → List String
  | .began => []
  | .arrived queue => queues ++ [queue]
  | _ => queues

/-- The announcements that arrived since the last attempt began. -/
def fresh (j : List Entry) : List String := j.foldl refresh []

def pullEntries : Pull → List Entry
  | .signal signal => [.yielded signal, .began]
  | .reconnected | .wentBlind | .ended => []

/-- What a move of a loop at an instant adds to its journal. -/
def entries (now : Instant) (cancelled : Bool) (l : TaskLoop) : Move → List Entry
  | .subscribed (.ok _) => [.listening]
  | .pull reachable =>
    ((l.stream.pull? now cancelled reachable).map fun (pull, _) => pullEntries pull).getD []
  | .claimed result => [.answered result]
  | .deliver => [.began]
  | .subscribed (.error _) | .giveBack | .returned _ => []

/-! ## Journals -/

/-- Before anything else the server took the request for announcements. -/
def Opened (j : List Entry) : Prop :=
  ∃ front rest, j = front ++ .listening :: rest ∧ ∀ e ∈ front, e.isArrival = true

/-- An attempt is under way. -/
def Attempting (j : List Entry) : Prop :=
  ∃ front late, j = front ++ .began :: late ∧ ∀ e ∈ late, e.isArrival = true

/-- No signal came yet, or the last attempt was answered that there is no task. -/
def Rested (j : List Entry) : Prop :=
  (∀ signal, .yielded signal ∉ j) ∨ ∃ front during after,
    j = front ++ .began :: (during ++ .answered (.ok none) :: after) ∧
      (∀ e ∈ during, e.isArrival = true) ∧ ∀ e ∈ after, e.isArrival = true

/-- What the phase of a loop says about its journal. -/
def Journaled (j : List Entry) : Phase → Prop
  | .subscribing => ∀ e ∈ j, e.isArrival = true
  | .waiting => Opened j ∧ Rested j
  | .claiming => Opened j ∧ Attempting j
  | .holding _ | .returning _ => Opened j
  | .ended _ => Opened j ∨ ∀ e ∈ j, e.isArrival = true

variable {now : Instant} {cancelled : Bool} {l l' : TaskLoop} {m : Move} {j more : List Entry}
  {queue : String}

theorem fresh_append : fresh (j ++ more) = more.foldl refresh (fresh j) :=
  List.foldl_append

theorem fresh_append_of_not_began (h : .began ∉ more) :
    fresh (j ++ more) = fresh j ++ arrivals more := by
  rw [fresh_append]
  generalize fresh j = queues
  induction more generalizing queues with
  | nil => simp [arrivals]
  | cons e more ih =>
      obtain ⟨he, hmore⟩ := not_or.mp (mt List.mem_cons.mpr h)
      rw [List.foldl_cons, ih hmore]
      cases e with
      | began => exact absurd rfl he
      | arrived queue => simp [refresh, arrivals, Entry.arrival?]
      | listening | yielded | answered => rfl

theorem Opened.append (h : Opened j) : Opened (j ++ more) := by
  obtain ⟨front, rest, rfl, hfront⟩ := h
  exact ⟨front, rest ++ more, by simp, hfront⟩

theorem forall_isArrival_snoc (h : ∀ e ∈ j, e.isArrival = true) :
    ∀ e ∈ j ++ [.arrived queue], e.isArrival = true := by
  intro e he
  rcases List.mem_append.mp he with he | he
  · exact h e he
  · rw [List.mem_singleton.mp he]
    rfl

theorem not_began_of_arrivals (h : ∀ e ∈ j, e.isArrival = true) : .began ∉ j :=
  fun hmem => Bool.noConfusion (h _ hmem)

theorem eq_nil_of_arrivals (h : ∀ e ∈ j, e.isArrival = true) (hnone : arrivals j = []) :
    j = [] := by
  refine List.eq_nil_iff_forall_not_mem.mpr fun e he => ?_
  have harrival := h e he
  rw [Entry.isArrival, List.filterMap_eq_nil_iff.mp hnone e he] at harrival
  cases harrival

theorem Journaled.arrive {phase : Phase} (h : Journaled j phase) :
    Journaled (j ++ [.arrived queue]) phase := by
  cases phase with
  | subscribing => exact forall_isArrival_snoc h
  | waiting =>
      refine ⟨h.1.append, ?_⟩
      rcases h.2 with hnone | ⟨front, during, after, rfl, hduring, hafter⟩
      · exact .inl (by simpa using hnone)
      · exact .inr ⟨front, during, after ++ [.arrived queue], by simp, hduring,
          forall_isArrival_snoc hafter⟩
  | claiming =>
      obtain ⟨front, late, rfl, hlate⟩ := h.2
      exact ⟨h.1.append, front, late ++ [.arrived queue], by simp, forall_isArrival_snoc hlate⟩
  | holding | returning => exact Opened.append h
  | ended => exact h.imp Opened.append forall_isArrival_snoc

theorem Step.journaled (h : Step now cancelled l m l') (hj : Journaled j l.phase) :
    Journaled (j ++ l.entries now cancelled m) l'.phase := by
  cases h with
  | subscribed hp =>
      rw [hp] at hj
      refine ⟨⟨j, [], rfl, hj⟩, .inl fun signal hmem => ?_⟩
      rcases List.mem_append.mp hmem with hmem | hmem
      · exact absurd (hj _ hmem) (by simp [Entry.isArrival, Entry.arrival?])
      · simp [entries] at hmem
  | setupFailed hp =>
      rw [hp] at hj
      rw [show l.entries now cancelled (.subscribed (.error _)) = [] from rfl, List.append_nil]
      exact .inr hj
  | @pulled _ pull _ hp hpull =>
      rw [hp] at hj
      obtain ⟨hopened, hrested⟩ := hj
      simp only [entries, hpull, Option.map_some, Option.getD_some]
      cases pull with
      | signal signal =>
          have hbegan : Attempting (j ++ [.yielded signal, .began]) :=
            ⟨j ++ [.yielded signal], [], by simp, by simp⟩
          exact ⟨hopened.append, hbegan⟩
      | reconnected | wentBlind =>
          rw [pullEntries, List.append_nil]
          exact ⟨hopened, hrested⟩
      | ended => exact .inl hopened.append
  | @claimed result hp =>
      rw [hp] at hj
      obtain ⟨hopened, front, late, rfl, hlate⟩ := hj
      rcases result with e | _ | t
      · exact .inl hopened.append
      · exact ⟨hopened.append, .inr ⟨front, late, [], by simp [entries], hlate, by simp⟩⟩
      · exact hopened.append
  | delivered hp =>
      rw [hp] at hj
      exact ⟨hj.append, j, [], rfl, by simp⟩
  | givesBack hp =>
      rw [hp] at hj
      exact hj.append
  | returned hp =>
      rw [hp] at hj
      exact .inl hj.append

/-! ## Announcements -/

/-- A journal that accounts for the announcements of a stream: those that arrived were read in their
order, apart from the ones to be read, and among these are all that arrived since the last attempt
began. -/
structure Stored (j : List Entry) (inbox : List String) : Prop where
  kept : arrivals j = readings j ++ inbox
  pending : fresh j <:+ inbox

theorem foldl_refresh_suffix {queues : List String} (h : arrivals more = []) :
    more.foldl refresh queues <:+ queues := by
  induction more generalizing queues with
  | nil => exact List.suffix_rfl
  | cons e more ih =>
      cases e with
      | arrived queue => simp [arrivals, Entry.arrival?] at h
      | began => exact (ih h).trans (List.nil_suffix)
      | listening | yielded | answered => exact ih h

theorem arrivals_append : arrivals (j ++ more) = arrivals j ++ arrivals more :=
  List.filterMap_append

theorem readings_append : readings (j ++ more) = readings j ++ readings more :=
  List.filterMap_append

namespace Stored

variable {inbox : List String}

theorem arrive (hs : Stored j inbox) : Stored (j ++ [.arrived queue]) (inbox ++ [queue]) := by
  constructor
  case kept =>
    rw [arrivals_append, readings_append, hs.kept]
    change readings j ++ inbox ++ [queue] = readings j ++ [] ++ (inbox ++ [queue])
    simp
  case pending =>
    obtain ⟨front, hfront⟩ := hs.pending
    exact ⟨front, by simp [fresh_append, refresh, ← hfront]⟩

theorem keep (hs : Stored j inbox) (harrivals : arrivals more = [])
    (hreadings : readings more = []) : Stored (j ++ more) inbox := by
  constructor
  case kept =>
    rw [arrivals_append, readings_append, harrivals, hreadings, List.append_nil, List.append_nil,
      hs.kept]
  case pending =>
    rw [fresh_append]
    exact (foldl_refresh_suffix harrivals).trans hs.pending

theorem read (hs : Stored j (queue :: inbox)) :
    Stored (j ++ [.yielded (.notification queue), .began]) inbox := by
  constructor
  case kept =>
    rw [arrivals_append, readings_append, hs.kept]
    change readings j ++ queue :: inbox ++ [] = readings j ++ [queue] ++ inbox
    simp
  case pending =>
    rw [fresh_append]
    exact List.nil_suffix

/-- An announcement that no attempt followed is still to be read, and so are all after it. -/
theorem suffix {front rest : List Entry} (hs : Stored (front ++ .arrived queue :: rest) inbox)
    (hrest : .began ∉ rest) : queue :: arrivals rest <:+ inbox := by
  refine List.IsSuffix.trans ?_ hs.pending
  rw [fresh_append_of_not_began (by simpa using hrest)]
  exact List.suffix_append _ _

end Stored

theorem Step.stored (h : Step now cancelled l m l') (hs : Stored j l.stream.inbox) :
    Stored (j ++ l.entries now cancelled m) l'.stream.inbox := by
  cases h with
  | @pulled reachable pull stream hp hpull =>
      simp only [entries, hpull, Option.map_some, Option.getD_some]
      cases SignalStream.pull?_sound hpull with
      | read _ _ hinbox =>
          rw [hinbox] at hs
          exact hs.read
      | woke | stopped | polled | reconnected | wentBlind => exact hs.keep rfl rfl
  | subscribed | setupFailed | claimed | delivered | givesBack | returned => exact hs.keep rfl rfl

end TaskLoop

/-! ## Histories -/

namespace TaskLoopHistory

open TaskLoop (Entry Opened Journaled Stored arrivals readings)

variable {m : Manager} {h h' h₀ : TaskLoopHistory} {e : Event} {es : List Event} {j : List Entry}

/-- What an event adds to the journal of a loop. -/
def entries (m : Manager) (e : Event) (h : TaskLoopHistory) : List Entry :=
  match e with
  | .turn replies lost =>
    ((h.loop.take? m h.now h.cancelled replies lost).map fun (_, move) =>
      h.loop.entries h.now h.cancelled move).getD []
  | .notify queue => if h.loop.stream.connected then [.arrived queue] else []
  | .pass _ | .disconnect | .receive | .detach | .cancel => []

/-- What happened in a run that has to do with the waking of the loop. -/
def journal (m : Manager) (es : List Event) (h₀ : TaskLoopHistory) : List Entry :=
  gathered (step? m) (entries m) es h₀

/-- A loop with the journal of its run. -/
structure Alert (m : Manager) (j : List Entry) (h : TaskLoopHistory) : Prop where
  journaled : Journaled j h.loop.phase
  stored : Stored j h.loop.stream.inbox
  alone : h.loop.stream.BlindAlone
  live : h.loop.result? = none → h.loop.stream.mode ≠ .ended
  asked : (h.loop.phase = .subscribing ∧ h.asked = []) ∨
    h.asked.head? = some (.listen (insertChannel m.ns))

theorem Alert.start {period capacity now} (hs : start period capacity now = .ok h₀) :
    Alert m [] h₀ := by
  cases start_eq_ok hs
  constructor
  case journaled => simp [Journaled]
  case stored => exact ⟨rfl, List.nil_suffix⟩
  case alone => exact nofun
  case live => exact nofun
  case asked => exact .inl ⟨rfl, rfl⟩

theorem entries_turn {replies lost asked move}
    (ht : h.loop.take? m h.now h.cancelled replies lost = some (asked, move)) :
    entries m (.turn replies lost) h = h.loop.entries h.now h.cancelled move := by
  simp [entries, ht]

/-- The first thing that a loop asks for is the announcements. -/
theorem head_of_take? {replies lost asked move} (hp : h.loop.phase = .subscribing)
    (ht : h.loop.take? m h.now h.cancelled replies lost = some (asked, move)) :
    asked.head? = some (.listen (insertChannel m.ns)) := by
  obtain ⟨d, hd, ht⟩ := Option.bind_eq_some_iff.mp ht
  obtain ⟨move, -, ht⟩ := Option.map_eq_some_iff.mp ht
  simp only [TaskLoop.turn?, hp] at hd
  cases hd
  cases ht
  cases replies <;> rfl

theorem Alert.turn {replies lost asked move loop} (ha : Alert m j h)
    (ht : h.loop.take? m h.now h.cancelled replies lost = some (asked, move))
    (hl : TaskLoop.Step h.now h.cancelled h.loop move loop) :
    Alert m (j ++ h.loop.entries h.now h.cancelled move)
      { h with loop, record := h.record.note h.loop move, asked := h.asked ++ asked } := by
  constructor
  case journaled => exact hl.journaled ha.journaled
  case stored => exact hl.stored ha.stored
  case alone =>
    cases hl with
    | pulled _ hpull => exact (SignalStream.pull?_sound hpull).blindAlone
    | subscribed | setupFailed | claimed | delivered | givesBack | returned => exact ha.alone
  case live =>
    have hlive := ha.live hl.not_ended
    cases hl with
    | pulled _ hpull =>
        cases SignalStream.pull?_sound hpull with
        | stopped => simp [TaskLoop.result?, TaskLoop.afterPull]
        | read | reconnected => exact fun _ => hlive
        | woke | polled | wentBlind =>
            intro _ hended
            cases hended
    | subscribed | setupFailed | claimed | delivered | givesBack | returned => exact fun _ => hlive
  case asked =>
    refine .inr ?_
    rcases ha.asked with ⟨hp, hnil⟩ | hhead
    · change (h.asked ++ asked).head? = _
      rw [hnil, List.nil_append, head_of_take? hp ht]
    · simp [List.head?_append, hhead]

/-- What leaves the phase, the stream and the requests alone keeps a loop alert. -/
theorem Alert.keep (ha : Alert m j h) (hphase : h'.loop.phase = h.loop.phase)
    (hstream : h'.loop.stream = h.loop.stream) (hasked : h'.asked = h.asked) : Alert m j h' := by
  have hresult : h'.loop.result? = h.loop.result? := by
    simp only [TaskLoop.result?, hphase]
  constructor
  case journaled => rw [hphase]; exact ha.journaled
  case stored => rw [hstream]; exact ha.stored
  case alone => rw [hstream]; exact ha.alone
  case live => rw [hresult, hstream]; exact ha.live
  case asked => rw [hphase, hasked]; exact ha.asked

theorem Alert.notify {queue : String} (ha : Alert m j h)
    (hconnected : h.loop.stream.connected = true) :
    Alert m (j ++ [.arrived queue]) { h with loop := h.loop.notify queue } := by
  have hstream : h.loop.stream.notify queue =
      { h.loop.stream with inbox := h.loop.stream.inbox ++ [queue] } := by
    simp [SignalStream.notify, hconnected]
  constructor
  case journaled => exact ha.journaled.arrive
  case stored =>
    simp only [TaskLoop.notify, hstream]
    exact ha.stored.arrive
  case alone => exact ha.alone.notify
  case live =>
    simp only [TaskLoop.notify, hstream]
    exact ha.live
  case asked => exact ha.asked

theorem Alert.step (ha : Alert m j h) (hs : step? m e h = some h') :
    Alert m (j ++ entries m e h) h' := by
  cases e with
  | turn replies lost =>
      obtain ⟨asked, move, loop, ht, hl, rfl⟩ := step?_turn hs
      rw [entries_turn ht]
      exact ha.turn ht hl
  | notify queue =>
      cases hs
      rw [entries]
      split
      · exact ha.notify ‹_›
      · rename_i hconnected
        rw [List.append_nil]
        exact ha.keep rfl (by simp [TaskLoop.notify, SignalStream.notify, hconnected]) rfl
  | disconnect =>
      cases hs
      rw [entries, List.append_nil]
      exact ⟨ha.journaled, ha.stored, ha.alone.disconnect, ha.live, ha.asked⟩
  | receive =>
      obtain ⟨⟨t, loop⟩, hr, rfl⟩ := Option.map_eq_some_iff.mp hs
      obtain ⟨⟨t, channel⟩, -, hc⟩ := Option.map_eq_some_iff.mp hr
      cases hc
      rw [entries, List.append_nil]
      exact ha.keep rfl rfl rfl
  | pass nanos | detach | cancel =>
      cases hs
      rw [entries, List.append_nil]
      exact ha.keep rfl rfl rfl

theorem alert_of_run {period capacity now} (hs : start period capacity now = .ok h₀)
    (hr : after? (step? m) es h₀ = some h) : Alert m (journal m es h₀) h := by
  refine after?_induction (P := fun es h => Alert m (journal m es h₀) h) (.start hs) ?_ hr
  intro es e h h' hr hs ha
  rw [journal, gathered_snoc hr]
  exact ha.step hs

/-! ## No announcement is forgotten -/

/-- A loop that misses nothing. -/
structure Attentive (m : Manager) (j : List Entry) (h : TaskLoopHistory) : Prop where
  /-- The first thing that it asks for is the announcements. -/
  subscribes : h.asked = [] ∨ h.asked.head? = some (.listen (insertChannel m.ns))
  /-- It claims only after the server took that request. -/
  opened : .began ∉ j ∨ ∃ front rest, j = front ++ .listening :: rest ∧ .began ∉ front
  /-- All that arrived was read or is still to be read, in order. -/
  kept : arrivals j = readings j ++ h.loop.stream.inbox
  /-- What no attempt followed is still to be read, and so is all that arrived later. -/
  pending : ∀ {front queue rest}, j = front ++ .arrived queue :: rest → .began ∉ rest →
    queue :: arrivals rest <:+ h.loop.stream.inbox
  /-- When it waits with nothing to read, the last thing that happened is that an attempt began and
  was answered that there is no task. -/
  drained : h.loop.phase = .waiting → h.loop.stream.inbox = [] →
    (∀ signal, .yielded signal ∉ j) ∨ ∃ front, j = front ++ [.began, .answered (.ok none)]
  /-- When it waits with something to read, its next turn leads to an attempt. -/
  wakes : ∀ {queue inbox}, h.loop.phase = .waiting → h.cancelled = false →
    h.loop.stream.inbox = queue :: inbox → ∀ replies lost, ∃ h',
      step? m (.turn replies lost) h = some h' ∧ h'.loop.phase = .claiming ∧
      h'.loop.stream.inbox = inbox ∧
      entries m (.turn replies lost) h = [.yielded (.notification queue), .began]

theorem Alert.opened (ha : Alert m j h) :
    .began ∉ j ∨ ∃ front rest, j = front ++ .listening :: rest ∧ .began ∉ front := by
  have hopened (hj : Opened j) :
      ∃ front rest, j = front ++ .listening :: rest ∧ .began ∉ front := by
    obtain ⟨front, rest, hj, hfront⟩ := hj
    exact ⟨front, rest, hj, TaskLoop.not_began_of_arrivals hfront⟩
  have hjournaled := ha.journaled
  cases hp : h.loop.phase with
  | subscribing =>
      rw [hp] at hjournaled
      exact .inl (TaskLoop.not_began_of_arrivals hjournaled)
  | waiting | claiming =>
      rw [hp] at hjournaled
      exact .inr (hopened hjournaled.1)
  | holding | returning =>
      rw [hp] at hjournaled
      exact .inr (hopened hjournaled)
  | ended =>
      rw [hp] at hjournaled
      exact hjournaled.symm.imp TaskLoop.not_began_of_arrivals hopened

theorem Alert.drained (ha : Alert m j h) (hp : h.loop.phase = .waiting)
    (hinbox : h.loop.stream.inbox = []) :
    (∀ signal, .yielded signal ∉ j) ∨ ∃ front, j = front ++ [.began, .answered (.ok none)] := by
  have hjournaled := ha.journaled
  rw [hp] at hjournaled
  rcases hjournaled.2 with hnone | ⟨front, during, after, rfl, hduring, hafter⟩
  · exact .inl hnone
  · -- announcements since the attempt began would still have to be read
    have hpending := ha.stored.pending
    rw [hinbox, List.suffix_nil, List.append_cons, TaskLoop.fresh_append_of_not_began,
      List.append_eq_nil_iff, TaskLoop.arrivals_append, List.append_eq_nil_iff] at hpending
    · obtain ⟨-, hduring', hafter'⟩ := hpending
      rw [TaskLoop.eq_nil_of_arrivals hduring hduring', TaskLoop.eq_nil_of_arrivals hafter hafter']
      exact .inr ⟨front, rfl⟩
    · simp [TaskLoop.not_began_of_arrivals hduring, TaskLoop.not_began_of_arrivals hafter]

theorem Alert.wakes {queue inbox} (ha : Alert m j h) (hp : h.loop.phase = .waiting)
    (hc : h.cancelled = false) (hinbox : h.loop.stream.inbox = queue :: inbox) (replies lost) :
    ∃ h', step? m (.turn replies lost) h = some h' ∧ h'.loop.phase = .claiming ∧
      h'.loop.stream.inbox = inbox ∧
      entries m (.turn replies lost) h = [.yielded (.notification queue), .began] := by
  have hmode : h.loop.stream.mode = .listening := by
    cases hm : h.loop.stream.mode with
    | listening => rfl
    | blind =>
        rw [(ha.alone hm).2] at hinbox
        cases hinbox
    | ended => exact absurd hm (ha.live (by simp [TaskLoop.result?, hp]))
  have hpull : h.loop.stream.pull? h.now h.cancelled true =
      some (.signal (.notification queue), { h.loop.stream with inbox }) := by
    simp [SignalStream.pull?, hmode, hc, hinbox]
  have ht : h.loop.take? m h.now h.cancelled replies lost = some ([], .pull true) := by
    simp only [TaskLoop.take?, TaskLoop.turn?, hp, hpull]
    rfl
  let loop : TaskLoop :=
    { h.loop with stream := { h.loop.stream with inbox }, phase := .claiming }
  refine ⟨{ h with loop, record := h.record.note h.loop (.pull true), asked := h.asked ++ [] },
    ?_, rfl, rfl, ?_⟩
  · simp [step?, ht, move?, TaskLoop.step?, hp, hpull, loop]
  · rw [entries_turn ht]
    simp [TaskLoop.entries, hpull, TaskLoop.pullEntries]

/-- Whatever happens to a task loop, it misses nothing. -/
theorem no_wakeup_lost {period capacity now} (hs : start period capacity now = .ok h₀)
    (hr : after? (step? m) es h₀ = some h) : Attentive m (journal m es h₀) h := by
  have ha := alert_of_run hs hr
  exact ⟨ha.asked.imp And.right id, ha.opened, ha.stored.kept,
    fun hj hrest => (hj ▸ ha.stored).suffix hrest, ha.drained, ha.wakes⟩

/-- The replies to a claim when there is no task. -/
def noTask : List Reply := [.empty, .rows [[("id", .null)]], .empty]

def rests (h : TaskLoopHistory) : Bool := h.loop.phase matches .waiting

theorem waiting_of_rests (hh : h.rests = true) : h.loop.phase = .waiting := by
  cases hp : h.loop.phase <;> simp [rests, hp] at hh ⊢

/-- A run in which one task is announced during a claim, and another one while the loop waits for
room in its channel. When there is no task any more it has both announcements to read. -/
def busyRun : List Event :=
  [.turn [.empty], .turn [], .notify "mail", .turn (taskReplies 1), .turn [],
    .turn (taskReplies 2), .notify "news", .receive, .turn [], .turn noTask]

/-- The rest of that run: the loop reads them one after the other, and claims each time. -/
def catchingUp : List Event := [.turn [], .turn noTask, .turn [], .turn noTask]

theorem busyRun_attentive :
    ∃ h₀ mid h, start (.ofSecs 1) 1 0 = .ok h₀ ∧
      after? (step? ⟨"public", "default", "w1"⟩) busyRun h₀ = some mid ∧
      mid.loop.phase = .waiting ∧ mid.loop.stream.inbox = ["mail", "news"] ∧
      after? (step? ⟨"public", "default", "w1"⟩) (busyRun ++ catchingUp) h₀ = some h ∧
      Attentive ⟨"public", "default", "w1"⟩
        (journal ⟨"public", "default", "w1"⟩ (busyRun ++ catchingUp) h₀) h ∧
      ∃ front, journal ⟨"public", "default", "w1"⟩ (busyRun ++ catchingUp) h₀ =
        front ++ [.began, .answered (.ok none)] := by
  let m : Manager := ⟨"public", "default", "w1"⟩
  let h₀ : TaskLoopHistory :=
    { now := 0, loop := { stream := { timer := ⟨.ofSecs 1, 0⟩ }, channel := { capacity := 1 } } }
  have hs : start (.ofSecs 1) 1 0 = .ok h₀ := start_ok (by decide) (by decide)
  have hmid : (after? (step? m) busyRun h₀).any (fun h =>
      h.rests && h.loop.stream.inbox = ["mail", "news"]) = true := by
    decide +kernel
  have hrun : (after? (step? m) (busyRun ++ catchingUp) h₀).any (fun h =>
      h.rests && h.loop.stream.inbox = []) = true := by
    decide +kernel
  have hpolled : (journal m (busyRun ++ catchingUp) h₀).any (· matches .yielded _) = true := by
    decide +kernel
  obtain ⟨mid, hmid, hrests⟩ := (Option.any_eq_true _ _).mp hmid
  simp only [Bool.and_eq_true, decide_eq_true_eq] at hrests
  obtain ⟨h, hrun, hends⟩ := (Option.any_eq_true _ _).mp hrun
  simp only [Bool.and_eq_true, decide_eq_true_eq] at hends
  have hattentive := no_wakeup_lost hs hrun
  refine ⟨h₀, mid, h, hs, hmid, waiting_of_rests hrests.1, hrests.2, hrun, hattentive, ?_⟩
  rcases hattentive.drained (waiting_of_rests hends.1) hends.2 with hnone | hdrained
  · obtain ⟨e, he, hyielded⟩ := List.any_eq_true.mp hpolled
    cases e with
    | yielded signal => exact absurd he (hnone signal)
    | listening | arrived | began | answered => cases hyielded
  · exact hdrained

end TaskLoopHistory

end TaskQueue
