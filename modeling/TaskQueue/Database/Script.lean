import TaskQueue.Database.Dialogue

/-!
# Scripted servers

A server that replies from a list: one reply for each statement, in order, and a reply of its own
for the begin and the commit of a transaction. It keeps nothing else.
-/

namespace TaskQueue

structure Script where
  replies : List Reply
  onBegin : Reply := .empty
  onCommit : Reply := .empty
  /-- The reply to a statement when the list is used up. -/
  afterwards : Reply := .empty
deriving Inhabited

namespace Script

/-- The server that follows a script; its state is what is left of the list. -/
def server (script : Script) : Dialogue.Server (List Reply)
  | .begin, replies => (script.onBegin, replies)
  | .commit, replies => (script.onCommit, replies)
  | .rollback, replies => (.empty, replies)
  | .listen _, replies => (.empty, replies)
  | .run _, reply :: replies => (reply, replies)
  | .run _, [] => (script.afterwards, [])

def run {α : Type} (script : Script) (d : Dialogue α) : Dialogue.Transcript α (List Reply) :=
  d.run script.server script.replies

end Script

end TaskQueue
