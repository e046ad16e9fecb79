import TaskQueue.Entity.Task

/-!
# Pages

A listing is asked for page by page, and answers with the total count beside the page.
-/

namespace TaskQueue

def defaultPageLimit : UInt64 := 100

/-- A page of a listing: how many entries to skip and how many to return. -/
structure Page where
  offset : UInt64 := 0
  limit : UInt64 := defaultPageLimit
deriving DecidableEq, Repr, Inhabited

namespace Page

def maxBound : Int64 := 9223372036854775807

/-- A number as a number with a sign, the greatest one when it is too large. -/
def toBound (n : UInt64) : Int64 :=
  if n.toNat < Nat.pow 2 63 then Int64.ofNat n.toNat else maxBound

/-- The offset and the limit as the database takes them. A limit of zero stands for the usual
one. -/
def bounds (page : Page) : Int64 × Int64 :=
  (toBound page.offset, toBound (if page.limit = 0 then defaultPageLimit else page.limit))

end Page

structure TaskPage where
  page : Page := {}
  status : Option TaskStatus := none
deriving DecidableEq, Repr, Inhabited

structure Listing (α : Type) where
  count : UInt64 := 0
  body : List α := []
deriving Repr, Inhabited

end TaskQueue
