/-
Cancellation and deadlines.

A context carries a token, which can be cancelled, and perhaps a deadline. A token knows its
ancestors, so a cancelled token cancels the tokens below it and not those above. A token that has
been cancelled counts before a deadline that has passed.
-/

namespace ControlPlane

/-- Why an operation ends before it is complete. -/
inductive Interruption
  | cancelled
  | deadlineExceeded
  deriving DecidableEq, Repr, Inhabited

def Interruption.message : Interruption → String
  | cancelled => "operation cancelled"
  | deadlineExceeded => "deadline exceeded"

/-! ## Tokens -/

/-- A token: its own number and those of the tokens above it. -/
structure Token where
  number : Nat
  ancestors : List Nat
  deriving DecidableEq, Repr, Inhabited

/-- Which tokens have been handed out and which of them cancelled. -/
structure Tokens where
  next : Nat
  cancelled : List Nat
  deriving DecidableEq, Repr, Inhabited

namespace Tokens

def empty : Tokens := ⟨0, []⟩

/-- A new token below no other. -/
def fresh (tokens : Tokens) : Token × Tokens :=
  (⟨tokens.next, []⟩, { tokens with next := tokens.next + 1 })

/-- A new token below another. -/
def child (tokens : Tokens) (above : Token) : Token × Tokens :=
  (⟨tokens.next, above.number :: above.ancestors⟩, { tokens with next := tokens.next + 1 })

def cancel (tokens : Tokens) (token : Token) : Tokens :=
  { tokens with cancelled := token.number :: tokens.cancelled }

def isCancelled (tokens : Tokens) (token : Token) : Bool :=
  (token.number :: token.ancestors).any fun n => tokens.cancelled.contains n

end Tokens

/-! ## Contexts -/

/-- A token and perhaps a deadline, in seconds of the clock. -/
structure Context where
  token : Token
  deadline : Option Int
  deriving DecidableEq, Repr, Inhabited

namespace Context

/-- A context on a new token, without a deadline. -/
def background (tokens : Tokens) : Context × Tokens :=
  let (token, tokens) := tokens.fresh
  (⟨token, none⟩, tokens)

/-- A context on the same token, without a deadline. -/
def share (ctx : Context) : Context := ⟨ctx.token, none⟩

/-- A context on a token below, with the same deadline. -/
def child (ctx : Context) (tokens : Tokens) : Context × Tokens :=
  let (token, tokens) := tokens.child ctx.token
  (⟨token, ctx.deadline⟩, tokens)

/-- Set a deadline, unless there is an earlier one. -/
def withDeadline (ctx : Context) (deadline : Int) : Context :=
  match ctx.deadline with
  | some earlier => if earlier < deadline then ctx else { ctx with deadline := some deadline }
  | none => { ctx with deadline := some deadline }

/-- What has interrupted the context so far. -/
def interruption (ctx : Context) (tokens : Tokens) (now : Int) : Option Interruption :=
  if tokens.isCancelled ctx.token then some .cancelled
  else if ctx.deadline.any fun deadline => deadline ≤ now then some .deadlineExceeded
  else none

end Context

/-! ## Racing -/

/-- Work that may or may not end, and may cancel the token under which it runs. -/
structure Work (α : Type) where
  cancels : Bool
  result : Option α
  deriving Repr

/-- How a race between work and its context ends. -/
inductive Race (α : Type)
  | completed (value : α)
  | interrupted (why : Interruption)
  /-- Neither ever happens. -/
  | unending
  deriving DecidableEq, Repr

/-- Run work under a context; also whether the work was started. A context that is interrupted
before never starts it, and work that ends at once is not interrupted. -/
def Context.race {α : Type} (ctx : Context) (tokens : Tokens) (now : Int) (work : Work α) :
    Race α × Bool :=
  match ctx.interruption tokens now with
  | some why => (.interrupted why, false)
  | none =>
    match work.result with
    | some value => (.completed value, true)
    | none =>
      if work.cancels then (.interrupted .cancelled, true)
      else if ctx.deadline.isSome then (.interrupted .deadlineExceeded, true)
      else (.unending, true)

end ControlPlane
