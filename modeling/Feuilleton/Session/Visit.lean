import Feuilleton.Failure

/-!
# Visits

What comes of asking a site for pages: the requests in the order in which they were made, and a
result or the failure that ended the visit.
-/

namespace Feuilleton

structure Visit (α : Type) where
  requests : List Request := []
  outcome : Except Failure α

namespace Visit

variable {α β : Type}

def ofExcept (outcome : Except Failure α) : Visit α := { outcome }

def bind (visit : Visit α) (next : α → Visit β) : Visit β :=
  match visit.outcome with
  | .ok value =>
      let later := next value
      { requests := visit.requests ++ later.requests, outcome := later.outcome }
  | .error failure => { requests := visit.requests, outcome := .error failure }

instance : Monad Visit where
  pure value := ofExcept (.ok value)
  bind := bind

def fetch (transport : Transport) (request : Request) : Visit Response where
  requests := [request]
  outcome := transport request

/-- Goes on with a value where the visit ended with an expected failure. -/
def recover (visit : Visit α) (handle : Failure → Option α) : Visit α where
  requests := visit.requests
  outcome :=
    match visit.outcome with
    | .ok value => .ok value
    | .error failure =>
        match handle failure with
        | some value => .ok value
        | none => .error failure

end Visit

end Feuilleton
