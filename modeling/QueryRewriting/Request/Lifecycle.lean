/-!
The lifecycle of a request: the stages it passes in order, and the three ways it can end. No stage
is entered twice.
-/

namespace QueryRewriting

/-- A stage in the life of a request. -/
inductive Stage where
  | received
  | preFiltering
  | shortCircuited
  | rewriting
  | executing
  | postFiltering
  | completed
  | failed
  deriving DecidableEq, Inhabited

namespace Stage

/-- All stages. -/
def all : List Stage :=
  [.received, .preFiltering, .shortCircuited, .rewriting, .executing, .postFiltering, .completed,
   .failed]

/-- The name of a stage. -/
def name : Stage → String
  | .received => "RECEIVED"
  | .preFiltering => "PRE_FILTERING"
  | .shortCircuited => "SHORT_CIRCUITED"
  | .rewriting => "REWRITING"
  | .executing => "EXECUTING"
  | .postFiltering => "POST_FILTERING"
  | .completed => "COMPLETED"
  | .failed => "FAILED"

/-- The stage of a name. -/
def ofName? (name : String) : Option Stage := all.find? fun stage => stage.name == name

/-- Whether a request ends here. -/
def isTerminal : Stage → Bool
  | .shortCircuited | .completed | .failed => true
  | _ => false

/-- Whether a stage directly follows another. Every stage that is not terminal may fail. -/
def leadsTo : Stage → Stage → Bool
  | stage, .failed => !stage.isTerminal
  | .received, .preFiltering => true
  | .preFiltering, .shortCircuited => true
  | .preFiltering, .rewriting => true
  | .rewriting, .executing => true
  | .executing, .postFiltering => true
  | .postFiltering, .completed => true
  | _, _ => false

end Stage

/-- Where a request is, and how it came there, the latest stage first. -/
structure Lifecycle where
  stage : Stage := .received
  earlier : List Stage := []
  deriving DecidableEq, Inhabited

namespace Lifecycle

/-- The stages so far, in order. -/
def history (lifecycle : Lifecycle) : List Stage :=
  (lifecycle.stage :: lifecycle.earlier).reverse

/-- Enters a stage, whether or not it may follow. -/
def enter (lifecycle : Lifecycle) (next : Stage) : Lifecycle :=
  ⟨next, lifecycle.stage :: lifecycle.earlier⟩

/-- Enters a stage that may follow. -/
def moveTo? (lifecycle : Lifecycle) (next : Stage) : Option Lifecycle :=
  if lifecycle.stage.leadsTo next then some (lifecycle.enter next) else none

/-- Fails, unless the request has ended. -/
def fail (lifecycle : Lifecycle) : Lifecycle :=
  if lifecycle.stage.isTerminal then lifecycle else lifecycle.enter .failed

end Lifecycle

end QueryRewriting
