/-
  File:      CampusConnect/Model/Failures.lean
  Subject:   What a refused operation raises: the classes of `core/exceptions.py` and their texts.

  A message is the source's f-string with `%s` where it interpolates; `args` are the interpolated
  values in order.
-/
import CampusConnect.Model.Values

namespace CampusConnect

/-- The exception classes the services raise, and the errors of the ORM and the database below
    them. -/
inductive FailureKind where
  | badRequest
  | forbidden
  | resourceOwnership
  | workflowState
  | notFound
  | conflict
  | hallConflict
  | optimisticLock
  | businessRule
  | advanceBookingViolation
  | budgetCapExceeded
  | invalidWorkflowTransition
  | settlementStaleData
  | invalidToken
  | invalidCredentials
  | accountInactive
  | accountLocked
  | rateLimitExceeded
  | integrity
  | staleData
  | undefinedOperator
  | indexError
  deriving DecidableEq, Repr

/-- A value interpolated into a message or stored in an audit entry. -/
inductive Value where
  | null
  | text (t : Text)
  | name (s : String)
  | uuid (u : Uuid)
  | amount (c : Int)
  | number (n : Nat)
  | flag (b : Bool)
  | time (t : Instant)
  | names (l : List String)
  deriving DecidableEq, Repr

def Value.ofText : Option Text → Value
  | none => .null
  | some t => .text t

def Value.ofAmount : Option Int → Value
  | none => .null
  | some c => .amount c

def Value.ofNumber : Option Nat → Value
  | none => .null
  | some n => .number n

def Value.ofTime : Option Instant → Value
  | none => .null
  | some t => .time t

def Value.ofUuid : Option Uuid → Value
  | none => .null
  | some u => .uuid u

/-- A raised exception. -/
structure Failure where
  kind : FailureKind
  message : String
  args : List Value := []
  deriving DecidableEq, Repr

/-- What a service call returns: a value, or the exception it raises. -/
abbrev Result (α : Type) := Except Failure α

/-- A CHECK or key constraint refused the flush. -/
def integrityError : Failure := ⟨.integrity, "IntegrityError", []⟩

/-- An UPDATE of the flush found no row of its key. -/
def staleDataError : Failure := ⟨.staleData, "StaleDataError", []⟩

end CampusConnect
