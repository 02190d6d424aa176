/-!
# Exceptions the services raise or let through

`errors.py` defines `CloudWardError`, the only exception the workflows catch. The
other exceptions come from libraries and pass through every handler of the modelled
code: the Kubernetes client's `ApiException` where a call is not wrapped, its transport
errors, SQLAlchemy errors and pydantic's `ValidationError`.
-/

namespace CloudWard

/-- `errors.py:16`, less the free-form `details` that no modelled function reads. -/
structure CloudWardError where
  code : String
  message : String
  statusCode : Nat := 400
deriving DecidableEq, Repr

/-- What a service call can end with instead of a return. -/
inductive Exc
  | cloudWard (error : CloudWardError)
  | api (status : Nat)
  | transport
  | database
  | validation
deriving DecidableEq, Repr

namespace Exc

/-- The exceptions that `except CloudWardError` catches. -/
def isCloudWard : Exc → Bool
  | .cloudWard _ => true
  | _ => false

/-- The exceptions that `except ApiException` catches. -/
def isApi : Exc → Bool
  | .api _ => true
  | _ => false

/-- `raise CloudWardError(...) from exc` in the `except ApiException` clause of one call. -/
def wrapApi (error : CloudWardError) : Exc → Exc
  | .api _ => .cloudWard error
  | e => e

@[simp] theorem wrapApi_api (error : CloudWardError) (status : Nat) :
    wrapApi error (.api status) = .cloudWard error := rfl

/-- Wrapping an API exception leaves a `CloudWardError`. -/
theorem isCloudWard_wrapApi (error : CloudWardError) (e : Exc) (h : e.isApi) :
    (wrapApi error e).isCloudWard := by
  cases e with
  | api status => rfl
  | _ => simp [isApi] at h

end Exc
end CloudWard
