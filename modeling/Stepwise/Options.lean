import Stepwise.Double.Basic
import Stepwise.Duration
import Stepwise.Entries

namespace Stepwise

structure RetryPolicy where
  initialInterval : Option Duration := none
  backoffCoefficient : Option Floating := none
  maximumAttempts : Option Nat := none
  maximumInterval : Option Duration := none
  nonRetryableErrorTypes : Option (List String) := none
deriving DecidableEq

namespace RetryPolicy

/-- Fields that `top` sets win. -/
def overlaidBy (base top : RetryPolicy) : RetryPolicy where
  initialInterval := top.initialInterval.or base.initialInterval
  backoffCoefficient := top.backoffCoefficient.or base.backoffCoefficient
  maximumAttempts := top.maximumAttempts.or base.maximumAttempts
  maximumInterval := top.maximumInterval.or base.maximumInterval
  nonRetryableErrorTypes := top.nonRetryableErrorTypes.or base.nonRetryableErrorTypes

def forbidsRetry (policy : RetryPolicy) (errorType : String) : Bool :=
  policy.nonRetryableErrorTypes.any (·.contains errorType)

end RetryPolicy

/-- How an activity is to be run. Every field may be left open, and options are laid over each other
field by field. -/
structure ActivityOptions where
  startToCloseTimeout : Option Duration := none
  retry : Option RetryPolicy := none
deriving DecidableEq

namespace ActivityOptions

/-- Fields that `top` sets win, those of the retry policy one by one. -/
def overlaidBy (base top : ActivityOptions) : ActivityOptions where
  startToCloseTimeout := top.startToCloseTimeout.or base.startToCloseTimeout
  retry := Option.merge RetryPolicy.overlaidBy base.retry top.retry

def forbidsRetry (options : ActivityOptions) (errorType : String) : Bool :=
  options.retry.any (·.forbidsRetry errorType)

end ActivityOptions

structure OptionsRegistry where
  overrides : Entries ActivityOptions := []

namespace OptionsRegistry

def register (registry : OptionsRegistry) (activity : String) (options : ActivityOptions) :
    OptionsRegistry :=
  ⟨registry.overrides.insert activity options⟩

def get? (registry : OptionsRegistry) (activity : String) : Option ActivityOptions :=
  registry.overrides.get? activity

/-- The options of an activity laid over defaults, or the defaults when it has none. -/
def optionsFor (registry : OptionsRegistry) (activity : String) (defaults : ActivityOptions) :
    ActivityOptions :=
  match registry.get? activity with
  | some options => defaults.overlaidBy options
  | none => defaults

end OptionsRegistry

end Stepwise
