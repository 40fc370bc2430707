import Stepwise.Engine
import Stepwise.Proofs.Entries

namespace Stepwise

/-- The settings of options, those of the retry policy among them. -/
inductive Setting where
  | startToCloseTimeout
  | initialInterval
  | backoffCoefficient
  | maximumAttempts
  | maximumInterval
  | nonRetryableErrorTypes
deriving DecidableEq, Repr

abbrev Setting.Value : Setting → Type
  | .startToCloseTimeout | .initialInterval | .maximumInterval => Duration
  | .backoffCoefficient => Floating
  | .maximumAttempts => Nat
  | .nonRetryableErrorTypes => List String

namespace ActivityOptions

variable {options other base top : ActivityOptions}

/-- The value of a setting; without a retry policy its settings are left open. -/
def setting? (options : ActivityOptions) : (setting : Setting) → Option setting.Value
  | .startToCloseTimeout => options.startToCloseTimeout
  | .initialInterval => options.retry.bind RetryPolicy.initialInterval
  | .backoffCoefficient => options.retry.bind RetryPolicy.backoffCoefficient
  | .maximumAttempts => options.retry.bind RetryPolicy.maximumAttempts
  | .maximumInterval => options.retry.bind RetryPolicy.maximumInterval
  | .nonRetryableErrorTypes => options.retry.bind RetryPolicy.nonRetryableErrorTypes

/-- A field of a merged policy, where it is the upper policy's or else the lower one's. -/
theorem bind_merge {α : Type} {field : RetryPolicy → Option α}
    (hf : ∀ low high, field (RetryPolicy.overlaidBy low high) = (field high).or (field low))
    (low high : Option RetryPolicy) :
    (Option.merge RetryPolicy.overlaidBy low high).bind field =
      (high.bind field).or (low.bind field) := by
  cases low with
  | none => cases high <;> simp [Option.merge]
  | some low =>
    cases high with
    | none => simp [Option.merge]
    | some high => exact hf low high

@[simp] theorem setting?_overlaidBy (base top : ActivityOptions) (setting : Setting) :
    (base.overlaidBy top).setting? setting =
      (top.setting? setting).or (base.setting? setting) := by
  cases setting with
  | startToCloseTimeout => rfl
  | initialInterval | backoffCoefficient | maximumAttempts | maximumInterval
  | nonRetryableErrorTypes => exact bind_merge (fun _ _ => rfl) base.retry top.retry

@[simp] theorem isSome_retry_overlaidBy (base top : ActivityOptions) :
    (base.overlaidBy top).retry.isSome = (top.retry.isSome || base.retry.isSome) := by
  simp only [overlaidBy]
  cases base.retry <;> cases top.retry <;> rfl

@[simp] theorem setting?_empty (setting : Setting) :
    setting? {} setting = none := by
  cases setting <;> rfl

theorem setting?_getD (options : Option ActivityOptions) (setting : Setting) :
    (options.getD {}).setting? setting = options.bind (·.setting? setting) := by
  cases options with
  | none => exact setting?_empty setting
  | some options => rfl

/-- Options are told apart by their settings and by whether they have a retry policy. -/
theorem ext_settings (hr : options.retry.isSome = other.retry.isSome)
    (hs : ∀ setting, options.setting? setting = other.setting? setting) : options = other := by
  obtain ⟨timeout, retry⟩ := options
  obtain ⟨timeout', retry'⟩ := other
  obtain rfl : timeout = timeout' := hs .startToCloseTimeout
  cases retry with
  | none => cases retry' with
    | none => rfl
    | some policy => cases hr
  | some policy => cases retry' with
    | none => cases hr
    | some policy' =>
      obtain ⟨initial, coefficient, attempts, maximum, types⟩ := policy
      obtain ⟨initial', coefficient', attempts', maximum', types'⟩ := policy'
      obtain rfl : initial = initial' := hs .initialInterval
      obtain rfl : coefficient = coefficient' := hs .backoffCoefficient
      obtain rfl : attempts = attempts' := hs .maximumAttempts
      obtain rfl : maximum = maximum' := hs .maximumInterval
      obtain rfl : types = types' := hs .nonRetryableErrorTypes
      rfl

theorem overlaidBy_assoc (base middle top : ActivityOptions) :
    (base.overlaidBy middle).overlaidBy top = base.overlaidBy (middle.overlaidBy top) :=
  ext_settings (by simp [Bool.or_assoc]) (by simp [Option.or_assoc])

theorem overlaidBy_empty (options : ActivityOptions) : options.overlaidBy {} = options :=
  ext_settings (by simp) (by simp)

theorem empty_overlaidBy (options : ActivityOptions) : overlaidBy {} options = options :=
  ext_settings (by simp) (by simp)

theorem overlaidBy_self (options : ActivityOptions) : options.overlaidBy options = options :=
  ext_settings (by simp) (by simp)

end ActivityOptions

namespace Engine

variable {σ : Type}

/-- The options that count for an activity, the stronger ones first: its override, those of the
workflow, those of the engine. -/
def layers (e : Engine σ) (activity : String) (w : Option Workflow) : List ActivityOptions :=
  (e.options.get? activity).toList ++ (w.bind Workflow.options).toList ++ [e.defaults]

theorem optionsFor_eq (registry : OptionsRegistry) (activity : String)
    (defaults : ActivityOptions) :
    registry.optionsFor activity defaults =
      defaults.overlaidBy ((registry.get? activity).getD {}) := by
  unfold OptionsRegistry.optionsFor
  cases registry.get? activity with
  | none => exact (ActivityOptions.overlaidBy_empty defaults).symm
  | some options => rfl

theorem defaultsOf_eq (e : Engine σ) (w : Option Workflow) :
    e.defaultsOf w = e.defaults.overlaidBy ((w.bind Workflow.options).getD {}) := by
  unfold defaultsOf
  cases w.bind Workflow.options with
  | none => exact (ActivityOptions.overlaidBy_empty e.defaults).symm
  | some options => rfl

/-- Each setting is that of the first layer that has it. -/
theorem setting?_optionsOf (e : Engine σ) (activity : String) (w : Option Workflow)
    (setting : Setting) :
    (e.optionsOf activity w).setting? setting =
      (e.layers activity w).findSome? (·.setting? setting) := by
  have ht : ∀ layer : Option ActivityOptions,
      layer.toList.findSome? (·.setting? setting) = layer.bind (·.setting? setting) := by
    intro layer
    cases layer <;> simp
  rw [optionsOf, optionsFor_eq, defaultsOf_eq, layers, List.findSome?_append,
    List.findSome?_append, ht, ht]
  simp [ActivityOptions.setting?_getD, Option.or_assoc]

/-- There is a retry policy if a layer has one. -/
theorem isSome_retry_optionsOf (e : Engine σ) (activity : String) (w : Option Workflow) :
    (e.optionsOf activity w).retry.isSome = (e.layers activity w).any (·.retry.isSome) := by
  rw [optionsOf, optionsFor_eq, defaultsOf_eq, layers]
  cases e.options.get? activity <;> cases w.bind Workflow.options <;> simp

end Engine

end Stepwise
