/-
  PageObjects.Component.MaskedInput

  A text input that takes only values of the form that its mask describes.
-/

import PageObjects.Component.Container
import PageObjects.Mask.Generate

namespace PageObjects

variable {W σ : Type}

/-- A text input with a mask. -/
structure MaskedInput where
  container : Handle

namespace MaskedInput

/-- The masked input in a container. -/
def ofContainer (container : Handle) : Action W MaskedInput := do
  Component.requireTag container "p-inputmask" .unexpectedTag
  return { container }

/-- The name of the container in messages. -/
def display (masked : MaskedInput) : String :=
  masked.container.own.locator.display

/-- The input in the container. -/
def input (masked : MaskedInput) : Action W Handle :=
  Action.orMiss (.inputMask (masked.display ++ " has no inner input"))
    (masked.container.find (.xpath "./input"))

/-- Types a value in the place of the present one. -/
def sendKeys (masked : MaskedInput) (keys : String) : Action W Unit := do
  let input ← masked.input
  input.clear
  input.sendKeys keys

/-- The present value. -/
def value (masked : MaskedInput) : Action W (Option String) := do
  (← masked.input).value

/-- The mask. -/
def mask (masked : MaskedInput) : Action W (Option String) :=
  masked.container.attributeValue "mask"

/-- A random value that fits the mask; none if a draw goes on beyond `tries`. -/
def generate? (masked : MaskedInput) (g : Generator σ) (tries : Nat) (uppercase : Option Bool)
    (state : σ) : Action W (Option String) := do
  match ← masked.mask with
  | some mask => return Mask.generate? g tries uppercase state mask
  | none => throw (.inputMask (masked.display ++ " has no mask attribute"))

end MaskedInput
end PageObjects
