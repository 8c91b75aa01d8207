import Mathlib.Algebra.Order.Ring.Rat

/-!
# Floats as a parameter

The operations of a binary float type that a program uses, without their rounding. Nothing is said about them but
how the comparison orders three decimal literals; exact arithmetic is an instance.
-/

set_option autoImplicit false

namespace OperatingOrganism

universe u

class PythonFloat (F : Type u) where
  /-- the literal with these digits, so many of them after the point -/
  lit : (digits places : Nat) → F
  add : F → F → F
  sub : F → F → F
  mul : F → F → F
  div : F → F → F
  /-- the true division of two integers -/
  intDiv : Int → Int → F
  lt : F → F → Bool
  le : F → F → Bool
  /-- `0.0 < 0.0` -/
  lt_zero_zero : lt (lit 0 1) (lit 0 1) = false
  /-- `0.0 < 0.1` -/
  lt_zero_tenth : lt (lit 0 1) (lit 1 1) = true
  /-- `0.0 < 0.4` -/
  lt_zero_fourTenths : lt (lit 0 1) (lit 4 1) = true

/-- Exact arithmetic. -/
instance : PythonFloat Rat where
  lit digits places := mkRat digits (10 ^ places)
  add := (· + ·)
  sub := (· - ·)
  mul := (· * ·)
  div := (· / ·)
  intDiv a b := a / b
  lt a b := decide (a < b)
  le a b := decide (a ≤ b)
  lt_zero_zero := by decide
  lt_zero_tenth := by decide
  lt_zero_fourTenths := by decide

end OperatingOrganism
