/-!
# Powers

A power of natural numbers is the repeated product that comes with the numbers. Other libraries
offer the same powers by other ways; the priority here keeps one way for all statements.
-/
namespace ArtifactSigning

/-- The powers of natural numbers. -/
instance (priority := 20000) naturalPower : Pow Nat Nat := instPowNat

attribute [default_instance 20000] naturalPower

end ArtifactSigning
