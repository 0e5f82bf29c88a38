import ArtifactSigning.Decimal.Shortest

/-!
# Durations

A waiting limit is a number of seconds, given as a whole number or as a floating-point number. The
text keeps the difference: `300` and `300.0` are different texts for limits of the same length.
-/
namespace ArtifactSigning.Time

inductive Seconds where
  | whole (n : Int)
  | real (x : Float)

/-- The number as it stands in messages. -/
def Seconds.text : Seconds → String
  | .whole n => toString n
  | .real x => String.ofList (Decimal.format x)

/-- A limit as it stands in messages; a missing one is called `None`. -/
def limitText : Option Seconds → String
  | none => "None"
  | some limit => limit.text

end ArtifactSigning.Time
