import ArtifactSigning.Failure

/-!
# Reading octets in order

A cursor is a place in a byte string. A reading step either returns a value made of the octets
between the old place and the new one, or fails as truncated; the place is kept either way, so that
reading can go on after a failure.
-/
namespace ArtifactSigning

/-- A byte string and the number of octets already read. -/
structure Cursor where
  data : Bytes
  offset : Nat
  deriving DecidableEq, Repr

abbrev Reading := EStateM Failure Cursor

namespace Cursor

/-- The start of a byte string. -/
def start (data : Bytes) : Cursor := ⟨data, 0⟩

/-- What is still to be read. -/
def rest (c : Cursor) : Bytes := c.data.drop c.offset

def atEnd (c : Cursor) : Bool := c.data.length ≤ c.offset

end Cursor

namespace Reading

/-- A reading step on the start of a byte string, without the place where it ends. -/
def onBytes (step : Reading α) (data : Bytes) : Except Failure α :=
  match step.run (Cursor.start data) with
  | .ok value _ => .ok value
  | .error failure _ => .error failure

/-- The next `count` octets. -/
def take (count : Nat) : Reading Bytes := fun c =>
  if c.offset + count ≤ c.data.length then
    .ok (c.rest.take count) { c with offset := c.offset + count }
  else .error (.format .truncated) c

/-- The next `count` octets of a count that may be negative, which no byte string satisfies. -/
def takeSigned (count : Int) : Reading Bytes :=
  if count < 0 then throw (.format .truncated) else take count.toNat

/-- The next octet. Where one has been taken there is a first one. -/
def octet : Reading UInt8 := do
  match ← take 1 with
  | b :: _ => return b
  | [] => throw .invalidValue

/-- A number of `width` octets. -/
def number (width : Nat) : Reading Nat := ofBigEndian <$> take width

/-- The octets of a multiprecision integer: a bit count of two octets and the magnitude. -/
def integerOctets : Reading Bytes := do
  let bits ← number 2
  take (octetsFor bits)

/-- A multiprecision integer. -/
def integer : Reading Nat := ofBigEndian <$> integerOctets

/-- Everything that is left. -/
def remaining : Reading Bytes := fun c => .ok c.rest { c with offset := c.data.length }

/-- Whether nothing is left. -/
def atEnd : Reading Bool := fun c => .ok c.atEnd c

/-- The number of octets read so far. -/
def offset : Reading Nat := fun c => .ok c.offset c

end Reading

end ArtifactSigning
