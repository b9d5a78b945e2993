/-
Writing and reading documents that consist of sections, as one pair of operations.

An integer beyond 64 signed bits has no place in a document.
-/
import GatewayLogin.Toml.Document
import GatewayLogin.Toml.Writer

namespace GatewayLogin.Toml

/-- Whether a document can hold a scalar. -/
def Scalar.fits : Scalar → Bool
  | .integer n => -(integerLimit : Int) ≤ n && n < integerLimit
  | _ => true

def Section.fits (s : Section) : Bool :=
  s.entries.all fun e => e.2.fits

/-- How documents are written, if they can be, and how texts are read, if they are documents. -/
structure Codec where
  write? : List Section → Option String
  read? : String → Option Entries

/-- Each scalar in the plainest form that can hold it. -/
def Codec.plain : Codec where
  write? sections := if sections.all Section.fits then some (render sections) else none
  read? := parse?

end GatewayLogin.Toml
