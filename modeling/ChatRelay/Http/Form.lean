import ChatRelay.Http.Percent
import ChatRelay.Text.Utf8

/-! # Query parameters

The query of a target is a list of parameters, a name and a value each. Plus signs are spaces,
percent encoding is undone, and what is no valid text is read with replacement characters, so every
query can be read.
-/

namespace ChatRelay.Http

/-- The text of a name or a value. -/
def formText (data : Bytes) : String :=
  let spaced := data.map fun b => if b = 0x2B then 0x20 else b
  String.ofList (Utf8.decodeLossy (percentDecode spaced))

/-- One parameter: what stands before and after the first equals sign. -/
def formPair (data : Bytes) : String × String :=
  (formText (data.takeWhile (· != 0x3D)), formText ((data.dropWhile (· != 0x3D)).drop 1))

/-- The parameters of a query. Parts of no length do not count. -/
def formPairs (query : Bytes) : List (String × String) :=
  ((query.splitOn 0x26).filter fun part => !part.isEmpty).map formPair

end ChatRelay.Http
