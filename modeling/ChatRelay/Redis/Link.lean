import ChatRelay.Time.Span

/-! # The link to Redis

Every exchange with Redis opens a connection if there is none and has to end within a fixed time;
one that does not end in time costs the connection. This module has the outcomes of an exchange.
-/

namespace ChatRelay

/-- Why an exchange with Redis failed. -/
inductive LinkError where
  /-- Redis answered with an error, or the connection broke. -/
  | server (text : String)
  /-- Nothing came within the time allowed. -/
  | timeout (after : Span)
  deriving Repr, DecidableEq

/-- What is wrong, in words. -/
def LinkError.message : LinkError → String
  | .server text => "Redis error: " ++ text
  | .timeout after => "Redis operation timed out after " ++ after.text

end ChatRelay
