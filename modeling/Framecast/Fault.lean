/-!
# Faults

What a driver, an encoder or a container reports when it refuses a call: its own code and its own
words.
-/

namespace Framecast

/-- A refusal of a native library. -/
structure Fault where
  /-- The library's error code. -/
  code : Int32
  /-- The library's description. -/
  message : String
deriving DecidableEq, Repr

/-- The fault in words. -/
def Fault.text (f : Fault) : String :=
  f.message ++ " (code " ++ toString f.code.toInt ++ ")"

end Framecast
