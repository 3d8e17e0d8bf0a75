import Phrasebook.Fault
/-!
Guards against deep nesting. A guard counts the levels entered and refuses to go beyond its limit;
limits are clamped to what the call stack can carry, with a warning.
-/
namespace Phrasebook

def stackFrames : Int := 1000

inductive LogLevel where
  | debug | info | warning | error
  deriving DecidableEq

structure LogRecord where
  level : LogLevel
  message : Text

namespace LogLevel

def label : LogLevel → Text
  | .debug => "DEBUG" | .info => "INFO" | .warning => "WARNING" | .error => "ERROR"

def rank : LogLevel → Nat
  | .debug => 10 | .info => 20 | .warning => 30 | .error => 40

end LogLevel

namespace Depth

/-- The greatest depth allowed when so many frames are kept back. -/
def ceiling (reserve : Int) : Int := Int.fdiv (stackFrames - reserve) 4

def defaultReserve : Int := 50

def defaultLimit : Int := 100

def clamp (requested : Int) (reserve : Int := defaultReserve) : Int :=
  if ceiling reserve < requested then ceiling reserve else requested

def clampWarnings (requested : Int) (reserve : Int := defaultReserve) : List LogRecord :=
  if ceiling reserve < requested then
    [⟨.warning, "Requested depth " ++ Text.ofInt requested ++
      " exceeds what the Python recursion limit (" ++ Text.ofInt stackFrames ++
      ") allows. Clamping to " ++ Text.ofInt (ceiling reserve) ++
      " to prevent RecursionError."⟩]
  else []

end Depth

structure DepthGuard where
  limit : Int
  depth : Int := 0

namespace DepthGuard

def new (requested : Int) : DepthGuard := ⟨Depth.clamp requested, 0⟩

/-- One level deeper, unless the limit is reached. -/
def enter (g : DepthGuard) : Except Fault DepthGuard :=
  if g.limit ≤ g.depth then
    .error (.own (.tooDeep (.diagnostic (Diagnostic.tooDeep g.limit))))
  else .ok { g with depth := g.depth + 1 }

def leave (g : DepthGuard) : DepthGuard := { g with depth := g.depth - 1 }

def reset (g : DepthGuard) : DepthGuard := { g with depth := 0 }

end DepthGuard
end Phrasebook
