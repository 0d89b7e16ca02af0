/-!
Traces: the messages that an operation logs, in order.
-/

namespace CompanionStyles

inductive LogLevel where
  | debug
  | warn
  deriving DecidableEq, Repr

structure LogLine where
  level : LogLevel
  text : String
  deriving DecidableEq, Repr

end CompanionStyles
