import LogTree.Capture.Notice

/-!
# The log of the library itself

Notices are handed on as text to a handler while one is enabled. A handler may disable the log
before it takes a message down; messages that come while none is enabled are lost.
-/

namespace LogTree

/-- What takes messages down. -/
structure LogHandler where
  /-- What is taken down of a message. -/
  record : String → String
  /-- Whether the handler disables the log when it gets a message. -/
  once : Bool

/-- The log, enabled if it has a handler. -/
structure SelfLog where
  /-- The handler in use. -/
  handler : Option LogHandler := none

namespace SelfLog

/-- Whether a handler is in use. -/
def isEnabled (log : SelfLog) : Bool :=
  log.handler.isSome

/-- The log with a handler in the place of any other. -/
def enable (_ : SelfLog) (handler : LogHandler) : SelfLog :=
  ⟨some handler⟩

/-- The log without a handler. -/
def disable (_ : SelfLog) : SelfLog :=
  ⟨none⟩

/-- The log after a message, and what was taken down of it. -/
def write (log : SelfLog) (message : String) : SelfLog × List String :=
  match log.handler with
  | none => (log, [])
  | some handler =>
    (if handler.once then log.disable else log, [handler.record message])

/-- The log after messages in order, and what was taken down of them. -/
def writeAll (log : SelfLog) : List String → SelfLog × List String
  | [] => (log, [])
  | message :: messages =>
    let (next, taken) := log.write message
    let (last, further) := next.writeAll messages
    (last, taken ++ further)

end SelfLog

end LogTree
