import Pyvrs.Vrs.Library

/-!
# Python exceptions

The exceptions that the bindings and the Python code raise, with what their messages are made of.
-/

namespace Pyvrs

/-- The exceptions raised to Python. -/
inductive PyError
  | stopIteration (message : String)
  | indexError (message : String)
  | valueError (message : String)
  | runtimeError (message : String)
  | streamNotFoundError (message : String)
  | timestampNotFoundError (timestamp epsilon : Timestamp) (streamId : StreamId)
      (recordType : RecordType)
  | typeError (message : String)
  | nameError (message : String)
  | exception (message : String)
  | timestampOrderWriteException (lastFlushedTimestamp providedTimestamp : Timestamp)
  deriving DecidableEq

/-- The classes of the exceptions raised. -/
inductive PyErrorKind
  | stopIteration
  | indexError
  | valueError
  | runtimeError
  | streamNotFoundError
  | timestampNotFoundError
  | typeError
  | nameError
  | exception
  | timestampOrderWriteException
  deriving DecidableEq, Repr

/-- The class of an exception. -/
def PyError.kind : PyError → PyErrorKind
  | .stopIteration _ => .stopIteration
  | .indexError _ => .indexError
  | .valueError _ => .valueError
  | .runtimeError _ => .runtimeError
  | .streamNotFoundError _ => .streamNotFoundError
  | .timestampNotFoundError _ _ _ _ => .timestampNotFoundError
  | .typeError _ => .typeError
  | .nameError _ => .nameError
  | .exception _ => .exception
  | .timestampOrderWriteException _ _ => .timestampOrderWriteException

/-- `StreamNotFoundError(streamId, availableStreamIds)`. -/
def streamNotFoundError (L : VrsLib) (streamId : String) (availableStreamIds : List StreamId) :
    PyError :=
  .streamNotFoundError ("No matching stream for " ++ streamId ++ ". Available streams are:\n" ++
    String.join (availableStreamIds.map fun it => "  " ++ L.getFullName it ++ "\n"))

end Pyvrs
