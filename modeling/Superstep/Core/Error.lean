import Superstep.Json.Error

/-!
# Errors

Three layers of errors, each with the wording the engine reports:
* `ExecutorError`: what a handler or an executor factory fails with;
* `WorkflowError`: what is wrong with a workflow's structure or with building it;
* `FlowError`: what an operation of the engine fails with. It wraps the two others and adds the
  errors of the run protocol (a second run while one is in flight, a missing or conflicting
  input, a response to an unknown request or of the wrong kind) and of reading stored data.

Every `FlowError` has an `ErrorKind`, the coarse class that failure events carry.
-/

namespace Superstep

/-- The class of an error, as failure events report it. -/
inductive ErrorKind where
  | concurrentRunRejected
  | missingInput
  | conflictingInput
  | invalidRequestId
  | responseTypeMismatch
  | executorFailure
  | maxSuperstepsExceeded
  | invalidWorkflow
  | internal
  deriving DecidableEq, Inhabited

namespace ErrorKind

/-- Every kind, in declaration order. -/
def all : List ErrorKind :=
  [.concurrentRunRejected, .missingInput, .conflictingInput, .invalidRequestId,
    .responseTypeMismatch, .executorFailure, .maxSuperstepsExceeded, .invalidWorkflow, .internal]

/-- The name of a kind in stored data. -/
def name : ErrorKind → String
  | .concurrentRunRejected => "concurrent_run_rejected"
  | .missingInput => "missing_input"
  | .conflictingInput => "conflicting_input"
  | .invalidRequestId => "invalid_request_id"
  | .responseTypeMismatch => "response_type_mismatch"
  | .executorFailure => "executor_failure"
  | .maxSuperstepsExceeded => "max_supersteps_exceeded"
  | .invalidWorkflow => "invalid_workflow"
  | .internal => "internal"

/-- The names of all kinds, in declaration order. -/
def names : List String := all.map name

/-- The kind with a given name. -/
def ofName? (s : String) : Option ErrorKind := all.find? (·.name == s)

end ErrorKind

/-- Why a handler or an executor factory failed. -/
inductive ExecutorError where
  | unsupportedMessage (executor kind : String)
  | noResponseHandler (executor requestKind responseKind : String)
  | invalidPayload (kind reason : String)
  | configuration (text : String)
  | executionFailed (text : String)
  | panicked (text : String)
  deriving DecidableEq, Inhabited

/-- The wording of an executor error. -/
def ExecutorError.message : ExecutorError → String
  | .unsupportedMessage e k => "Executor '" ++ e ++ "' has no handler for message kind '" ++ k ++ "'"
  | .noResponseHandler e q r =>
    "Executor '" ++ e ++ "' has no response handler for '" ++ q ++ "' -> '" ++ r ++ "'"
  | .invalidPayload k r => "Invalid payload for kind '" ++ k ++ "': " ++ r
  | .configuration t => "Configuration error: " ++ t
  | .executionFailed t => "Execution failed: " ++ t
  | .panicked t => "Executor panicked: " ++ t

/-- What is wrong with a workflow or with building it. -/
inductive WorkflowError where
  | invalid (text : String)
  | executorNotFound (id : String)
  | duplicateExecutor (id : String)
  | unreachable (id : String)
  | unknownExecutorType (typeName : String)
  | unsupportedMessage (executor kind : String)
  deriving DecidableEq, Inhabited

/-- The wording of a workflow error. -/
def WorkflowError.message : WorkflowError → String
  | .invalid t => "Invalid workflow: " ++ t
  | .executorNotFound id => "Executor not found: " ++ id
  | .duplicateExecutor id => "Duplicate executor id: " ++ id
  | .unreachable id => "Executor '" ++ id ++ "' is not reachable from the start executor"
  | .unknownExecutorType t => "Unknown executor type: " ++ t
  | .unsupportedMessage e k =>
    "Start executor '" ++ e ++ "' does not accept message kind '" ++ k ++ "'"

/-- Why an operation of the engine failed. -/
inductive FlowError where
  | concurrentRunRejected
  | missingInput
  | conflictingInput
  | invalidRequestId (id : String)
  | responseTypeMismatch (requestId expected actual : String)
  | executor (e : ExecutorError)
  | workflow (e : WorkflowError)
  | execution (text : String)
  | io (text : String)
  | serialization (e : Located)
  deriving Inhabited

namespace FlowError

/-- The wording of an error. -/
def message : FlowError → String
  | .concurrentRunRejected => "Workflow is already running. Concurrent executions are not allowed."
  | .missingInput => "Must provide at least one of 'message' or 'responses'"
  | .conflictingInput => "Cannot provide both 'message' and 'responses'"
  | .invalidRequestId id => "No pending request found for request id: " ++ id
  | .responseTypeMismatch id e a =>
    "Response for request " ++ id ++ " has kind '" ++ a ++ "', expected '" ++ e ++ "'"
  | .executor e => "Executor error: " ++ e.message
  | .workflow e => "Workflow error: " ++ e.message
  | .execution t => "Execution error: " ++ t
  | .io t => "IO error: " ++ t
  | .serialization e => "Serialization error: " ++ e.message

/-- The class of an error. -/
def kind : FlowError → ErrorKind
  | .concurrentRunRejected => .concurrentRunRejected
  | .missingInput => .missingInput
  | .conflictingInput => .conflictingInput
  | .invalidRequestId _ => .invalidRequestId
  | .responseTypeMismatch .. => .responseTypeMismatch
  | .executor _ => .executorFailure
  | .workflow _ => .invalidWorkflow
  | .execution _ | .io _ | .serialization _ => .internal

/-- The errors an error wraps, outermost first: the inner error of an executor, workflow, file
or decoding error. -/
def causes : FlowError → List String
  | .executor e => [e.message]
  | .workflow e => [e.message]
  | .io t => [t]
  | .serialization e => [e.message]
  | _ => []

/-- A decoding error of data read from a document, which has no place in a text. -/
def decoding (e : DecodeError) : FlowError := .serialization ⟨e, none⟩

end FlowError

end Superstep
