import ScriptLauncher.Words

namespace ScriptLauncher

-- Faults. What goes wrong is a cause; on its way out it gains context, and several faults can be
-- reported as one. A fault is therefore a tree with causes at its leaves. Whether a fault is of
-- some kind, and which exit code it carries, is read off its causes from left to right.

inductive Refusal where
  | noEntry
  | notDirectory
  | isDirectory
  | permission
  | nameTooLong
  | invalidArgument
  | exists_
  | notEmpty
  | badDescriptor
  | noSpace
  | noDevice
  | noFormat
  | tooManyLinks
  | tooManyArguments
  deriving DecidableEq

def Refusal.message : Refusal → Bytes
  | .noEntry => text "no such file or directory"
  | .notDirectory => text "not a directory"
  | .isDirectory => text "is a directory"
  | .permission => text "permission denied"
  | .nameTooLong => text "file name too long"
  | .invalidArgument => text "invalid argument"
  | .exists_ => text "file exists"
  | .notEmpty => text "directory not empty"
  | .badDescriptor => text "bad file descriptor"
  | .noSpace => text "no space left on device"
  | .noDevice => text "no such device or address"
  | .noFormat => text "exec format error"
  | .tooManyLinks => text "too many levels of symbolic links"
  | .tooManyArguments => text "argument list too long"

-- The message with a capital, as programs other than the launcher write it.
def Refusal.sentence (how : Refusal) : Bytes :=
  match how.message with
  | b :: rest => (if 97 ≤ b && b ≤ 122 then b - 32 else b) :: rest
  | [] => []

inductive Cause where
  | usage
  | emptyCommand
  | emptyEntryScript
  | invalidMode
  | invalidLogLevel
  | invalidEnvValue
  | configNotFound
  | notARepository
  | unterminated (what : Unterminated)
  -- A file that is known not to exist without asking for it.
  | absent
  | refused (how : Refusal)
  -- A document that cannot be decoded.
  | malformed (detail : Bytes)
  -- A child ended with this status.
  | childStatus (code : Int)
  -- A signal ended a child, which then has no status of its own.
  | childSignal (name : Bytes)
  -- The launcher itself is to end with this code.
  | exitRequest (code : Int)
  | other (note : Bytes)

namespace Cause

def message : Cause → Bytes
  | .usage => text "usage"
  | .emptyCommand => text "interpreter command cannot be empty"
  | .emptyEntryScript => text "entry script cannot be empty"
  | .invalidMode => text "invalid launch mode"
  | .invalidLogLevel => text "invalid log level"
  | .invalidEnvValue => text "invalid environment variable value"
  | .configNotFound => text "config file not found"
  | .notARepository => text "not a git repository (or any of the parent directories)"
  | .unterminated what => what.message
  | .absent => text "file does not exist"
  | .refused how => how.message
  | .malformed detail => detail
  | .childStatus code => text "exit status " ++ Bytes.ofInt code
  | .childSignal name => text "signal: " ++ name
  | .exitRequest code => text "exit status " ++ Bytes.ofInt code
  | .other note => note

def isUsage : Cause → Bool
  | .usage => true
  | _ => false

def isNotARepository : Cause → Bool
  | .notARepository => true
  | _ => false

-- A file is missing, whether the system said so or it was known before.
def isMissing : Cause → Bool
  | .absent => true
  | .refused .noEntry => true
  | _ => false

def childStatus? : Cause → Option Int
  | .childStatus code => some code
  | .childSignal _ => some (-1)
  | _ => none

def exitRequest? : Cause → Option Int
  | .exitRequest code => some code
  | _ => none

end Cause

inductive Fault where
  | of (cause : Cause)
  | within (before : Bytes) (inner : Fault) (after : Bytes)
  | all (faults : List Fault)

namespace Fault

mutual

-- The full text; joined faults stand on lines of their own.
def message : Fault → Bytes
  | .of cause => cause.message
  | .within before inner after => before ++ message inner ++ after
  | .all faults => Bytes.join [Bytes.newline] (messages faults)

def messages : List Fault → List Bytes
  | [] => []
  | fault :: faults => message fault :: messages faults

end

mutual

def causes : Fault → List Cause
  | .of cause => [cause]
  | .within _ inner _ => causes inner
  | .all faults => causesOfAll faults

def causesOfAll : List Fault → List Cause
  | [] => []
  | fault :: faults => causes fault ++ causesOfAll faults

end

def context (note : Bytes) (fault : Fault) : Fault := .within note fault []

def isUsage (fault : Fault) : Bool := fault.causes.any Cause.isUsage

def isNotARepository (fault : Fault) : Bool := fault.causes.any Cause.isNotARepository

def isMissing (fault : Fault) : Bool := fault.causes.any Cause.isMissing

def exitRequest? (fault : Fault) : Option Int := fault.causes.findSome? Cause.exitRequest?

def childStatus? (fault : Fault) : Option Int := fault.causes.findSome? Cause.childStatus?

end Fault

def notStarted : Int := 127

-- Exit code of a child from what running it gave: no fault is success, a status below zero (ended
-- by a signal) counts as 1, and a fault without any status means that the child did not start.
def exitCodeOf : Option Fault → Int
  | none => 0
  | some fault =>
    match fault.childStatus? with
    | some code => if 0 ≤ code then code else 1
    | none => notStarted

end ScriptLauncher
