import HostDialing.Time.Duration

/-!
# Errors

Three kinds of failure hold one another: an I/O error, as a resolver or a connector reports it, a
failure to resolve a host, and a failure to dial. A dial that failed while connecting shows the
connector's own error unchanged, and an I/O error may carry a dial error, so that either can be
handed to code that knows only the other. An error made of such a wrapping shows the message and
the causes of what it holds.
-/

namespace HostDialing

/-- What an I/O error is about. -/
inductive IoError.Kind where
  | notFound | permissionDenied | connectionRefused | connectionReset | hostUnreachable
  | networkUnreachable | connectionAborted | notConnected | addrInUse | addrNotAvailable
  | networkDown | brokenPipe | alreadyExists | wouldBlock | notADirectory | isADirectory
  | directoryNotEmpty | readOnlyFilesystem | filesystemLoop | staleNetworkFileHandle
  | invalidInput | invalidData | timedOut | writeZero | storageFull | notSeekable | quotaExceeded
  | fileTooLarge | resourceBusy | executableFileBusy | deadlock | crossesDevices | tooManyLinks
  | invalidFilename | argumentListTooLong | interrupted | unsupported | unexpectedEof
  | outOfMemory | inProgress | other | uncategorized
deriving DecidableEq

/-- What is wrong with the text of a dial target. -/
inductive AddressFault where
  | missingBracket
  | missingPort
  | tooManyColons
  | invalidPort
  | stated (reason : String)
deriving DecidableEq

def AddressFault.message : AddressFault → String
  | missingBracket => "missing ']' in address"
  | missingPort => "missing port in address"
  | tooManyColons => "too many colons in address"
  | invalidPort => "invalid port"
  | stated reason => reason

mutual

/-- An I/O error: of the system, of a resolver or connector with what they say is behind it, or one
that carries a dial error. -/
inductive IoError where
  | system (kind : IoError.Kind) (text : String)
  | reported (kind : IoError.Kind) (text : String) (behind : List String := [])
  | carrying (kind : IoError.Kind) (error : DialError)

/-- Why a host has no usable addresses. -/
inductive ResolutionError where
  | lookup (host : String) (source : IoError)
  | timeout (host : String) (limit : Duration)
  | noAddresses (host : String)

/-- Why a dial gave no connection. -/
inductive DialError where
  | addressFormat (addr : String) (fault : AddressFault)
  | resolution (error : ResolutionError)
  | connect (error : IoError)
  | cancelled (addr : String)
  | noAttempts (addr : String)

end

mutual

def IoError.message : IoError → String
  | .system _ text => text
  | .reported _ text _ => text
  | .carrying _ e => e.message

def ResolutionError.message : ResolutionError → String
  | .lookup host source => "lookup " ++ host ++ ": " ++ source.message
  | .timeout host limit => "lookup " ++ host ++ ": timed out after " ++ limit.text
  | .noAddresses host => "lookup " ++ host ++ ": no addresses found"

def DialError.message : DialError → String
  | .addressFormat addr fault => "address " ++ addr ++ ": " ++ fault.message
  | .resolution e => e.message
  | .connect e => e.message
  | .cancelled addr => "dial " ++ addr ++ ": operation was cancelled"
  | .noAttempts addr => "dial " ++ addr ++ ": no candidate address was attempted"

end

mutual

/-- The messages of the errors behind an error, nearest first. -/
def IoError.causes : IoError → List String
  | .system _ _ => []
  | .reported _ _ behind => behind
  | .carrying _ e => e.causes

def ResolutionError.causes : ResolutionError → List String
  | .lookup _ source => source.message :: source.causes
  | .timeout _ _ => []
  | .noAddresses _ => []

def DialError.causes : DialError → List String
  | .addressFormat _ _ => []
  | .resolution e => e.causes
  | .connect e => e.causes
  | .cancelled _ => []
  | .noAttempts _ => []

end

def IoError.kind : IoError → IoError.Kind
  | system kind _ => kind
  | reported kind _ _ => kind
  | carrying kind _ => kind

/-- The dial error inside an I/O error. -/
def IoError.carried : IoError → Option DialError
  | carrying _ e => some e
  | _ => none

def ResolutionError.host : ResolutionError → String
  | lookup host _ => host
  | timeout host _ => host
  | noAddresses host => host

def DialError.isAddressFormat : DialError → Bool
  | addressFormat _ _ => true
  | _ => false

def DialError.isResolution : DialError → Bool
  | resolution _ => true
  | _ => false

def DialError.isCancelled : DialError → Bool
  | cancelled _ => true
  | _ => false

/-- The host of a failed resolution. -/
def DialError.host? : DialError → Option String
  | resolution e => some e.host
  | _ => none

/-- A dial error as an I/O error: the connector's own error where there is one, else one that
carries the dial error under the nearest kind. -/
def DialError.toIoError : DialError → IoError
  | connect e => e
  | e@(addressFormat _ _) => .carrying .invalidInput e
  | e@(resolution (.timeout _ _)) => .carrying .timedOut e
  | e@(resolution _) => .carrying .notFound e
  | e@(cancelled _) => .carrying .interrupted e
  | e@(noAttempts _) => .carrying .other e

/-- A dial error handed on by a connector: converted, and taken for a failure to connect. -/
def DialError.wrapped (e : DialError) : DialError := .connect e.toIoError

end HostDialing
