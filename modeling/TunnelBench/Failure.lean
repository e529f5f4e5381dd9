import TunnelBench.Text.Quoted

/-!
# Failures

Every operation of the library that can fail says why with one of the causes below.
The wording stands in the `message` functions only; everything else decides by
cause.
-/
namespace TunnelBench

/-- Why the operating system refuses an operation. -/
inductive SystemError where
  | notFound
  | notDirectory
  | isDirectory
  | nameTooLong
  | tooManyLinks
  | addressInUse
  deriving DecidableEq, Repr

/-- The system's text and number for an error. -/
def SystemError.message : SystemError → String
  | .notFound => "No such file or directory (os error 2)"
  | .notDirectory => "Not a directory (os error 20)"
  | .isDirectory => "Is a directory (os error 21)"
  | .nameTooLong => "File name too long (os error 36)"
  | .tooManyLinks => "Too many levels of symbolic links (os error 40)"
  | .addressInUse => "Address already in use (os error 98)"

/-- Why a stream gives or takes no bytes. -/
inductive Fault where
  /-- The operation was interrupted and may be tried again. -/
  | interrupted (text : String)
  /-- The operation failed. -/
  | broken (text : String)
  /-- The other side stays silent, so the operation does not return. -/
  | silent
  deriving DecidableEq, Repr

/-- The text that a stream gives for its fault. -/
def Fault.message : Fault → String
  | .interrupted text => text
  | .broken text => text
  | .silent => "nothing received"

/-- Why text is not the armour of certificates and keys. -/
inductive ArmourError where
  /-- A line that opens a section without proper dashes. -/
  | sectionStart (line : Bytes)
  /-- The text ends inside the section with this label. -/
  | sectionEnd (label : Bytes)
  /-- A byte outside the base64 alphabet. -/
  | character (byte : UInt8)
  /-- Padding with a group behind it. -/
  | earlyPadding
  /-- A last group that is too short or has its padding in the wrong place. -/
  | lastGroup
  deriving DecidableEq, Repr

/-- The wording of an armour error. -/
def ArmourError.message : ArmourError → String
  | .sectionStart line => "illegal section start: " ++ Quoted.lossy line
  | .sectionEnd label => "section end " ++ Quoted.lossy label ++ " missing"
  | .character byte => "InvalidCharacter(" ++ toString byte.toNat ++ ")"
  | .earlyPadding => "PrematurePadding"
  | .lastGroup => "InvalidTrailingPadding"

/-- Why bytes could not be moved. -/
inductive IoError where
  /-- The operating system refused. -/
  | system (error : SystemError)
  /-- A source or a sink failed. -/
  | stream (fault : Fault)
  /-- A sink took nothing of a message. -/
  | nothingWritten
  /-- A sink took nothing of a copied block. -/
  | nothingCopied
  /-- A finished stream holds the start of a head. -/
  | leftover
  /-- An empty path has no absolute form. -/
  | emptyPath
  /-- A path holds the byte that ends paths. -/
  | terminatorInPath
  /-- A file is no armour. -/
  | armour (error : ArmourError)
  deriving DecidableEq, Repr

/-- The wording of an input or output error. -/
def IoError.message : IoError → String
  | .system error => error.message
  | .stream fault => fault.message
  | .nothingWritten => "write zero"
  | .nothingCopied => "write zero byte into writer"
  | .leftover => "bytes remaining on stream"
  | .emptyPath => "cannot make an empty path absolute"
  | .terminatorInPath => "file name contained an unexpected NUL byte"
  | .armour error => error.message

/-- Why bytes are not a request. -/
inductive Malformed where
  | token
  | version
  | newLine
  | headerName
  | headerValue
  | tooManyHeaders
  /-- No head ends within this many bytes. -/
  | headTooLong (limit : Nat)
  /-- The last transfer coding is not the chunked one. -/
  | transferEncoding (value : Bytes)
  /-- A declared length is no number below 2^64. -/
  | contentLength (value : Bytes)
  /-- Two declared lengths differ. -/
  | conflictingLengths
  | chunkSize
  /-- The chunk and its line end would not fit a machine word. -/
  | chunkTooLarge (size : Nat)
  | chunkEnd
  /-- A reason given by a handler of the library's user. -/
  | other (text : String)
  deriving DecidableEq, Repr

/-- The wording of a malformed request. -/
def Malformed.message : Malformed → String
  | .token => "invalid token"
  | .version => "invalid HTTP version"
  | .newLine => "invalid new line"
  | .headerName => "invalid header name"
  | .headerValue => "invalid header value"
  | .tooManyHeaders => "too many headers"
  | .headTooLong limit => "request head exceeds " ++ toString limit ++ " bytes"
  | .transferEncoding value => "unsupported transfer encoding " ++ Quoted.lossy value
  | .contentLength value => "invalid content length " ++ Quoted.lossy value
  | .conflictingLengths => "conflicting content length headers"
  | .chunkSize => "invalid chunk size"
  | .chunkTooLarge size => "chunk size " ++ toString size ++ " too large"
  | .chunkEnd => "chunk not terminated by CRLF"
  | .other text => text

/-- Why a directory cannot be walked to its end. -/
inductive WalkError where
  /-- An entry cannot be followed. -/
  | entry (path : Bytes) (error : SystemError)
  /-- A link leads to a directory that the walk is inside of. -/
  | loop (link ancestor : Bytes)
  deriving DecidableEq, Repr

/-- The wording of a walk error. -/
def WalkError.message : WalkError → String
  | .entry path error =>
    "IO error for operation on " ++ Utf8.decodeLossy path ++ ": " ++ error.message
  | .loop link ancestor =>
    "File system loop found: " ++ Utf8.decodeLossy link ++ " points to an ancestor " ++
      Utf8.decodeLossy ancestor

/-- Which deadline passed. -/
inductive Deadline where
  /-- The head of a request did not arrive in time. -/
  | head
  /-- The handler did not finish in time for the request so described. -/
  | handler (descriptor : String)
  /-- A deadline of a handler of the library's user. -/
  | other (text : String)
  deriving DecidableEq, Repr

/-- The wording of a missed deadline. -/
def Deadline.message : Deadline → String
  | .head => "Timed out reading request head"
  | .handler descriptor => "Handler timed out for " ++ descriptor
  | .other text => text

/-- Why bytes are not a certificate. -/
inductive CertificateError where
  | encoding
  | version
  | signatureAlgorithm
  | criticalExtension
  | repeatedExtension
  deriving DecidableEq, Repr

/-- The wording of a certificate error. -/
def CertificateError.message : CertificateError → String
  | .encoding => "BadEncoding"
  | .version => "Other(OtherError(UnsupportedCertVersion))"
  | .signatureAlgorithm => "Other(OtherError(SignatureAlgorithmMismatch))"
  | .criticalExtension => "Other(OtherError(UnsupportedCriticalExtension))"
  | .repeatedExtension => "Other(OtherError(ExtensionValueInvalid))"

/-- Why certificates and a key do not make an identity. -/
inductive IdentityError where
  | key
  | certificate (error : CertificateError)
  /-- The certificate is for another key. -/
  | mismatch
  deriving DecidableEq, Repr

/-- The wording of an identity error. -/
def IdentityError.message : IdentityError → String
  | .key => "unexpected error: failed to parse private key as RSA, ECDSA, or EdDSA"
  | .certificate error => "invalid peer certificate: " ++ error.message
  | .mismatch => "keys may not be consistent: KeyMismatch"

/-- Why a text is no pattern that can be used. -/
inductive PatternError where
  /-- The text breaks the rules of patterns, or asks for what is not known of characters. -/
  | broken
  /-- The pattern asks for an edge of a word among characters. -/
  | wordEdge
  deriving DecidableEq, Repr

/-- The wording of a pattern error. -/
def PatternError.message : PatternError → String
  | .broken => "error building NFA"
  | .wordEdge =>
    "unsupported regex feature for DFAs: cannot build DFAs for regexes with Unicode word " ++
      "boundaries; switch to ASCII word boundaries, or heuristically enable Unicode word " ++
      "boundaries or use a different regex engine"

/-- Why a text is no log filter. -/
inductive FilterError where
  | directive
  | level
  | field (error : PatternError)
  deriving DecidableEq, Repr

/-- The wording of a filter error. -/
def FilterError.message : FilterError → String
  | .directive => "invalid filter directive"
  | .level =>
    "error parsing level filter: expected one of \"off\", \"error\", \"warn\", \"info\", " ++
      "\"debug\", \"trace\", or a number 0-5"
  | .field error => "invalid field filter: " ++ error.message

/-- Why a configuration cannot be used. -/
inductive ConfigError where
  | noPrivateKey
  | emptyChain
  | logFilter (error : FilterError)
  /-- A logger was installed before. -/
  | loggerInstalled
  | bind (address : String) (error : SystemError)
  /-- A file lies outside the directory that its key is relative to. -/
  | notBelow (path base : Bytes)
  /-- A reason given by a handler of the library's user. -/
  | other (text : String)
  deriving DecidableEq, Repr

/-- The wording of a configuration error. -/
def ConfigError.message : ConfigError → String
  | .noPrivateKey => "no private key found in PEM input"
  | .emptyChain => "empty certificate chain"
  | .logFilter error => "invalid log filter: " ++ error.message
  | .loggerInstalled =>
    "failed to install logger: a global default trace dispatcher has already been set"
  | .bind address error => "Failed to bind " ++ address ++ ": " ++ error.message
  | .notBelow path base =>
    Utf8.decodeLossy path ++ " is not below " ++ Utf8.decodeLossy base
  | .other text => text

/-- Why an operation failed. -/
inductive Failure where
  /-- The root of a library cannot be resolved. -/
  | directory (path : Bytes) (error : IoError)
  | io (error : IoError)
  /-- A file cannot be read. -/
  | file (path : Bytes) (error : IoError)
  | walk (error : WalkError)
  | malformed (reason : Malformed)
  /-- A stream ended inside a request. -/
  | incompleteRequest
  /-- A response declares a length that its body does not have. -/
  | lengthMismatch (declared actual : Nat)
  | timeout (deadline : Deadline)
  | identity (error : IdentityError)
  | config (error : ConfigError)
  deriving DecidableEq, Repr

/-- The wording of a failure. -/
def Failure.message : Failure → String
  | .directory path error =>
    "failed to resolve directory " ++ Quoted.path path ++ ": " ++ error.message
  | .io error => "IO error: " ++ error.message
  | .file path error => "failed to read file " ++ Quoted.path path ++ ": " ++ error.message
  | .walk error => "failed to walk directory: " ++ error.message
  | .malformed reason => "HTTP parsing error: " ++ reason.message
  | .incompleteRequest => "Incomplete request"
  | .lengthMismatch declared actual =>
    "content length " ++ toString declared ++ " does not match body length " ++ toString actual
  | .timeout deadline => "Timeout error: " ++ deadline.message
  | .identity error => "TLS error: " ++ error.message
  | .config error => "Configuration error: " ++ error.message

/-- The wordings of the deeper causes of a failure, from the nearest on. -/
def Failure.causes : Failure → List String
  | .directory _ error => [error.message]
  | .io error => [error.message]
  | .file _ error => [error.message]
  | .walk (.entry path error) => [(WalkError.entry path error).message, error.message]
  | .walk (.loop link ancestor) => [(WalkError.loop link ancestor).message]
  | .identity error => [error.message]
  | _ => []

end TunnelBench
