import SqlWorkload.Setup.Engine
import SqlWorkload.Text.Escaped
import SqlWorkload.Url.Basic
/-!
# Connect options

What the driver of an engine reads from the URL of a connection, as far as it can refuse it: user,
password and database, in which percent signs stand for the bytes of UTF-8, and the options of the
query, of which each driver knows some and passes over the rest.
-/

namespace SqlWorkload

/-- Why a driver refuses a URL. -/
inductive ConnectError where
  | url (e : UrlError)
  | notText (fault : String)
  | unknownSslMode (mode : String)
  | emptyNumber
  | invalidDigit
  | numberTooLarge
  | invalidAddress
deriving DecidableEq, Repr

/-- The failure in words; an SSL mode is told as a failure of the configuration of its own. -/
def ConnectError.message : ConnectError → String
  | url e => e.message
  | notText fault => fault
  | unknownSslMode mode =>
    (DriverError.configuration
      ("unknown value " ++ Text.escaped mode ++ " for `ssl_mode`")).message
  | emptyNumber => "cannot parse integer from empty string"
  | invalidDigit => "invalid digit found in string"
  | numberTooLarge => "number too large to fit in target type"
  | invalidAddress => "invalid IP address syntax"

namespace ConnectOptions

def sslModes : Engine → List String
  | .postgres => ["disable", "allow", "prefer", "require", "verify-ca", "verify-full"]
  | .mysql => ["disabled", "preferred", "required", "verify_ca", "verify_identity"]
  | .sqlite => []

def sslFault? (engine : Engine) (mode : String) : Option ConnectError :=
  if String.ofList (mode.toList.map Char.toLower) ∈ sslModes engine then none
  else some (.unknownSslMode mode)

/-- What is wrong with the digits of a number below `size`, of which those before make up `n`: the
first digit that is none, or with which it is too large. -/
def digitsFault? (size n : Nat) : List Char → Option ConnectError
  | [] => none
  | c :: rest =>
    if !c.isDigit then some .invalidDigit
    else
      let n := n * 10 + (c.toNat - '0'.toNat)
      if size ≤ n then some .numberTooLarge else digitsFault? size n rest

/-- What is wrong with a number below `size`, which may have a plus sign in front. -/
def numberFault? (size : Nat) (text : String) : Option ConnectError :=
  match text.toList with
  | [] => some .emptyNumber
  | '+' :: c :: rest => digitsFault? size 0 (c :: rest)
  | digits => digitsFault? size 0 digits

def addressFault? (text : String) : Option ConnectError :=
  if Host.isIpv4 text.toList || Host.isIpv6 text.toList then none else some .invalidAddress

/-- What is wrong with an option. -/
def optionFault? (engine : Engine) (name value : String) : Option ConnectError :=
  if name ∈ ["sslmode", "ssl-mode"] then sslFault? engine value
  else if name = "statement-cache-capacity" then numberFault? UInt64.size value
  else if engine = .postgres ∧ name = "hostaddr" then addressFault? value
  else if engine = .postgres ∧ name = "port" then numberFault? UInt16.size value
  else none

def textFault? (part : List Char) : Option ConnectError :=
  (Text.Utf8.fault? (Text.Percent.decode part)).map .notText

/-- What is wrong with a host, which for some drivers is the path of a socket if it begins with an
encoded slash. -/
def hostFault? (engine : Engine) (host : List Char) : Option ConnectError :=
  if engine = .postgres ∧ (Text.Percent.decode host).head? = some 0x2F then textFault? host
  else none

/-- The first fault that the driver of the engine finds in a URL. -/
def fault? (engine : Engine) (text : String) : Option ConnectError :=
  match Url.ofText text with
  | .error e => some (.url e)
  | .ok u =>
    hostFault? engine u.host <|> textFault? u.user <|> textFault? u.password <|>
      textFault? u.path <|>
        u.parameters.findSome? fun (name, value) => optionFault? engine name value

end ConnectOptions

end SqlWorkload
