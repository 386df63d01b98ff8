import ChapterTex.Json.Fault
import ChapterTex.Text.Utf8.Fault

/-!
The causes for which a document is refused, and the words in which each is reported.
-/
namespace ChapterTex

/-- What is wrong with a serialized token stream. The texts show the value that was met. -/
inductive StreamFault where
  | notJson (fault : Json.Fault)
  | notAList
  | notAToken (shown : String)
  | notAttributes (shown : String)
deriving Repr, DecidableEq

def StreamFault.message : StreamFault → String
  | notJson fault => "Invalid token stream JSON: " ++ fault.message
  | notAList => "Token stream must be a list of tokens"
  | notAToken shown => "Not a token: " ++ shown
  | notAttributes shown => "Invalid token attrs: " ++ shown

inductive Failure where
  /-- There is no rule for tokens of this kind. -/
  | unknownToken (kind : String)
  /-- There is no sectioning command for this heading. -/
  | unsupportedHeading (tag : String)
  | malformedStream (fault : StreamFault)
  /-- An integer of a document has so many digits, which are too many. -/
  | tooManyDigits (count : Nat)
  /-- A string of a document is not made of characters. -/
  | halfPair
  | undecodable (fault : Text.Utf8.Fault)
  | unknownFormat (name : String)
  | noSuchFile (path : String)
  | noSuchDirectory (path : String)
  /-- No factory is registered under this key. -/
  | unregistered (key : String)
  /-- The factory of a service needs the service itself. -/
  | circular
  /-- Some other value stands where only a text or a sequence can. -/
  | wrongKind
  /-- A value was asked for a part that values of its kind do not have. -/
  | noSuchPart
  /-- An argument is missing. -/
  | missingArgument
  /-- An entry is not a pair. -/
  | notAPair
deriving Repr, DecidableEq

namespace Failure

/-- The words in which a failure is reported. The failures to use a value are not. -/
def message : Failure → String
  | unknownToken kind => "No render function for " ++ kind
  | unsupportedHeading tag => "Can't handle heading tag " ++ tag
  | malformedStream fault => fault.message
  | tooManyDigits count =>
    "Exceeds the limit (" ++ toString Json.maxDigits ++
      " digits) for integer string conversion: value has " ++ toString count ++
        " digits; use sys.set_int_max_str_digits() to increase the limit"
  | undecodable fault => fault.message
  | unknownFormat name => "Unknown source format: " ++ name
  | noSuchFile path => "No such file: " ++ path
  | noSuchDirectory path => "No such directory: " ++ path
  | unregistered key => "No service registered for " ++ key
  | _ => ""

/-- The failures of a stream that was loaded but cannot be rendered. -/
def isRenderFailure : Failure → Bool
  | unknownToken _ | unsupportedHeading _ => true
  | _ => false

/-- The failures that a value causes: those of rendering, and those of a source that holds no token
stream. -/
def isValueFailure : Failure → Bool
  | unknownToken _ | unsupportedHeading _ => true
  | malformedStream _ | tooManyDigits _ | undecodable _ | unknownFormat _ | notAPair => true
  | _ => false

/-- The failures to find a file or directory. -/
def isNotFound : Failure → Bool
  | noSuchFile _ | noSuchDirectory _ => true
  | _ => false

end Failure
end ChapterTex
