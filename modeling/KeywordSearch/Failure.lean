import KeywordSearch.EntryId

/-!
# Failures

Everything that can go wrong, by its cause, and the sentence that reports it.
-/

set_option autoImplicit false

namespace KeywordSearch

/-- What can go wrong with a file. -/
inductive FileFault where
  | notFound
  | isDirectory
  | notDirectory
  | invalidText
  | invalidName
  | other (text : String)
  deriving DecidableEq, Repr

/-- The report of a file fault. -/
def FileFault.message : FileFault → String
  | notFound => "No such file or directory (os error 2)"
  | isDirectory => "Is a directory (os error 21)"
  | notDirectory => "Not a directory (os error 20)"
  | invalidText => "stream did not contain valid UTF-8"
  | invalidName => "file name contained an unexpected NUL byte"
  | other text => text

/-- Why an operation failed: there is no such entry, the document store failed,
a configuration does not hold together, a file could not be used, or a text
could not be read or written in its format. -/
inductive Failure where
  | entryNotFound (id : EntryId)
  | store (text : String)
  | invalidConfig (text : String)
  | file (fault : FileFault)
  | format (text : String)
  deriving DecidableEq, Repr

namespace Failure

/-- The sentence that reports a failure. -/
def message : Failure → String
  | entryNotFound id => "Entry not found: " ++ id.text
  | store text => "Store error: " ++ text
  | invalidConfig text => "Invalid configuration: " ++ text
  | file fault => "I/O error: " ++ fault.message
  | format text => "Serialization error: " ++ text

/-- Whether a failure says no more than that there is no such entry. -/
def isNotFound : Failure → Bool
  | entryNotFound _ => true
  | _ => false

end Failure

end KeywordSearch
