import KeywordSearch.Roster
import KeywordSearch.Token

/-!
# Entries of the knowledge base

An entry is a question with its answer, found through its keywords.  Searching
shows only its preview: the question and whether the entry is active.
-/

set_option autoImplicit false

namespace KeywordSearch

/-- What a search shows of an entry. -/
structure Preview where
  id : EntryId
  question : String
  active : Bool
  deriving DecidableEq, Repr

/-- A question with its answer and the keywords it is found by.  An inactive
entry stays indexed and is left out of search results. -/
structure Entry where
  id : EntryId
  question : String
  answer : String := ""
  keywords : List String := []
  active : Bool := true
  deriving DecidableEq, Repr

/-- A change to an entry; what is not given stays as it is. -/
structure Update where
  question : Option String := none
  answer : Option String := none
  keywords : Option (List String) := none
  active : Option Bool := none
  deriving DecidableEq, Repr

instance : Identified Preview := ⟨Preview.id⟩

instance : Identified Entry := ⟨Entry.id⟩

namespace Entry

/-- The part of an entry that a search shows. -/
def preview (entry : Entry) : Preview := ⟨entry.id, entry.question, entry.active⟩

/-- The tokens that an entry is indexed under. -/
def tokens (entry : Entry) : List Token := Token.ofKeywords entry.keywords

/-- The entry after a change; its id never changes. -/
def apply (entry : Entry) (update : Update) : Entry where
  id := entry.id
  question := update.question.getD entry.question
  answer := update.answer.getD entry.answer
  keywords := update.keywords.getD entry.keywords
  active := update.active.getD entry.active

end Entry

end KeywordSearch
