import KeywordSearch.Service

/-!
# Calls of the service

The operations of the service as values, so that a history of the service is a
list of calls and an invariant of it is a property that each call keeps.
-/

set_option autoImplicit false

namespace KeywordSearch

/-- A request to the service. -/
inductive Call where
  | create (entry : Entry)
  | update (id : EntryId) (change : Update)
  | delete (id : EntryId)
  | get (id : EntryId)
  | preview (id : EntryId)
  | search (query : String)
  | sanitize
  | rebuild
  deriving DecidableEq, Repr

/-- What the service replies. -/
inductive Reply where
  | entry (entry : Entry)
  | preview (preview : Preview)
  | previews (previews : List Preview)
  | count (number : Nat)
  | done
  | failed (failure : Failure)
  deriving DecidableEq, Repr

/-- Replies with an answer's value, or with its failure. -/
def Answered.reply {α : Type} (succeed : α → Reply) : Answered α → Reply × Service
  | (.ok value, service) => (succeed value, service)
  | (.error failure, service) => (.failed failure, service)

namespace Service

/-- Carries out a call. -/
def perform (service : Service) : Call → Reply × Service
  | .create entry => (service.create entry).reply .entry
  | .update id change => (service.update id change).reply .entry
  | .delete id => (service.delete id).reply fun _ => .done
  | .get id => (service.get id).reply .entry
  | .preview id => (service.preview id).reply .preview
  | .search query => (service.search query).reply .previews
  | .sanitize => (.done, service.sanitize)
  | .rebuild => service.rebuild.reply .count

end Service

end KeywordSearch
