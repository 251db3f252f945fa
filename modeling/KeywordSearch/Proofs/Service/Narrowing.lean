import KeywordSearch.Proofs.Service.Consistency

/-!
# Longer tokens find less

Whoever goes on typing narrows down what is found.  The ids that a token finds in the
index of a reached service are among those that every nonempty beginning of the token
finds (`search_narrows`), whether they are held at the token or under a wildcard.

Of the index no more is needed than that it is nested: an id that is held at a path is
held all the way there.  Where the shorter token is a path, all that the longer one
finds lies at it or beyond it.  Where it leads off the index, the longer one leads off
at the same point, and one wildcard answers both (`Index.Nested.contains_search`).
Removing single tokens can break this, since it takes an id away from a beginning that
another token of the entry needs; an index that agrees with stored entries is nested
again.
-/

set_option autoImplicit false

namespace KeywordSearch

namespace Index

variable {index : Index} {term longer reached : Token} {id : EntryId}

/-- An id that is held at a path is held at every nonempty beginning of it. -/
def Nested (index : Index) : Prop :=
  ∀ path more id, path ≠ [] → index.Holds (path ++ more) id → index.Holds path id

/-- What stored entries spell, they spell from the beginning. -/
theorem Agrees.nested {store : Store} (agrees : index.Agrees store) : index.Nested := by
  intro path more id nonempty holds
  obtain ⟨entry, found, spells⟩ := (agrees (path ++ more) id).1 holds
  exact agrees.holds found (spells.of_append nonempty)

/-- Where a token leads off the index, every longer one leads off at the same point. -/
theorem farthest_of_prefix (nonempty : term ≠ []) (initial : term <+: longer)
    (missing : ¬index.HasPath term) (farthest : Farthest index.HasPath longer reached) :
    Farthest index.HasPath term reached where
  initial := by
    by_cases short : reached.length ≤ term.length
    · exact List.prefix_of_prefix_length_le farthest.initial initial short
    · -- A walk that went on past the shorter token would have gone along it.
      have past : term <+: reached :=
        List.prefix_of_prefix_length_le initial farthest.initial (by omega)
      obtain ⟨more, rfl⟩ := past
      have known : index.HasPath (term ++ more) :=
        farthest.known.resolve_left (List.append_ne_nil_of_left_ne_nil nonempty more)
      exact absurd (known.of_append nonempty) missing
  known := farthest.known
  longest := by
    intro other initialOther has
    exact farthest.longest other (initialOther.trans initial) has

/-- **In a nested index a token finds all that a longer one finds.** -/
theorem Nested.contains_search (nested : index.Nested) (nonempty : term ≠ [])
    (initial : term <+: longer) (found : (index.search longer).contains id = true) :
    (index.search term).contains id = true := by
  obtain ⟨reached, farthest⟩ := Farthest.exists index.HasPath longer
  rw [Index.contains_search, farthest.found_iff] at found
  by_cases has : index.HasPath term
  · -- The walk goes through the end of the shorter token, so what it comes to lies beyond.
    rw [contains_search_of_hasPath has]
    obtain ⟨more, rfl⟩ : term <+: reached :=
      List.prefix_of_prefix_length_le initial farthest.initial (farthest.longest term initial has)
    rcases found.2 with ⟨rfl, holds⟩ | ⟨-, holds⟩
    · exact nested term more id nonempty holds
    · rw [List.append_assoc] at holds
      exact nested term (more ++ [wildcard]) id nonempty holds
  · have same := farthest_of_prefix nonempty initial has farthest
    have shorter : reached ≠ term := by
      intro whole
      exact has ((same.known_iff nonempty).2 whole)
    rw [Index.contains_search, same.found_iff]
    refine ⟨nonempty, .inr ⟨shorter, ?_⟩⟩
    rcases found.2 with ⟨rfl, -⟩ | ⟨-, holds⟩
    · exact absurd (same.initial.eq_of_length_le initial.length_le) shorter
    · exact holds

/-- Removing one of two tokens of an entry leaves an index that is not nested, in which
the longer token finds more. -/
example :
    let index := ((empty.insert "network".toList ⟨1⟩).insert "net".toList ⟨1⟩).remove
      "net".toList ⟨1⟩
    (index.search "net".toList).contains ⟨1⟩ = false ∧
      (index.search "netw".toList).contains ⟨1⟩ = true := by
  decide

end Index

/-- **Typing more narrows the result.**  In a reached service all that a token finds is found
by every nonempty beginning of the token. -/
theorem search_narrows {service : Service} (reached : Reached Conduct.KeepsIds service)
    {term longer : Token} (nonempty : term ≠ []) (initial : term <+: longer) (id : EntryId)
    (found : (service.engine.index.search longer).contains id = true) :
    (service.engine.index.search term).contains id = true := by
  have nested : service.engine.index.Nested := reached.consistent.mirrors.agrees.nested
  exact nested.contains_search nonempty initial found

/-- A token that leads off the index is answered by a wildcard, and all of that is found by
its beginnings. -/
theorem search_narrows_sample :
    Reached Conduct.KeepsIds sampleService ∧ "tone".toList ≠ [] ∧
    "tone".toList <+: "tonery".toList ∧
    (sampleService.engine.index.search "tonery".toList).contains ⟨2⟩ = true ∧
    (sampleService.engine.index.search "tone".toList).contains ⟨2⟩ = true ∧
    (sampleService.engine.index.search "tonery".toList).items = [⟨2⟩] ∧
    (sampleService.engine.index.search "tone".toList).items = [⟨1⟩, ⟨2⟩] := by
  have nonempty : "tone".toList ≠ [] := by decide
  have initial : "tone".toList <+: "tonery".toList := by decide
  have found : (sampleService.engine.index.search "tonery".toList).contains ⟨2⟩ = true := by
    decide +kernel
  exact ⟨reached_sample, nonempty, initial, found,
    search_narrows reached_sample nonempty initial ⟨2⟩ found, by decide +kernel, by decide +kernel⟩

end KeywordSearch
