import KeywordSearch.Proofs.Service.Resolution
import KeywordSearch.Proofs.Unicode.Words
import Mathlib.Data.List.Perm.Subperm

/-!
# Terms of a query

A search sees of its query the terms, and of these how often each of them occurs.  So
queries with the same terms in another order are searched alike, to the last slot of
the cache (`Service.search_of_perm`), whatever state the service is in.

More terms find more.  Every id that a query finds is found when something is added to
the query; it may come at another place, since the ranks change, and it is read as it
would have been without the other ids.  Where no look-up fails, all previews that the
shorter query shows are shown by the longer one, each once
(`Service.results_subperm`).
-/

set_option autoImplicit false

namespace KeywordSearch

open Unicode

variable {query shorter longer : String}

namespace Engine

/-- What a query finds does not depend on the order of its terms. -/
theorem found_of_perm (engine : Engine) {left right : String}
    (permuted : (Token.ofQuery left.toList).Perm (Token.ofQuery right.toList)) :
    engine.found left = engine.found right := by
  have ranked : engine.candidates left = engine.candidates right :=
    rank_perm (permuted.map engine.index.search)
  rw [found, found, ranked]

/-- A query with more terms finds more ids. -/
theorem found_subset (engine : Engine)
    (terms : Token.ofQuery shorter.toList ⊆ Token.ofQuery longer.toList) :
    engine.found shorter ⊆ engine.found longer := by
  intro id member
  obtain ⟨term, occurs, contains⟩ := mem_found.1 member
  exact mem_found.2 ⟨term, terms occurs, contains⟩

end Engine

namespace Service

variable {service : Service}

/-- **The order of the terms makes no difference to a search.** -/
theorem search_of_perm (service : Service) {left right : String}
    (permuted : (Token.ofQuery left.toList).Perm (Token.ofQuery right.toList)) :
    service.search left = service.search right := by
  rw [search_eq, search_eq, service.engine.found_of_perm permuted]

/-- A search of a quiet service shows the active previews of what it finds, unless a look-up
fails. -/
theorem search_fst_of_finds (quiet : service.Quiet)
    (finds : ∀ id ∈ service.engine.found query, service.Finds id) :
    (service.search query).1 =
      .ok (((service.engine.found query).filterMap service.shown).filter (·.active)) := by
  rw [search_eq, previews_fst quiet (service.engine.nodup_found query)]
  exact results_of_finds finds

/-- **What a query shows is shown when terms are added to it.** -/
theorem results_subperm (terms : Token.ofQuery shorter.toList ⊆ Token.ofQuery longer.toList) :
    (((service.engine.found shorter).filterMap service.shown).filter (·.active)).Subperm
      (((service.engine.found longer).filterMap service.shown).filter (·.active)) := by
  have more : (service.engine.found shorter).Subperm (service.engine.found longer) :=
    (service.engine.nodup_found shorter).subperm (service.engine.found_subset terms)
  obtain ⟨kept, permuted, sublist⟩ := more
  exact ⟨_, (permuted.filterMap service.shown).filter _, (sublist.filterMap service.shown).filter _⟩

end Service

/-- **The algebra of queries.**  The terms of two texts with white space between them are those
of the first and then those of the second.  Queries whose terms are the same in some
order are searched alike.  Where no look-up fails and nothing is on its way into the
cache, all that a query shows is shown when another query is added to it. -/
theorem search_terms (service : Service) :
    (∀ left gap right : String, gap ≠ "" → (∀ c ∈ gap.toList, isWhiteSpace c = true) →
      Token.ofQuery (left ++ gap ++ right).toList =
        Token.ofQuery left.toList ++ Token.ofQuery right.toList) ∧
    (∀ left right : String, (Token.ofQuery left.toList).Perm (Token.ofQuery right.toList) →
      service.search left = service.search right) ∧
    (service.Quiet → ∀ query added : String,
      (∀ id ∈ service.engine.found (query ++ " " ++ added), service.Finds id) →
      ∃ fewer more, (service.search query).1 = .ok fewer ∧
        (service.search (query ++ " " ++ added)).1 = .ok more ∧ fewer.Subperm more) := by
  have divided : ∀ left gap right : String, gap ≠ "" →
      (∀ c ∈ gap.toList, isWhiteSpace c = true) → Token.ofQuery (left ++ gap ++ right).toList =
        Token.ofQuery left.toList ++ Token.ofQuery right.toList := by
    intro left gap right nonempty white
    rw [String.toList_append, String.toList_append]
    refine Token.ofQuery_append_gap ?_ white left.toList right.toList
    rwa [ne_eq, String.toList_eq_nil_iff]
  refine ⟨divided, fun _ _ => service.search_of_perm, ?_⟩
  intro quiet query added finds
  have blank : ∀ c ∈ " ".toList, isWhiteSpace c = true := List.all_eq_true.1 rfl
  have terms : Token.ofQuery query.toList ⊆ Token.ofQuery (query ++ " " ++ added).toList := by
    rw [divided query " " added (by decide) blank]
    exact List.subset_append_left _ _
  have findsFewer : ∀ id ∈ service.engine.found query, service.Finds id := by
    intro id member
    exact finds id (service.engine.found_subset terms member)
  exact ⟨_, _, Service.search_fst_of_finds quiet findsFewer,
    Service.search_fst_of_finds quiet finds, Service.results_subperm terms⟩

/-- A service whose parts have drifted apart, and queries that come to the same terms. -/
theorem search_terms_sample :
    ("\t\u3000\n" ≠ "" ∧ (∀ c ∈ "\t\u3000\n".toList, isWhiteSpace c = true) ∧
      Token.ofQuery ("Net! work" ++ "\t\u3000\n" ++ "net").toList =
        Token.ofQuery "Net! work".toList ++ Token.ofQuery "net".toList) ∧
    ((Token.ofQuery "network net".toList).Perm (Token.ofQuery " NET\tnetwork".toList) ∧
      driftedService.search "network net" = driftedService.search " NET\tnetwork") ∧
    (driftedService.Quiet ∧
      (∀ id ∈ driftedService.engine.found ("network" ++ " " ++ "net"), driftedService.Finds id) ∧
      ∃ fewer more, (driftedService.search "network").1 = .ok fewer ∧
        (driftedService.search ("network" ++ " " ++ "net")).1 = .ok more ∧ fewer.Subperm more) := by
  obtain ⟨divided, alike, shown⟩ := search_terms driftedService
  have white : ∀ c ∈ "\t\u3000\n".toList, isWhiteSpace c = true := List.all_eq_true.1 rfl
  have permuted : (Token.ofQuery "network net".toList).Perm
      (Token.ofQuery " NET\tnetwork".toList) := by
    decide +kernel
  have finds : ∀ id ∈ driftedService.engine.found ("network" ++ " " ++ "net"),
      driftedService.Finds id := by
    decide +kernel
  have some_gap : "\t\u3000\n" ≠ "" := by decide
  exact ⟨⟨some_gap, white, divided _ _ _ some_gap white⟩, ⟨permuted, alike _ _ permuted⟩,
    rfl, finds, shown rfl "network" "net" finds⟩

end KeywordSearch
