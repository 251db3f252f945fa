import KeywordSearch.Proofs.Service.PlainWords
import KeywordSearch.Proofs.Shape

/-!
# Entries are found by their own keywords

A keyword is given a token as it stands, and a query is divided into words before each
of them is given one.  For a keyword without white space this comes to the same: it is
one word, so as a query it has just the token that it has as a keyword
(`Token.ofQuery_eq_ofKeywords`), and so it has as a word of a longer query.

What an entry is stored under matches the entry, whatever else is stored.  So a query
that has a keyword of an entry among its words gives weight to the entry
(`Store.weight_pos_of_mem_words`), and a reached service shows the entry if it is active
(`own_keyword_finds`).
-/

set_option autoImplicit false

namespace KeywordSearch

open Unicode

variable {keyword query : String}

namespace Token

/-- **A keyword without white space has the same token as a keyword and as a query.** -/
theorem ofQuery_eq_ofKeywords (solid : ∀ c ∈ keyword.toList, isWhiteSpace c = false) :
    ofQuery keyword.toList = ofKeywords [keyword] := by
  by_cases empty : keyword.toList = []
  · -- The empty keyword is no word, and its token is not valid.
    rw [ofQuery, ofKeywords, List.map_singleton, empty]
    rfl
  · rw [ofQuery, ofKeywords, words_of_solid solid empty, List.map_singleton, List.map_singleton]

end Token

open Token

/-- A query gives weight to the stored entries that have one of its words as a keyword. -/
theorem Store.weight_pos_of_mem_words {store : Store} {entry : Entry}
    (stored : entry ∈ store.items) (carries : keyword ∈ entry.keywords)
    (nonempty : ofText keyword.toList ≠ []) (word : keyword.toList ∈ words query.toList) :
    0 < store.weight query entry := by
  have valid : isValid (ofText keyword.toList) = true :=
    (wellFormed_ofText keyword.toList).isValid_iff.2 nonempty
  have matched : store.Matches (ofText keyword.toList) entry :=
    matches_of_prefix nonempty stored (ofText_mem_ofKeywords carries valid) List.prefix_rfl
  rw [Store.weight, List.countP_pos_iff]
  exact ⟨ofText keyword.toList, ofText_mem_ofQuery word valid, decide_eq_true matched⟩

/-- **An entry is found by its own keyword.**  A keyword without white space has the same
token as a keyword and as a query.  Unless that token is empty, a search of a reached
service for the keyword, or for any words among which the keyword is, shows every active
stored entry that has it, where the look-ups of the search do not fail. -/
theorem own_keyword_finds :
    (∀ keyword : String, (∀ c ∈ keyword.toList, isWhiteSpace c = false) →
      ofQuery keyword.toList = ofKeywords [keyword]) ∧
    ∀ service, Reached Conduct.KeepsIds service →
      ∀ entry ∈ service.backend.store.items, entry.active = true →
        ∀ keyword ∈ entry.keywords, (∀ c ∈ keyword.toList, isWhiteSpace c = false) →
          ofText keyword.toList ≠ [] →
            ∀ query : String, query = keyword ∨ keyword.toList ∈ words query.toList →
              service.FindsFor query →
                ∃ shown, (service.search query).1 = .ok shown ∧ entry.preview ∈ shown := by
  refine ⟨fun keyword => ofQuery_eq_ofKeywords, ?_⟩
  intro service reached entry stored active keyword carries solid nonempty query asked finds
  have word : keyword.toList ∈ words query.toList := by
    rcases asked with rfl | among
    · have some_character : query.toList ≠ [] := by
        intro empty
        exact nonempty (by rw [empty]; rfl)
      rw [words_of_solid solid some_character]
      exact List.mem_singleton_self _
    · exact among
  obtain ⟨shown, answer, shows⟩ := reached.consistent.shows_iff finds
  refine ⟨shown, answer, (shows entry stored active).2 ?_⟩
  exact Store.weight_pos_of_mem_words stored carries nonempty word

/-- An entry whose keyword has an accent of its own, a hyphen and a wildcard. -/
def coffee : Entry := { id := ⟨3⟩, question := "Coffee", keywords := ["Cafe\u0301-Bar*", "tea"] }

/-- A service with a history of failures, after that entry was created. -/
def coffeeService : Service := sampleService.react (.call (.create coffee))

theorem reached_coffee : Reached Conduct.KeepsIds coffeeService := reached_sample.react trivial

theorem own_keyword_finds_coffee :
    ofQuery "Cafe\u0301-Bar*".toList = ofKeywords ["Cafe\u0301-Bar*"] ∧
    ∃ shown, (coffeeService.search "\tprint  Cafe\u0301-Bar*\u3000").1 = .ok shown ∧
      coffee.preview ∈ shown := by
  have solid : ∀ c ∈ "Cafe\u0301-Bar*".toList, isWhiteSpace c = false := by
    have none : ("Cafe\u0301-Bar*".toList.all fun c => !isWhiteSpace c) = true := by
      decide +kernel
    intro c member
    simpa using List.all_eq_true.1 none c member
  have stored : coffee ∈ coffeeService.backend.store.items := by decide +kernel
  have carried : "Cafe\u0301-Bar*" ∈ coffee.keywords := List.mem_cons_self
  have nonempty : ofText "Cafe\u0301-Bar*".toList ≠ [] := by decide +kernel
  have among : "Cafe\u0301-Bar*".toList ∈ words "\tprint  Cafe\u0301-Bar*\u3000".toList := by
    decide +kernel
  have finds : coffeeService.FindsFor "\tprint  Cafe\u0301-Bar*\u3000" := by decide +kernel
  obtain ⟨same, found⟩ := own_keyword_finds
  exact ⟨same _ solid, found _ reached_coffee _ stored rfl _ carried solid nonempty _
    (.inr among) finds⟩

end KeywordSearch
