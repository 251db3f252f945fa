import KeywordSearch.Proofs.Renormalizing
import KeywordSearch.Proofs.Service.Search
import KeywordSearch.Proofs.Unicode.Beginnings
import KeywordSearch.Proofs.Unicode.Words

/-!
# Searching for the beginning of a word

A plain word is made of letters that composing leaves as they are.  Its beginnings are
plain words too, and the token of a plain word is its lower case without the marks that
lowering brings in.  So a beginning of a plain word has a beginning of the token of the
whole word, unless the cut ends a word at a sigma (`PlainWord.ofText_prefix_iff`).

Such a beginning finds the active entries that are stored under the whole word; and of
the entries that are stored under this word alone no other beginning finds any
(`beginning_finds_plain_word`).
-/

set_option autoImplicit false

namespace KeywordSearch

open Unicode

namespace Token

variable {word start rest : List Char}

/-! ## Plain words -/

/-- A text of letters that composing leaves as it is. -/
structure PlainWord (word : List Char) : Prop where
  letters : ∀ c ∈ word, isLetter c = true
  composed : nfkc word = word

instance (word : List Char) : Decidable (PlainWord word) :=
  decidable_of_iff (word.all isLetter = true ∧ nfkc word = word)
    ⟨fun ⟨letters, composed⟩ => ⟨List.all_eq_true.1 letters, composed⟩,
      fun ⟨letters, composed⟩ => ⟨List.all_eq_true.2 letters, composed⟩⟩

theorem PlainWord.isRestored (plain : PlainWord word) {c : Char} (member : c ∈ word) :
    IsRestored c := by
  have composed : c ∈ nfkc word := plain.composed.symm ▸ member
  obtain ⟨head, marks, restored, -⟩ :=
    restored_of_isLetter (isSettled_of_mem_nfkc composed) (plain.letters c member)
  exact ⟨head, marks, restored⟩

/-- A beginning of a plain word is a plain word. -/
theorem PlainWord.of_append (plain : PlainWord (start ++ rest)) : PlainWord start where
  letters := by
    intro c member
    exact plain.letters c (List.mem_append_left rest member)
  composed := by
    have unjoined := (nfkc_eq_self_iff fun _ => plain.isRestored).1 plain.composed
    have restored : ∀ c ∈ start, IsRestored c := by
      intro c member
      exact plain.isRestored (List.mem_append_left rest member)
    exact (nfkc_eq_self_iff restored).2 (List.isChain_append.1 unjoined).1

/-! ## Their tokens -/

theorem PlainWord.isWhiteSpace_eq_false (plain : PlainWord word) :
    ∀ c ∈ word, isWhiteSpace c = false := by
  intro c member
  exact isWhiteSpace_of_isKept (isKept_of_isLetter (plain.letters c member))

/-- Lowering brings no wildcard into a plain word. -/
theorem PlainWord.wildcard_notMem_lowercase (plain : PlainWord word) :
    wildcard ∉ lowercase word := by
  intro member
  rcases isLetter_of_mem_lowercase plain.letters member with letter | dot
  · exact absurd letter (by decide)
  · exact absurd dot (by decide)

/-- The token of a plain word is its lower case, without the marks. -/
theorem PlainWord.ofText_eq (plain : PlainWord word) :
    ofText word = (lowercase word).filter isKept := by
  cases word with
  | nil => rfl
  | cons c word =>
    have visible : ¬isBlank (c :: word) = true := by
      rw [isBlank, List.all_cons, plain.isWhiteSpace_eq_false c List.mem_cons_self]
      exact Bool.false_ne_true
    have unmarked : wildcard ∉ (lowercase (c :: word)).filter isKept := by
      intro member
      exact plain.wildcard_notMem_lowercase (List.mem_filter.1 member).1
    rw [ofText, if_neg visible, plain.composed]
    exact (gatherWildcard_of_notMem unmarked).1

theorem PlainWord.wildcard_notMem (plain : PlainWord word) : wildcard ∉ ofText word := by
  rw [plain.ofText_eq]
  intro member
  exact plain.wildcard_notMem_lowercase (List.mem_filter.1 member).1

/-- A plain word has a token that can be indexed and looked up. -/
theorem PlainWord.isValid_ofText (plain : PlainWord word) (nonempty : word ≠ []) :
    isValid (ofText word) = true := by
  obtain ⟨c, lowered, letter⟩ := exists_letter_mem_lowercase plain.letters nonempty
  have kept : isKept c = true := isKept_of_isLetter letter
  have member : c ∈ ofText word := by
    rw [plain.ofText_eq]
    exact List.mem_filter.2 ⟨lowered, kept⟩
  exact isValid_of_isKept kept member

/-- A query that is a plain word has one term. -/
theorem PlainWord.ofQuery_eq (plain : PlainWord word) (nonempty : word ≠ []) :
    ofQuery word = [ofText word] := by
  rw [ofQuery, words_of_solid plain.isWhiteSpace_eq_false nonempty, List.map_singleton,
    List.filter_cons_of_pos (plain.isValid_ofText nonempty), List.filter_nil]

/-- **When the token of a beginning begins the token of the word.**  It does unless a sigma that
stands inside the word ends what is left of it. -/
theorem PlainWord.ofText_prefix_iff (plain : PlainWord (start ++ rest)) :
    ofText start <+: ofText (start ++ rest) ↔ ¬CutsSigma start rest := by
  rw [plain.of_append.ofText_eq, plain.ofText_eq]
  exact filter_lowercase_prefix_iff (isKept_of_isLetter isLetter_sigma.1)
    (isKept_of_isLetter isLetter_sigma.2) start rest

end Token

/-! ## Finding them -/

variable {store : Store} {entry : Entry} {keyword query : String}

open Token

/-- An entry with a plain keyword is stored under its token. -/
theorem Entry.ofText_mem_tokens (plain : PlainWord keyword.toList) (nonempty : keyword.toList ≠ [])
    (carries : keyword ∈ entry.keywords) : ofText keyword.toList ∈ entry.tokens :=
  ofText_mem_ofKeywords carries (plain.isValid_ofText nonempty)

namespace Store

/-- What begins a token of a stored entry matches the entry. -/
theorem matches_of_prefix {term token : Token} (nonempty : term ≠ [])
    (stored : entry ∈ store.items) (member : token ∈ entry.tokens) (initial : term <+: token) :
    store.Matches term entry := by
  have spells : entry.Spells term := ⟨nonempty, token, member, initial⟩
  rw [Matches, if_pos ⟨entry, stored, spells⟩]
  exact spells

/-- An entry with one token, which has no wildcard, is matched only by what begins it. -/
theorem prefix_of_matches {term token : Token} (only : ∀ other ∈ entry.tokens, other = token)
    (unmarked : wildcard ∉ token) (matched : store.Matches term entry) : term <+: token := by
  rw [Matches] at matched
  split at matched
  · obtain ⟨-, other, member, initial⟩ := matched
    exact only other member ▸ initial
  · obtain ⟨reached, -, member⟩ := matched
    have marked : wildcard ∈ token := by
      rw [← only _ member]
      exact List.mem_append_right reached (List.mem_singleton_self wildcard)
    exact absurd marked unmarked

/-- A query of one term gives weight to the entries that the term matches. -/
theorem weight_pos_iff (plain : PlainWord query.toList) (nonempty : query.toList ≠ []) :
    0 < store.weight query entry ↔ store.Matches (ofText query.toList) entry := by
  rw [weight, plain.ofQuery_eq nonempty, List.countP_pos_iff]
  simp

end Store

/-- **Searching for the beginning of a plain word.**  The token of a nonempty beginning of a plain
keyword begins the token of the keyword unless the cut ends a word at a sigma.  Where it
does, a search for the beginning finds every active stored entry with the keyword; where
it does not, it finds none that has no keyword but this one. -/
theorem beginning_finds_plain_word {rest : List Char} (plain : PlainWord keyword.toList)
    (nonempty : query ≠ "") (begins : keyword.toList = query.toList ++ rest) :
    (ofText query.toList <+: ofText keyword.toList ↔ ¬CutsSigma query.toList rest) ∧
    ∀ service, Reached Conduct.KeepsIds service → service.FindsFor query →
      ∃ shown, (service.search query).1 = .ok shown ∧
        ∀ entry ∈ service.backend.store.items, entry.active = true →
          (keyword ∈ entry.keywords → ¬CutsSigma query.toList rest → entry.preview ∈ shown) ∧
          (entry.keywords = [keyword] → CutsSigma query.toList rest → entry.preview ∉ shown) := by
  have some_character : query.toList ≠ [] := by rwa [ne_eq, String.toList_eq_nil_iff]
  have plainQuery : PlainWord query.toList := (begins ▸ plain).of_append
  have initial_iff :
      ofText query.toList <+: ofText keyword.toList ↔ ¬CutsSigma query.toList rest := by
    rw [begins] at plain ⊢
    exact plain.ofText_prefix_iff
  refine ⟨initial_iff, ?_⟩
  intro service reached finds
  obtain ⟨shown, answer, shows⟩ := reached.consistent.shows_iff finds
  refine ⟨shown, answer, ?_⟩
  intro entry stored active
  rw [shows entry stored active, Store.weight_pos_iff plainQuery some_character]
  constructor
  · intro carries uncut
    have whole : keyword.toList ≠ [] := by
      rw [begins]
      exact List.append_ne_nil_of_left_ne_nil some_character rest
    exact Store.matches_of_prefix (ne_nil_of_isValid (plainQuery.isValid_ofText some_character))
      stored (Entry.ofText_mem_tokens plain whole carries) (initial_iff.2 uncut)
  · intro alone cut matched
    have only : ∀ other ∈ entry.tokens, other = ofText keyword.toList := by
      intro other member
      rw [Entry.tokens, alone] at member
      exact List.mem_singleton.1 (List.mem_filter.1 member).1
    exact initial_iff.1 (Store.prefix_of_matches only plain.wildcard_notMem matched) cut

/-- An entry whose keyword has sigmas inside the word and one at its end. -/
def odyssey : Entry := { id := ⟨1⟩, question := "Odyssey", keywords := ["ΟΔΥΣΣΕΥΣ"] }

/-- A service that was started with that entry. -/
def odysseyService : Service :=
  (Service.ofBackend {} { store := Roster.ofList [odyssey] }).rebuild.2

theorem reached_odyssey : Reached Conduct.KeepsIds odysseyService :=
  @Reached.start _ {} (Roster.ofList [odyssey]) {} _ (fun _ => rfl) rfl

theorem beginning_finds_plain_word_odyssey :
    PlainWord "ΟΔΥΣΣΕΥΣ".toList ∧ "ΟΔΥΣΣΕ" ≠ "" ∧
    "ΟΔΥΣΣΕΥΣ".toList = "ΟΔΥΣΣΕ".toList ++ "ΥΣ".toList ∧
    ofText "ΟΔΥΣΣΕ".toList <+: ofText "ΟΔΥΣΣΕΥΣ".toList ∧
    Reached Conduct.KeepsIds odysseyService ∧ odysseyService.FindsFor "ΟΔΥΣΣΕ" ∧
    ∃ shown, (odysseyService.search "ΟΔΥΣΣΕ").1 = .ok shown ∧ odyssey.preview ∈ shown := by
  have plain : PlainWord "ΟΔΥΣΣΕΥΣ".toList := by decide +kernel
  have some_query : "ΟΔΥΣΣΕ" ≠ "" := by decide
  have begins : "ΟΔΥΣΣΕΥΣ".toList = "ΟΔΥΣΣΕ".toList ++ "ΥΣ".toList := by decide
  have finds : odysseyService.FindsFor "ΟΔΥΣΣΕ" := by decide +kernel
  have uncut : ¬CutsSigma "ΟΔΥΣΣΕ".toList "ΥΣ".toList := by decide +kernel
  have stored : odyssey ∈ odysseyService.backend.store.items := by decide +kernel
  obtain ⟨initial_iff, found⟩ := beginning_finds_plain_word plain some_query begins
  obtain ⟨shown, answer, shows⟩ := found odysseyService reached_odyssey finds
  have carried : odyssey.preview ∈ shown :=
    (shows odyssey stored rfl).1 (List.mem_singleton_self _) uncut
  exact ⟨plain, some_query, begins, initial_iff.2 uncut, reached_odyssey, finds, shown, answer,
    carried⟩

/-- Cut between its two sigmas, the word ends in the final sigma, and is not found. -/
theorem beginning_misses_plain_word :
    PlainWord "ΟΔΥΣΣΕΥΣ".toList ∧ "ΟΔΥΣ" ≠ "" ∧
    "ΟΔΥΣΣΕΥΣ".toList = "ΟΔΥΣ".toList ++ "ΣΕΥΣ".toList ∧
    ¬ofText "ΟΔΥΣ".toList <+: ofText "ΟΔΥΣΣΕΥΣ".toList ∧
    Reached Conduct.KeepsIds odysseyService ∧ (∀ id, odysseyService.Finds id) ∧
    odyssey ∈ odysseyService.backend.store.items ∧ odyssey.active = true ∧
    "ΟΔΥΣΣΕΥΣ" ∈ odyssey.keywords ∧ (odysseyService.search "ΟΔΥΣ").1 = .ok [] := by
  refine ⟨?plain, by decide, by decide, ?token, reached_odyssey, fun _ _ => rfl, ?stored, rfl,
    ?carried, ?missed⟩
  case plain | token | stored | carried | missed => decide +kernel

end KeywordSearch
