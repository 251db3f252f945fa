import KeywordSearch.Toml.Document
import Mathlib.Tactic.SplitIfs

/-!
# Integers of a document

Every integer that a key of a document has as its value fits 64 bits with a
sign.  A number is refused when it is read and does not fit, and neither
headers nor dotted keys make integers of their own.
-/

set_option autoImplicit false

namespace KeywordSearch.Toml

/-! ## Values -/

/-- An integer that fits 64 bits with a sign, or no integer at all. -/
def Node.Fits (node : Node) : Prop :=
  ∀ n, node = .integer n → leastInteger ≤ n ∧ n ≤ greatestInteger

theorem Node.fits_table (origin : Origin) (members : Members) : (table origin members).Fits := nofun

theorem Node.fits_tables (newest : Members) (older : List Members) : (tables newest older).Fits :=
  nofun

theorem fitting_eq_some {n m : Int} (fits : fitting n = some m) :
    leastInteger ≤ m ∧ m ≤ greatestInteger := by
  unfold fitting at fits
  split_ifs at fits with bounds
  cases fits
  exact bounds

theorem decimal?_fits {text : List Char} {n : Int} (read : decimal? text = some n) :
    leastInteger ≤ n ∧ n ≤ greatestInteger := by
  unfold decimal? at read
  split at read
  split at read
  next => exact fitting_eq_some read
  next => cases read

theorem based?_fits {isDigit : Char → Bool} {base : Nat} {text : List Char} {n : Int}
    (read : based? isDigit base text = some n) : leastInteger ≤ n ∧ n ≤ greatestInteger := by
  unfold based? at read
  split at read
  next => exact fitting_eq_some read
  next => cases read

theorem integer?_fits {text : List Char} {n : Int} (read : integer? text = some n) :
    leastInteger ≤ n ∧ n ≤ greatestInteger := by
  unfold integer? at read
  split at read
  next => exact based?_fits read
  next => exact based?_fits read
  next => exact based?_fits read
  next => exact decimal?_fits read

theorem fits_of_wordValue {word : List Char} {node : Node} (read : wordValue word = some node) :
    node.Fits := by
  rintro n rfl
  unfold wordValue at read
  split at read
  next => cases read
  split at read
  next => cases read
  split at read
  next m number =>
    cases read
    exact integer?_fits number
  split at read
  next => cases read
  split at read <;> cases read

theorem fits_of_bareValue {text rest : List Char} {node : Node}
    (read : bareValue text = some (node, rest)) : node.Fits := by
  have words {word left : List Char}
      (read : (wordValue word).map (fun node => (node, left)) = some (node, rest)) : node.Fits := by
    obtain ⟨other, found, same⟩ := Option.map_eq_some_iff.1 read
    cases same
    exact fits_of_wordValue found
  simp only [bareValue] at read
  split at read
  next =>
    split at read
    next => exact words read
    next => exact words read
  next => exact words read

/-- An integer that is read fits 64 bits with a sign. -/
theorem fits_of_value {depth : Nat} {text rest : List Char} {node : Node}
    (read : value depth text = some (node, rest)) : node.Fits := by
  rintro n rfl
  unfold value at read
  split at read
  next => cases read
  split at read
  next => simp at read
  split at read
  next =>
    split at read
    next => cases read
    next => simp at read
  split at read
  next =>
    split at read
    next => cases read
    next =>
      split at read
      next => cases read
      next => simp at read
  next => exact fits_of_bareValue read n rfl

theorem fits_of_statement {text rest : List Char} {path : Path} {node : Node}
    (read : statement text = some (.assign path node, rest)) : node.Fits := by
  unfold statement at read
  split at read
  case h_7 =>
    split at read
    next =>
      obtain ⟨⟨other, left⟩, found, same⟩ := Option.map_eq_some_iff.1 read
      cases same
      exact fits_of_value found
    next => cases read
  all_goals first
    | cases read
    | split at read <;> cases read

/-- The values that a document assigns fit. -/
theorem fits_of_statements {fuel : Nat} {text : List Char} {said : List Statement}
    (read : statements fuel text = some said) {path : Path} {node : Node}
    (found : .assign path node ∈ said) : node.Fits := by
  induction fuel generalizing text said with
  | zero => cases read
  | succ fuel ih =>
    rw [statements] at read
    split at read
    next =>
      cases read
      cases found
    split at read
    next => cases read
    next first rest taken =>
      split at read
      next => cases read
      next =>
        obtain ⟨others, readRest, same⟩ := Option.map_eq_some_iff.1 read
        cases same
        cases found with
        | head => exact fits_of_statement taken
        | tail _ later => exact ih readRest later

/-! ## Tables -/

/-- A table of members that fit. -/
def Members.Fit (members : Members) : Prop :=
  ∀ key node, members.find? key = some node → node.Fits

theorem Members.fit_nil : Fit [] := nofun

theorem Members.find?_set (members : Members) (key other : Key) (node : Node) :
    (members.set key node).find? other =
      if key = other then some node else members.find? other := by
  induction members with
  | nil => rfl
  | cons member members ih =>
    obtain ⟨name, old⟩ := member
    rw [set]
    split
    next same =>
      subst same
      simp only [find?]
      split <;> rfl
    next differs =>
      simp only [find?, ih]
      split_ifs with this that
      · exact absurd (this.trans that.symm) differs
      · rfl
      · rfl
      · rfl

theorem Members.Fit.set {members : Members} (fit : members.Fit) {node : Node} (fits : node.Fits)
    (key : Key) : (members.set key node).Fit := by
  intro other found same
  rw [find?_set] at same
  split_ifs at same
  · cases same
    exact fits
  · exact fit other found same

theorem fit_define {key : Key} {node : Node} {members after : Members} (fits : node.Fits)
    (fit : members.Fit) (done : members.define key node = some after) : after.Fit := by
  unfold Members.define at done
  split at done <;> cases done
  exact fit.set fits key

/-- Putting a table under a key makes no integer. -/
theorem fit_of_map_set {α : Type} {changed : Option α} {table : α → Node} {key : Key}
    {members after : Members} (tables : ∀ below, (table below).Fits) (fit : members.Fit)
    (done : changed.map (fun below => members.set key (table below)) = some after) : after.Fit := by
  obtain ⟨below, _, same⟩ := Option.map_eq_some_iff.1 done
  cases same
  exact fit.set (tables below) key

theorem fit_assign {path : List Key} {key : Key} {node : Node} {members after : Members}
    (fits : node.Fits) (fit : members.Fit) (done : assign path key node members = some after) :
    after.Fit := by
  -- No induction is needed: where the key has parents, this table gets a table at most.
  unfold assign at done
  split at done
  next => exact fit_define fits fit done
  next =>
    split at done
    next => exact fit_of_map_set (Node.fits_table _) fit done
    next => exact fit_of_map_set (Node.fits_table _) fit done
    next =>
      split at done
      next => cases done
      next => exact fit_of_map_set (Node.fits_table _) fit done
    next older _ =>
      split at done
      next => cases done
      next => exact fit_of_map_set (fun newest => Node.fits_tables newest older) fit done
    next => cases done

theorem fit_within {path : List Key} {change : Members → Option Members} {members after : Members}
    (changes : ∀ before after, before.Fit → change before = some after → after.Fit)
    (fit : members.Fit) (done : within path change members = some after) : after.Fit := by
  unfold within at done
  split at done
  next => exact changes _ _ fit done
  next =>
    split at done
    next => exact fit_of_map_set (Node.fits_table _) fit done
    next => cases done
    next => exact fit_of_map_set (Node.fits_table _) fit done
    next older _ => exact fit_of_map_set (fun newest => Node.fits_tables newest older) fit done
    next => cases done

theorem fit_openTable {key : Key} {members after : Members} (fit : members.Fit)
    (done : openTable key members = some after) : after.Fit := by
  unfold openTable at done
  split at done <;> cases done
  · exact fit.set (Node.fits_table _ _) key
  · exact fit.set (Node.fits_table _ _) key

theorem fit_openElement {key : Key} {members after : Members} (fit : members.Fit)
    (done : openElement key members = some after) : after.Fit := by
  unfold openElement at done
  split at done <;> cases done
  · exact fit.set (Node.fits_tables _ _) key
  · exact fit.set (Node.fits_tables _ _) key

/-- Statements whose values fit make a table of members that fit. -/
theorem fit_build {here : List Key} {members after : Members} {said : List Statement}
    (fits : ∀ path node, .assign path node ∈ said → node.Fits) (fit : members.Fit)
    (done : build here members said = some after) : after.Fit := by
  induction said generalizing here members with
  | nil =>
    cases done
    exact fit
  | cons statement said ih =>
    have fitsRest : ∀ path node, .assign path node ∈ said → node.Fits := fun path node later =>
      fits path node (List.mem_cons_of_mem _ later)
    cases statement with
    | blank => exact ih fitsRest fit done
    | assign path node =>
      simp only [build] at done
      split at done
      next next made =>
        have assigned : next.Fit :=
          fit_within (fun _ _ => fit_assign (fits path node List.mem_cons_self)) fit made
        exact ih fitsRest assigned done
      next => cases done
    | header path =>
      simp only [build] at done
      split at done
      next next made => exact ih fitsRest (fit_within (fun _ _ => fit_openTable) fit made) done
      next => cases done
    | element path =>
      simp only [build] at done
      split at done
      next next made => exact ih fitsRest (fit_within (fun _ _ => fit_openElement) fit made) done
      next => cases done

/-- **Every integer of a document fits 64 bits with a sign.** -/
theorem fit_parse {text : List Char} {members : Members} (read : parse text = some members) :
    members.Fit := by
  unfold parse at read
  split at read
  next said taken => exact fit_build (fun _ _ => fits_of_statements taken) Members.fit_nil read
  next => cases read

end KeywordSearch.Toml
