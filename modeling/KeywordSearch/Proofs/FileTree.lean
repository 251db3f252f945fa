import KeywordSearch.FileTree
import Mathlib.Tactic.SplitIfs

/-!
# Files are read as they were written

A path can be written when it leads, through directories, to a place where no
directory lies.  A file laid there leaves every directory on the way a
directory, so the same path still leads to the same place, and what is read
there is what was written.
-/

set_option autoImplicit false

namespace KeywordSearch.FileTree

/-! ## What lies at a place -/

@[simp] theorem at?_nil (tree : FileTree) : tree.at? [] = some tree := by
  cases tree <;> rfl

theorem at?_cons_directory (name : String) (rest : FilePlace)
    (members : List (String × FileTree)) :
    (directory members).at? (name :: rest) = (member? members name).bind (at? rest) := by
  rw [at?]
  cases member? members name <;> rfl

/-- What lies below a place is found from what lies at the place. -/
theorem at?_append (above below : FilePlace) (tree : FileTree) :
    tree.at? (above ++ below) = (tree.at? above).bind (at? below) := by
  induction above generalizing tree with
  | nil => simp
  | cons name above ih =>
    cases tree with
    | file bytes => rfl
    | directory members =>
      rw [List.cons_append, at?_cons_directory, at?_cons_directory, Option.bind_assoc]
      congr 1
      funext below
      exact ih below

/-- Something lies below a directory only. -/
theorem isDirectory_of_at?_cons {name : String} {rest : FilePlace} {tree found : FileTree}
    (lies : tree.at? (name :: rest) = some found) : ∃ members, tree = directory members := by
  cases tree with
  | file bytes => cases lies
  | directory members => exact ⟨members, rfl⟩

/-! ## Laying -/

theorem member?_setMember_self (members : List (String × FileTree)) (name : String)
    (tree : FileTree) : member? (setMember members name tree) name = some tree := by
  induction members with
  | nil => simp [setMember, member?]
  | cons member members ih =>
    rw [setMember]
    split
    next same => simp [member?]
    next differs => simpa [member?, differs] using ih

theorem member?_setMember_of_ne {name other : String} (differs : name ≠ other)
    (members : List (String × FileTree)) (tree : FileTree) :
    member? (setMember members name tree) other = member? members other := by
  induction members with
  | nil => simp [setMember, member?, differs]
  | cons member members ih =>
    obtain ⟨first, old⟩ := member
    rw [setMember]
    split
    next same =>
      subst same
      simp [member?, differs]
    next => simp only [member?, ih]

theorem setMember_setMember (members : List (String × FileTree)) (name : String)
    (old new : FileTree) :
    setMember (setMember members name old) name new = setMember members name new := by
  induction members with
  | nil => simp [setMember]
  | cons member members ih =>
    obtain ⟨other, tree⟩ := member
    by_cases same : other = name
    · simp [setMember, same]
    · simp [setMember, same, ih]

/-- A tree laid at a place is what lies there, if the place above is a directory. -/
theorem at?_lay_self {above : FilePlace} {name : String} {tree : FileTree}
    {members : List (String × FileTree)} (new : FileTree)
    (lies : tree.at? above = some (directory members)) :
    (tree.lay (above ++ [name]) new).at? (above ++ [name]) = some new := by
  induction above generalizing tree with
  | nil =>
    rw [at?_nil] at lies
    cases lies
    simp [lay, at?_cons_directory, member?_setMember_self]
  | cons first above ih =>
    obtain ⟨others, rfl⟩ := isDirectory_of_at?_cons lies
    rw [at?_cons_directory, Option.bind_eq_some_iff] at lies
    obtain ⟨below, found, lies⟩ := lies
    rw [List.cons_append, lay, at?_cons_directory, member?_setMember_self, Option.bind_some, found]
    exact ih lies

/-- A directory stays a directory when a tree is laid neither at it nor above it. -/
theorem isDirectory_lay {place other : FilePlace} {tree : FileTree}
    {members : List (String × FileTree)} (new : FileTree) (apart : ¬place <+: other)
    (lies : tree.at? other = some (directory members)) :
    ∃ members, (tree.lay place new).at? other = some (directory members) := by
  induction other generalizing place tree with
  | nil =>
    cases place with
    | nil => exact absurd (List.prefix_refl _) apart
    | cons name rest =>
      rw [at?_nil] at lies
      cases lies
      exact ⟨_, at?_nil _⟩
  | cons name rest ih =>
    obtain ⟨others, rfl⟩ := isDirectory_of_at?_cons lies
    rw [at?_cons_directory, Option.bind_eq_some_iff] at lies
    obtain ⟨below, found, lies⟩ := lies
    cases place with
    | nil => exact absurd List.nil_prefix apart
    | cons first place =>
      rw [lay]
      by_cases same : first = name
      · subst same
        rw [at?_cons_directory, member?_setMember_self, Option.bind_some, found]
        exact ih (fun above => apart (List.cons_prefix_cons.2 ⟨rfl, above⟩)) lies
      · rw [at?_cons_directory, member?_setMember_of_ne same, found]
        exact ⟨_, lies⟩

/-! ## Paths -/

/-- A place right in a directory, or the root. -/
def Housed (place : FilePlace) (tree : FileTree) : Prop :=
  place = [] ∨ ∃ above name members,
    place = above ++ [name] ∧ tree.at? above = some (directory members)

theorem follow_eq_ok {part : String} {place next : FilePlace} {tree : FileTree}
    (led : tree.follow part place = .ok next) :
    ∃ members, tree.at? place = some (directory members) := by
  unfold follow at led
  split at led
  next => cases led
  next => cases led
  next members lies => exact ⟨members, lies⟩

/-- The place above a directory is a directory or above the root. -/
theorem housed_dropLast {place : FilePlace} {tree : FileTree} {members : List (String × FileTree)}
    (lies : tree.at? place = some (directory members)) : tree.Housed place.dropLast := by
  rcases List.eq_nil_or_concat place with rfl | ⟨above, name, rfl⟩
  · exact .inl rfl
  rw [List.concat_eq_append] at lies ⊢
  rw [List.dropLast_concat]
  rcases List.eq_nil_or_concat above with rfl | ⟨higher, first, rfl⟩
  · exact .inl rfl
  rw [List.concat_eq_append] at lies ⊢
  rw [List.append_assoc, at?_append, Option.bind_eq_some_iff] at lies
  obtain ⟨holder, lies, below⟩ := lies
  obtain ⟨others, rfl⟩ := isDirectory_of_at?_cons below
  exact .inr ⟨higher, first, others, rfl, lies⟩

theorem housed_follow {part : String} {place next : FilePlace} {tree : FileTree}
    (housed : tree.Housed place) (led : tree.follow part place = .ok next) : tree.Housed next := by
  obtain ⟨members, lies⟩ := follow_eq_ok led
  simp only [follow, lies] at led
  split_ifs at led with stays up <;> cases led
  · exact housed
  · exact housed_dropLast lies
  · exact .inr ⟨place, part, members, rfl, lies⟩

/-- A path leads from a housed place to a housed place. -/
theorem housed_resolveFrom {path : FilePath} {place found : FilePlace} {tree : FileTree}
    (housed : tree.Housed place) (leads : tree.resolveFrom place path = .ok found) :
    tree.Housed found := by
  induction path generalizing place with
  | nil =>
    cases leads
    exact housed
  | cons part rest ih =>
    rw [resolveFrom] at leads
    split at leads
    next next led => exact ih (housed_follow housed led) leads
    next => cases leads

/-- A path that leads somewhere can be followed. -/
theorem resolve_eq_ok {path : FilePath} {place : FilePlace} {tree : FileTree} :
    tree.resolve path = .ok place ↔
      path.fault? = none ∧ tree.resolveFrom [] path = .ok place := by
  rw [resolve]
  cases path.fault? <;> simp

theorem housed_of_resolve {path : FilePath} {place : FilePlace} {tree : FileTree}
    (leads : tree.resolve path = .ok place) : tree.Housed place :=
  housed_resolveFrom (.inl rfl) (resolve_eq_ok.1 leads).2

/-- A tree laid at a housed place is what lies there. -/
theorem at?_lay_of_housed {place : FilePlace} {tree : FileTree} (new : FileTree)
    (housed : tree.Housed place) : (tree.lay place new).at? place = some new := by
  rcases housed with rfl | ⟨above, name, members, rfl, lies⟩
  · rw [lay, at?_nil]
  · exact at?_lay_self new lies

/-- Where no directory lies, none lies further on. -/
theorem not_isPrefix_of_isDirectory {place other : FilePlace} {tree : FileTree}
    (free : ∀ members, tree.at? place ≠ some (directory members))
    {members : List (String × FileTree)} (lies : tree.at? other = some (directory members)) :
    ¬place <+: other := by
  rintro ⟨rest, rfl⟩
  rw [at?_append, Option.bind_eq_some_iff] at lies
  obtain ⟨holder, here, lies⟩ := lies
  cases rest with
  | nil =>
    rw [at?_nil] at lies
    cases lies
    exact free members here
  | cons name rest =>
    obtain ⟨others, rfl⟩ := isDirectory_of_at?_cons lies
    exact free others here

/-- A path leads where it led, after a tree is laid where no directory lies. -/
theorem resolveFrom_lay {place : FilePlace} {tree : FileTree} (new : FileTree)
    (free : ∀ members, tree.at? place ≠ some (directory members)) {path : FilePath}
    {start found : FilePlace} (leads : tree.resolveFrom start path = .ok found) :
    (tree.lay place new).resolveFrom start path = .ok found := by
  induction path generalizing start with
  | nil => exact leads
  | cons part rest ih =>
    rw [resolveFrom] at leads
    split at leads
    next next led =>
      obtain ⟨members, lies⟩ := follow_eq_ok led
      obtain ⟨others, stays⟩ := isDirectory_lay new (not_isPrefix_of_isDirectory free lies) lies
      -- Where a part leads depends only on a directory lying there, and it still does.
      have same : (tree.lay place new).follow part start = .ok next := by
        rw [← led]
        simp only [follow, lies, stays]
      rw [resolveFrom, same]
      exact ih leads
    next => cases leads

theorem resolve_lay {place : FilePlace} {tree : FileTree} (new : FileTree)
    (free : ∀ members, tree.at? place ≠ some (directory members)) {path : FilePath}
    {found : FilePlace} (leads : tree.resolve path = .ok found) :
    (tree.lay place new).resolve path = .ok found := by
  obtain ⟨sound, leads⟩ := resolve_eq_ok.1 leads
  exact resolve_eq_ok.2 ⟨sound, resolveFrom_lay new free leads⟩

/-! ## Writing and reading -/

/-- A path can be written if some bytes can be written there. -/
def Writable (path : FilePath) (tree : FileTree) : Prop :=
  ∃ bytes, (tree.write path bytes).1 = .ok ()

theorem withoutEndSlashes_of_endsInSlash_eq_false {path : FilePath}
    (named : path.endsInSlash = false) : path.withoutEndSlashes = path := by
  rcases List.eq_nil_or_concat path with rfl | ⟨parts, last, rfl⟩
  · rfl
  · have filled : last.isEmpty = false := by simpa [FilePath.endsInSlash] using named
    simp [FilePath.withoutEndSlashes, filled]

/-- Opening a file to be written leaves the tree as it is, or else it lays an empty file at the
place that the path leads to, where no directory lies. -/
theorem openEmpty_cases (path : FilePath) (tree : FileTree) :
    (∃ fault, tree.openEmpty path = (.error fault, tree)) ∨
    ∃ place, tree.openEmpty path = (.ok place, tree.lay place (file ByteArray.empty)) ∧
      tree.resolve path = .ok place ∧ ∀ members, tree.at? place ≠ some (directory members) := by
  rw [openEmpty]
  split
  next => exact .inl ⟨_, rfl⟩
  next place leads =>
    split
    next => exact .inl ⟨_, rfl⟩
    next => exact .inl ⟨_, rfl⟩
    next named free =>
      rw [resolveTarget, withoutEndSlashes_of_endsInSlash_eq_false named] at leads
      exact .inr ⟨place, rfl, leads, free⟩

/-- A tree that is laid where another one was laid takes its stead. -/
theorem lay_lay (place : FilePlace) (tree old new : FileTree) :
    (tree.lay place old).lay place new = tree.lay place new := by
  induction place generalizing tree with
  | nil => cases tree <;> cases old <;> rfl
  | cons name rest ih =>
    cases tree with
    | file bytes => rfl
    | directory members =>
      rw [lay, lay, lay, member?_setMember_self, Option.getD_some, ih, setMember_setMember]

/-- **A write changes nothing when it fails.**  When it succeeds, it lays a file with the bytes
at the place that the path leads to, where no directory lies, and whatever is written there
would be laid in the same way. -/
theorem write_cases (path : FilePath) (tree : FileTree) :
    (∃ fault, ∀ bytes, tree.write path bytes = (.error fault, tree)) ∨
    ∃ place, tree.resolve path = .ok place ∧
      (∀ members, tree.at? place ≠ some (directory members)) ∧
      ∀ bytes, tree.write path bytes = (.ok (), tree.lay place (file bytes)) := by
  rcases openEmpty_cases path tree with ⟨fault, failed⟩ | ⟨place, opened, leads, free⟩
  · refine .inl ⟨fault, fun bytes => ?_⟩
    rw [write, failed]
  · refine .inr ⟨place, leads, free, fun bytes => ?_⟩
    rw [write, opened]
    simp only [lay_lay]

theorem Writable.exists_place {path : FilePath} {tree : FileTree}
    (writable : tree.Writable path) :
    ∃ place, tree.resolve path = .ok place ∧
      (∀ members, tree.at? place ≠ some (directory members)) ∧
      ∀ bytes, tree.write path bytes = (.ok (), tree.lay place (file bytes)) := by
  obtain ⟨bytes, written⟩ := writable
  refine (write_cases path tree).resolve_left ?_
  rintro ⟨fault, failed⟩
  rw [failed] at written
  cases written

/-- What is found on a path that can be written is the file that was laid there. -/
theorem find_lay {path : FilePath} {place : FilePlace} {tree : FileTree} (bytes : ByteArray)
    (leads : tree.resolve path = .ok place)
    (free : ∀ members, tree.at? place ≠ some (directory members)) :
    (tree.lay place (file bytes)).find path = .ok (file bytes) := by
  have leadsAgain : (tree.lay place (file bytes)).resolve path = .ok place :=
    resolve_lay (file bytes) free leads
  have laid : (tree.lay place (file bytes)).at? place = some (file bytes) :=
    at?_lay_of_housed (file bytes) (housed_of_resolve leads)
  rw [find, leadsAgain]
  simp only [laid]

theorem fromUTF8?_toUTF8 (text : String) : String.fromUTF8? text.toUTF8 = some text :=
  dif_pos text.isValidUTF8

/-- **A text is read as it was written**, wherever anything can be written. -/
theorem readText_write {path : FilePath} {tree : FileTree} (writable : tree.Writable path)
    (text : String) :
    ∃ after, tree.write path text.toUTF8 = (.ok (), after) ∧ after.readText path = .ok text := by
  obtain ⟨place, leads, free, writes⟩ := writable.exists_place
  refine ⟨_, writes text.toUTF8, ?_⟩
  rw [readText, find_lay text.toUTF8 leads free]
  simp only [fromUTF8?_toUTF8]

/-! ## What a new file leaves as it was -/

/-- What can be seen of a file or a directory without looking into it. -/
inductive Sight where
  | file (bytes : ByteArray)
  | directory

/-- A tree as it is seen from above. -/
def sight : FileTree → Sight
  | file bytes => .file bytes
  | directory _ => .directory

/-- What is seen at a place. -/
def look (place : FilePlace) (tree : FileTree) : Option Sight := (tree.at? place).map sight

/-- One place at most is seen differently. -/
def ChangesOnly (place : FilePlace) (before after : FileTree) : Prop :=
  ∀ other, other ≠ place → after.look other = before.look other

theorem look_eq_directory_iff {place : FilePlace} {tree : FileTree} :
    tree.look place = some .directory ↔ ∃ members, tree.at? place = some (directory members) := by
  rw [look]
  cases tree.at? place with
  | none => simp
  | some found => cases found <;> simp [sight]

theorem look_cons_directory (name : String) (rest : FilePlace)
    (members : List (String × FileTree)) :
    (directory members).look (name :: rest) = (member? members name).bind (look rest) := by
  rw [look, at?_cons_directory, Option.map_bind]
  rfl

section

variable {path : FilePath} {place : FilePlace} {tree : FileTree}

/-- What is read on a path is what is seen where it leads. -/
theorem readText_of_resolve (leads : tree.resolve path = .ok place) :
    tree.readText path =
      match tree.look place with
      | none => .error .notFound
      | some .directory => .error .isDirectory
      | some (.file bytes) =>
        match String.fromUTF8? bytes with
        | some text => .ok text
        | none => .error .invalidText := by
  simp only [readText, find, leads, look]
  cases tree.at? place with
  | none => rfl
  | some found => cases found <;> rfl

/-- Something lies on a path if something is seen where it leads. -/
theorem hasPath_of_resolve (leads : tree.resolve path = .ok place) :
    tree.hasPath path = (tree.look place).isSome := by
  simp only [hasPath, find, leads, look]
  cases tree.at? place <;> rfl

end

/-- Beside and above a new member everything is seen as before. -/
theorem look_lay_of_not_isPrefix {above other : FilePlace} {name : String} {tree : FileTree}
    {members : List (String × FileTree)} (new : FileTree)
    (lies : tree.at? above = some (directory members)) (apart : ¬above ++ [name] <+: other) :
    (tree.lay (above ++ [name]) new).look other = tree.look other := by
  induction above generalizing tree other with
  | nil =>
    rw [at?_nil] at lies
    cases lies
    cases other with
    | nil => rw [List.nil_append, lay, look, look, at?_nil, at?_nil]; rfl
    | cons first rest =>
      have differs : name ≠ first := by
        rintro rfl
        exact apart (List.cons_prefix_cons.2 ⟨rfl, List.nil_prefix⟩)
      rw [List.nil_append, lay, look_cons_directory, look_cons_directory,
        member?_setMember_of_ne differs]
  | cons first above ih =>
    obtain ⟨others, rfl⟩ := isDirectory_of_at?_cons lies
    rw [at?_cons_directory, Option.bind_eq_some_iff] at lies
    obtain ⟨below, found, lies⟩ := lies
    rw [List.cons_append, lay, found, Option.getD_some]
    cases other with
    | nil => rw [look, look, at?_nil, at?_nil]; rfl
    | cons second rest =>
      rw [look_cons_directory, look_cons_directory]
      by_cases same : first = second
      · subst same
        rw [member?_setMember_self, found, Option.bind_some, Option.bind_some]
        exact ih lies fun inside => apart (List.cons_prefix_cons.2 ⟨rfl, inside⟩)
      · rw [member?_setMember_of_ne same]

/-- Nothing lies below a place without a directory. -/
theorem look_eq_none_of_isPrefix {place other : FilePlace} {tree : FileTree}
    (free : ∀ members, tree.at? place ≠ some (directory members)) (inside : place <+: other)
    (differs : other ≠ place) : tree.look other = none := by
  obtain ⟨rest, rfl⟩ := inside
  cases rest with
  | nil => exact absurd (List.append_nil place) differs
  | cons name rest =>
    rw [look, at?_append, Option.map_eq_none_iff, Option.bind_eq_none_iff]
    intro holder here
    cases holder with
    | file bytes => rfl
    | directory members => exact absurd here (free members)

/-- **A new file changes only its own place**, where no directory lay. -/
theorem changesOnly_lay {place : FilePlace} {tree : FileTree} (bytes : ByteArray)
    (housed : tree.Housed place) (free : ∀ members, tree.at? place ≠ some (directory members)) :
    ChangesOnly place tree (tree.lay place (file bytes)) := by
  intro other differs
  by_cases inside : place <+: other
  · have here : ∀ members, (tree.lay place (file bytes)).at? place ≠ some (directory members) := by
      intro members lies
      rw [at?_lay_of_housed (file bytes) housed] at lies
      cases lies
    rw [look_eq_none_of_isPrefix here inside differs, look_eq_none_of_isPrefix free inside differs]
  · rcases housed with rfl | ⟨above, name, members, rfl, lies⟩
    · exact absurd List.nil_prefix inside
    · exact look_lay_of_not_isPrefix (file bytes) lies inside

end KeywordSearch.FileTree
