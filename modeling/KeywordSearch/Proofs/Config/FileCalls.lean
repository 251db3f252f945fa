import KeywordSearch.Proofs.Config.DefaultText
import KeywordSearch.Proofs.Config.RoundTrip

/-!
# What calls on configuration files change

Loading a file, saving a configuration to one and saving the default document to one that
is missing are calls on a file tree.  Each says everything that it can change
(`FileCall.outcome`): nothing, or the file at its own path, which it puts there in the stead
of a file or of nothing.

A run is a sequence of calls.  What lies at a place stays there as it is unless a run saves
a configuration to that very place, and a path that leads somewhere keeps leading there.
So what is loaded from it stays the same, however often the default is saved.
-/

set_option autoImplicit false

namespace KeywordSearch.Config

open FileTree (ChangesOnly)

/-! ## Calls -/

/-- A call on the configuration file at a path. -/
inductive FileCall where
  | saveDefaultIfMissing (path : FilePath)
  | save (config : Config) (path : FilePath)
  | load (path : FilePath)

namespace FileCall

/-- The path of a call. -/
def path : FileCall → FilePath
  | saveDefaultIfMissing path | save _ path | load path => path

/-- What a call answers, which is a configuration if it loads one. -/
def answer : FileCall → FileTree → Except Failure (Option Config)
  | saveDefaultIfMissing path, tree =>
    (Config.saveDefaultIfMissing path tree).1.map fun _ => none
  | save config path, tree => (config.save path tree).1.map fun _ => none
  | load path, tree => (Config.load path tree).map some

/-- The tree that a call leaves. -/
def after : FileCall → FileTree → FileTree
  | saveDefaultIfMissing path, tree => (Config.saveDefaultIfMissing path tree).2
  | save config path, tree => (config.save path tree).2
  | load _, tree => tree

/-- A call answers with no failure. -/
def Succeeds (call : FileCall) (tree : FileTree) : Prop :=
  ∃ answer, call.answer tree = .ok answer

/-- A call saves a configuration to a place. -/
def SavesTo (place : FilePlace) (call : FileCall) (tree : FileTree) : Prop :=
  (∃ config path, call = save config path ∧ tree.resolve path = .ok place) ∧ call.Succeeds tree

end FileCall

/-- The tree that calls leave, one after another. -/
def run (calls : List FileCall) (tree : FileTree) : FileTree :=
  calls.foldl (fun tree call => call.after tree) tree

/-! ## Storing a text -/

/-- Where a path leads a text is put, in the stead of a file or of nothing, and nothing
else changes. -/
structure Stored (path : FilePath) (place : FilePlace) (text : String)
    (before after : FileTree) : Prop where
  leads : before.resolve path = .ok place
  no_directory : before.look place ≠ some .directory
  seen : after.look place = some (.file text.toUTF8)
  changes_only : ChangesOnly place before after
  keeps_leading : ∀ other there, before.resolve other = .ok there → after.resolve other = .ok there

/-- A text is stored, or the attempt fails and leaves the tree as it is. -/
theorem store_cases (path : FilePath) (text : String) (tree : FileTree) :
    (∃ failure, store path text tree = (.error failure, tree)) ∨
    ∃ place after, store path text tree = (.ok (), after) ∧ Stored path place text tree after := by
  rcases FileTree.write_cases path tree with ⟨fault, failed⟩ | ⟨place, leads, free, writes⟩
  · refine .inl ⟨.file fault, ?_⟩
    rw [store, failed]
  · have housed := FileTree.housed_of_resolve leads
    refine .inr ⟨place, tree.lay place (.file text.toUTF8), ?_, leads, ?_, ?_,
      FileTree.changesOnly_lay _ housed free, fun other there => FileTree.resolve_lay _ free⟩
    · rw [store, writes]
    · rw [Ne, FileTree.look_eq_directory_iff, not_exists]
      exact free
    · rw [FileTree.look, FileTree.at?_lay_of_housed _ housed]
      rfl

/-- A stored text is read where it was stored. -/
theorem Stored.readText {path : FilePath} {place : FilePlace} {text : String}
    {before after : FileTree} (stored : Stored path place text before after) :
    after.readText path = .ok text := by
  rw [FileTree.readText_of_resolve (stored.keeps_leading path place stored.leads), stored.seen]
  simp only [FileTree.fromUTF8?_toUTF8]

theorem Stored.hasPath {path : FilePath} {place : FilePlace} {text : String}
    {before after : FileTree} (stored : Stored path place text before after) :
    after.hasPath path = true := by
  rw [FileTree.hasPath_of_resolve (stored.keeps_leading path place stored.leads), stored.seen]
  rfl

/-! ## What one call changes -/

/-- A configuration is stored as it is written, or the attempt to save it fails and leaves the
tree as it is. -/
theorem save_cases (config : Config) (path : FilePath) (tree : FileTree) :
    (∃ failure, config.save path tree = (.error failure, tree)) ∨
    ∃ place text after, config.render = .ok text ∧ config.save path tree = (.ok (), after) ∧
      Stored path place text tree after := by
  rw [save]
  cases rendered : config.render with
  | error failure => exact .inl ⟨failure, rfl⟩
  | ok text =>
    rcases store_cases path text tree with failed | ⟨place, after, done, stored⟩
    · exact .inl failed
    · exact .inr ⟨place, text, after, rfl, done, stored⟩

section

variable {path : FilePath} {tree : FileTree}

theorem saveDefaultIfMissing_of_hasPath (lies : tree.hasPath path = true) :
    saveDefaultIfMissing path tree = (.ok (), tree) := if_pos lies

/-- Where nothing lies the default is stored, or the attempt fails and leaves the tree as it
is. -/
theorem saveDefaultIfMissing_cases (missing : tree.hasPath path = false) :
    (∃ failure, saveDefaultIfMissing path tree = (.error failure, tree)) ∨
    ∃ place after, saveDefaultIfMissing path tree = (.ok (), after) ∧ tree.look place = none ∧
      Stored path place defaultText tree after := by
  rw [saveDefaultIfMissing, missing, if_neg Bool.false_ne_true]
  rcases store_cases path defaultText tree with failed | ⟨place, after, done, stored⟩
  · exact .inl failed
  · rw [FileTree.hasPath_of_resolve stored.leads, Option.isSome_eq_false_iff,
      Option.isNone_iff_eq_none] at missing
    exact .inr ⟨place, after, done, missing, stored⟩

end

namespace FileCall

/-- **A call that fails leaves the tree as it is.**  One that succeeds leaves it as it is or
stores a text at its own path, where nothing lay unless the call saves a configuration. -/
theorem outcome (call : FileCall) (tree : FileTree) :
    call.after tree = tree ∨
      call.Succeeds tree ∧ ∃ place text, Stored call.path place text tree (call.after tree) ∧
        (tree.look place = none ∨ call.SavesTo place tree) := by
  cases call with
  | load => exact .inl rfl
  | save config path =>
    simp only [Succeeds, SavesTo, answer, after]
    rcases save_cases config path tree with ⟨failure, failed⟩ |
      ⟨place, text, after, -, done, stored⟩
    · rw [failed]
      exact .inl rfl
    · rw [done]
      exact .inr ⟨⟨none, rfl⟩, place, text, stored,
        .inr ⟨⟨config, path, rfl, stored.leads⟩, none, rfl⟩⟩
  | saveDefaultIfMissing path =>
    simp only [Succeeds, answer, after]
    cases lies : tree.hasPath path with
    | true =>
      rw [saveDefaultIfMissing_of_hasPath lies]
      exact .inl rfl
    | false =>
      rcases saveDefaultIfMissing_cases lies with ⟨failure, failed⟩ |
        ⟨place, after, done, free, stored⟩
      · rw [failed]
        exact .inl rfl
      · rw [done]
        exact .inr ⟨⟨none, rfl⟩, place, defaultText, stored, .inl free⟩

theorem after_of_error {call : FileCall} {tree : FileTree} {failure : Failure}
    (failed : call.answer tree = .error failure) : call.after tree = tree := by
  refine (call.outcome tree).resolve_right ?_
  rintro ⟨⟨_, answered⟩, -⟩
  rw [failed] at answered
  cases answered

section

variable {path : FilePath} {tree : FileTree}

/-- A configuration that was saved is loaded, if it is valid. -/
theorem stored_of_succeeds_save {config : Config} (done : (save config path).Succeeds tree) :
    (∃ place text, config.render = .ok text ∧
      Stored path place text tree ((save config path).after tree)) ∧
    Config.load path ((save config path).after tree) = config.validate := by
  obtain ⟨_, answered⟩ := done
  rw [answer] at answered
  rw [after]
  rcases save_cases config path tree with ⟨failure, failed⟩ |
    ⟨place, text, _, rendered, done, stored⟩
  · rw [failed] at answered
    cases answered
  · rw [done]
    exact ⟨⟨place, text, rendered, stored⟩,
      load_of_readText stored.readText (parse_of_render rendered)⟩

theorem after_of_hasPath (lies : tree.hasPath path = true) :
    (saveDefaultIfMissing path).Succeeds tree ∧ (saveDefaultIfMissing path).after tree = tree := by
  rw [Succeeds, answer, after, saveDefaultIfMissing_of_hasPath lies]
  exact ⟨⟨none, rfl⟩, rfl⟩

theorem stored_of_succeeds (missing : tree.hasPath path = false)
    (done : (saveDefaultIfMissing path).Succeeds tree) :
    ∃ place, tree.look place = none ∧
      Stored path place defaultText tree ((saveDefaultIfMissing path).after tree) := by
  obtain ⟨_, answered⟩ := done
  rw [answer] at answered
  rw [after]
  rcases saveDefaultIfMissing_cases missing with ⟨failure, failed⟩ | ⟨place, _, done, free, stored⟩
  · rw [failed] at answered
    cases answered
  · rw [done]
    exact ⟨place, free, stored⟩

/-- The default is saved once at most. -/
theorem again_of_succeeds (done : (saveDefaultIfMissing path).Succeeds tree) :
    let after := (saveDefaultIfMissing path).after tree
    (saveDefaultIfMissing path).Succeeds after ∧
      (saveDefaultIfMissing path).after after = after := by
  apply after_of_hasPath
  cases lies : tree.hasPath path with
  | true => rw [(after_of_hasPath lies).2, lies]
  | false =>
    obtain ⟨place, -, stored⟩ := stored_of_succeeds lies done
    exact stored.hasPath

end

end FileCall

/-! ## Runs -/

section

variable {path : FilePath} {place : FilePlace}

/-- A path keeps leading where it leads. -/
theorem resolve_run (calls : List FileCall) {tree : FileTree}
    (leads : tree.resolve path = .ok place) : (run calls tree).resolve path = .ok place := by
  induction calls generalizing tree with
  | nil => exact leads
  | cons call calls ih =>
    have next : (call.after tree).resolve path = .ok place := by
      rcases call.outcome tree with same | ⟨-, _, _, stored, -⟩
      · rw [same, leads]
      · exact stored.keeps_leading path place leads
    exact ih next

/-- No call of a run saves a configuration to a place. -/
def Spares (place : FilePlace) (calls : List FileCall) (tree : FileTree) : Prop :=
  ∀ earlier call later, calls = earlier ++ call :: later → ¬call.SavesTo place (run earlier tree)

/-- What lies at a place stays as it is. -/
theorem look_run {calls : List FileCall} {tree : FileTree} (lies : tree.look place ≠ none)
    (spares : Spares place calls tree) : (run calls tree).look place = tree.look place := by
  induction calls generalizing tree with
  | nil => rfl
  | cons call calls ih =>
    have first : (call.after tree).look place = tree.look place := by
      rcases call.outcome tree with same | ⟨-, there, _, stored, free⟩
      · rw [same]
      · refine stored.changes_only place fun same => ?_
        subst same
        exact free.elim lies (spares [] call calls rfl)
    have sparesRest : Spares place calls (call.after tree) := by
      rintro earlier other later rfl
      exact spares (call :: earlier) other later rfl
    rw [← first]
    exact ih (first ▸ lies) sparesRest

theorem load_run {calls : List FileCall} {tree : FileTree} (leads : tree.resolve path = .ok place)
    (lies : tree.look place ≠ none) (spares : Spares place calls tree) :
    load path (run calls tree) = load path tree := by
  have same : (run calls tree).readText path = tree.readText path := by
    rw [FileTree.readText_of_resolve (resolve_run calls leads), look_run lies spares,
      FileTree.readText_of_resolve leads]
  rw [load, load, same]

end

/-- **A call changes its own file at most, and only if it succeeds.**  A configuration that
is saved changes nothing else, and is loaded from there if it is valid; the default is put where
nothing lies, or nothing is changed, and then it is not put again.  Through any run what lies at
a place stays there as it is, and is loaded as before, unless the run saves a configuration to
that very place. -/
theorem calls_change_only_their_file :
    (∀ (call : FileCall) (tree : FileTree) (failure : Failure),
      call.answer tree = .error failure → call.after tree = tree) ∧
    (∀ (path : FilePath) (tree : FileTree), (FileCall.load path).after tree = tree) ∧
    (∀ (config : Config) (path : FilePath) (tree : FileTree),
      (FileCall.save config path).Succeeds tree →
        (∃ place text, config.render = .ok text ∧
          Stored path place text tree ((FileCall.save config path).after tree)) ∧
        load path ((FileCall.save config path).after tree) = config.validate) ∧
    (∀ (path : FilePath) (tree : FileTree),
      let call := FileCall.saveDefaultIfMissing path
      (tree.hasPath path = true → call.Succeeds tree ∧ call.after tree = tree) ∧
      (tree.hasPath path = false → call.Succeeds tree →
        (∃ place, tree.look place = none ∧
          Stored path place defaultText tree (call.after tree)) ∧
        load path (call.after tree) = .ok {}) ∧
      (call.Succeeds tree →
        call.Succeeds (call.after tree) ∧ call.after (call.after tree) = call.after tree)) ∧
    ∀ (calls : List FileCall) (tree : FileTree) (path : FilePath) (place : FilePlace),
      tree.resolve path = .ok place → tree.look place ≠ none → Spares place calls tree →
        (run calls tree).look place = tree.look place ∧
          load path (run calls tree) = load path tree := by
  refine ⟨fun call tree failure => FileCall.after_of_error, fun path tree => rfl,
    fun config path tree => FileCall.stored_of_succeeds_save, fun path tree =>
      ⟨FileCall.after_of_hasPath, fun missing done => ?_, FileCall.again_of_succeeds⟩,
    fun calls tree path place leads lies spares =>
      ⟨look_run lies spares, load_run leads lies spares⟩⟩
  obtain ⟨place, free, stored⟩ := FileCall.stored_of_succeeds missing done
  have usual : parse defaultText = Config.validate {} := parse_defaultText
  exact ⟨⟨place, free, stored⟩, load_of_readText stored.readText usual⟩

/-- A default that cannot be saved, one that can, and a configuration that later attempts to
save the default leave as it is. -/
theorem calls_change_only_their_file_sample :
    let path : FilePath := ["kbsearch.toml"]
    let lost : FilePath := ["missing", "kbsearch.toml"]
    let tree : FileTree := .directory []
    let minute : Config := { cacheTtlSecs := 60 }
    let saved := (FileCall.save minute path).after tree
    let calls : List FileCall :=
      [.saveDefaultIfMissing path, .load path, .saveDefaultIfMissing lost]
    (FileCall.saveDefaultIfMissing lost).after tree = tree ∧
      load path ((FileCall.saveDefaultIfMissing path).after tree) = .ok {} ∧
      (∃ place, saved.look place ≠ none ∧ (run calls saved).look place = saved.look place) ∧
      load path (run calls saved) = load path saved := by
  intro path lost tree minute saved calls
  obtain ⟨ofError, -, ofSave, ofDefault, ofRun⟩ := calls_change_only_their_file
  have made : (FileCall.saveDefaultIfMissing path).Succeeds tree := ⟨none, rfl⟩
  have done : (FileCall.save minute path).Succeeds tree := ⟨none, rfl⟩
  obtain ⟨⟨place, text, -, stored⟩, -⟩ := ofSave minute path tree done
  have lies : saved.look place ≠ none := by
    rw [stored.seen]
    nofun
  have spares : Spares place calls saved := by
    rintro earlier _ later split ⟨⟨config, other, rfl, -⟩, -⟩
    have member : FileCall.save config other ∈ calls := by simp [split]
    simp [calls] at member
  have stays := ofRun calls saved path place (stored.keeps_leading path place stored.leads) lies
    spares
  exact ⟨ofError (.saveDefaultIfMissing lost) tree (.file .notFound) rfl,
    ((ofDefault path tree).2.1 rfl made).2, ⟨place, lies, stays.1⟩, stays.2⟩

end KeywordSearch.Config
