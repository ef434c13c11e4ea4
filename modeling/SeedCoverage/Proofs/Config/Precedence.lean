import Mathlib
import SeedCoverage.Config.Sources

/-! Which file decides about a run: the one that is asked for, or else the first of the usual ones that is
there. Of the files behind it only a fault is ever seen, one of the file in the home directory: that one is
read before the local file, which stands above it. -/
namespace SeedCoverage.Config

open Files

variable {tree other : FileTree} {environment elsewhere : Environment} {explicit : Option Text}
  {fault : Failure}

section Environment

/-- The second configuration is the first one with the remote store that the environment names. -/
structure Settles (environment : Environment) (base config : Config) : Prop where
  url : ∀ url ∈ environment.url, config.remote.url = some url
  url_unset : environment.url = none → config.remote.url = base.remote.url
  key : ∀ key ∈ environment.key, config.remote.key = some key
  key_unset : environment.key = none → config.remote.key = base.remote.key
  pageSize : config.remote.pageSize = base.remote.pageSize
  retry : config.retry = base.retry
  extensions : config.extensions = base.extensions
  tables : config.tables = base.tables

theorem settles_withEnvironment (environment : Environment) (base : Config) :
    Settles environment base (base.withEnvironment environment) where
  url url given := by simp [withEnvironment, Option.mem_def.mp given]
  url_unset unset := by simp [withEnvironment, unset]
  key key given := by simp [withEnvironment, Option.mem_def.mp given]
  key_unset unset := by simp [withEnvironment, unset]
  pageSize := rfl
  retry := rfl
  extensions := rfl
  tables := rfl

/-- What the environment says leaves no choice. -/
theorem Settles.unique {base config twin : Config} (settles : Settles environment base config)
    (settled : Settles environment base twin) : config = twin := by
  have url : config.remote.url = twin.remote.url := by
    cases given : environment.url with
    | none => rw [settles.url_unset given, settled.url_unset given]
    | some url => rw [settles.url url given, settled.url url given]
  have key : config.remote.key = twin.remote.key := by
    cases given : environment.key with
    | none => rw [settles.key_unset given, settled.key_unset given]
    | some key => rw [settles.key key given, settled.key key given]
  have pageSize := settles.pageSize.trans settled.pageSize.symm
  have retry := settles.retry.trans settled.retry.symm
  have extensions := settles.extensions.trans settled.extensions.symm
  have tables := settles.tables.trans settled.tables.symm
  obtain ⟨⟨_, _, _⟩, _, _, _⟩ := config
  obtain ⟨⟨_, _, _⟩, _, _, _⟩ := twin
  subst url key pageSize retry extensions tables
  rfl

/-- What a run comes to by what a file says: the fault of it, or the configuration under the environment. -/
def Follows (environment : Environment) (said result : Except Failure Config) : Prop :=
  match said with
  | .error fault => result = .error fault
  | .ok base => ∃ config, result = .ok config ∧ Settles environment base config

theorem follows_iff {said result : Except Failure Config} :
    Follows environment said result ↔ result = said.map fun base => base.withEnvironment environment := by
  cases said with
  | error fault => rfl
  | ok base =>
    constructor
    · rintro ⟨config, rfl, settles⟩
      rw [settles.unique (settles_withEnvironment environment base)]
      rfl
    · rintro rfl
      exact ⟨_, rfl, settles_withEnvironment environment base⟩

end Environment

section Files

/-- The file that decides about a run. -/
def decidingFile? (tree : FileTree) (environment : Environment) (explicit : Option Text) : Option Text :=
  explicit.or <| (localPath :: (environment.home.map homePath).toList).find? tree.leads

/-- What the deciding file says; no file says what is usual. -/
def decided (tree : FileTree) (environment : Environment) (explicit : Option Text) :
    Except Failure Config :=
  match decidingFile? tree environment explicit with
  | some path => ofFile tree path
  | none => .ok {}

/-- A fault of the file in the home directory, where it is the local one that decides. -/
def Shadowed (tree : FileTree) (environment : Environment) (explicit : Option Text) (fault : Failure) :
    Prop :=
  explicit = none ∧ tree.leads localPath = true ∧ ∃ home ∈ environment.home,
    tree.leads (homePath home) = true ∧ ofFile tree (homePath home) = .error fault

theorem Shadowed.decided_eq (shadowed : Shadowed tree environment explicit fault) :
    decided tree environment explicit = ofFile tree localPath := by
  obtain ⟨rfl, present, -⟩ := shadowed
  simp [decided, decidingFile?, present]

/-- A file that says the same is read the same, whatever is around it. -/
theorem ofFile_congr {path : Text} (same : other.readText path = tree.readText path) :
    ofFile other path = ofFile tree path := by
  rw [ofFile, ofFile, same]

/-- What the file in the home directory says, if there is one. -/
def homeSaid (tree : FileTree) (home : Option Text) : Except Failure Config :=
  match home with
  | some home => ofFileOr tree (homePath home) {}
  | none => .ok {}

theorem homeSaid_eq_error {home : Option Text} :
    homeSaid tree home = .error fault ↔ ∃ place ∈ home,
      tree.leads (homePath place) = true ∧ ofFile tree (homePath place) = .error fault := by
  cases home with
  | none => simp [homeSaid]
  | some home => cases there : tree.leads (homePath home) <;> simp [homeSaid, ofFileOr, there]

/-- The file in the home directory comes first. -/
theorem discover_eq (tree : FileTree) (home : Option Text) :
    discover tree home = homeSaid tree home >>= ofFileOr tree localPath := by
  cases home <;> rfl

theorem load_eq (tree : FileTree) (environment : Environment) (explicit : Option Text) :
    load tree environment explicit =
      (explicit.elim (discover tree environment.home) (ofFile tree)).map
        fun base => base.withEnvironment environment := by
  cases explicit with
  | none => unfold load; cases discover tree environment.home <;> rfl
  | some path => unfold load; cases said : ofFile tree path <;> rfl

/-- The fault of a file that does not decide is the end of the run. -/
theorem load_shadowed (shadowed : Shadowed tree environment explicit fault) :
    load tree environment explicit = .error fault := by
  obtain ⟨rfl, -, faulty⟩ := shadowed
  rw [load_eq, Option.elim_none, discover_eq, homeSaid_eq_error.mpr faulty]
  rfl

theorem decided_home (absent : tree.leads localPath = false) :
    decided tree environment none = homeSaid tree environment.home := by
  cases given : environment.home with
  | none => simp [decided, decidingFile?, homeSaid, absent, given]
  | some home =>
    cases there : tree.leads (homePath home) <;>
      simp [decided, decidingFile?, homeSaid, ofFileOr, absent, given, there]

/-- Where no fault is in the way, the usual places say what the deciding file says. -/
theorem discover_decided (clear : ∀ fault, ¬Shadowed tree environment none fault) :
    discover tree environment.home = decided tree environment none := by
  rw [discover_eq]
  cases present : tree.leads localPath with
  | false =>
    rw [decided_home present]
    cases homeSaid tree environment.home with
    | error fault => rfl
    | ok config => simp [ofFileOr, present, bind, Except.bind]
  | true =>
    cases said : homeSaid tree environment.home with
    | error fault => exact absurd ⟨rfl, present, homeSaid_eq_error.mp said⟩ (clear fault)
    | ok config => simp [decided, decidingFile?, ofFileOr, present, bind, Except.bind]

theorem load_decided (clear : ∀ fault, ¬Shadowed tree environment explicit fault) :
    load tree environment explicit =
      (decided tree environment explicit).map fun base => base.withEnvironment environment := by
  rw [load_eq]
  cases explicit with
  | none => rw [Option.elim_none, discover_decided clear]
  | some path => rfl

/-- The same file decides about two runs and holds the same text, and both are given the same store. -/
structure DecidedAlike (tree other : FileTree) (environment elsewhere : Environment)
    (explicit : Option Text) : Prop where
  file : decidingFile? other elsewhere explicit = decidingFile? tree environment explicit
  content : ∀ path ∈ decidingFile? tree environment explicit, other.readText path = tree.readText path
  url : elsewhere.url = environment.url
  key : elsewhere.key = environment.key

theorem DecidedAlike.decided_eq (alike : DecidedAlike tree other environment elsewhere explicit) :
    decided other elsewhere explicit = decided tree environment explicit := by
  rw [decided, decided, alike.file]
  cases file : decidingFile? tree environment explicit with
  | none => rfl
  | some path => exact ofFile_congr (alike.content path file)

theorem DecidedAlike.withEnvironment_eq (alike : DecidedAlike tree other environment elsewhere explicit)
    (base : Config) : base.withEnvironment elsewhere = base.withEnvironment environment := by
  rw [withEnvironment, withEnvironment, alike.url, alike.key]

/-- A run comes to what the deciding file says, with the remote store that the environment names, unless a
fault of another file is in the way; then it comes to that fault. Where none is, neither the files that do
not decide nor the place of the home directory make a difference. -/
theorem load_decided_iff (tree : FileTree) (environment : Environment) (explicit : Option Text) :
    (Follows environment (decided tree environment explicit) (load tree environment explicit) ↔
      ∀ fault, Shadowed tree environment explicit fault → ofFile tree localPath = .error fault) ∧
    (∀ fault, Shadowed tree environment explicit fault →
      load tree environment explicit = .error fault) ∧
    ∀ other elsewhere, DecidedAlike tree other environment elsewhere explicit →
      (∀ fault, ¬Shadowed tree environment explicit fault) →
      (∀ fault, ¬Shadowed other elsewhere explicit fault) →
        load other elsewhere explicit = load tree environment explicit := by
  refine ⟨⟨fun follows fault shadowed => ?_, fun shared => ?_⟩, fun fault => load_shadowed,
    fun other elsewhere alike clear clear' => ?_⟩
  · rw [follows_iff, load_shadowed shadowed, shadowed.decided_eq] at follows
    cases said : ofFile tree localPath with
    | error first =>
      rw [said] at follows
      exact follows.symm
    | ok base =>
      rw [said] at follows
      cases follows
  · rw [follows_iff]
    by_cases obscured : ∃ fault, Shadowed tree environment explicit fault
    · obtain ⟨fault, shadowed⟩ := obscured
      rw [load_shadowed shadowed, shadowed.decided_eq, shared fault shadowed]
      rfl
    · exact load_decided fun fault shadowed => obscured ⟨fault, shadowed⟩
  · simp only [load_decided clear, load_decided clear', alike.decided_eq, alike.withEnvironment_eq]

/-- A local file that names an extension, and a file in the home directory. -/
def housed (content : Text) : FileTree where
  root := [
    (localPath, .file (Utf8.encode "[scan]\nextensions=['a']")),
    ("home", .directory [(".config", .directory [("content-coverage", .directory
      [("config.toml", .file (Utf8.encode content))])])])]

/-- The home directory of the tree, and a remote store. -/
def housedEnvironment : Environment where
  home := some "home"
  url := some "store"

theorem decidingFile?_housed (content : Text) :
    decidingFile? (housed content) housedEnvironment none = some localPath := by
  have present : (housed content).leads localPath = true := by cbv
  simp [decidingFile?, present]

theorem ofFile_housed (content : Text) :
    ofFile (housed content) localPath = .ok { extensions := ["a"] } := by
  cbv

theorem decided_housed (content : Text) :
    decided (housed content) housedEnvironment none = .ok { extensions := ["a"] } := by
  rw [decided, decidingFile?_housed]
  exact ofFile_housed content

theorem housed_alike (content changed : Text) :
    DecidedAlike (housed content) (housed changed) housedEnvironment housedEnvironment none where
  file := by rw [decidingFile?_housed, decidingFile?_housed]
  content path decides := by
    obtain rfl := Option.some.inj ((decidingFile?_housed content).symm.trans decides)
    cbv
  url := rfl
  key := rfl

theorem housed_clear {content : Text} {base : Config}
    (sound : ofFile (housed content) (homePath "home") = .ok base) (fault : Failure) :
    ¬Shadowed (housed content) housedEnvironment none fault := by
  rintro ⟨-, -, home, given, -, faulty⟩
  obtain rfl : "home".toList = home := Option.some.inj given
  rw [sound] at faulty
  cases faulty

theorem housed_empty_clear : ∀ fault, ¬Shadowed (housed "") housedEnvironment none fault := by
  have sound : ofFile (housed "") (homePath "home") = .ok {} := by cbv
  exact housed_clear sound

theorem load_housed :
    DecidedAlike (housed "") (housed "tables=[]") housedEnvironment housedEnvironment none ∧
      (∀ fault, ¬Shadowed (housed "") housedEnvironment none fault) ∧
      (∀ fault, ¬Shadowed (housed "tables=[]") housedEnvironment none fault) ∧
      load (housed "tables=[]") housedEnvironment none = load (housed "") housedEnvironment none ∧
      Follows housedEnvironment (.ok { extensions := ["a"] })
        (load (housed "") housedEnvironment none) := by
  have clear := housed_empty_clear
  have sound : ofFile (housed "tables=[]") (homePath "home") = .ok {} := by cbv
  have clear' := housed_clear sound
  obtain ⟨iff, -, same⟩ := load_decided_iff (housed "") housedEnvironment none
  have follows := iff.mpr fun fault shadowed => absurd shadowed (clear fault)
  rw [decided_housed] at follows
  exact ⟨housed_alike _ _, clear, clear', same _ _ (housed_alike _ _) clear clear', follows⟩

/-- A broken file in the home directory is the end of a run that the local file decides about, which is sound;
with a sound one in its place the run goes through. -/
theorem load_brokenHome :
    decidingFile? (housed "broken") housedEnvironment none = some localPath ∧
      decided (housed "broken") housedEnvironment none = .ok { extensions := ["a"] } ∧
      load (housed "broken") housedEnvironment none = .error (.malformedConfig "broken") ∧
      ¬Follows housedEnvironment (decided (housed "broken") housedEnvironment none)
        (load (housed "broken") housedEnvironment none) ∧
      DecidedAlike (housed "") (housed "broken") housedEnvironment housedEnvironment none ∧
      load (housed "broken") housedEnvironment none ≠ load (housed "") housedEnvironment none := by
  have fails : load (housed "broken") housedEnvironment none =
      .error (.malformedConfig "broken") := by
    cbv
  have goes := load_decided housed_empty_clear
  refine ⟨decidingFile?_housed _, decided_housed _, fails, ?_, housed_alike _ _, ?_⟩
  · rw [decided_housed, fails]
    rintro ⟨config, result, -⟩
    cases result
  · rw [fails, goes, decided_housed]
    intro same
    cases same

end Files

end SeedCoverage.Config
