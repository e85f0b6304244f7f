import Storyboard.Proofs.Run.OutputFolder
/-!
# What a run leaves alone

A file that was there before a run is there afterwards as it was, unless the run puts a copy or a
generated file in its place. If nothing is where the output folder goes, there is no such file: all that
a run writes is inside its folder. Folders are named for the second, so this is not so for a run that
follows another one within a second.

* `writeAll_extends`, `convertFile_extends`: where a run may write.
* `fills_inside`: this is inside the folder.
* `existing_files_kept`: both together.
-/
namespace Storyboard

open Storyboard.Disk
open Storyboard.Swift (ViewFile)

section
variable {settings : Settings} {path : String} {copyInput : Bool} {files : List ViewFile}
  {folder : String} {s t : Session} {p : Place}

/-- A file that was found on the way to a folder is found in the folder's session too. -/
theorem fills_of_grows {made : Place → Prop} (hworking : t.working = s.working)
    (h : s.disk.Grows made t.disk) (hp : Fills settings path copyInput files folder t p) :
    Fills settings path copyInput files folder s p := by
  rcases hp with ⟨hcopy, hplace, hother⟩ | ⟨f, hf, hplace⟩
  · refine .inl ⟨hcopy, by rw [hplace, hworking], fun content hfind => hother content ?_⟩
    have hentry := (Tree.find_eq_file.mp hfind).2
    rw [hworking]
    exact Tree.find_extends (h.extends fun _ => False) hfind (h.entry_eq (by simp [hentry]))
  · exact .inr ⟨f, hf, by rw [hplace, hworking]⟩

end

section
variable (level : Severity) (settings : Settings) (path : String) (root : Option String)
  (copyInput : Bool) (files : List ViewFile)

/-- A run writes where its folder is filled. -/
theorem writeAll_extends (s : Session) :
    Session.Extends (Fills settings path copyInput files (outputFolder settings root s) s) s
      (exec (writeAll Session.host level settings path root copyInput files) s).2 := by
  have hgrows := makeFolder_grows settings root s
  have hmade : Session.Extends (Fills settings path copyInput files (outputFolder settings root s) s)
      s (exec (makeFolder Session.host settings root) s).2 :=
    confined_makeFolder settings root s rfl
  rw [exec_writeAll]
  rcases hfolder : exec (makeFolder Session.host settings root) s with ⟨_ | folder, t⟩
  · rw [hfolder] at hmade
    exact hmade
  · rw [hfolder] at hmade hgrows
    refine hmade.trans ?_
    have hfilled := fillFolder_extends level settings path copyInput files
      (outputFolder settings root s) t
    exact hfilled.weaken fun p hp => fills_of_grows hmade.working hgrows hp

/-- Reports do not matter to where a folder is filled. -/
theorem fills_quiet {s t : Session} (h : s.Quiet t) (folder : String) :
    Fills settings path copyInput files folder t = Fills settings path copyInput files folder s := by
  obtain ⟨_, rfl⟩ := h
  rfl

/-- A conversion writes where its folder is filled. -/
theorem convertFile_extends (s : Session) :
    Session.Extends (Fills settings path copyInput (filesOf settings path s)
      (outputFolder settings ((root.filter (· != "")) <|> settings.outputRoot) s) s) s
      (exec (convertFile Session.host level settings path root copyInput) s).2 := by
  rcases convertFile_cases level settings path root copyInput s with ⟨-, hquiet⟩ | ⟨t, hquiet, hrun⟩
  · exact hquiet.extends _
  · rw [hrun]
    have hwrites := writeAll_extends level settings path
      ((root.filter (· != "")) <|> settings.outputRoot) copyInput (filesOf settings path s) t
    rw [fills_quiet settings path copyInput _ hquiet, (outputFolder_quiet settings _ hquiet).1] at hwrites
    exact (hquiet.extends _).trans hwrites

/-! ## Inside the folder -/

/-- The place of a generated file without a slash in its name. -/
theorem generated_place {f : ViewFile} (hslash : '/' ∉ f.name.toList) (w : Place) (folder : String) :
    Path.resolve w (Path.join (Path.join folder settings.generatedDirectory) f.fileName) =
      Path.resolve w (Path.join folder settings.generatedDirectory) ++ [f.fileName] := by
  rw [Path.resolve_join w (Path.join _ _), place_of_not_mem _ hslash]

/-- A folder that is there is filled inside, or not at all. -/
theorem fills_inside {folder : String} {s : Session} (h : Usable folder s)
    (hinside : Path.resolve s.working folder <+:
      Path.resolve s.working (Path.join folder settings.generatedDirectory))
    (hslash : ∀ f ∈ files, '/' ∉ f.name.toList) {p : Place}
    (hp : Fills settings path copyInput files folder s p)
    (hdirectory : s.disk.entry? p ≠ some .directory) :
    Path.resolve s.working folder <+: p ∧ Path.resolve s.working folder ≠ p := by
  obtain ⟨hthere, habove⟩ := h.directory
  rcases hp with ⟨-, hplace, -⟩ | ⟨f, hf, hplace⟩
  · rw [copyPath, Path.resolve_join, Path.resolve_of_not_mem (Path.slash_not_mem_baseName path),
      Path.stepFrom] at hplace
    rw [hplace] at hdirectory ⊢
    split at hdirectory
    · exact absurd hthere hdirectory
    · split at hdirectory
      · exact absurd habove hdirectory
      · rename_i hstay hup
        rw [if_neg hstay, if_neg hup]
        exact ⟨List.prefix_append _ _, by simp⟩
  · rw [generated_place settings (hslash f hf)] at hplace
    rw [hplace]
    refine ⟨hinside.trans (List.prefix_append _ _), fun heq => ?_⟩
    have hlength := hinside.length_le
    rw [heq, List.length_append, List.length_singleton] at hlength
    exact absurd hlength (Nat.not_succ_le_self _)

/-- What a run leaves as it is, and where it puts what is new, if nothing is where its folder goes. -/
structure KeepsApart (s : Tree) (own : Place) (t : Tree) : Prop where
  kept : ∀ p, s.entry? p ≠ none → t.entry? p = s.entry? p
  inside : ∀ p content, s.entry? p = none → t.entry? p = some (.file content) → own <+: p ∧ own ≠ p

theorem keepsApart_of_grows {made : Place → Prop} {t u : Tree} (h : t.Grows made u) (own : Place) :
    KeepsApart t own u := by
  refine ⟨fun p hp => h.entry_eq hp, fun p content hnone hfile => ?_⟩
  rcases h.entries p with hsame | ⟨-, -, hdirectory⟩
  · rw [hsame, hnone] at hfile
    cases hfile
  · rw [hdirectory] at hfile
    cases hfile

/-- A run into a new folder changes nothing outside it. -/
theorem writeAll_keepsApart {s : Session} (hrooted : s.disk.IsRooted)
    (hnew : s.disk.entry? (folderPlace settings root s) = none)
    (hinside : folderPlace settings root s <+: generatedPlace settings root s)
    (hslash : ∀ f ∈ files, '/' ∉ f.name.toList) :
    KeepsApart s.disk (folderPlace settings root s)
      (exec (writeAll Session.host level settings path root copyInput files) s).2.disk := by
  have hgrows := makeFolder_grows settings root s
  rw [exec_writeAll]
  rcases hfolder : exec (makeFolder Session.host settings root) s with ⟨_ | folder, t⟩
  · rw [hfolder] at hgrows
    exact keepsApart_of_grows hgrows _
  · rw [hfolder] at hgrows
    have hworking := makeFolder_working hfolder
    have husable : Usable (outputFolder settings root s) t := makeFolder_usable hfolder
    have hfilled := fillFolder_extends level settings path copyInput files
      (outputFolder settings root s) t
    -- where something changes it changes inside the folder, and nothing was there
    have hchanges : ∀ p, Fills settings path copyInput files (outputFolder settings root s) t p →
        t.disk.entry? p ≠ some .directory → folderPlace settings root s <+: p ∧
          folderPlace settings root s ≠ p := by
      intro p hp hdirectory
      have hbelow := fills_inside settings path copyInput files husable (p := p) (by rwa [hworking])
        hslash hp hdirectory
      rwa [hworking] at hbelow
    have happart := keepsApart_of_grows hgrows (folderPlace settings root s)
    refine ⟨fun p hp => ?_, fun p content hnone hfile => ?_⟩
    · have hkept := happart.kept p hp
      rcases (hfilled.disk.entries p).cases_on with hsame | ⟨hmissing, -⟩ | ⟨hfills, hdirectory, -⟩
      · exact hsame.trans hkept
      · exact absurd (hkept.symm.trans hmissing) hp
      · obtain ⟨hbelow, -⟩ := hchanges p hfills hdirectory
        exact absurd (hrooted.nothing_below hnew hbelow) hp
    · rcases (hfilled.disk.entries p).cases_on with hsame | ⟨-, hmade⟩ | ⟨hfills, hdirectory, -⟩
      · exact happart.inside p content hnone (hsame.symm.trans hfile)
      · rw [hmade] at hfile
        cases hfile
      · exact hchanges p hfills hdirectory

/-- **A run keeps to its folder.** A file that was there stays as it is unless the run puts a copy of
another file or a generated file in its place. If nothing is at the place of the output folder, the
directory for generated files is inside it and no name has a slash, then all that was there stays as it
is, and the new files are inside the output folder. -/
theorem existing_files_kept (s : Session) :
    let files := filesOf settings path s
    let chosen := (root.filter (· != "")) <|> settings.outputRoot
    let own := folderPlace settings chosen s
    let run := exec (convertFile Session.host level settings path root copyInput) s
    (∀ p content, s.disk.entry? p = some (.file content) →
      ¬Fills settings path copyInput files (outputFolder settings chosen s) s p →
      run.2.disk.entry? p = some (.file content)) ∧
    (s.disk.IsRooted → s.disk.entry? own = none → own <+: generatedPlace settings chosen s →
      (∀ f ∈ files, '/' ∉ f.name.toList) → KeepsApart s.disk own run.2.disk) := by
  intro files chosen own run
  refine ⟨fun p content hfile hfills => ?_, fun hrooted hnew hinside hslash => ?_⟩
  · have hchange := (convertFile_extends level settings path root copyInput s).disk.entries p
    rw [hfile] at hchange
    exact hchange.file_eq hfills
  · rcases convertFile_cases level settings path root copyInput s with ⟨-, hquiet⟩ | ⟨t, hquiet, hrun⟩
    · have hsame : run.2.disk = s.disk := hquiet.disk_eq
      rw [hsame]
      exact keepsApart_of_grows (.refl (fun _ => False) s.disk) own
    · obtain ⟨hfolder, hworking⟩ := outputFolder_quiet settings chosen hquiet
      have hdisk : t.disk = s.disk := hquiet.disk_eq
      have hplace : folderPlace settings chosen t = own := by
        rw [folderPlace, hfolder, hworking]
        rfl
      have hgenerated : generatedPlace settings chosen t = generatedPlace settings chosen s := by
        rw [generatedPlace, hfolder, hworking]
        rfl
      have happart := writeAll_keepsApart level settings path chosen copyInput files
        (s := t) (by rwa [hdisk]) (by rwa [hdisk, hplace]) (by rwa [hplace, hgenerated]) hslash
      rw [← hrun, hdisk, hplace] at happart
      exact happart

end

/-- A run in a directory with one document leaves the document as it is. -/
theorem existing_files_kept_label :
    Tree.entry? (exec (convertFile Session.host .info Settings.standard "a.xib" (some "out") true)
      labelSession).2.disk ["w", "a.xib"] = labelSession.disk.entry? ["w", "a.xib"] ∧
    KeepsApart labelSession.disk ["w", "out", "StoryboardConverter_2001-02-03_04-05-06"]
      (exec (convertFile Session.host .info Settings.standard "a.xib" (some "out") true)
        labelSession).2.disk := by
  have hnames : (filesOf Settings.standard "a.xib" labelSession).map ViewFile.fileName =
      ["GeneratedView1.swift"] := by
    decide +kernel
  have hslashes : ∀ f ∈ filesOf Settings.standard "a.xib" labelSession, '/' ∉ f.name.toList := by
    decide +kernel
  have hrooted : labelSession.disk.IsRooted := Tree.isRooted_of_entries (by decide +kernel)
  have hown : folderPlace Settings.standard (some "out") labelSession =
      ["w", "out", "StoryboardConverter_2001-02-03_04-05-06"] := by
    decide +kernel
  have hgenerated : generatedPlace Settings.standard (some "out") labelSession =
      ["w", "out", "StoryboardConverter_2001-02-03_04-05-06", "GeneratedSwiftUIFiles"] := by
    decide +kernel
  have hnew : labelSession.disk.entry? ["w", "out", "StoryboardConverter_2001-02-03_04-05-06"] =
      none := by
    decide +kernel
  have hcopy : Path.resolve labelSession.working (copyPath "a.xib"
      (outputFolder Settings.standard (some "out") labelSession)) =
        ["w", "out", "StoryboardConverter_2001-02-03_04-05-06", "a.xib"] := by
    decide +kernel
  obtain ⟨content, hfile⟩ : ∃ content, labelSession.disk.entry? ["w", "a.xib"] =
      some (.file content) := ⟨_, rfl⟩
  have hchosen : (((some "out").filter (· != "")) <|> Settings.standard.outputRoot) = some "out" := by
    decide
  have hkept := existing_files_kept .info Settings.standard "a.xib" (some "out") true labelSession
  -- from here on the session is not evaluated any more
  generalize labelSession = s at *
  simp only [hchosen, hown, hgenerated] at hkept
  generalize (exec (convertFile Session.host .info Settings.standard "a.xib" (some "out") true)
    s).2.disk = disk at *
  obtain ⟨hfiles, hinside⟩ := hkept
  have happart := hinside hrooted hnew (List.prefix_append _ ["GeneratedSwiftUIFiles"]) hslashes
  have houtside : ¬Fills Settings.standard "a.xib" true (filesOf Settings.standard "a.xib" s)
      (outputFolder Settings.standard (some "out") s) s ["w", "a.xib"] := by
    rintro (⟨-, hplace, -⟩ | ⟨f, hf, hplace⟩)
    · rw [hcopy] at hplace
      simp at hplace
    · have hname : f.fileName = "GeneratedView1.swift" :=
        List.mem_singleton.mp (hnames ▸ List.mem_map_of_mem hf)
      rw [generated_place _ (hslashes f hf), hname, ← generatedPlace, hgenerated] at hplace
      simp at hplace
  exact ⟨(hfiles _ content hfile houtside).trans hfile.symm, happart⟩

/-- Where the view of that document goes. -/
def labelPlace : Place :=
  ["w", "out", "StoryboardConverter_2001-02-03_04-05-06", "GeneratedSwiftUIFiles",
    "GeneratedView1.swift"]

/-- That document, and a file that an earlier run within the same second could have left. -/
def secondRunSession : Session :=
  labelSession.withDisk
    { labelSession.disk with
      entries := labelSession.disk.entries ++
        [(["w", "out"], .directory),
          (["w", "out", "StoryboardConverter_2001-02-03_04-05-06"], .directory),
          (["w", "out", "StoryboardConverter_2001-02-03_04-05-06", "GeneratedSwiftUIFiles"],
            .directory),
          (labelPlace, .file (Text.utf8 "old\n"))] }

/-- A second run within a second writes over the files of the first one. -/
theorem existing_file_overwritten :
    secondRunSession.disk.entry? labelPlace = some (.file (Text.utf8 "old\n")) ∧
    (exec (convertFile Session.host .info Settings.standard "a.xib" (some "out") true)
      secondRunSession).1 = .ok 0 ∧
    Tree.entry? (exec (convertFile Session.host .info Settings.standard "a.xib" (some "out") true)
      secondRunSession).2.disk labelPlace ≠ some (.file (Text.utf8 "old\n")) := by
  decide +kernel

end Storyboard
