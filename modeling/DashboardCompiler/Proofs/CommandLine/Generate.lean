import DashboardCompiler.CommandLine.Generate
import DashboardCompiler.Proofs.Generation.Wiring
import DashboardCompiler.Proofs.Schema.Readers
import DashboardCompiler.Proofs.Storage.FileTree

/-!
# What a generate command leaves behind

The whole project is made before anything is written, so whatever fails on the way leaves the tree alone. The files of
a project have names that lead to different places below the output directory; so no file overwrites another, and once
all of them are written each holds what was generated for it.
-/

namespace DashboardCompiler

open Schema FileTree

/-! ## File names -/

/-- Names lead downwards, and each its own way. -/
theorem Options.filenames_apart (o : Options) (fed : Bool) :
    (o.filenames fed).Nodup ∧ ((o.filenames fed).map fun name => (Path.ofText name).parts).Nodup ∧
      ∀ name ∈ o.filenames fed, ".." ∉ (Path.ofText name).parts := by
  have hall : ∀ framework format fed, (filenames ⟨framework, format, o.includeComments, o.useMockData⟩ fed).Nodup ∧
      ((filenames ⟨framework, format, o.includeComments, o.useMockData⟩ fed).map
        fun name => (Path.ofText name).parts).Nodup ∧
      ∀ name ∈ filenames ⟨framework, format, o.includeComments, o.useMockData⟩ fed,
        ".." ∉ (Path.ofText name).parts := by
    intro framework format fed
    cases framework <;> cases format <;> cases fed <;> simp only [filenames] <;> decide
  exact hall o.framework o.outputFormat fed

theorem Generator.whole_of_generate {d : Design} {o : Options} {p : Project} (h : default.generate d o = .ok p) :
    p.Whole d o := by
  obtain ⟨-, h⟩ := default_generate_ok h
  obtain ⟨bs, -, hbs, -⟩ := Target.generate_ok h
  rw [Target.generate_eq hbs] at h
  split at h
  · cases h
  · rename_i hscene
    cases h
    exact Target.whole_generateScene rfl hscene

theorem Project.Whole.exists_program {p : Project} {d : Design} {o : Options} (h : p.Whole d o) :
    ∃ program, p.entryPoints = [program] := by
  have hsome : o.filenames d.hasDataSources ≠ [] := by
    unfold Options.filenames
    cases o.framework <;> cases o.outputFormat <;> exact List.cons_ne_nil _ _
  rw [← h.filenames, Project.filenames] at hsome
  obtain ⟨program, rest, hfiles⟩ := List.exists_cons_of_ne_nil (mt List.map_eq_nil_iff.2 hsome)
  exact ⟨program, by rw [h.program, hfiles, List.take_one]; rfl⟩

/-! ## Options -/

theorem Options.read_fields {fields : Fields} (o : Options)
    (hframework : Json.lookup "framework" fields = some (.ofNamed o.framework))
    (hformat : Json.lookup "output_format" fields = some (.ofNamed o.outputFormat))
    (hcomments : Json.lookup "include_comments" fields = some (.bool o.includeComments))
    (hmock : Json.lookup "use_mock_data" fields = some (.bool o.useMockData)) :
    Options.read (.object fields) = .accepted o := by
  have hchoice {α : Type} [Named α] [LawfulNamed α] (a : α) : (readChoice (.ofNamed a) : Checked α) = .accepted a := by
    simp [Json.ofNamed, readChoice]
  have hflag (b : Bool) : readFlag (.bool b) = .accepted b := rfl
  rw [Options.read, readRecord, defaulted_of_lookup hframework (hchoice _), defaulted_of_lookup hformat (hchoice _),
    defaulted_of_lookup hcomments (hflag _), defaulted_of_lookup hmock (hflag _)]
  rfl

namespace CommandLine

/-- The options of a run: what the command says, and else what is configured. -/
def GenerateCommand.optionsOver (c : GenerateCommand) (config : Config) : Options :=
  ⟨c.framework.getD config.framework, c.outputFormat.getD config.outputFormat,
    c.includeComments.getD config.includeComments, c.useMockData.getD config.useMockData⟩

theorem toOptions_given (c : GenerateCommand) (config : Config) :
    config.toOptions c.given = .accepted (c.optionsOver config) := by
  obtain ⟨design, output, framework, format, comments, mock, path⟩ := c
  unfold Config.toOptions
  apply Options.read_fields
  · cases framework <;> cases format <;> cases comments <;> cases mock <;> rfl
  · cases framework <;> cases format <;> cases comments <;> cases mock <;> rfl
  · cases framework <;> cases format <;> cases comments <;> cases mock <;> rfl
  · cases framework <;> cases format <;> cases comments <;> cases mock <;> rfl

/-- A project is made: the settings and the design load, the target has nothing against the design, and the sections
can be computed. -/
structure GenerateCommand.Makes (c : GenerateCommand) (t : FileTree) (config : Config) (d : Design) (p : Project) :
    Prop where
  configured : Config.load t c.config = .ok config
  loaded : Design.load t c.design = .ok d
  generated : Generator.default.generate d (c.optionsOver config) = .ok p

theorem plan_ok_iff {c : GenerateCommand} {t : FileTree} {plan : Plan} : c.plan t = .ok plan ↔
    ∃ config d p, c.Makes t config d p ∧ plan = ⟨p, c.output.getD config.outputDirectory⟩ := by
  have hoptions (config : Config) : ((config.toOptions c.given).toExcept.mapError fun _ => Failure.aborted .misfit) =
      .ok (c.optionsOver config) := by
    rw [toOptions_given]
    rfl
  constructor
  · intro hplan
    obtain ⟨config, hconfig, hrest⟩ := bind_ok_iff.1 hplan
    obtain ⟨options, hgiven, hrest⟩ := bind_ok_iff.1 hrest
    rw [hoptions] at hgiven
    obtain rfl := Except.ok.inj hgiven
    obtain ⟨d, hd, hrest⟩ := bind_ok_iff.1 hrest
    obtain ⟨p, hp, hrest⟩ := bind_ok_iff.1 hrest
    exact ⟨config, d, p, ⟨mapError_ok_iff.1 hconfig, mapError_ok_iff.1 hd, mapError_ok_iff.1 hp⟩,
      (Except.ok.inj hrest).symm⟩
  · rintro ⟨config, d, p, hmakes, rfl⟩
    exact bind_ok_iff.2 ⟨config, mapError_ok_iff.2 hmakes.configured, bind_ok_iff.2 ⟨_, hoptions config,
      bind_ok_iff.2 ⟨d, mapError_ok_iff.2 hmakes.loaded, bind_ok_iff.2 ⟨p, mapError_ok_iff.2 hmakes.generated, rfl⟩⟩⟩⟩

/-! ## Writing -/

namespace Plan

variable {p : Plan} {t after : FileTree} {files : List GeneratedFile}

/-- Where a file goes. -/
def placeFor (p : Plan) (t : FileTree) (file : GeneratedFile) : Place :=
  destination (t.start (p.pathOf file)) (p.pathOf file).parts

/-- The files are there as they were generated, and all others as they were. -/
structure Written (p : Plan) (t after : FileTree) (files : List GeneratedFile) : Prop extends Keeps t after where
  here : ∀ file ∈ files, ∃ place, after.placeOf (p.pathOf file) = .ok place ∧
    after.storedAt? place = some ⟨file.content.toUTF8, file.executable || t.isExecutableAt place⟩
  elsewhere : ∀ place, (∀ file ∈ files, after.placeOf (p.pathOf file) ≠ .ok place) →
    after.storedAt? place = t.storedAt? place

theorem placeFor_of_keeps {next : FileTree} (h : Keeps t next) : p.placeFor next = p.placeFor t := by
  funext file
  rw [placeFor, placeFor, h.start_eq]

/-- A run of writing without faults. -/
theorem written_writeFiles (hplaces : (files.map (p.placeFor t)).Nodup) (h : p.writeFiles t files = (after, none)) :
    p.Written t after files := by
  induction files generalizing t with
  | nil =>
    cases h
    exact ⟨.refl _, nofun, fun _ _ => rfl⟩
  | cons file files ih =>
    unfold writeFiles at h
    split at h
    · rename_i next hnext
      obtain ⟨place, hplace, hsets⟩ := sets_store hnext
      have hnextPlaces := placeFor_of_keeps (p := p) hsets.toKeeps
      obtain ⟨hfresh, hrest⟩ := List.nodup_cons.1 hplaces
      have hwritten := ih (hnextPlaces ▸ hrest) h
      have hfound := hwritten.toKeeps.placeOf hplace
      have hhere : place = p.placeFor t file := by
        rw [← hnextPlaces]
        exact placeOf_ok hplace
      -- The files that come later go to other places.
      have hlater : ∀ other ∈ files, after.placeOf (p.pathOf other) ≠ .ok place := by
        intro other hother hsame
        have hthere : place = p.placeFor t other := by
          rw [← hnextPlaces, ← placeFor_of_keeps hwritten.toKeeps]
          exact placeOf_ok hsame
        rw [← hhere, hthere] at hfresh
        exact hfresh (List.mem_map_of_mem hother)
      refine ⟨hsets.toKeeps.trans hwritten.toKeeps, List.forall_mem_cons.2 ⟨?_, fun other hother => ?_⟩,
        fun other hother => ?_⟩
      · exact ⟨place, hfound, (hwritten.elsewhere place hlater).trans hsets.here⟩
      · obtain ⟨there, hthere, hstored⟩ := hwritten.here other hother
        have hne : there ≠ place := fun hsame => hlater other hother (hsame ▸ hthere)
        refine ⟨there, hthere, ?_⟩
        rw [hstored, isExecutableAt, isExecutableAt, hsets.elsewhere there hne]
      · have hne : other ≠ place := fun hsame => hother file List.mem_cons_self (hsame ▸ hfound)
        exact (hwritten.elsewhere other fun file hfile => hother file (List.mem_cons_of_mem _ hfile)).trans
          (hsets.elsewhere other hne)
    · cases h

/-- The files of a project go to different places. -/
theorem nodup_places {o : Options} {fed : Bool} (hfilenames : p.project.filenames = o.filenames fed) (t : FileTree) :
    (p.project.files.map (p.placeFor t)).Nodup := by
  obtain ⟨-, hparts, hdown⟩ := o.filenames_apart fed
  rw [← hfilenames] at hparts hdown
  -- All files have the place of the directory in common, and the parts of their names come after it.
  obtain ⟨base, hbase⟩ : ∃ base : Place, ∀ file ∈ p.project.files,
      p.placeFor t file = base ++ (Path.ofText file.filename).parts := by
    refine ⟨destination (t.start p.directory) p.directory.parts, fun file hfile => ?_⟩
    rw [← destination_down _ (hdown _ (List.mem_map_of_mem hfile)), ← destination_append]
    rfl
  rw [List.map_congr_left hbase]
  rw [Project.filenames, List.map_map] at hparts
  have hmap := hparts.map (List.append_right_injective base)
  rwa [List.map_map] at hmap

end Plan

/-! ## Commands -/

/-- **A generate command does all or nothing, up to writing.** If no project is made the run fails and leaves the tree
as it was. Else the names of the files differ and one file is the program; if all of them can be written, the run ends
well, each of them has its content where its path leads, everything else is as it was, and only the program is made
executable. If one cannot be written, the run fails. -/
theorem generate_exact (c : GenerateCommand) (t : FileTree) :
    ((∀ config d p, ¬ c.Makes t config d p) → (c.run t).exitCode ≠ 0 ∧ (c.run t).tree = t) ∧
    ∀ config d p, c.Makes t config d p →
      p.filenames.Nodup ∧ (∃ program, p.entryPoints = [program]) ∧
      let plan : Plan := ⟨p, c.output.getD config.outputDirectory⟩
      match plan.writeFiles t p.files with
      | (after, none) => (c.run t).exitCode = 0 ∧ (c.run t).tree = after ∧ plan.Written t after p.files
      | (_, some _) => (c.run t).exitCode ≠ 0 := by
  constructor
  · intro hnone
    cases hplan : c.plan t with
    | error failure =>
      have hrun : c.run t = failure.outcome t := by rw [GenerateCommand.run, hplan]
      rw [hrun]
      exact ⟨Nat.one_ne_zero, rfl⟩
    | ok plan =>
      obtain ⟨config, d, p, hmakes, -⟩ := plan_ok_iff.1 hplan
      exact absurd hmakes (hnone config d p)
  · intro config d p hmakes
    have hwhole := Generator.whole_of_generate hmakes.generated
    have hrun : c.run t = Plan.write ⟨p, c.output.getD config.outputDirectory⟩ t := by
      rw [GenerateCommand.run, plan_ok_iff.2 ⟨config, d, p, hmakes, rfl⟩]
    refine ⟨hwhole.filenames ▸ (Options.filenames_apart _ _).1, hwhole.exists_program, ?_⟩
    dsimp only
    rw [hrun, Plan.write]
    split
    · rename_i after hwrites
      rw [hwrites]
      exact ⟨rfl, rfl, Plan.written_writeFiles (Plan.nodup_places hwhole.filenames t) hwrites⟩
    · rename_i after fault hwrites
      rw [hwrites]
      exact Nat.one_ne_zero

/-- A directory with one design in it. -/
def loneTree : FileTree :=
  ⟨["home"], [(["home", "lone.json"], ⟨"\x7b\"metadata\": \x7b\"name\": \"lone\"\x7d\x7d".toUTF8, false⟩)], [["home"]]⟩

/-- The command that says nothing but where the design is. -/
def GenerateCommand.plain (design : Path) : GenerateCommand := ⟨design, none, none, none, none, none, none⟩

/-- The design that is there is generated and written, and one that is not there leaves everything as it is. -/
theorem generate_exact_lone :
    (∃ config d p after, (GenerateCommand.plain (.ofText "lone.json")).Makes loneTree config d p ∧
      ((GenerateCommand.plain (.ofText "lone.json")).run loneTree).exitCode = 0 ∧
      ((GenerateCommand.plain (.ofText "lone.json")).run loneTree).tree = after ∧
      Plan.Written ⟨p, config.outputDirectory⟩ loneTree after p.files) ∧
    ((GenerateCommand.plain (.ofText "absent.json")).run loneTree).exitCode ≠ 0 ∧
    ((GenerateCommand.plain (.ofText "absent.json")).run loneTree).tree = loneTree := by
  refine ⟨?_, (generate_exact _ _).1 fun config d p hmakes => ?_⟩
  · have hexit : ((GenerateCommand.plain (.ofText "lone.json")).run loneTree).exitCode = 0 := by decide +kernel
    obtain ⟨hnone, hsome⟩ := generate_exact (.plain (.ofText "lone.json")) loneTree
    obtain ⟨config, d, p, hmakes⟩ :
        ∃ config d p, (GenerateCommand.plain (.ofText "lone.json")).Makes loneTree config d p := by
      by_contra hmakes
      simp only [not_exists] at hmakes
      exact (hnone hmakes).1 hexit
    obtain ⟨-, -, hwrites⟩ := hsome config d p hmakes
    dsimp only at hwrites
    split at hwrites
    · exact ⟨config, d, p, _, hmakes, hwrites⟩
    · exact absurd hexit hwrites
  · have habsent : (Design.load loneTree (.ofText "absent.json")).isOk = false := by decide +kernel
    have hloaded : Design.load loneTree (.ofText "absent.json") = .ok d := hmakes.loaded
    rw [hloaded] at habsent
    cases habsent

end CommandLine

end DashboardCompiler
