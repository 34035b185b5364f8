import SignatureBridge.Proofs.Command.Writing
import SignatureBridge.Proofs.Storage.SafeNames

/-!
# When the output replaces the signature file

The output may go to the directory of the signature file. Under the default suffix its name is the
safe name of the stem with the suffix, and the question is which names come back from that.

A name that comes back ends in the suffix, and its stem still has the first part of the suffix,
which the safe name has to lose. Only the cut takes it off, and it takes off no more and no less
exactly if what stands before the suffix is a safe name of full length (`FileName.IsCutBack`,
`FileName.output_stemOf_eq_iff`). Then the output file and the signature file are one. Under every
other name their locations differ as their names do, and what is written leaves the signature file
alone (`Run.get?_writeOutput`).
-/

namespace SignatureBridge

/-! ### Names -/

namespace FilePath

/-- The stem ends where the last dot is, if there is something on both sides of it. -/
theorem stemOf_append {front extension : Text} (hfront : front ≠ []) (hne : extension ≠ [])
    (hdot : 46 ∉ extension) : stemOf (front ++ 46 :: extension) = front := by
  have hrun : extension.reverse.all (· ≠ 46) = true := by
    rw [List.all_reverse, List.all_eq_true]
    exact fun c hc ↦ decide_eq_true fun h ↦ hdot (h ▸ hc)
  have hreverse : (front ++ 46 :: extension).reverse =
      extension.reverse ++ 46 :: front.reverse := by
    simp
  have hlength : front.reverse.length + 1 ≠ (front ++ 46 :: extension).length := by
    have := List.length_pos_iff.2 hne
    simp only [List.length_reverse, List.length_append, List.length_cons]
    omega
  rw [stemOf, hreverse, Text.dropWhile_run hrun (Text.stopsRun_cons (by decide) _)]
  show (if front.reverse = [] ∨ _ then _ else front.reverse.reverse) = front
  rw [if_neg (not_or.2 ⟨mt List.reverse_eq_nil_iff.1 hfront, hlength⟩), List.reverse_reverse]

/-- A text without slashes is a name, unless it is nothing or a dot. -/
theorem ofText_of_not_mem {t : Text} (hslash : 47 ∉ t) (hne : t ≠ []) (hdot : t ≠ [46]) :
    ofText t = ⟨.workingDirectory, [t]⟩ := by
  have hrun : t.takeWhile (· = 47) = [] := by
    obtain ⟨c, t, rfl⟩ := List.exists_cons_of_ne_nil hne
    exact List.takeWhile_cons_of_neg fun h ↦ hslash (of_decide_eq_true h ▸ List.mem_cons_self)
  rw [ofText, hrun, Text.split_of_not_mem hslash]
  simp [hne, hdot]

end FilePath

namespace FileName

variable {r : CodePoint} {s t u name : Text}

theorem isSafeName_ofStem (stem : Text) : IsSafeName 95 (ofStem stem) := by
  obtain ⟨t, ht, hsafe⟩ := exists_isSafeName (r := 95) (by decide) (by decide) stem
  have hstem : ofStem stem = t := by
    rw [ofStem, show underscore = [95] from rfl, ht]
  exact hstem ▸ hsafe

theorem IsTidy.ofStem (h : IsTidy 95 t) : ofStem t = truncate [95] t := by
  rw [FileName.ofStem, show underscore = [95] from rfl, h.sanitize (by decide)]

/-- A tidy text stays one with safe letters behind it that are not the replacement. -/
theorem IsTidy.append (h : IsTidy r s) (hsafe : ∀ c ∈ u, c.isSafe) (hr : r ∉ u) :
    IsTidy r (s ++ u) where
  ne_nil := List.append_ne_nil_of_left_ne_nil h.ne_nil u
  all_isSafe c hc := (List.mem_append.1 hc).elim (h.all_isSafe c) (hsafe c)
  head_ne := by
    rw [List.head?_append_of_ne_nil s h.ne_nil]
    exact h.head_ne
  last_ne hlast := by
    rcases List.eq_nil_or_concat u with rfl | ⟨front, c, rfl⟩
    · exact h.last_ne (by simpa using hlast)
    · exact hr (by simpa using Or.inr (Option.some.inj (by simpa using hlast)).symm)
  apart := by
    refine List.isChain_append.2 ⟨h.apart, isChain_of_not_mem hr, fun a _ b hb ↦ .inr ?_⟩
    exact fun hbr ↦ hr (hbr ▸ List.mem_of_mem_head? hb)

/-- Something behind a safe name is cut off, and nothing else, exactly if the name has full
length. -/
theorem truncate_append_eq_iff (h : IsSafeName r s) (hne : u ≠ []) (hr : r ∉ u) :
    truncate [r] (s ++ u) = s ↔ s.length = 200 := by
  have hpos := List.length_pos_iff.2 hne
  have hle := h.length_le
  have hlimit : lengthLimit = 200 := rfl
  have htake : (s ++ u).take lengthLimit = s ++ u.take (200 - s.length) := by
    rw [hlimit, List.take_append, List.take_of_length_le hle]
  constructor
  · intro heq
    by_contra hshort
    -- behind a shorter name something is left, and it does not end in the replacement
    have hrest : u.take (200 - s.length) ≠ [] := by
      rw [ne_eq, List.take_eq_nil_iff, not_or]
      exact ⟨by omega, hne⟩
    have hlast : (s ++ u.take (200 - s.length)).getLast? ≠ some r := by
      rw [List.getLast?_append_of_ne_nil s hrest]
      exact fun hmem ↦ hr (List.mem_of_mem_take (List.mem_of_mem_getLast? hmem))
    rw [truncate, htake, Text.trimEnd_eq_self (stopsRun_reverse_singleton.2 hlast)] at heq
    split at heq
    · exact hrest (List.append_right_eq_self.1 heq)
    · exact hne (List.append_right_eq_self.1 heq)
  · intro hlength
    rw [truncate, if_pos (by rw [List.length_append]; omega), htake, hlength, Nat.sub_self,
      List.take_zero, List.append_nil]
    exact Text.trimEnd_eq_self (stopsRun_reverse_singleton.2 h.last_ne)

/-- A name that the output file of its stem has as well: a safe name of two hundred letters with
the default suffix. -/
def IsCutBack (name : Text) : Prop :=
  ∃ s, IsSafeName 95 s ∧ s.length = 200 ∧ name = s ++ defaultSuffix

/-- The stem of a name keeps the first part of the default suffix. -/
theorem stemOf_append_defaultSuffix (hs : s ≠ []) :
    FilePath.stemOf (s ++ defaultSuffix) = s ++ (".params" : Text) := by
  have hsuffix : defaultSuffix = (".params" : Text) ++ 46 :: ("cs" : Text) := by decide
  rw [hsuffix, ← List.append_assoc]
  exact FilePath.stemOf_append (List.append_ne_nil_of_left_ne_nil hs _) (by decide) (by decide)

theorem ofStem_append_eq_iff (h : IsSafeName 95 s) :
    ofStem (s ++ (".params" : Text)) = s ↔ s.length = 200 := by
  have hsafe : (".params" : Text).all CodePoint.isSafe = true := by decide
  have hr : 95 ∉ (".params" : Text) := by decide
  rw [(h.toIsTidy.append (List.all_eq_true.1 hsafe) hr).ofStem]
  exact truncate_append_eq_iff h (by decide) hr

/-- **A name comes back exactly if its stem is cut back to full length.** -/
theorem output_stemOf_eq_iff :
    output (FilePath.stemOf name) defaultSuffix = name ↔ IsCutBack name := by
  constructor
  · intro h
    have hsafe := isSafeName_ofStem (FilePath.stemOf name)
    have hstem := congrArg FilePath.stemOf h
    rw [output, stemOf_append_defaultSuffix hsafe.ne_nil] at hstem
    exact ⟨_, hsafe, (ofStem_append_eq_iff hsafe).1 (congrArg ofStem hstem), h.symm⟩
  · rintro ⟨s, hs, hlength, rfl⟩
    rw [output, stemOf_append_defaultSuffix hs.ne_nil, (ofStem_append_eq_iff hs).2 hlength]

theorem ofText_output (stem : Text) :
    FilePath.ofText (output stem defaultSuffix) =
      ⟨.workingDirectory, [output stem defaultSuffix]⟩ := by
  have hlength : 10 ≤ (output stem defaultSuffix).length := by
    rw [output, List.length_append]
    exact Nat.le_add_left _ _
  refine FilePath.ofText_of_not_mem (fun hmem ↦ ?_) ?_ ?_
  · rcases List.mem_append.1 hmem with hmem | hmem
    · exact absurd ((isSafeName_ofStem stem).all_isSafe 47 hmem) (by decide)
    · exact absurd hmem (by decide)
  · rintro hnil
    rw [hnil] at hlength
    exact absurd hlength (by decide)
  · rintro hdot
    rw [hdot] at hlength
    exact absurd hlength (by decide)

end FileName

/-! ### Paths -/

section Paths

variable {t : Tuning} {p : FilePath}

/-- The output file is a name in its directory. -/
theorem Tuning.outputFile_eq (ht : t.outputSuffix = FileName.defaultSuffix)
    (p directory : FilePath) :
    t.outputFile p directory = { directory with
      names := directory.names ++ [FileName.output p.stem FileName.defaultSuffix] } := by
  rw [Tuning.outputFile, ht, FileName.ofText_output]
  rfl

/-- A path that has a last name is its parent with that name. -/
theorem FilePath.names_eq_of_name_ne_nil (hp : p.name ≠ []) :
    p.names = p.parent.names ++ [p.name] := by
  obtain ⟨start, names⟩ := p
  rcases List.eq_nil_or_concat names with rfl | ⟨front, last, rfl⟩
  · exact absurd rfl hp
  · simp [parent, name]

/-- The last name of a path is the last step to its target. -/
theorem FilePath.target_eq_step (hp : p.name ≠ []) (workingDirectory : Location) :
    p.target workingDirectory =
      FileSystem.step (p.parent.target workingDirectory) p.name := by
  have horigin : p.parent.origin workingDirectory = p.origin workingDirectory := rfl
  rw [target, target, horigin, names_eq_of_name_ne_nil hp, List.foldl_append]
  rfl

theorem Tuning.target_outputFile (ht : t.outputSuffix = FileName.defaultSuffix)
    (p directory : FilePath) (workingDirectory : Location) :
    (t.outputFile p directory).target workingDirectory =
      directory.target workingDirectory ++
        [FileName.output p.stem FileName.defaultSuffix] := by
  rw [outputFile_eq ht, FilePath.target, List.foldl_append]
  exact FilePath.step_eq (by decide) _ _

/-- **The output file is the signature file exactly if its name comes back.** -/
theorem Tuning.outputFile_parent_eq_iff (ht : t.outputSuffix = FileName.defaultSuffix)
    (hp : p.name ≠ []) :
    t.outputFile p p.parent = p ↔ FileName.IsCutBack p.name := by
  rw [outputFile_eq ht, ← FileName.output_stemOf_eq_iff]
  constructor
  · intro h
    have hnames := congrArg FilePath.names h
    rw [FilePath.names_eq_of_name_ne_nil hp] at hnames
    exact List.singleton_inj.1 (List.append_cancel_left hnames)
  · intro h
    rw [FilePath.stem, h, ← FilePath.names_eq_of_name_ne_nil hp]
    rfl

/-- In the directory of the signature file, the output file is elsewhere unless the name comes
back. -/
theorem Tuning.target_outputFile_ne {directory : FilePath} {workingDirectory : Location}
    (ht : t.outputSuffix = FileName.defaultSuffix) (hp : p.name ≠ [])
    (hdirectory : directory.target workingDirectory = p.parent.target workingDirectory)
    (hname : ¬ FileName.IsCutBack p.name) :
    p.target workingDirectory ≠ (t.outputFile p directory).target workingDirectory := by
  rw [target_outputFile ht, FilePath.target_eq_step hp, hdirectory, FileSystem.step]
  intro heq
  split at heq
  · -- two dots lead upwards
    have hlengths := congrArg List.length heq
    simp only [List.length_dropLast, List.length_append, List.length_singleton] at hlengths
    omega
  · exact hname (FileName.output_stemOf_eq_iff.1
      (List.singleton_inj.1 (List.append_cancel_left heq)).symm)

end Paths

/-! ### Writing -/

namespace Host

theorem get?_writeFile_of_ne (host : Host) {file : FilePath} {k : Location}
    (hk : k ≠ file.target host.workingDirectory) (text : Text) :
    (host.writeFile file text).2.files.get? k = host.files.get? k := by
  rw [writeFile]
  split
  · rfl
  · rename_i l hopen
    have hl : k ≠ l := by
      rwa [← (FileSystem.resolve_eq_ok (FileSystem.openForWriting_eq_ok hopen).1).1]
    split <;> exact FileSystem.get?_put_of_ne _ hl _

theorem routing_writeFile (host : Host) (file : FilePath) (text : Text) :
    (host.writeFile file text).2.routing = host.routing := by
  rw [writeFile]
  split
  · rfl
  · split <;> rfl

end Host

namespace Run

open Journal

/-- The output goes to the directory of the signature file, with the default suffix. -/
structure WritesBeside (c : Config) (host : Host) : Prop where
  unset : host.environment.get? (Tuning.family ++ "OUTPUT_FILE_SUFFIX") = none
  beside : ∃ directory, c.outputDir.path = .ok directory ∧
    directory.target host.workingDirectory = c.signatureFile.parent.target host.workingDirectory

theorem outputSuffix_of_unset {env : Environment}
    (h : env.get? (Tuning.family ++ "OUTPUT_FILE_SUFFIX") = none) :
    (Tuning.ofEnvironment env).outputSuffix = FileName.defaultSuffix := by
  show env.getD _ _ = _
  rw [Environment.getD, h]
  rfl

/-- Writing the output leaves a file alone that is neither the output file nor the log file. -/
theorem get?_writeOutput {c : Config} {host : Host} {directory : FilePath} {k l : Location}
    {bytes : List UInt8} (hdirectory : c.outputDir.path = .ok directory) (honly : host.OnlyLogsTo l)
    (hl : k ≠ l)
    (hk : k ≠ ((Tuning.ofEnvironment host.environment).outputFile c.signatureFile directory).target
      host.workingDirectory)
    (hfile : host.files.get? k = some (.file bytes)) (origin : Origin) (text : Text) :
    (writeOutput origin c text host).2.files.get? k = some (.file bytes) := by
  have hmade := (FileSystem.addsDirectories_ensureDirectories host.workingDirectory directory
    host.files).1.keeps k _ hfile
  rw [writeOutput_apply, Host.ensureOutputDir, hdirectory]
  dsimp only
  generalize host.files.ensureDirectories host.workingDirectory directory = outcome at hmade ⊢
  rcases outcome with ⟨cause | _, files⟩
  · exact hmade
  · dsimp only [Except.map]
    generalize (Tuning.ofEnvironment host.environment).outputFile c.signatureFile directory = file
      at hk ⊢
    have hwritten := (Host.get?_writeFile_of_ne { host with files } hk text).trans hmade
    have hrouting := Host.routing_writeFile { host with files } file text
    generalize Host.writeFile file text { host with files } = outcome at hwritten hrouting ⊢
    rcases outcome with ⟨cause | _, written⟩
    · exact hwritten
    · have hlogs : written.OnlyLogsTo l := by
        rw [Host.OnlyLogsTo, hrouting]
        exact honly
      exact (((Host.LogsTo.refl hlogs).log _).get?_of_ne hl).trans hwritten

/-- **Only a signature file whose name is cut back is replaced by its output.** With the default
suffix, the output file in the directory of a signature file is that file exactly if the name is a
safe one of two hundred letters with the suffix. Under any other name, a file that is not the log
file is left alone, whatever text is written and however the writing ends. -/
theorem outputFile_beside {p : FilePath} (hp : p.name ≠ []) :
    (∀ env : Environment, env.get? (Tuning.family ++ "OUTPUT_FILE_SUFFIX") = none →
      ((Tuning.ofEnvironment env).outputFile p p.parent = p ↔ FileName.IsCutBack p.name)) ∧
    (¬ FileName.IsCutBack p.name →
      ∀ (c : Config) (host : Host) (l : Location) (bytes : List UInt8),
        c.signatureFile = p → WritesBeside c host → host.OnlyLogsTo l →
        p.target host.workingDirectory ≠ l →
        host.files.get? (p.target host.workingDirectory) = some (.file bytes) →
        ∀ (origin : Origin) (text : Text),
          (writeOutput origin c text host).2.files.get? (p.target host.workingDirectory) =
            some (.file bytes)) := by
  refine ⟨fun env henv ↦ Tuning.outputFile_parent_eq_iff (outputSuffix_of_unset henv) hp, ?_⟩
  rintro hname c host l bytes rfl ⟨hunset, directory, hdirectory, hbeside⟩ honly hl hfile
  exact get?_writeOutput hdirectory honly hl
    (Tuning.target_outputFile_ne (outputSuffix_of_unset hunset) hp hbeside hname) hfile

/-- The bytes of a signature file of one function. -/
def oneSignature : List UInt8 := Host.bytesOf "[\x7b\"name\":\"f\"\x7d]"

/-- A signature file that is named like an output file gets an output file of its own. -/
theorem outputFile_beside_suffixed :
    (Tuning.ofEnvironment {}).outputFile (.ofText "in/s.params.cs") (.ofText "in") ≠
        .ofText "in/s.params.cs" ∧
      (writeOutput .envFile
        { signatureFile := .ofText "in/s.params.cs", outputDir := .ofText "in" } "f()\n"
        (.untouched [(["in"], .directory), (["in", "s.params.cs"], .file oneSignature)]
          [])).2.files.get? ["in", "s.params.cs"] = some (.file oneSignature) := by
  have hname : ¬ FileName.IsCutBack (FilePath.ofText "in/s.params.cs").name := by
    rintro ⟨s, -, hlength, hname⟩
    have hlengths := congrArg List.length hname
    rw [List.length_append, hlength] at hlengths
    exact absurd hlengths (by decide)
  have hall := outputFile_beside (p := .ofText "in/s.params.cs") (by decide)
  refine ⟨fun heq ↦ hname ((hall.1 {} rfl).1 heq), ?_⟩
  exact hall.2 hname _ _ [] _ rfl ⟨rfl, .ofText "in", rfl, rfl⟩
    (fun k hk ↦ absurd hk List.not_mem_nil) (by decide) (by decide) _ _

/-- A name of two hundred letters with the default suffix. -/
def cutName : Text := List.replicate 200 97 ++ FileName.defaultSuffix

/-- A signature file of that name is its own output file: the run that writes to its directory ends
with exit code 0 and has replaced the signatures by the output. -/
theorem signatureFile_replaced :
    (FilePath.ofText cutName).name ≠ [] ∧
      (Tuning.ofEnvironment {}).outputFile (.ofText cutName) (FilePath.ofText cutName).parent =
        .ofText cutName ∧
      (Environment.get? {} (Tuning.family ++ "OUTPUT_FILE_SUFFIX")) = none ∧
      ∃ after, execute {} [cutName, "-o", "."]
          (.untouched [([cutName], .file oneSignature)] []) = (.exit 0, after) ∧
        after.files.get? [cutName] = some (.file (Host.bytesOf "f()\n")) := by
  refine ⟨by decide +kernel, by decide +kernel, rfl, ?_⟩
  have hends : (fun result : Ending × Host ↦ (result.1, result.2.files.get? [cutName]))
      (execute {} [cutName, "-o", "."] (.untouched [([cutName], .file oneSignature)] [])) =
      (.exit 0, some (.file (Host.bytesOf "f()\n"))) := by decide +kernel
  rcases hexecute : execute {} [cutName, "-o", "."]
    (.untouched [([cutName], .file oneSignature)] []) with ⟨ending, after⟩
  rw [hexecute] at hends
  obtain ⟨rfl, hreplaced⟩ := Prod.mk.inj hends
  exact ⟨after, rfl, hreplaced⟩

end Run

end SignatureBridge
