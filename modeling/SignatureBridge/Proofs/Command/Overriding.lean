import SignatureBridge.Proofs.Command.Spelling
import SignatureBridge.Proofs.Command.Steps
import SignatureBridge.Proofs.Host.Recording

/-!
# How the command line overrides the environment

A run goes by the settings of the environment, with what the command line gives in their place. With
`Spells` this can be said from the words of the command line alone: `Config.withGiven` keeps a
setting unless the words give something for it.

Three of the four settings are settled that way. The fourth is not: the arguments always say whether
a run is to be verbose, so the environment is never asked (`Config.asRun`). The two ways differ
exactly if the environment asks for a verbose run and the command line does not
(`configure_of_read`).
-/

namespace SignatureBridge

open CommandLine

namespace Config

/-- The settings with everything in place that is given. -/
def withGiven (gs : List Given) (c : Config) : Config where
  signatureFile := (filesOf gs).head?.getD c.signatureFile
  outputDir := ((lastValue? .outputDir gs).map .ofValue?).getD c.outputDir
  verbose := decide (valuesOf .verbose gs ≠ []) || c.verbose
  logDir := ((lastValue? .logDir gs).map .ofValue?).getD c.logDir

/-- The settings with everything in place that is given, as a run goes by them: verbose only if that
is given. -/
def asRun (gs : List Given) (c : Config) : Config :=
  { c.withGiven gs with verbose := decide (valuesOf .verbose gs ≠ []) }

theorem asRun_eq_withGiven_iff (gs : List Given) (c : Config) :
    c.asRun gs = c.withGiven gs ↔ (c.verbose = true → valuesOf .verbose gs ≠ []) := by
  have hverbose : c.asRun gs = c.withGiven gs ↔
      decide (valuesOf .verbose gs ≠ []) = (decide (valuesOf .verbose gs ≠ []) || c.verbose) :=
    ⟨fun h ↦ congrArg verbose h, fun h ↦ by rw [asRun, h]; rfl⟩
  rw [hverbose]
  cases c.verbose <;> simp

end Config

theorem Arguments.AreGiven.apply_overrides {gs : List Given} {a : Arguments} (h : a.AreGiven gs)
    (c : Config) : a.overrides.apply c = c.asRun gs := by
  simp only [Overrides.apply, Arguments.overrides, Config.asRun, Config.withGiven,
    h.signatureFile, h.outputDir, h.verbose, h.logDir, Option.head?_toList, Option.getD_some]

namespace Run

/-- **The command line overrides the environment where it gives something, and about being verbose
always.** The words that arguments were read from spell what is given, in one way only and with at
most one signature file among it. Loading settings fails as it does without arguments, or it gives
those of the environment with what is given in their place, and with the switch alone for being
verbose. These are the settings that a run checks and uses. They are the expected ones exactly if
the environment does not ask for a verbose run or the switch is given. -/
theorem configure_of_read {words : List Text} {a : Arguments} (h : Arguments.read words = .ok a) :
    ∃ classified gs, classifyAll words = .ok classified ∧ Spells classified gs ∧
      (∀ gs', Spells classified gs' → gs' = gs) ∧ (filesOf gs).length ≤ 1 ∧
      (∀ host : Host, host.loadConfigWith a.overrides =
        ((host.loadConfig Host.envFile).1.map (Config.asRun gs),
          (host.loadConfig Host.envFile).2)) ∧
      (∀ (entry : EntryPoint) (host : Host) (p : Prepared) (after : Host),
        prepare entry words host = (.ok p, after) →
          ∃ c between, host.loadConfig Host.envFile = (.ok c, between) ∧
            p.config = c.asRun gs ∧ between.checkConfig p.config = .ok ()) ∧
      ∀ c : Config, c.asRun gs = c.withGiven gs ↔
        (c.verbose = true → valuesOf .verbose gs ≠ []) := by
  obtain ⟨classified, gs, hclassify, hspells, hgiven⟩ := Arguments.areGiven_of_read h
  have hload : ∀ host : Host, host.loadConfigWith a.overrides =
      ((host.loadConfig Host.envFile).1.map (Config.asRun gs),
        (host.loadConfig Host.envFile).2) := by
    intro host
    rw [Host.loadConfigWith, funext hgiven.apply_overrides]
  refine ⟨classified, gs, hclassify, hspells, fun _ ↦ hspells.unique, ?_, hload, ?_,
    Config.asRun_eq_withGiven_iff gs⟩
  · rw [hgiven.signatureFile]
    cases a.signatureFile <;> simp
  · intro entry host p after hprepare
    simp only [prepare, Action.bind_eq_ok_iff] at hprepare
    obtain ⟨b, _, hread, _, _, hget, c, between, hconfigure, _, _, -, _, _, -, _, _, -, hp⟩ :=
      hprepare
    obtain ⟨hb, rfl⟩ := readArguments_eq_ok hread
    obtain rfl : a = b := Except.ok.inj (h.symm.trans hb)
    cases hget
    obtain ⟨hc, hcheck⟩ := configure_eq_ok hconfigure
    cases hp
    rw [hload] at hc
    rcases hconfig : host.loadConfig Host.envFile with ⟨cause | d, loaded⟩
    · rw [hconfig] at hc
      cases hc
    · rw [hconfig] at hc
      cases hc
      exact ⟨d, loaded, rfl, rfl, hcheck⟩

/-- The output directory is given, and the signature file behind it. -/
theorem configure_of_read_output :
    ∃ a classified gs, Arguments.read ["-o", "out", "s.json"] = .ok a ∧
      classifyAll ["-o", "out", "s.json"] = .ok classified ∧ Spells classified gs ∧
      ∀ host : Host, host.loadConfigWith a.overrides =
        ((host.loadConfig Host.envFile).1.map (Config.asRun gs),
          (host.loadConfig Host.envFile).2) := by
  have hread : Arguments.read ["-o", "out", "s.json"] =
      .ok { signatureFile := some (.ofText "s.json"), outputDir := some (.ofText "out") } := by
    decide +kernel
  obtain ⟨classified, gs, hclassify, hspells, -, -, hload, -⟩ := configure_of_read hread
  exact ⟨_, classified, gs, hread, hclassify, hspells, hload⟩

/-- A host with a signature file, whose environment asks for verbose runs. -/
def askingVerbose : Host :=
  .untouched [(["s.json"], .file (Host.bytesOf "[\x7b\"name\":\"f\"\x7d]"))] [("VERBOSE", "true")]

/-- The command line does not say whether the run is to be verbose, the environment asks for it, and
the run is not verbose. -/
theorem not_verbose_on_askingVerbose :
    classifyAll ["s.json"] = .ok [.plain "s.json"] ∧
      Spells [.plain "s.json"] [.file "s.json"] ∧ valuesOf .verbose [.file "s.json"] = [] ∧
      (∃ c after, askingVerbose.loadConfig Host.envFile = (.ok c, after) ∧ c.verbose = true) ∧
      ∃ p after, prepare {} ["s.json"] askingVerbose = (.ok p, after) ∧
        p.config.verbose = false := by
  refine ⟨by decide, .file .nil, rfl, ?_, ?_⟩
  · have hverbose : (askingVerbose.loadConfig Host.envFile).1.toOption.any (·.verbose) = true := by
      decide +kernel
    rcases hload : askingVerbose.loadConfig Host.envFile with ⟨cause | c, after⟩
    · rw [hload] at hverbose
      exact absurd hverbose Bool.false_ne_true
    · rw [hload] at hverbose
      exact ⟨c, after, rfl, hverbose⟩
  · have hverbose : (prepare {} ["s.json"] askingVerbose).1.toOption.any
        (!·.config.verbose) = true := by decide +kernel
    rcases hprepare : prepare {} ["s.json"] askingVerbose with ⟨_ | p, after⟩
    · rw [hprepare] at hverbose
      exact absurd hverbose Bool.false_ne_true
    · rw [hprepare] at hverbose
      exact ⟨p, after, rfl, by simpa [Except.toOption] using hverbose⟩

end Run

end SignatureBridge
