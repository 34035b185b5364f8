import SignatureBridge.Command.Run
import SignatureBridge.Proofs.Storage.Agreement

/-!
# Hosts that are alike up to a difference

Two hosts can differ in what is at one location and in their environments, and be the same otherwise
(`Host.Alike`). What each has at the location is part of the difference, so hosts that stay alike
keep it as it is. How the environments are related is left open, since few operations look at them.

Each operation of a host gives the same on hosts that are alike and leaves hosts that are alike
(`Host.SameOutcome`). Operations on paths need that the path does not lead to the location or
through it (`Difference.Spares`).
-/

namespace SignatureBridge

open Journal FileSystem

/-- Where two hosts in a working directory may differ: in what is at a location, and in their
environments, as far as these are related. -/
structure Difference where
  location : Location
  first : Option Entry
  second : Option Entry
  workingDirectory : Location
  related : Environment → Environment → Prop

/-- A path stays away from where two hosts differ. -/
def Difference.Spares (d : Difference) (p : FilePath) : Prop :=
  p.Avoids d.workingDirectory d.location

namespace Host

/-- The second host is the first up to a difference, which no channel belongs to. -/
inductive Alike (d : Difference) (host : Host) : Host → Prop
  | mk {files : FileSystem} {environment : Environment} :
      host.workingDirectory = d.workingDirectory →
        DifferAt d.location d.first d.second host.files files →
          d.related host.environment environment →
            (∀ k, .file k ∈ host.routing.channels → k ≠ d.location) →
              Alike d host { host with files, environment }

/-- The same outcome, on hosts that are alike afterwards. -/
def SameOutcome {α : Type} (d : Difference) (x y : α × Host) : Prop := x.1 = y.1 ∧ Alike d x.2 y.2

namespace Alike

variable {d : Difference} {host host' : Host}

/-- Hosts stay alike with new files, if these differ as before. -/
theorem withFiles {files files' : FileSystem} {environment : Environment}
    (hdirectory : host.workingDirectory = d.workingDirectory)
    (hfiles : DifferAt d.location d.first d.second files files')
    (henv : d.related host.environment environment)
    (hchannels : ∀ k, .file k ∈ host.routing.channels → k ≠ d.location) :
    Alike d { host with files } { host with files := files', environment } :=
  .mk hdirectory hfiles henv hchannels

/-! ### Streams and records -/

theorem complain (h : Alike d host host') (t : Text) :
    Alike d (host.complain t) (host'.complain t) := by
  obtain ⟨hdirectory, hfiles, henv, hchannels⟩ := h
  exact .mk hdirectory hfiles henv hchannels

theorem print (h : Alike d host host') (t : Text) :
    SameOutcome d (host.print t) (host'.print t) := by
  obtain ⟨hdirectory, hfiles, henv, hchannels⟩ := h
  rw [Host.print, Host.print]
  rcases Utf8.surrogates? t with - | cause
  · exact ⟨rfl, .mk hdirectory hfiles henv hchannels⟩
  · exact ⟨rfl, .mk hdirectory hfiles henv hchannels⟩

theorem deliver (h : Alike d host host') (r : Record) {channel : Channel}
    (hchannel : ∀ k, channel = .file k → k ≠ d.location) :
    Alike d (host.deliver r channel) (host'.deliver r channel) := by
  cases channel with
  | console least =>
    rw [Host.deliver, Host.deliver]
    split
    · have hprint := h.print (r.brief ++ [10])
      generalize host.print (r.brief ++ [10]) = x at hprint ⊢
      generalize host'.print (r.brief ++ [10]) = y at hprint ⊢
      obtain ⟨_ | _, after⟩ := x <;> obtain ⟨_, after'⟩ := y <;> obtain ⟨rfl, hafter⟩ := hprint
      · exact hafter.complain _
      · exact hafter
    · exact h
  | file k =>
    obtain ⟨hdirectory, hfiles, henv, hchannels⟩ := h
    rw [Host.deliver, Host.deliver]
    rcases Utf8.encode (r.full host.clock.stamp ++ [10]) with cause | bytes
    · exact .mk hdirectory hfiles henv hchannels
    · exact .withFiles hdirectory (hfiles.appendAt (hchannel k rfl) bytes) henv hchannels

/-- A record goes to the same channels, one after the other. -/
theorem log (h : Alike d host host') (r : Record) : Alike d (host.log r) (host'.log r) := by
  have hfold : ∀ {channels : List Channel}, (∀ k, .file k ∈ channels → k ≠ d.location) →
      ∀ {host host' : Host}, Alike d host host' →
        Alike d (channels.foldl (Host.deliver r) host) (channels.foldl (Host.deliver r) host') := by
    intro channels hchannels
    induction channels with
    | nil => exact id
    | cons channel channels ih =>
      exact fun h ↦ ih (fun k hk ↦ hchannels k (List.mem_cons_of_mem channel hk))
        (h.deliver r fun k hk ↦ hchannels k (hk ▸ List.mem_cons_self))
  obtain ⟨hrouting, hchannels⟩ : host'.routing = host.routing ∧
      ∀ k, .file k ∈ host.routing.channels → k ≠ d.location := by
    obtain ⟨-, -, -, hchannels⟩ := h
    exact ⟨rfl, hchannels⟩
  rw [Host.log, Host.log, hrouting]
  split
  · split
    · split
      · exact h.complain _
      · exact h
    · exact hfold hchannels h
  · exact h

theorem logAll (records : List Record) :
    ∀ {host host' : Host}, Alike d host host' →
      Alike d (host.logAll records) (host'.logAll records) := by
  induction records with
  | nil => exact id
  | cons r records ih => exact fun h ↦ ih (h.log r)

/-! ### Operations on paths -/

variable {p : FilePath}

theorem openLog (h : Alike d host host') {options : LogOptions}
    (hp : (options.logFile.absolute d.workingDirectory).Avoids [] d.location) :
    SameOutcome d (Host.openLog options host) (Host.openLog options host') := by
  obtain ⟨hdirectory, hfiles, henv, -⟩ := h
  have hopen := hfiles.agreeOff.openForWriting hp
  rw [← hdirectory] at hopen hp
  rw [Host.openLog, Host.openLog]
  dsimp only
  rw [hopen]
  rcases hopened : FileSystem.openForWriting _ []
    (options.logFile.absolute host.workingDirectory) with cause | k
  · exact ⟨rfl, .mk hdirectory hfiles henv fun k hk ↦ by simp [LogOptions.opening] at hk⟩
  · have hk : k ≠ d.location := ne_of_resolve hp (openForWriting_eq_ok hopened).1
    refine ⟨rfl, ?_⟩
    dsimp only
    refine Alike.logAll _ (.mk hdirectory (hfiles.appendAt hk []) henv fun j hj ↦ ?_)
    obtain rfl : j = k := by simpa [LogOptions.running] using hj
    exact hk

theorem startLogging (h : Alike d host host') {options : LogOptions}
    (hp : d.Spares options.directory)
    (hfile : (options.logFile.absolute d.workingDirectory).Avoids [] d.location) :
    SameOutcome d (host.startLogging options) (host'.startLogging options) := by
  obtain ⟨hdirectory, hfiles, henv, hchannels⟩ := h
  rw [Host.startLogging, Host.startLogging]
  dsimp only
  split
  · exact ⟨rfl, .mk hdirectory hfiles henv hchannels⟩
  · have hmade := hfiles.ensureDirectories hp
    rw [← hdirectory] at hmade
    generalize host.files.ensureDirectories _ _ = x at hmade ⊢
    generalize FileSystem.ensureDirectories _ host.workingDirectory options.directory = y at hmade ⊢
    obtain ⟨_ | _, files⟩ := x <;> obtain ⟨_, files'⟩ := y <;> obtain ⟨rfl, hafter⟩ := hmade
    · exact ⟨rfl, .withFiles hdirectory hafter henv hchannels⟩
    · exact openLog (.withFiles hdirectory hafter henv hchannels) hfile

theorem checkConfig (h : Alike d host host') {c : Config} (hp : d.Spares c.signatureFile) :
    host.checkConfig c = host'.checkConfig c := by
  obtain ⟨hdirectory, hfiles, -⟩ := h
  rw [Host.checkConfig, Host.checkConfig, Config.check, Config.check, hdirectory,
    hfiles.agreeOff.probe hp]

theorem signatures (h : Alike d host host') (hp : d.Spares p) :
    host.signatures p = host'.signatures p := by
  obtain ⟨hdirectory, hfiles, -⟩ := h
  rw [Host.signatures, Host.signatures, hdirectory, hfiles.agreeOff.readFile hp]

theorem ensureOutputDir (h : Alike d host host') {c : Config}
    (hp : ∀ directory, c.outputDir.path = .ok directory → d.Spares directory) :
    SameOutcome d (host.ensureOutputDir c) (host'.ensureOutputDir c) := by
  obtain ⟨hdirectory, hfiles, henv, hchannels⟩ := h
  rw [Host.ensureOutputDir, Host.ensureOutputDir]
  rcases hpath : c.outputDir.path with cause | directory
  · exact ⟨rfl, .mk hdirectory hfiles henv hchannels⟩
  · have hmade := hfiles.ensureDirectories (hp directory hpath)
    rw [← hdirectory] at hmade
    refine ⟨congrArg (Except.map fun () ↦ directory) hmade.1, ?_⟩
    exact .withFiles hdirectory hmade.2 henv hchannels

theorem writeFile (h : Alike d host host') (hp : d.Spares p) (t : Text) :
    SameOutcome d (host.writeFile p t) (host'.writeFile p t) := by
  obtain ⟨hdirectory, hfiles, henv, hchannels⟩ := h
  have hopen := hfiles.agreeOff.openForWriting hp
  rw [Difference.Spares, ← hdirectory] at hp
  rw [← hdirectory] at hopen
  rw [Host.writeFile, Host.writeFile]
  dsimp only
  rw [hopen]
  rcases hopened : FileSystem.openForWriting _ host.workingDirectory p with cause | k
  · exact ⟨rfl, .mk hdirectory hfiles henv hchannels⟩
  · have hput := fun e ↦ hfiles.put (ne_of_resolve hp (openForWriting_eq_ok hopened).1) e
    cases Utf8.encode t with
    | error cause =>
      exact ⟨rfl, .withFiles hdirectory (hput _) henv hchannels⟩
    | ok bytes =>
      exact ⟨rfl, .withFiles hdirectory (hput _) henv hchannels⟩

end Alike

end Host

end SignatureBridge
