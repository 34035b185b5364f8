import SignatureBridge.Proofs.Command.Steps
import SignatureBridge.Proofs.Host.Recording
import SignatureBridge.Proofs.Reflection.Encoding

/-!
# Emitting the text of a run

The text of a run goes to the output stream or makes up the output file. `Run.Emitted` says what has
then changed on the host. That needs a host that takes the text, and a text without a surrogate;
nothing else can fail (`Run.emit_eq_ok_iff`). A run whose text is not emitted has no exit code
(`Run.execute_of_not_emitted`).

Whether a text holds a surrogate can be told from the signatures: it comes from the name of a
function or of a parameter (`Batch.hasSurrogate_text_iff`).
-/

namespace SignatureBridge

open Journal

/-- The text of signatures holds a surrogate exactly if a name does in one that does not fail. -/
theorem Batch.hasSurrogate_text_iff {ss : List Signature} :
    (text ss).hasSurrogate = true ↔ ∃ s ∈ ss, s.fails = false ∧ s.hasSurrogate = true := by
  rw [text, Text.hasSurrogate_flatMap, List.any_eq_true]
  refine exists_congr fun s ↦ and_congr_right fun _ ↦ ?_
  rw [Signature.fails]
  rcases hreflect : s.reflect with cause | line
  · simp
  · have hend : CodePoint.isSurrogate 10 = false := by decide
    simp [Signature.hasSurrogate_of_reflect hreflect, hend]

namespace Run

variable {a : Arguments}

/-- A text has been emitted: it is at the end of the output stream, or all of the output file, for
which the directory was made and which was recorded. -/
def Emitted (origin : Origin) (a : Arguments) (c : Config) (t : Text) (host written : Host) :
    Prop :=
  t.hasSurrogate = false ∧
    if a.toOutput then written = { host with output := host.output ++ t }
    else ∃ directory files l, c.outputDir.path = .ok directory ∧
      host.files.ensureDirectories host.workingDirectory directory = (.ok (), files) ∧
      let file := (Tuning.ofEnvironment host.environment).outputFile c.signatureFile directory
      files.openForWriting host.workingDirectory file = .ok l ∧
        written = { host with files := files.put l (.file (t.flatMap Utf8.encodePoint)) }.log
          ⟨origin, .info, "[SUCCESS] Wrote: " ++ file.text⟩

/-- Emission succeeds exactly if the text holds no surrogate and the host takes it. -/
theorem emit_eq_ok_iff {origin : Origin} {c : Config} {t : Text} {host written : Host} :
    emit origin a c t host = (.ok (), written) ↔ Emitted origin a c t host written := by
  rw [emit, Emitted]
  cases a.toOutput with
  | true =>
    rw [if_pos rfl, if_pos rfl, attempt_apply, Host.print, ← Utf8.surrogates?_eq_none_iff]
    rcases Utf8.surrogates? t with - | cause
    · exact ⟨fun h ↦ by cases h; exact ⟨rfl, rfl⟩, fun h ↦ by rw [h.2]; rfl⟩
    · constructor
      · intro h
        cases h
      · intro h
        exact absurd h.1 (Option.some_ne_none cause)
  | false =>
    rw [if_neg Bool.false_ne_true, if_neg Bool.false_ne_true, writeOutput_apply]
    constructor
    · intro h
      rcases hensure : host.ensureOutputDir c with ⟨cause | directory, after⟩
      · rw [hensure] at h
        cases h
      · obtain ⟨hpath, files, hmake, rfl⟩ := ensureOutputDir_eq_ok hensure
        rw [hensure] at h
        dsimp only at h
        rw [Host.writeFile] at h
        dsimp only at h
        rcases hopen : files.openForWriting host.workingDirectory
          ((Tuning.ofEnvironment host.environment).outputFile c.signatureFile directory) with
          cause | l
        · rw [hopen] at h
          cases h
        · rw [hopen] at h
          dsimp only at h
          rcases hencode : Utf8.encode t with cause | bytes
          · rw [hencode] at h
            cases h
          · have hclear := Utf8.exists_encode_eq_ok_iff.1 ⟨bytes, hencode⟩
            obtain rfl := Except.ok.inj ((Utf8.encode_eq_ok hclear).symm.trans hencode)
            rw [hencode] at h
            cases h
            exact ⟨hclear, directory, files, l, hpath, hmake, hopen, rfl⟩
    · rintro ⟨hclear, directory, files, l, hpath, hmake, hopen, hwritten⟩
      rw [Host.ensureOutputDir, hpath]
      dsimp only
      rw [hmake]
      dsimp only [Except.map]
      rw [Host.writeFile]
      dsimp only
      rw [hopen, Utf8.encode_eq_ok hclear, hwritten]

/-- A run whose text is not emitted ends with a failure. -/
theorem execute_of_not_emitted {entry : EntryPoint} {words : List Text} {host after : Host}
    {p : Prepared} {reached : List Signature}
    (h : prepare entry words (host.begin (activity entry)) = (.ok p, after))
    (hreached : Batch.reached p.tuning.failFast p.signatures = reached)
    (hnone : ¬ ∃ written, Emitted entry.origin p.arguments p.config (Batch.text reached)
      (recorded entry p reached after) written) :
    ∃ cause stopped, execute entry words host = (.raised cause, stopped) := by
  rcases hemit : emit entry.origin p.arguments p.config (Batch.text reached)
    (recorded entry p reached after) with ⟨e | ⟨⟩, stopped⟩
  · obtain ⟨cause, -, hexecute⟩ := execute_of_emit_error h hreached hemit
    exact ⟨cause, _, hexecute⟩
  · exact absurd ⟨stopped, emit_eq_ok_iff.1 hemit⟩ hnone

/-! ### Hosts with a signature file -/

/-- A host with a signature file of three functions, the second of which fails. -/
def threeFunctions : Host where
  files := { entries := [(["s.json"], .file ((("[\x7b\"name\":\"f\"\x7d," ++
    "\x7b\"name\":\"g\",\"parameters\":[\x7b\"name\":\"x\"," ++
    "\"default\":\x7b\"type\":\"integer\",\"value\":9223372036854775808\x7d\x7d]\x7d," ++
    "\x7b\"name\":\"h\"\x7d]" : String) : Text).map fun c ↦ UInt8.ofNat c.val))] }
  clock := ⟨2024, 1, 2, 3, 4, 5⟩

/-- The bytes of a signature file of one function of one parameter. -/
def describing (parameter : String) : List UInt8 :=
  Host.bytesOf ("[\x7b\"name\":\"f\",\"parameters\":[" ++ parameter ++ "]\x7d]")

/-- A parameter whose name holds a surrogate. -/
def surrogateName : String := "\x7b\"name\":\"m\\ud800\"\x7d"

/-- A host with a signature file of one function, and a parameter whose name holds a surrogate. -/
def onlySurrogate : Host := .untouched [(["s.json"], .file (describing surrogateName))] []

/-- The surrogate stops the run of the function, and leaves the output file empty. -/
theorem execute_onlySurrogate :
    ∃ stopped, execute {} ["s.json", "--function", "f"] onlySurrogate =
        (.raised (.unencodable ⟨12, 13, 0xD800⟩), stopped) ∧
      stopped.files.get? ["output", "s.params.cs"] = some (.file []) := by
  have hends : (fun result : Ending × Host ↦
      (result.1, result.2.files.get? ["output", "s.params.cs"]))
        (execute {} ["s.json", "--function", "f"] onlySurrogate) =
      (.raised (.unencodable ⟨12, 13, 0xD800⟩), some (.file [])) := by decide +kernel
  obtain ⟨hending, hempty⟩ := Prod.mk.inj hends
  exact ⟨_, Prod.ext hending rfl, hempty⟩

end Run

end SignatureBridge
