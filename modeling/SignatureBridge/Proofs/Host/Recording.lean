import SignatureBridge.Proofs.Host.Reports

/-!
# What recording keeps

A record ends up on the two streams and in log files, and nowhere else. So recording keeps all that
later steps look at besides files and streams (`sameSetting_logAll`), of the files it touches those
alone that a channel belongs to (`agreeOff_logAll`), and what is in these stays at their beginning
(`grows_logAll`). All of this is read off from `reports_logAll`.

A path that avoids every log file is found as before (`probe_logAll`). This is proved channel by
channel (`log_keeps`), since each time only one location may differ.
-/

namespace SignatureBridge

open Journal

namespace Host

/-! ### Settings and other files -/

theorem sameSetting_log (r : Record) (host : Host) : host.SameSetting (host.log r) :=
  (reports_log r host).sameSetting

theorem sameSetting_logAll (records : List Record) (host : Host) :
    host.SameSetting (host.logAll records) :=
  (reports_logAll records host).sameSetting

theorem logAll_append (records more : List Record) (host : Host) :
    host.logAll (records ++ more) = (host.logAll records).logAll more :=
  List.foldl_append

/-- Where every log file is at one location, recording changes no file elsewhere. -/
theorem agreeOff_logAll {l : Location} (records : List Record) {host : Host}
    (hl : ∀ k, .file k ∈ host.routing.channels → k = l) :
    FileSystem.AgreeOff l host.files (host.logAll records).files := fun k hk ↦
  ((reports_logAll records host).get?_of_not_mem fun hmem ↦ hk (hl k hmem)).symm

/-- Where no channel belongs to a file, recording changes none. -/
theorem get?_logAll_of_no_file {host : Host} (h : ∀ k, .file k ∉ host.routing.channels)
    (records : List Record) (k : Location) :
    (host.logAll records).files.get? k = host.files.get? k :=
  (reports_logAll records host).get?_of_not_mem (h k)

/-- Recording leaves in files what is there. -/
theorem grows_logAll (records : List Record) (host : Host) :
    host.files.Grows (host.logAll records).files :=
  (reports_logAll records host).grows

/-! ### Paths that avoid the log files -/

/-- The console changes no file. -/
theorem files_deliver_console (r : Record) (host : Host) (least : Level) :
    (host.deliver r (.console least)).files = host.files := by
  rw [deliver, print]
  cases r.level.reaches least with
  | false => rfl
  | true => cases Utf8.surrogates? (r.brief ++ [10]) <;> rfl

/-- A channel to a file changes no other file. -/
theorem agreeOff_deliver_file (r : Record) (host : Host) (l : Location) :
    FileSystem.AgreeOff l host.files (host.deliver r (.file l)).files := fun k hk ↦
  ((gains_deliver r host (.file l)).unchanged k (if_neg fun h ↦ hk h.1.symm)).symm

/-- What complaining keeps and what delivering to the channels keeps, recording keeps. -/
theorem log_keeps {P : Host → Prop} {host : Host} (r : Record) (h : P host)
    (hcomplain : ∀ (after : Host) (report : Text), P after → P (after.complain report))
    (hdeliver : ∀ channel ∈ host.routing.channels, ∀ after : Host, P after →
      P (after.deliver r channel)) : P (host.log r) := by
  have hfold : ∀ channels : List Channel,
      (∀ channel ∈ channels, ∀ after : Host, P after → P (after.deliver r channel)) →
        ∀ after : Host, P after → P (channels.foldl (deliver r) after) := by
    intro channels
    induction channels with
    | nil => exact fun _ _ ↦ id
    | cons channel channels ih =>
      exact fun hkeeps after hafter ↦ ih
        (fun other hother ↦ hkeeps other (List.mem_cons_of_mem channel hother)) _
        (hkeeps channel List.mem_cons_self after hafter)
  rw [log]
  split
  · split
    · split
      · exact hcomplain host _ h
      · exact h
    · exact hfold _ hdeliver host h
  · exact h

/-- A path avoids every log file. -/
def LogsOff (host : Host) (p : FilePath) : Prop :=
  ∀ l, .file l ∈ host.routing.channels → p.Avoids host.workingDirectory l

/-- A path that avoids every log file finds after a record what it has found before. -/
theorem probe_log {host : Host} {p : FilePath} (h : host.LogsOff p) (r : Record) :
    (host.log r).files.probe host.workingDirectory p =
      host.files.probe host.workingDirectory p := by
  refine log_keeps (P := fun after ↦ after.files.probe host.workingDirectory p =
    host.files.probe host.workingDirectory p) r rfl (fun _ _ ↦ id) ?_
  intro channel hchannel after hafter
  rw [← hafter]
  cases channel with
  | console least => rw [files_deliver_console]
  | file l => exact ((agreeOff_deliver_file r after l).probe (h l hchannel)).symm

theorem probe_logAll {p : FilePath} (records : List Record) :
    ∀ {host : Host}, host.LogsOff p →
      (host.logAll records).files.probe host.workingDirectory p =
        host.files.probe host.workingDirectory p := by
  induction records with
  | nil => exact fun _ ↦ rfl
  | cons r records ih =>
    intro host h
    have hsame := host.sameSetting_log r
    have hrest := @ih (host.log r) (by rwa [LogsOff, hsame.routing, hsame.workingDirectory])
    rw [hsame.workingDirectory] at hrest
    exact hrest.trans (probe_log h r)

/-! ### Hosts on which nothing has happened -/

/-- A host on which nothing has happened, with files and variables. -/
def untouched (entries : List (Location × Entry)) (pairs : List (Text × Text)) : Host where
  files := { entries }
  environment := { pairs }
  clock := ⟨2024, 1, 2, 3, 4, 5⟩

/-- The bytes of a text of ASCII letters. -/
def bytesOf (t : String) : List UInt8 := (t : Text).map fun c ↦ UInt8.ofNat c.val

end Host

end SignatureBridge
