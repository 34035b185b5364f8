import SignatureBridge.Host.Logging
import SignatureBridge.Proofs.Reflection.Encoding
import SignatureBridge.Proofs.Storage.Agreement

/-!
# What records leave behind

Where a record goes is settled by the routing of the host: the console shows it on the output
stream, and each log file gets a line of it under the time of the record. A text that holds a
surrogate is neither shown nor written. `Routing.shown` and `Routing.logged` say this of one record.

`Host.Gains` says that from one host to another a text has come to the output stream and bytes to
the files, and that nothing else has changed but the error stream. Gains add up (`Gains.trans`), so
that what a channel does with a record (`gains_deliver`) carries over to all channels
(`gains_deliverAll`) and to any number of records (`reports_logAll`).
-/

namespace SignatureBridge

open Journal

namespace Journal

/-- What a channel shows of a record on the output stream. -/
def Channel.shown (r : Record) : Channel → Text
  | .console least =>
    if r.level.reaches least && !(r.brief ++ [10]).hasSurrogate then r.brief ++ [10] else []
  | .file _ => []

/-- What a channel writes of a record at a location. -/
def Channel.logged (stamp : Text) (r : Record) (l : Location) : Channel → List UInt8
  | .console _ => []
  | .file k =>
    if k = l ∧ (r.full stamp ++ [10]).hasSurrogate = false then
      (r.full stamp ++ [10]).flatMap Utf8.encodePoint
    else []

namespace Routing

variable (routing : Routing)

/-- The channels that a record goes to, which are none if it does not weigh enough. -/
def channelsOf (r : Record) : List Channel :=
  if r.level.reaches routing.least then routing.channels else []

/-- What is shown of a record on the output stream. -/
def shown (r : Record) : Text := (routing.channelsOf r).flatMap (Channel.shown r)

/-- What is written of a record to the file at a location. -/
def logged (stamp : Text) (l : Location) (r : Record) : List UInt8 :=
  (routing.channelsOf r).flatMap (Channel.logged stamp r l)

variable {routing}

/-- Nothing is written to a file that is no log file. -/
theorem logged_eq_nil {l : Location} (h : .file l ∉ routing.channels) (stamp : Text) (r : Record) :
    routing.logged stamp l r = [] := by
  rw [logged, List.flatMap_eq_nil_iff]
  intro channel hchannel
  cases channel with
  | console least => rfl
  | file k =>
    refine if_neg fun hk ↦ h ?_
    rw [channelsOf] at hchannel
    split at hchannel
    · exact hk.1 ▸ hchannel
    · exact absurd hchannel List.not_mem_nil

end Routing

end Journal

namespace Host

/-- The second host has the working directory, the environment, the clock and the routing of the
first. -/
structure SameSetting (host after : Host) : Prop where
  workingDirectory : after.workingDirectory = host.workingDirectory
  environment : after.environment = host.environment
  clock : after.clock = host.clock
  routing : after.routing = host.routing

namespace SameSetting

theorem refl (host : Host) : host.SameSetting host := ⟨rfl, rfl, rfl, rfl⟩

theorem trans {host between after : Host} (h : host.SameSetting between)
    (h' : between.SameSetting after) : host.SameSetting after :=
  ⟨h'.workingDirectory.trans h.workingDirectory, h'.environment.trans h.environment,
    h'.clock.trans h.clock, h'.routing.trans h.routing⟩

end SameSetting

/-- From the first host to the second, a text has come to the output stream and bytes have come to
the files at locations. A file to which none have come is as before, and so is everything else but
the error stream. -/
structure Gains (shown : Text) (logged : Location → List UInt8) (host after : Host) : Prop where
  sameSetting : host.SameSetting after
  output : after.output = host.output ++ shown
  bytesAt : ∀ l ≠ [], after.files.bytesAt l = host.files.bytesAt l ++ logged l
  unchanged : ∀ l, logged l = [] → after.files.get? l = host.files.get? l

/-- From the first host to the second, records have been reported. Nothing else has changed but the
error stream. -/
def Reports (records : List Record) (host after : Host) : Prop :=
  Gains (records.flatMap host.routing.shown)
    (fun l ↦ records.flatMap (host.routing.logged host.clock.stamp l)) host after

variable {host between after : Host}

namespace Gains

variable {shown shown' : Text} {logged logged' : Location → List UInt8}

theorem of_same (hsame : host.SameSetting after) (hfiles : after.files = host.files)
    (houtput : after.output = host.output) : Gains [] (fun _ ↦ []) host after where
  sameSetting := hsame
  output := by rw [houtput, List.append_nil]
  bytesAt l _ := by rw [hfiles, List.append_nil]
  unchanged l _ := by rw [hfiles]

theorem refl (host : Host) : Gains [] (fun _ ↦ []) host host := of_same (.refl host) rfl rfl

theorem trans (h : Gains shown logged host between) (h' : Gains shown' logged' between after) :
    Gains (shown ++ shown') (fun l ↦ logged l ++ logged' l) host after where
  sameSetting := h.sameSetting.trans h'.sameSetting
  output := by rw [h'.output, h.output, List.append_assoc]
  bytesAt l hl := by rw [h'.bytesAt l hl, h.bytesAt l hl, List.append_assoc]
  unchanged l hl := by
    obtain ⟨hfirst, hsecond⟩ := List.append_eq_nil_iff.1 hl
    rw [h'.unchanged l hsecond, h.unchanged l hfirst]

/-- What is in a file stays there. -/
theorem grows (h : Gains shown logged host after) : host.files.Grows after.files := by
  intro l bytes hl
  refine ⟨logged l, ?_⟩
  rcases eq_or_ne (logged l) [] with hnone | hsome
  · rw [h.unchanged l hnone, hl, hnone, List.append_nil]
  · have hroot : l ≠ [] := by
      rintro rfl
      exact absurd hl (by simp [FileSystem.get?])
    have hbytes := h.bytesAt l hroot
    rw [FileSystem.bytesAt, FileSystem.bytesAt, hl] at hbytes
    -- only a file can hold bytes
    rcases hafter : after.files.get? l with - | - | more
    · rw [hafter] at hbytes
      exact absurd hbytes (by simp [hsome])
    · rw [hafter] at hbytes
      exact absurd hbytes (by simp [hsome])
    · rw [hafter] at hbytes
      rw [show more = bytes ++ logged l from hbytes]

end Gains

/-! ### A record -/

theorem gains_appendAt (host : Host) (k : Location) {bytes : List UInt8} (hne : bytes ≠ []) :
    Gains [] (fun l ↦ if k = l then bytes else []) host
      { host with files := host.files.appendAt k bytes } where
  sameSetting := ⟨rfl, rfl, rfl, rfl⟩
  output := (List.append_nil host.output).symm
  bytesAt l hl := by
    by_cases hk : k = l
    · subst hk
      rw [FileSystem.bytesAt_appendAt host.files hl, if_pos rfl]
    · rw [FileSystem.bytesAt, FileSystem.appendAt,
        FileSystem.get?_put_of_ne host.files (Ne.symm hk), if_neg hk, List.append_nil,
        FileSystem.bytesAt]
  unchanged l hl := by
    have hk : l ≠ k := fun hlk ↦ hne ((if_pos hlk.symm).symm.trans hl)
    exact FileSystem.get?_put_of_ne host.files hk _

/-- A channel gets what it shows and writes of a record. -/
theorem gains_deliver (r : Record) (host : Host) (channel : Channel) :
    Gains (channel.shown r) (fun l ↦ channel.logged host.clock.stamp r l) host
      (host.deliver r channel) := by
  cases channel with
  | console least =>
    rw [deliver, Channel.shown, print]
    rcases hlevel : r.level.reaches least with - | -
    · exact .refl host
    · rcases hprint : Utf8.surrogates? (r.brief ++ [10]) with - | cause
      · rw [Utf8.surrogates?_eq_none_iff.1 hprint]
        exact ⟨⟨rfl, rfl, rfl, rfl⟩, rfl, fun _ _ ↦ (List.append_nil _).symm, fun _ _ ↦ rfl⟩
      · have hheld : (r.brief ++ [10]).hasSurrogate = true := by
          rw [← Bool.not_eq_false, ← Utf8.surrogates?_eq_none_iff, hprint]
          exact Option.some_ne_none cause
        rw [hheld]
        exact .of_same ⟨rfl, rfl, rfl, rfl⟩ rfl rfl
  | file k =>
    rw [deliver]
    simp only [Channel.shown, Channel.logged]
    rcases hencode : Utf8.encode (r.full host.clock.stamp ++ [10]) with cause | bytes
    · have hheld : ¬(r.full host.clock.stamp ++ [10]).hasSurrogate = false := fun hclear ↦ by
        obtain ⟨bytes, hok⟩ := Utf8.exists_encode_eq_ok_iff.2 hclear
        cases hencode.symm.trans hok
      simp only [if_neg fun h : _ ∧ _ ↦ hheld h.2]
      exact .of_same ⟨rfl, rfl, rfl, rfl⟩ rfl rfl
    · have hclear := Utf8.exists_encode_eq_ok_iff.1 ⟨bytes, hencode⟩
      obtain rfl := Except.ok.inj ((Utf8.encode_eq_ok hclear).symm.trans hencode)
      simp only [hclear, and_true]
      refine gains_appendAt host k ?_
      rw [List.flatMap_append]
      exact List.append_ne_nil_of_right_ne_nil _ (by decide)

theorem gains_deliverAll (r : Record) (channels : List Channel) :
    ∀ host : Host, Gains (channels.flatMap (Channel.shown r))
      (fun l ↦ channels.flatMap (Channel.logged host.clock.stamp r l)) host
      (channels.foldl (deliver r) host) := by
  induction channels with
  | nil => exact .refl
  | cons channel channels ih =>
    intro host
    have hfirst := gains_deliver r host channel
    have hrest := ih (host.deliver r channel)
    rw [hfirst.sameSetting.clock] at hrest
    exact hfirst.trans hrest

/-! ### Reports -/

namespace Reports

variable {records more : List Record}

theorem refl (host : Host) : Reports [] host host := Gains.refl host

theorem trans (h : Reports records host between) (h' : Reports more between after) :
    Reports (records ++ more) host after := by
  rw [Reports, h.sameSetting.clock, h.sameSetting.routing] at h'
  simpa only [Reports, List.flatMap_append] using Gains.trans h h'

theorem complain (h : Reports records host after) (t : Text) :
    Reports records host (after.complain t) := by
  have hsilent : Reports [] after (after.complain t) :=
    Gains.of_same ⟨rfl, rfl, rfl, rfl⟩ rfl rfl
  simpa only [List.append_nil] using h.trans hsilent

theorem grows (h : Reports records host after) : host.files.Grows after.files := Gains.grows h

theorem get?_of_not_mem (h : Reports records host after) {l : Location}
    (hl : .file l ∉ host.routing.channels) : after.files.get? l = host.files.get? l :=
  h.unchanged l (List.flatMap_eq_nil_iff.2 fun r _ ↦ Routing.logged_eq_nil hl _ r)

end Reports

/-- **A record is reported** as the routing has it. -/
theorem reports_log (r : Record) (host : Host) : Reports [r] host (host.log r) := by
  rw [Reports]
  simp only [List.flatMap_singleton, Routing.shown, Routing.logged, Routing.channelsOf]
  rw [log]
  by_cases hlevel : r.level.reaches host.routing.least = true
  · simp only [if_pos hlevel]
    rcases hchannels : host.routing.channels with - | ⟨channel, channels⟩
    · dsimp only
      split
      · exact .of_same ⟨rfl, rfl, rfl, rfl⟩ rfl rfl
      · exact .refl host
    · exact gains_deliverAll r (channel :: channels) host
  · simp only [if_neg hlevel]
    exact .refl host

theorem reports_logAll (records : List Record) :
    ∀ host : Host, Reports records host (host.logAll records) := by
  induction records with
  | nil => exact .refl
  | cons r records ih => exact fun host ↦ (reports_log r host).trans (ih (host.log r))

end Host

end SignatureBridge
