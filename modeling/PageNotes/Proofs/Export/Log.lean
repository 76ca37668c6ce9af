import PageNotes.Proofs.Export.Pages
import PageNotes.Proofs.Report.Progress

/-!
The log of an export. What an export logs is about its page, so it has no lines about progress.

* `Converter.run_channels`: a conversion logs on its channel and the channels below;
* `Exporter.exportFile_sameProgress`: an export adds no line about progress to the log.
-/

namespace PageNotes

open Session (SameProgress)

/-! ### Channels -/

/-- A channel below another has a point in its name, and the main channel has none. -/
lemma subchannel_ne_main (channel name : String) : subchannel channel name ≠ mainChannel := by
  intro h
  have hpoint : '.' ∈ (subchannel channel name).toList := by
    simp [subchannel]
  rw [h] at hpoint
  revert hpoint
  decide

lemma mem_entriesOf {level : Level} {channel : String} {messages : List String} {entry : LogEntry}
    (h : entry ∈ entriesOf level channel messages) : entry.channel = channel := by
  obtain ⟨message, -, rfl⟩ := List.mem_map.mp h
  rfl

/-- A conversion logs on its channel and the channels below. -/
lemma Converter.run_channels (c : Converter) (channel : String) (source : Path) (html : Text) :
    ∀ entry ∈ (c.run channel source html).2,
      entry.channel = channel ∨ ∃ name, entry.channel = subchannel channel name := by
  have here : ∀ {level messages entry}, entry ∈ entriesOf level channel messages →
      entry.channel = channel ∨ ∃ name, entry.channel = subchannel channel name :=
    fun h => Or.inl (mem_entriesOf h)
  have below : ∀ {level messages entry} name,
      entry ∈ entriesOf level (subchannel channel name) messages →
        entry.channel = channel ∨ ∃ name, entry.channel = subchannel channel name :=
    fun name h => Or.inr ⟨name, mem_entriesOf h⟩
  rw [run]
  dsimp only
  split
  · exact fun entry h => here h
  · split
    · intro entry h
      simp only [List.mem_append] at h
      rcases h with ((h | h) | h) | h
      · exact here h
      all_goals exact below _ h
    · split
      · intro entry h
        simp only [List.mem_append] at h
        rcases h with ((((h | h) | h) | h) | h) | h
        · exact here h
        all_goals exact below _ h
      · intro entry h
        simp only [List.mem_append] at h
        rcases h with ((((((h | h) | h) | h) | h) | h) | h) | h
        · exact here h
        all_goals first
          | exact below _ h
          | exact here h

variable {s : Session}

/-- A message that starts with another letter is no line about progress. -/
lemma log_sameProgress (s : Session) (level : Level) (channel : String) {message : String}
    {c : Char} (h : message.toList.head? = some c) (hc : c ≠ 'P') :
    SameProgress s (s.log level channel message) :=
  Session.write_sameProgress s (LogEntry.isProgress_head h hc)

namespace FileStore

variable (store : FileStore)

lemma ensureDirectory_sameProgress (s : Session) (p : Path) :
    SameProgress s (ensureDirectory s p).2 :=
  ⟨rfl, rfl⟩

lemma save_sameProgress (s : Session) (p : Path) (content : Text) :
    SameProgress s (store.save s p content).2 := by
  have hmade := ensureDirectory_sameProgress s p.parent
  rw [save]
  generalize ensureDirectory s p.parent = made at hmade
  obtain ⟨result, s₁⟩ := made
  cases result with
  | error e => exact hmade
  | ok =>
      dsimp only
      split
      · exact hmade
      · split
        · exact hmade.trans ⟨rfl, rfl⟩
        · split <;> exact hmade.trans ⟨rfl, rfl⟩

lemma writeOutput_sameProgress (s : Session) (p : Path) (content : Text) :
    SameProgress s (store.writeOutput s p content).2 := by
  have hsave := store.save_sameProgress s p content
  rw [writeOutput]
  generalize store.save s p content = saved at hsave
  obtain ⟨result, s₁⟩ := saved
  cases result with
  | ok => exact hsave
  | error cause =>
      cases cause with
      | unwritable path cause =>
          have hmessage : (StoreError.unwritable path cause).message.toList.head? = some 'E' := by
            change (s!"Error writing file {path}: {cause.message}").toList.head? = _
            simp [toString_text]
          exact hsave.trans (log_sameProgress s₁ _ _ hmessage (by decide))
      | noDirectory | unreadable | undecodable | unencodable | disk => exact hsave

lemma copyAsset_sameProgress (s : Session) (source directory : Path) (name : Option Text) :
    SameProgress s (store.copyAsset s source directory name).2 := by
  have hmade := ensureDirectory_sameProgress s (copyTarget source directory name).parent
  have hlogged : ∀ (s₁ : Session) (e : DiskError), SameProgress s s₁ →
      SameProgress s (s₁.log .error store.channel
        s!"Error copying file {source}: {e.message}") := by
    intro s₁ e h
    have hmessage : (s!"Error copying file {source}: {e.message}").toList.head? = some 'E' := by
      simp [toString_text]
    exact h.trans (log_sameProgress s₁ _ _ hmessage (by decide))
  rw [copyAsset]
  generalize ensureDirectory s (copyTarget source directory name).parent = made at hmade
  obtain ⟨result, s₁⟩ := made
  cases result with
  | error e =>
      cases e with
      | nullCharacter => exact hmade
      | refused | sameFile => exact hlogged s₁ _ hmade
  | ok =>
      dsimp only
      cases s₁.volume.copy source (copyTarget source directory name) with
      | error e =>
          cases e with
          | nullCharacter => exact hmade
          | refused | sameFile => exact hlogged s₁ _ hmade
      | ok v =>
          have hmessage : (s!"Copied: {source} -> {copyTarget source directory name}").toList.head?
              = some 'C' := by
            simp [toString_text]
          have hcopied : SameProgress s (onVolume s₁ v) := hmade.trans ⟨rfl, rfl⟩
          exact hcopied.trans (log_sameProgress (onVolume s₁ v) _ _ hmessage (by decide))

end FileStore

namespace Exporter

variable (e : Exporter)

lemma copyAssets_sameProgress (s : Session) (assets : List Asset) :
    SameProgress s (e.copyAssets s assets).2 := by
  induction assets generalizing s with
  | nil => exact .refl s
  | cons a rest ih =>
      have hfirst := e.store.copyAsset_sameProgress s a.resolved e.imageFolder (some a.fileName)
      rw [copyAssets]
      generalize e.store.copyAsset s a.resolved e.imageFolder (some a.fileName) = first at hfirst
      obtain ⟨result, s₁⟩ := first
      have hrest := ih s₁
      cases result with
      | error cause => exact hfirst
      | ok copied =>
          dsimp only
          generalize e.copyAssets s₁ rest = more at hrest
          obtain ⟨result, s₂⟩ := more
          cases result with
          | error cause => exact hfirst.trans hrest
          | ok counts =>
              dsimp only
              split <;> exact hfirst.trans hrest

lemma deliver_sameProgress (s : Session) (c : Conversion) :
    SameProgress s (e.deliver s c).2 := by
  have hcopies := e.copyAssets_sameProgress s c.assets
  rw [deliver]
  generalize e.copyAssets s c.assets = copies at hcopies
  obtain ⟨result, s₁⟩ := copies
  cases result with
  | error cause => exact hcopies
  | ok copied =>
      dsimp only
      have hwrite := e.store.writeOutput_sameProgress s₁ (e.outputPath s₁.workingPath c.source)
        c.note.text
      generalize e.store.writeOutput s₁ (e.outputPath s₁.workingPath c.source) c.note.text
        = written at hwrite
      obtain ⟨result, s₂⟩ := written
      have hboth := hcopies.trans hwrite
      cases result with
      | error cause => exact hboth
      | ok made =>
          cases made with
          | false => exact hboth
          | true =>
              have hmessage : ∀ output : Path,
                  (s!"Converted {c.source} to {output}").toList.head? = some 'C' := by
                simp [toString_text]
              exact hboth.trans (log_sameProgress s₂ _ _ (hmessage _) (by decide))

/-- An export adds no line about progress to the log. -/
theorem exportFile_sameProgress (s : Session) (source : Path) :
    SameProgress s (e.exportFile s source).2 := by
  rw [exportFile]
  cases e.store.load s.volume source.toText with
  | error cause =>
      cases cause with
      | unreadable path cause =>
          have hmessage : (StoreError.unreadable path cause).message.toList.head? = some 'E' := by
            change (s!"Error reading file {String.ofList path}: {cause.message}").toList.head? = _
            simp [toString_text]
          exact log_sameProgress s _ _ hmessage (by decide)
      | undecodable path cause =>
          have hmessage : (StoreError.undecodable path cause).message.toList.head? = some 'E' := by
            change (s!"Error reading file {String.ofList path}: {cause.message}").toList.head? = _
            simp [toString_text]
          exact log_sameProgress s _ _ hmessage (by decide)
      | noDirectory | unwritable | unencodable | disk => exact .refl s
  | ok html =>
      dsimp only
      have hchannels := (e.converter s).run_channels (subchannel e.channel "converter") source html
      generalize (e.converter s).run (subchannel e.channel "converter") source html = converted
        at hchannels
      obtain ⟨result, entries⟩ := converted
      have hentries : SameProgress s (s.writeAll entries) := by
        refine Session.writeAll_sameProgress s fun entry hentry => ?_
        rcases hchannels entry hentry with h | ⟨name, h⟩
        · exact LogEntry.isProgress_channel (h ▸ subchannel_ne_main _ _)
        · exact LogEntry.isProgress_channel (h ▸ subchannel_ne_main _ _)
      cases result with
      | error cause =>
          have hmessage : (s!"Conversion failed for {source}: {cause.message}").toList.head?
              = some 'C' := by
            simp [toString_text]
          exact hentries.trans (log_sameProgress _ _ _ hmessage (by decide))
      | ok c => exact hentries.trans (e.deliver_sameProgress _ _)

end Exporter

end PageNotes
