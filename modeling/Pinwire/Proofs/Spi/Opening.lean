import Pinwire.Proofs.Spi.Limit
import Pinwire.Spi.Bus

/-!
# Opening a device

All that opening a device can come to, call by call. An opening stops at the first call that fails,
and the calls before it have been made; a node that has been opened and refuses a setting is closed
again. As the host is arbitrary, a world that is reached by certain calls tells that these calls
have been made and no others.
-/

namespace Pinwire

namespace SpiDevice

variable {σ : Type} (host : SpiHost σ)

/-- What asking a process for its chunk limit comes to. -/
inductive Limited : SpiProcess σ → Except SpiError Nat → SpiProcess σ → Prop where
  | known (size : Nat) (world : σ) : Limited (⟨some size⟩, world) (.ok size) (⟨some size⟩, world)
  | unread {world reached : σ} {fault : Fault}
      (failed : host.readBufferSize world = (.error fault, reached)) :
      Limited (.unresolved, world) (.error (.bufferSizeUnread ChunkLimit.parameterPath fault))
        (.unresolved, reached)
  | invalid {world reached : σ} {text : String} {error : SpiError}
      (said : host.readBufferSize world = (.ok text, reached))
      (refused : ChunkLimit.parse text = .error error) :
      Limited (.unresolved, world) (.error error) (.unresolved, reached)
  | read {world reached : σ} {text : String} {size : Nat}
      (said : host.readBufferSize world = (.ok text, reached))
      (usable : ChunkLimit.parse text = .ok size) :
      Limited (.unresolved, world) (.ok size) (⟨some size⟩, reached)

/-- What giving settings to a descriptor comes to. -/
inductive Configured (settings : SpiSettings) (descriptor : Int) (world : σ) :
    Except SpiError Unit → σ → Prop where
  | modeRefused {reached : σ} {fault : Fault}
      (failed : host.setMode descriptor settings.mode.kernelWord world = (.error fault, reached)) :
      Configured settings descriptor world
        (.error (.modeRefused settings.device settings.mode.kernelWord fault)) reached
  | speedRefused {withMode reached : σ} {fault : Fault}
      (modeSet : host.setMode descriptor settings.mode.kernelWord world = (.ok (), withMode))
      (failed : host.setSpeed descriptor settings.speedHz withMode = (.error fault, reached)) :
      Configured settings descriptor world
        (.error (.speedRefused settings.device settings.speedHz fault)) reached
  | wordSizeRefused {withMode withSpeed reached : σ} {fault : Fault}
      (modeSet : host.setMode descriptor settings.mode.kernelWord world = (.ok (), withMode))
      (speedSet : host.setSpeed descriptor settings.speedHz withMode = (.ok (), withSpeed))
      (failed :
        host.setWordSize descriptor SetupNode.wordSize withSpeed = (.error fault, reached)) :
      Configured settings descriptor world
        (.error (.wordSizeRefused settings.device SetupNode.wordSize fault)) reached
  | taken {withMode withSpeed reached : σ}
      (modeSet : host.setMode descriptor settings.mode.kernelWord world = (.ok (), withMode))
      (speedSet : host.setSpeed descriptor settings.speedHz withMode = (.ok (), withSpeed))
      (sizeSet : host.setWordSize descriptor SetupNode.wordSize withSpeed = (.ok (), reached)) :
      Configured settings descriptor world (.ok ()) reached

/-- What opening a device with some settings comes to. -/
inductive Opening (settings : SpiSettings) (process : SpiProcess σ) :
    Except SpiError SpiDevice → SpiProcess σ → Prop where
  /-- Nothing is asked of the host. -/
  | unnamed (nameless : settings.device = "") :
      Opening settings process (.error .deviceUnnamed) process
  /-- The node is not opened. -/
  | unlimited {error : SpiError} {reached : SpiProcess σ} (named : settings.device ≠ "")
      (limited : Limited host process (.error error) reached) :
      Opening settings process (.error error) reached
  | unopened {limit : ChunkLimit} {size : Nat} {world reached : σ} {fault : Fault}
      (named : settings.device ≠ "") (limited : Limited host process (.ok size) (limit, world))
      (failed : host.openNode settings.device world = (.error fault, reached)) :
      Opening settings process (.error (.openFailed settings.device fault)) (limit, reached)
  /-- The node is closed again, once. -/
  | refused {limit : ChunkLimit} {size : Nat} {descriptor : Int} {world taken reached : σ}
      {error : SpiError} (named : settings.device ≠ "")
      (limited : Limited host process (.ok size) (limit, world))
      (granted : host.openNode settings.device world = (.ok descriptor, taken))
      (configured : Configured host settings descriptor taken (.error error) reached) :
      Opening settings process (.error error) (limit, (host.close descriptor reached).2)
  | opened {limit : ChunkLimit} {size : Nat} {descriptor : Int} {world taken reached : σ}
      (named : settings.device ≠ "") (limited : Limited host process (.ok size) (limit, world))
      (granted : host.openNode settings.device world = (.ok descriptor, taken))
      (configured : Configured host settings descriptor taken (.ok ()) reached) :
      Opening settings process (.ok ⟨descriptor, size⟩) (limit, reached)

theorem limited_processLimit (process : SpiProcess σ) :
    Limited host process ((processLimit host).run process).answer
      ((processLimit host).run process).state := by
  rcases process with ⟨⟨_ | size⟩, world⟩
  · rcases read : host.readBufferSize world with ⟨fault | text, reached⟩
    · have failed : (Program.act (SpiError.bufferSizeUnread ChunkLimit.parameterPath)
          host.readBufferSize).run world =
          ⟨.error (.bufferSizeUnread ChunkLimit.parameterPath fault), reached, []⟩ :=
        Program.run_act_of_error _ read
      rw [processLimit, show (⟨none⟩ : ChunkLimit) = .unresolved from rfl,
        ChunkLimit.run_resolve_of_error (ChunkLimit.run_readSize_of_unread failed)]
      exact .unread read
    · have said : (Program.act (SpiError.bufferSizeUnread ChunkLimit.parameterPath)
          host.readBufferSize).run world = ⟨.ok text, reached, []⟩ := Program.run_act_of_ok _ read
      rw [processLimit, show (⟨none⟩ : ChunkLimit) = .unresolved from rfl]
      rcases parsed : ChunkLimit.parse text with error | size
      · rw [ChunkLimit.run_resolve_of_error (ChunkLimit.run_readSize_of_invalid said parsed)]
        exact .invalid read parsed
      · rw [ChunkLimit.run_resolve_of_ok (ChunkLimit.run_readSize_of_valid said parsed)]
        exact .read read parsed
  · exact .known size world

theorem configured_applySettings (settings : SpiSettings) (descriptor : Int) (world : σ) :
    let outcome := ((setupNode host descriptor).applySettings settings).run world
    Configured host settings descriptor world outcome.answer outcome.state := by
  simp only [SetupNode.applySettings, setupNode]
  rcases mode : host.setMode descriptor settings.mode.kernelWord world with ⟨fault | ⟨⟩, withMode⟩
  · rw [Program.run_act_bind_of_error mode]
    exact .modeRefused mode
  rw [Program.run_act_bind_of_ok mode]
  rcases speed : host.setSpeed descriptor settings.speedHz withMode with ⟨fault | ⟨⟩, withSpeed⟩
  · rw [Program.run_act_bind_of_error speed]
    exact .speedRefused mode speed
  rw [Program.run_act_bind_of_ok speed]
  rcases size : host.setWordSize descriptor SetupNode.wordSize withSpeed with ⟨fault | ⟨⟩, reached⟩
  · rw [Program.run_act_of_error _ size]
    exact .wordSizeRefused mode speed size
  · rw [Program.run_act_of_ok _ size]
    exact .taken mode speed size

/-- A node that is opened and refuses a setting is given up. -/
theorem openNode_cases (settings : SpiSettings) (world : σ) :
    let outcome := (openNode host settings).run world
    (∃ fault, host.openNode settings.device world = (.error fault, outcome.state) ∧
      outcome.answer = .error (.openFailed settings.device fault)) ∨
    ∃ descriptor taken, host.openNode settings.device world = (.ok descriptor, taken) ∧
      ((∃ error reached, Configured host settings descriptor taken (.error error) reached ∧
        outcome.answer = .error error ∧ outcome.state = (host.close descriptor reached).2) ∨
      (Configured host settings descriptor taken (.ok ()) outcome.state ∧
        outcome.answer = .ok descriptor)) := by
  simp only [openNode, Program.run_record_bind]
  rcases opened : host.openNode settings.device world with ⟨fault | descriptor, taken⟩
  · rw [Program.run_act_bind_of_error opened]
    exact .inl ⟨fault, rfl, rfl⟩
  rw [Program.run_act_bind_of_ok opened]
  refine .inr ⟨descriptor, taken, rfl, ?_⟩
  have configured := configured_applySettings host settings descriptor taken
  rcases given : ((setupNode host descriptor).applySettings settings).run taken with
    ⟨error | ⟨⟩, reached, journal⟩
  · rw [given] at configured
    have refused : ((setupNode host descriptor).configure settings).run taken =
        ⟨.error error, (host.close descriptor reached).2, journal⟩ :=
      Program.run_undoing_of_error given
    rw [Program.run_bind_of_error refused]
    exact .inl ⟨error, reached, configured, rfl, rfl⟩
  · rw [given] at configured
    have accepted : ((setupNode host descriptor).configure settings).run taken =
        ⟨.ok (), reached, journal⟩ := Program.run_undoing_of_ok given
    rw [Program.run_bind_of_ok accepted]
    exact .inr ⟨configured, rfl⟩

theorem opening_acquire (settings : SpiSettings) (process : SpiProcess σ) :
    let outcome := (acquire host settings).run process
    Opening host settings process outcome.answer outcome.state := by
  unfold acquire
  split
  · exact .unnamed ‹_›
  have limited := limited_processLimit host process
  rcases asked : (processLimit host).run process with ⟨error | size, ⟨limit, world⟩, journal⟩
  · rw [asked] at limited
    rw [Program.run_bind_of_error asked]
    exact .unlimited ‹_› limited
  rw [asked] at limited
  rw [Program.run_bind_of_ok asked]
  have cases := openNode_cases host settings world
  rcases opening : (openNode host settings).run world with ⟨answer, reached, noted⟩
  rw [opening] at cases
  have ran : (SpiProcess.onHost (openNode host settings)).run (limit, world) =
      ⟨answer, (limit, reached), noted⟩ := by
    rw [SpiProcess.onHost, Program.run_within, opening]
  rcases cases with ⟨fault, failed, rfl⟩ | ⟨descriptor, taken, granted,
    ⟨error, refused, configured, rfl, rfl⟩ | ⟨configured, rfl⟩⟩
  · rw [Program.run_bind_of_error ran]
    exact .unopened ‹_› limited failed
  · rw [Program.run_bind_of_error ran]
    exact .refused ‹_› limited granted configured
  · rw [Program.run_bind_of_ok ran]
    exact .opened ‹_› limited granted configured

section Cases

variable {host} {settings : SpiSettings} {process reached : SpiProcess σ}

theorem Opening.named_of_opened {device : SpiDevice}
    (opening : Opening host settings process (.ok device) reached) : settings.device ≠ "" := by
  cases opening with
  | opened named => exact named

/-- A limit that is not known and cannot be read takes one reading to find out. -/
theorem Limited.of_unreadable {answer : Except SpiError Nat}
    (limited : Limited host process answer reached) (unknown : process.1 = .unresolved)
    (unreadable : ∀ text size, (host.readBufferSize process.2).1 = .ok text →
      ChunkLimit.parse text ≠ .ok size) :
    (∃ error, answer = .error error) ∧
      reached = (.unresolved, (host.readBufferSize process.2).2) := by
  cases limited with
  | known size world => cases unknown
  | unread failed => exact ⟨⟨_, rfl⟩, by rw [failed]⟩
  | invalid said refused => exact ⟨⟨_, rfl⟩, by rw [said]⟩
  | read said usable => exact absurd usable (unreadable _ _ (by rw [said]))

/-- The node is not opened if the limit is not known and cannot be read. -/
theorem Opening.of_unreadable {answer : Except SpiError SpiDevice}
    (opening : Opening host settings process answer reached) (named : settings.device ≠ "")
    (unknown : process.1 = .unresolved)
    (unreadable : ∀ text size, (host.readBufferSize process.2).1 = .ok text →
      ChunkLimit.parse text ≠ .ok size) :
    (∃ error, answer = .error error) ∧
      reached = (.unresolved, (host.readBufferSize process.2).2) := by
  cases opening with
  | unnamed nameless => exact absurd nameless named
  | unlimited _ limited => exact ⟨⟨_, rfl⟩, (limited.of_unreadable unknown unreadable).2⟩
  | unopened _ limited | refused _ limited | opened _ limited =>
      rcases (limited.of_unreadable unknown unreadable).1 with ⟨error, impossible⟩
      cases impossible

end Cases

end SpiDevice

end Pinwire
