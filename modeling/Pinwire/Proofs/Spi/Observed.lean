import Pinwire.Proofs.Spi.Limit
import Pinwire.Proofs.Spi.Messages
import Pinwire.Proofs.Spi.Programs

/-!
# Observed devices

What a device asks of its host can be observed without getting in the way: the same calls reach the
same world, and beside them the mode words and the messages are listed, with the descriptors that
they were given to, and what the messages brought back. A transfer issues the first messages of its
schedule, each with one part for every chunk.
-/

namespace Pinwire

/-- A message as the kernel was given it. -/
structure KernelMessage where
  descriptor : Int
  parts : List Descriptor
  deriving Repr, DecidableEq

/-- A world together with the mode words and messages that the kernel was given in it, and with its
replies to those messages that it carried out. -/
structure Observed (σ : Type) where
  world : σ
  modes : List (Int × UInt32)
  messages : List KernelMessage
  replies : List (List (List UInt8))

/-- The same host, with lists of the mode words and messages it is given and of its replies. -/
def SpiHost.observed {σ : Type} (host : SpiHost σ) : SpiHost (Observed σ) where
  readBufferSize observed :=
    let (answer, world) := host.readBufferSize observed.world
    (answer, { observed with world })
  openNode path observed :=
    let (answer, world) := host.openNode path observed.world
    (answer, { observed with world })
  setMode descriptor word observed :=
    let (answer, world) := host.setMode descriptor word observed.world
    (answer, { observed with world, modes := observed.modes ++ [(descriptor, word)] })
  setSpeed descriptor speed observed :=
    let (answer, world) := host.setSpeed descriptor speed observed.world
    (answer, { observed with world })
  setWordSize descriptor size observed :=
    let (answer, world) := host.setWordSize descriptor size observed.world
    (answer, { observed with world })
  message descriptor parts observed :=
    let (answer, world) := host.message descriptor parts observed.world
    (answer, { observed with
      world
      messages := observed.messages ++ [⟨descriptor, parts⟩]
      replies := observed.replies ++ answer.toOption.toList })
  close descriptor observed :=
    let (answer, world) := host.close descriptor observed.world
    (answer, { observed with world })

/-- A host that accepts whatever it is given. Nothing but zeros comes back. -/
def SpiHost.quiet : SpiHost Unit where
  readBufferSize _ := (.ok "4096\n", ())
  openNode _ _ := (.ok 3, ())
  setMode _ _ _ := (.ok (), ())
  setSpeed _ _ _ := (.ok (), ())
  setWordSize _ _ _ := (.ok (), ())
  message _ parts _ := (.ok (parts.map fun part => List.replicate part.length.toNat 0), ())
  close _ _ := (.ok (), ())

namespace SpiDevice

variable {σ : Type} (host : SpiHost σ)

/-- The message that the kernel is given for some chunks. -/
def kernelMessage (descriptor : Int) (output : List UInt8) (chunks : List Chunk) : KernelMessage :=
  ⟨descriptor, chunks.map (describe output)⟩

theorem length_describe (output : List UInt8) {chunk : Chunk}
    (fits : chunk.length ≤ Bounds.unsigned32) :
    (describe output chunk).length.toNat = chunk.length := by
  refine UInt32.toNat_ofNat_of_lt' ?_
  rw [Bounds.unsigned32] at fits
  simp only [UInt32.size]
  omega

theorem messageParts_of_le (output : List UInt8) {chunks : List Chunk}
    (small : chunks.length ≤ Cursor.largestMessage) :
    messageParts output chunks = chunks.map (describe output) := by
  rw [messageParts, List.take_of_length_le small]

section Messages

variable {host} {descriptor : Int} {output : List UInt8} {chunks : List Chunk} {world reached : σ}

theorem message_sink_of_ok {replies : List (List UInt8)}
    (replied : host.message descriptor (messageParts output chunks) world =
      (.ok replies, reached)) (input : List UInt8) :
    (sink host descriptor).message chunks output input world =
      ((.ok (), storeReplies (messageParts output chunks) replies input), reached) := by
  simp only [sink, replied]

theorem message_sink_of_error {fault : Fault}
    (refused : host.message descriptor (messageParts output chunks) world =
      (.error fault, reached)) (input : List UInt8) :
    (sink host descriptor).message chunks output input world =
      ((.error fault, input), reached) := by
  simp only [sink, refused]

theorem message_observed {parts : List Descriptor} {observed : Observed σ}
    {answer : Except Fault (List (List UInt8))}
    (answered : host.message descriptor parts observed.world = (answer, reached)) :
    host.observed.message descriptor parts observed =
      (answer, ⟨reached, observed.modes, observed.messages ++ [⟨descriptor, parts⟩],
        observed.replies ++ answer.toOption.toList⟩) := by
  simp only [SpiHost.observed, answered]

end Messages

/-- What comes of a receive buffer when the replies to messages are stored in it, one message after
the other. -/
inductive Stored (output : List UInt8) :
    List (List Chunk) → List (List (List UInt8)) → List UInt8 → List UInt8 → Prop where
  | nothing (input : List UInt8) : Stored output [] [] input input
  | message {chunks : List Chunk} {messages : List (List Chunk)} {reply : List (List UInt8)}
      {replies : List (List (List UInt8))} {input received : List UInt8}
      (rest : Stored output messages replies
        (storeReplies (chunks.map (describe output)) reply input) received) :
      Stored output (chunks :: messages) (reply :: replies) input received

/-- Messages that are asked for in order are issued up to the first one that fails, and at least one
is issued if there are any. If none fails, all are issued and the replies to them are stored. -/
theorem messages_sendAll (descriptor : Int) (output : List UInt8) (messages : List (List Chunk))
    (input : List UInt8) (observed : Observed σ)
    (small : ∀ chunks ∈ messages, chunks.length ≤ Cursor.largestMessage) :
    let outcome := (Transfer.sendAll (sink host.observed descriptor) output messages input).run
      observed
    ∃ sent, sent <+: messages ∧ (messages ≠ [] → sent ≠ []) ∧
      outcome.state.messages = observed.messages ++ sent.map (kernelMessage descriptor output) ∧
      ∀ received, outcome.answer = .ok received → sent = messages ∧
        ∃ replies, outcome.state.replies = observed.replies ++ replies ∧
          Stored output messages replies input received := by
  -- A message that fails is the last one that is issued, but it is issued.
  induction messages generalizing input observed with
  | nil =>
      refine ⟨[], List.nil_prefix, id, (List.append_nil _).symm, ?_⟩
      intro received answered
      cases answered
      exact ⟨rfl, [], (List.append_nil _).symm, .nothing input⟩
  | cons chunks messages ih =>
      have whole := messageParts_of_le output (small chunks List.mem_cons_self)
      rcases answered : host.message descriptor (messageParts output chunks) observed.world with
        ⟨fault | reply, world⟩
      · rw [Transfer.run_sendAll_of_error (message_sink_of_error (message_observed answered) _),
          whole]
        exact ⟨[chunks], List.cons_prefix_cons.2 ⟨rfl, List.nil_prefix⟩, by simp, rfl, nofun⟩
      · rw [Transfer.run_sendAll_of_ok (message_sink_of_ok (message_observed answered) _), whole]
        rcases ih (storeReplies (chunks.map (describe output)) reply input)
          ⟨world, observed.modes,
            observed.messages ++ [kernelMessage descriptor output chunks],
            observed.replies ++ [reply]⟩
          (fun later member => small later (List.mem_cons_of_mem _ member)) with
          ⟨sent, first, _, issued, stored⟩
        refine ⟨chunks :: sent, List.cons_prefix_cons.2 ⟨rfl, first⟩, by simp, ?_, ?_⟩
        · exact issued.trans (List.append_assoc _ _ _)
        · intro received ending
          rcases stored received ending with ⟨rfl, replies, noted, rest⟩
          exact ⟨rfl, reply :: replies, noted.trans (List.append_assoc _ _ _), .message rest⟩

/-- The budget of a message of a device. -/
def budget (device : SpiDevice) (chunked : Bool) : Nat :=
  if chunked then device.chunkLimit else Transfer.unchunkedBudget

/-- A transfer issues messages of its schedule from the first one on, and none at all only if there
are none or the receive buffer is refused. If it answers, it has issued all of them. -/
theorem messages_transfer (memory : Memory) (device : SpiDevice) (output : Option (List UInt8))
    (inLength : Nat) (chunked : Bool) (observed : Observed σ) :
    let outcome := (device.transfer host.observed memory output inLength chunked).run observed
    let schedule := Cursor.schedule (output.getD []).length inLength (max (device.budget chunked) 1)
    ∃ sent, sent <+: schedule ∧
      (memory.reserve inLength 1 = .ok () → schedule ≠ [] → sent ≠ []) ∧
      outcome.state.messages =
        observed.messages ++ sent.map (kernelMessage device.descriptor (output.getD [])) ∧
      ∀ received, outcome.answer = .ok received → sent = schedule ∧
        ∃ replies, outcome.state.replies = observed.replies ++ replies ∧
          Stored (output.getD []) schedule replies (List.replicate inLength 0) received := by
  intro outcome schedule
  have sameTransfer : device.transfer host.observed memory output inLength chunked =
      Pinwire.transfer memory (sink host.observed device.descriptor) output inLength
        (device.budget chunked) := rfl
  simp only [outcome, sameTransfer]
  rcases reserved : memory.reserve inLength 1 with cause | ⟨⟩
  · rw [transfer_of_refused _ _ _ _ _ reserved]
    exact ⟨[], List.nil_prefix, nofun, (List.append_nil _).symm, nofun⟩
  · rw [transfer_of_granted _ _ _ _ _ reserved]
    have small : ∀ chunks ∈ schedule, chunks.length ≤ Cursor.largestMessage := by
      intro chunks member
      rcases Cursor.stretch_of_mem_schedule _ _ (Nat.lt_of_lt_of_le Nat.one_pos
        (Nat.le_max_right _ _)) member with ⟨start, stop, _, _, _, rfl⟩
      rw [List.length_map]
      exact Span.length_cutAt_le _ _ _
    rcases messages_sendAll host device.descriptor (output.getD []) schedule _ observed small with
      ⟨sent, first, issues, issued, stored⟩
    exact ⟨sent, first, fun _ => issues, issued, stored⟩

theorem modes_openNode {settings : SpiSettings} {observed reached : Observed σ} {descriptor : Int}
    {journal : List Record}
    (opened : (openNode host.observed settings).run observed =
      ⟨.ok descriptor, reached, journal⟩) :
    reached.modes = observed.modes ++ [(descriptor, settings.mode.kernelWord)] := by
  simp only [openNode, SetupNode.configure, SetupNode.applySettings, Program.run_bind_eq_ok,
    Program.run_act_eq_ok, Program.run_undoing_eq_ok] at opened
  rcases opened with ⟨_, start, _, _, noted, ⟨descriptor', node, _, _, ⟨taken, _⟩,
    ⟨_, configured, _, _, ⟨_, withMode, _, _, ⟨modeSet, _⟩, ⟨_, withSpeed, _, _, ⟨speedSet, _⟩,
    ⟨sizeSet, _⟩, _⟩, _⟩, ⟨_, final, _, _, said, answered, _⟩, _⟩, _⟩, _⟩
  cases noted
  cases said
  cases answered
  -- Of the calls on the way only the one that sets the mode adds to the list.
  have nodeModes : node.modes = observed.modes :=
    congrArg (fun outcome => outcome.2.modes) taken.symm
  have wordNoted : withMode.modes = node.modes ++ [(descriptor, settings.mode.kernelWord)] :=
    congrArg (fun outcome => outcome.2.modes) modeSet.symm
  have speedModes : withSpeed.modes = withMode.modes :=
    congrArg (fun outcome => outcome.2.modes) speedSet.symm
  have sizeModes : reached.modes = withSpeed.modes :=
    congrArg (fun outcome => outcome.2.modes) sizeSet.symm
  rw [sizeModes, speedModes, wordNoted, nodeModes]

/-- A device that opens has been given one mode word, on the descriptor that it keeps. -/
theorem modes_acquire {settings : SpiSettings} {process reached : SpiProcess (Observed σ)}
    {device : SpiDevice} {journal : List Record}
    (opened : (acquire host.observed settings).run process = ⟨.ok device, reached, journal⟩) :
    reached.2.modes = process.2.modes ++ [(device.descriptor, settings.mode.kernelWord)] := by
  have keepsLimit : Program.Keeps (fun process : SpiProcess (Observed σ) => process.2.modes)
      (processLimit host.observed) :=
    ChunkLimit.keeps_resolve (Program.keeps_act _ fun _ => rfl)
  unfold acquire at opened
  split at opened
  · cases opened
  · simp only [Program.run_bind_eq_ok, SpiProcess.onHost, Program.run_within] at opened
    rcases opened with
      ⟨limit, between, _, _, resolved, ⟨descriptor, after, _, _, taken, said, _⟩, _⟩
    cases said
    have limitModes : between.2.modes = process.2.modes := by
      have kept := keepsLimit process
      rwa [resolved] at kept
    rcases outcome : (openNode host.observed settings).run between.2 with ⟨answer, inner, noted⟩
    rw [outcome] at taken
    cases taken
    rw [← limitModes]
    exact modes_openNode host outcome

end SpiDevice

/-- The messages that the kernel is given while programs are carried out in order, one group for
each of the programs. -/
def Observed.issued {σ ε α : Type} :
    List (Program (Observed σ) ε α) → Observed σ → List (List KernelMessage)
  | [], _ => []
  | program :: programs, observed =>
    let reached := (program.run observed).state
    reached.messages.drop observed.messages.length :: issued programs reached

/-- A program issues messages with a property if every run adds such messages to the others. -/
def Program.Issues {σ ε α : Type} (property : List KernelMessage → Prop)
    (program : Program (Observed σ) ε α) : Prop :=
  ∀ observed, ∃ sent, (program.run observed).state.messages = observed.messages ++ sent ∧
    property sent

theorem Program.issues_attemptAll {σ ε ε' α : Type} {property : List KernelMessage → Prop}
    {programs : List (Program (Observed σ) ε α)}
    (each : ∀ program ∈ programs, program.Issues property) (observed : Observed σ) :
    ((attemptAll programs : Program _ ε' _).run observed).state.messages =
        observed.messages ++ (Observed.issued programs observed).flatten ∧
      ∀ group ∈ Observed.issued programs observed, property group := by
  induction programs generalizing observed with
  | nil => exact ⟨(List.append_nil _).symm, nofun⟩
  | cons program programs ih =>
      rcases each program List.mem_cons_self observed with ⟨sent, issued, has⟩
      rcases ih (fun later member => each later (List.mem_cons_of_mem _ member))
        (program.run observed).state with ⟨rest, restHas⟩
      have group_eq :
          (program.run observed).state.messages.drop observed.messages.length = sent := by
        rw [issued, List.drop_left]
      simp only [run_attemptAll_cons, Observed.issued, group_eq]
      constructor
      · rw [rest, issued, List.append_assoc, List.flatten_cons]
      · intro group member
        rcases List.mem_cons.1 member with rfl | later
        · exact has
        · exact restHas group later

section Mirrors

variable {σ : Type} (host : SpiHost σ) (memory : Memory)

theorem SpiDevice.mirrors_sendAll_observed (descriptor : Int) (output : List UInt8)
    (messages : List (List Chunk)) (input : List UInt8) :
    Program.Mirrors Observed.world id
      (Transfer.sendAll (sink host.observed descriptor) output messages input)
      (Transfer.sendAll (sink host descriptor) output messages input) := by
  induction messages generalizing input with
  | nil => exact Program.mirrors_pure rfl
  | cons chunks messages ih =>
      refine Program.mirrors_bind (Program.mirrors_record _ _ _) fun _ =>
        Program.mirrors_bind (Program.mirrors_act _ fun observed => ?_) ih
      rcases answered : host.message descriptor (messageParts output chunks) observed.world with
        ⟨fault | reply, world⟩
      · rw [message_sink_of_error answered, message_sink_of_error (message_observed answered)]
        rfl
      · rw [message_sink_of_ok answered, message_sink_of_ok (message_observed answered)]
        rfl

theorem SpiDevice.mirrors_transfer_observed (device : SpiDevice) (output : Option (List UInt8))
    (inLength : Nat) (chunked : Bool) :
    Program.Mirrors Observed.world id
      (device.transfer host.observed memory output inLength chunked)
      (device.transfer host memory output inLength chunked) := by
  simp only [transfer]
  rcases reserved : memory.reserve inLength 1 with cause | ⟨⟩
  · rw [transfer_of_refused _ _ _ _ _ reserved, transfer_of_refused _ _ _ _ _ reserved]
    exact Program.mirrors_fail _
  · rw [transfer_of_granted _ _ _ _ _ reserved, transfer_of_granted _ _ _ _ _ reserved]
    exact mirrors_sendAll_observed host _ _ _ _

/-- A process without the observations of its host. -/
def SpiProcess.unobserved (process : SpiProcess (Observed σ)) : SpiProcess σ :=
  (process.1, process.2.world)

theorem SpiBus.mirrors_setup_observed (settings : SpiSettings) :
    Program.Mirrors SpiProcess.unobserved id (setup host.observed settings)
      (setup host settings) := by
  have mirrorsLimit : Program.Mirrors SpiProcess.unobserved id
      (SpiDevice.processLimit host.observed) (SpiDevice.processLimit host) :=
    ChunkLimit.mirrors_resolve (Program.mirrors_act_of_same _ fun _ => rfl)
  have mirrorsConfigure (descriptor : Int) : Program.Mirrors Observed.world id
      ((SpiDevice.setupNode host.observed descriptor).configure settings)
      ((SpiDevice.setupNode host descriptor).configure settings) :=
    Program.mirrors_undoing (fun _ => rfl)
      (Program.mirrors_bind (Program.mirrors_act_of_same _ fun _ => rfl) fun _ =>
        Program.mirrors_bind (Program.mirrors_act_of_same _ fun _ => rfl) fun _ =>
        Program.mirrors_act_of_same _ fun _ => rfl)
  have mirrorsOpen : Program.Mirrors Observed.world id
      (SpiDevice.openNode host.observed settings) (SpiDevice.openNode host settings) :=
    Program.mirrors_bind (Program.mirrors_record _ _ _) fun _ =>
      Program.mirrors_bind (Program.mirrors_act_of_same _ fun _ => rfl) fun descriptor =>
      Program.mirrors_bind (mirrorsConfigure descriptor) fun _ =>
      Program.mirrors_bind (Program.mirrors_record _ _ _) fun _ => Program.mirrors_pure rfl
  have mirrorsAcquire : Program.Mirrors SpiProcess.unobserved id
      (SpiDevice.acquire host.observed settings) (SpiDevice.acquire host settings) := by
    unfold SpiDevice.acquire
    split
    · exact Program.mirrors_fail _
    · exact Program.mirrors_bind mirrorsLimit fun limit =>
        Program.mirrors_bind (Program.mirrors_within (fun _ => rfl) (fun _ _ => rfl) mirrorsOpen)
        fun descriptor => Program.mirrors_pure rfl
  exact Program.mirrors_bind mirrorsAcquire fun device => Program.mirrors_pure rfl

end Mirrors

end Pinwire
