import Mathlib.Algebra.Group.Nat.Defs
import Pinwire.Bench.Probe
import Pinwire.Proofs.Program

/-!
# Configuring a node

A node may refuse any of its settings, depending on all that was done to it before. This file shows
what is done to such a node when it is configured: the settings are asked for in order until one is
refused, and a node that refuses one is given up right after that.

What is done to a node is observed through one that keeps account of it and otherwise does what the
node behind it does. The mode word that a node is asked to take is determined bit by bit, and tells
all that there is to a mode.
-/

namespace Pinwire

namespace SpiMode

/-- Whether a mode sets a bit of the word that the kernel is given. -/
def SetsBit (mode : SpiMode) : Nat → Prop
  | 0 => mode.clock = .mode1 ∨ mode.clock = .mode3
  | 1 => mode.clock = .mode2 ∨ mode.clock = .mode3
  | 2 => True
  | 3 => mode.bitOrder = .lsbFirst
  | 4 => mode.duplex = .half
  | _ => False

variable {mode mode' : SpiMode}

theorem toNat_kernelWord (mode : SpiMode) :
    mode.kernelWord.toNat =
      2 ^ 2 ||| (if mode.clock = .mode1 ∨ mode.clock = .mode3 then 2 ^ 0 else 0) |||
        (if mode.clock = .mode2 ∨ mode.clock = .mode3 then 2 ^ 1 else 0) |||
        (if mode.bitOrder = .lsbFirst then 2 ^ 3 else 0) |||
        (if mode.duplex = .half then 2 ^ 4 else 0) := by
  rcases mode with ⟨clock, bitOrder, duplex⟩
  cases clock <;> cases bitOrder <;> cases duplex <;> decide

theorem testBit_ite {condition : Prop} [Decidable condition] {exponent position : Nat} :
    (if condition then 2 ^ exponent else 0).testBit position ↔
      condition ∧ position = exponent := by
  split <;> simp_all [Nat.testBit_two_pow, eq_comm]

theorem testBit_kernelWord (mode : SpiMode) (position : Nat) :
    mode.kernelWord.toNat.testBit position ↔ mode.SetsBit position := by
  rw [toNat_kernelWord]
  simp only [Nat.testBit_or, Bool.or_eq_true, testBit_ite, Nat.testBit_two_pow, decide_eq_true_eq]
  rcases position with _ | _ | _ | _ | _ | position <;> simp [SetsBit]

theorem kernelWord_inj : mode.kernelWord = mode'.kernelWord ↔ mode = mode' := by
  constructor
  · intro same
    have bits : ∀ position, mode.SetsBit position ↔ mode'.SetsBit position := by
      intro position
      rw [← testBit_kernelWord, same, testBit_kernelWord]
    have phase := bits 0
    have polarity := bits 1
    have bitOrder := bits 3
    have duplex := bits 4
    rcases mode with ⟨clock, order, wires⟩
    rcases mode' with ⟨clock', order', wires'⟩
    simp only [SetsBit] at phase polarity bitOrder duplex
    have sameClock : clock = clock' := by cases clock <;> cases clock' <;> simp_all
    have sameOrder : order = order' := by cases order <;> cases order' <;> simp_all
    have sameWires : wires = wires' := by cases wires <;> cases wires' <;> simp_all
    rw [sameClock, sameOrder, sameWires]
  · exact congrArg kernelWord

end SpiMode

/-- Something that is done to a node. -/
inductive NodeStep where
  | setMode (word : UInt32)
  | setSpeed (speedHz : UInt32)
  | setWordSize (bits : UInt8)
  | giveUp
  deriving DecidableEq

namespace SetupNode

variable {σ : Type}

/-- The same node, with an account of what is done to it. -/
def accounted (node : SetupNode σ) : SetupNode (σ × List NodeStep) where
  setMode word state :=
    let (answer, reached) := node.setMode word state.1
    (answer, reached, state.2 ++ [.setMode word])
  setSpeed speedHz state :=
    let (answer, reached) := node.setSpeed speedHz state.1
    (answer, reached, state.2 ++ [.setSpeed speedHz])
  setWordSize bits state :=
    let (answer, reached) := node.setWordSize bits state.1
    (answer, reached, state.2 ++ [.setWordSize bits])
  giveUp state := (node.giveUp state.1, state.2 ++ [.giveUp])

/-- What is asked of a node that takes all of its settings. -/
def allSettings (settings : SpiSettings) : List NodeStep :=
  [.setMode settings.mode.kernelWord, .setSpeed settings.speedHz, .setWordSize 8]

/-- What asking a node to take its settings comes to: the answer, the state that the node is left in
and what was asked of it. -/
inductive Asked (node : SetupNode σ) (settings : SpiSettings) (world : σ) :
    Except SpiError Unit → σ → List NodeStep → Prop where
  | modeRefused {reached : σ} {fault : Fault}
      (mode : node.setMode settings.mode.kernelWord world = (.error fault, reached)) :
      Asked node settings world
        (.error (.modeRefused settings.device settings.mode.kernelWord fault)) reached
        [.setMode settings.mode.kernelWord]
  | speedRefused {withMode reached : σ} {fault : Fault}
      (mode : node.setMode settings.mode.kernelWord world = (.ok (), withMode))
      (speed : node.setSpeed settings.speedHz withMode = (.error fault, reached)) :
      Asked node settings world
        (.error (.speedRefused settings.device settings.speedHz fault)) reached
        [.setMode settings.mode.kernelWord, .setSpeed settings.speedHz]
  | wordSizeRefused {withMode withSpeed reached : σ} {fault : Fault}
      (mode : node.setMode settings.mode.kernelWord world = (.ok (), withMode))
      (speed : node.setSpeed settings.speedHz withMode = (.ok (), withSpeed))
      (wordSize : node.setWordSize 8 withSpeed = (.error fault, reached)) :
      Asked node settings world (.error (.wordSizeRefused settings.device 8 fault)) reached
        [.setMode settings.mode.kernelWord, .setSpeed settings.speedHz, .setWordSize 8]
  | taken {withMode withSpeed reached : σ}
      (mode : node.setMode settings.mode.kernelWord world = (.ok (), withMode))
      (speed : node.setSpeed settings.speedHz withMode = (.ok (), withSpeed))
      (wordSize : node.setWordSize 8 withSpeed = (.ok (), reached)) :
      Asked node settings world (.ok ()) reached
        [.setMode settings.mode.kernelWord, .setSpeed settings.speedHz, .setWordSize 8]

/-- What configuring a node comes to. A node that refuses a setting is given up after it. -/
inductive Configured (node : SetupNode σ) (settings : SpiSettings) (world : σ) :
    Except SpiError Unit → σ → List NodeStep → Prop where
  | refused {error : SpiError} {reached : σ} {steps : List NodeStep}
      (asked : Asked node settings world (.error error) reached steps) :
      Configured node settings world (.error error) (node.giveUp reached) (steps ++ [.giveUp])
  | taken {reached : σ} {steps : List NodeStep}
      (asked : Asked node settings world (.ok ()) reached steps) :
      Configured node settings world (.ok ()) reached steps

section Steps

variable {node : SetupNode σ} {settings : SpiSettings} {world reached : σ}
  {answer : Except SpiError Unit} {steps : List NodeStep}

theorem Asked.steps_prefix (asked : Asked node settings world answer reached steps) :
    steps <+: allSettings settings := by
  cases asked with
  | modeRefused mode => exact List.take_prefix 1 (allSettings settings)
  | speedRefused mode speed => exact List.take_prefix 2 (allSettings settings)
  | wordSizeRefused mode speed wordSize => exact List.prefix_refl _
  | taken mode speed wordSize => exact List.prefix_refl _

theorem Configured.steps_of_ok
    (configured : Configured node settings world (.ok ()) reached steps) :
    steps = allSettings settings := by
  cases configured with
  | taken asked =>
      cases asked with
      | taken mode speed wordSize => rfl

theorem Configured.steps_of_error {error : SpiError}
    (configured : Configured node settings world (.error error) reached steps) :
    ∃ made, made <+: allSettings settings ∧ steps = made ++ [.giveUp] := by
  cases configured with
  | refused asked => exact ⟨_, asked.steps_prefix, rfl⟩

end Steps

section Accounted

variable {node : SetupNode σ} {world reached : σ} {answer : Except Fault Unit}

theorem setMode_accounted {word : UInt32} (taken : node.setMode word world = (answer, reached))
    (before : List NodeStep) :
    node.accounted.setMode word (world, before) = (answer, reached, before ++ [.setMode word]) := by
  simp [accounted, taken]

theorem setSpeed_accounted {speedHz : UInt32}
    (taken : node.setSpeed speedHz world = (answer, reached)) (before : List NodeStep) :
    node.accounted.setSpeed speedHz (world, before) =
      (answer, reached, before ++ [.setSpeed speedHz]) := by
  simp [accounted, taken]

theorem setWordSize_accounted {bits : UInt8}
    (taken : node.setWordSize bits world = (answer, reached)) (before : List NodeStep) :
    node.accounted.setWordSize bits (world, before) =
      (answer, reached, before ++ [.setWordSize bits]) := by
  simp [accounted, taken]

end Accounted

section Configure

variable (node : SetupNode σ) (settings : SpiSettings)

theorem mirrors_configure_accounted :
    Program.Mirrors Prod.fst id (node.accounted.configure settings) (node.configure settings) := by
  rw [configure, configure]
  apply Program.mirrors_undoing
  · intro state
    rfl
  · refine Program.mirrors_bind (Program.mirrors_act_of_same _ fun _ => rfl) fun _ => ?_
    refine Program.mirrors_bind (Program.mirrors_act_of_same _ fun _ => rfl) fun _ => ?_
    exact Program.mirrors_act_of_same _ fun _ => rfl

theorem asked_applySettings (world : σ) :
    let outcome := (node.accounted.applySettings settings).run (world, [])
    Asked node settings world outcome.answer outcome.state.1 outcome.state.2 := by
  simp only [applySettings]
  rcases mode : node.setMode settings.mode.kernelWord world with ⟨fault | ⟨⟩, withMode⟩
  · rw [Program.run_act_bind_of_error (setMode_accounted mode [])]
    exact .modeRefused mode
  rw [Program.run_act_bind_of_ok (setMode_accounted mode [])]
  rcases speed : node.setSpeed settings.speedHz withMode with ⟨fault | ⟨⟩, withSpeed⟩
  · rw [Program.run_act_bind_of_error (setSpeed_accounted speed _)]
    exact .speedRefused mode speed
  rw [Program.run_act_bind_of_ok (setSpeed_accounted speed _)]
  rcases wordSize : node.setWordSize SetupNode.wordSize withSpeed with ⟨fault | ⟨⟩, reached⟩
  · rw [Program.run_act_of_error _ (setWordSize_accounted wordSize _)]
    exact .wordSizeRefused mode speed wordSize
  · rw [Program.run_act_of_ok _ (setWordSize_accounted wordSize _)]
    exact .taken mode speed wordSize

theorem configured_configure (world : σ) :
    let outcome := (node.accounted.configure settings).run (world, [])
    Configured node settings world outcome.answer outcome.state.1 outcome.state.2 := by
  rw [configure]
  have asked := asked_applySettings node settings world
  rcases given : (node.accounted.applySettings settings).run (world, []) with
    ⟨error | ⟨⟩, ⟨reached, steps⟩, journal⟩
  · rw [given] at asked
    rw [Program.run_undoing_of_error given]
    exact .refused asked
  · rw [given] at asked
    rw [Program.run_undoing_of_ok given]
    exact .taken asked

end Configure

/-- A node that is configured takes all of its settings or is given up, however it answers.
1. Keeping account of what is done to it changes neither answer nor state nor journal.
2. Mode word, speed and word size are asked for in this order up to the first that is refused, which
   decides the error, and a node that refuses one is given up.
3. Nothing but the settings is done to a node that takes them all.
4. A node that refuses one is given up once, after all else that is done to it.
5. The mode word has the bits that the mode sets and no other ones.
6. Two modes with the same word are the same. -/
theorem node_configured_or_given_up (node : SetupNode σ) (settings : SpiSettings) (world : σ) :
    let outcome := (node.accounted.configure settings).run (world, [])
    (node.configure settings).run world = outcome.view Prod.fst id ∧
    Configured node settings world outcome.answer outcome.state.1 outcome.state.2 ∧
    (outcome.answer = .ok () → outcome.state.2 = allSettings settings) ∧
    (∀ error, outcome.answer = .error error →
      ∃ made, made <+: allSettings settings ∧ outcome.state.2 = made ++ [.giveUp]) ∧
    (∀ position, settings.mode.kernelWord.toNat.testBit position ↔
      settings.mode.SetsBit position) ∧
    ∀ other : SpiSettings,
      settings.mode.kernelWord = other.mode.kernelWord ↔ settings.mode = other.mode := by
  intro outcome
  have configured : Configured node settings world outcome.answer outcome.state.1 outcome.state.2 :=
    configured_configure node settings world
  refine ⟨mirrors_configure_accounted node settings (world, []), configured, ?_, ?_,
    settings.mode.testBit_kernelWord, fun _ => SpiMode.kernelWord_inj⟩
  · intro answered
    rw [answered] at configured
    exact configured.steps_of_ok
  · intro error failed
    rw [failed] at configured
    exact configured.steps_of_error

/-- A probe that refuses the speed is given up before it is asked to take a word size. -/
theorem probe_given_up_after_speed :
    let settings : SpiSettings := ⟨"/dev/spidev1.0", 1000000, .ofClock .mode1⟩
    let node := Bench.Probe.node (some ⟨.speed, "no"⟩)
    let outcome := (node.accounted.configure settings).run ([], [])
    outcome.answer = .error (.speedRefused "/dev/spidev1.0" 1000000 "no") ∧
      outcome.state = (["mode=5", "speed=1000000", "closed"],
        [.setMode 5, .setSpeed 1000000, .giveUp]) ∧
      ((node.configure settings).run []).state = ["mode=5", "speed=1000000", "closed"] := by
  intro settings node outcome
  have reached : outcome.state = (["mode=5", "speed=1000000", "closed"],
      [.setMode 5, .setSpeed 1000000, .giveUp]) := by decide +kernel
  refine ⟨rfl, reached, ?_⟩
  rw [(node_configured_or_given_up node settings []).1]
  exact congrArg Prod.fst reached

end SetupNode

end Pinwire
