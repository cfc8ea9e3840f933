/-
Code that realizes a kernel.

A kernel is run on the host and written down as code.  The code realizes the
host run when, from a moment at which the machine and the host agree, the machine
comes to a moment at which they agree again, and the two answers stand for each
other.  What arithmetic refuses on the host stops the machine, with all changing
storages as the host left them.

A branch that is written down need not be taken.  Code therefore also has to be
possible: some world and some answer of the host stand for what was emitted.
-/

import TensorGraph.Proofs.Emission.Agrees
import TensorGraph.Proofs.Emission.Emits
import TensorGraph.Proofs.Kernel.Host

namespace TensorGraph

open Code FunctionBuilder Machine
open Optimize (targets)

/-- The memory of the machine holds the changing storages of the world and the constants of
the code. -/
structure Stage.Shows (stage : Stage) (world : World) (heap : Heap) (memory : Memory) : Prop where
  changing : ∀ storage dtype size allocation, world.known storage = some (.shaped dtype size) →
    world.linked storage allocation →
      memory.allocations[allocation]? = some (heap.storage storage).image
  constants : ∀ (index : Nat) (global : Global), stage.module.globals[index]? = some global →
    global.isMutable = false → memory.allocations[index]? = some global.data.image

theorem Stage.Shows.earlier {stage : Stage} {world later : World} {heap : Heap} {memory : Memory}
    (shows : stage.Shows later heap memory) (growing : world.Later later) :
    stage.Shows world heap memory :=
  ⟨fun storage dtype size allocation known linked =>
    shows.changing storage dtype size allocation (growing.known _ _ known)
      (growing.linked _ _ linked), shows.constants⟩

namespace Stage

variable {σ : Type} {stage : Stage} {world later : World} {before middle after : EmissionState σ}
  {heap heap' : Heap} {machine next last : State}

/-- The function of the stage goes on from the emission. -/
structure Covers (stage : Stage) (state : EmissionState σ) : Prop where
  builder : state.builder.Grows stage.builder
  states : ∀ entry ∈ state.states, entry ∈ stage.states

theorem Covers.of_grows (covers : stage.Covers after) (sound : before.Sound)
    (grows : before.Grows after) : stage.Covers before :=
  ⟨(grows.builder sound).trans covers.builder, fun entry member =>
    covers.states entry (grows.states entry member)⟩

/-- The machine stands where the emission stands, and holds what the host holds. -/
structure Matches (stage : Stage) (world : World) (state : EmissionState σ) (heap : Heap)
    (machine : State) : Prop where
  follows : stage.Follows state.builder machine
  agrees : stage.Agrees world state.builder.size heap machine.frame.registers machine.memory
  clean : state.loopDepth = 0 → stage.Clean state.builder.size machine.memory

/-- The machine runs what was emitted in between, and agrees with the host again. -/
structure Leads (stage : Stage) (world : World) (before after : EmissionState σ) (heap : Heap)
    (machine next : State) : Prop where
  runs : stage.Runs before.builder after.builder machine next
  untouched : stage.Untouched after.builder.size machine.memory next.memory
  agrees : stage.Agrees world after.builder.size heap next.frame.registers next.memory

theorem Agrees.shows {size : Nat} {registers : Array (Option Slot)} {memory : Memory}
    (agrees : stage.Agrees world size heap registers memory) : stage.Shows world heap memory :=
  ⟨fun storage _ _ allocation _ linked => agrees.linked storage allocation linked,
    agrees.holds.constants⟩

theorem Untouched.trans {memory first second : Memory} {size more : Nat}
    (one : stage.Untouched size memory first) (two : stage.Untouched more first second)
    (wider : size ≤ more) : stage.Untouched more memory second :=
  fun register dtype count member above =>
    (two register dtype count member above).trans
      (one register dtype count member (Nat.le_trans wider above))

theorem Untouched.refl (size : Nat) (memory : Memory) : stage.Untouched size memory memory :=
  fun _ _ _ _ _ => rfl

/-- A write that stays away from the memory of registers that are still to come. -/
theorem Untouched.put {size : Nat} {pointer : Pointer} (memory : Memory)
    (away : ∀ register dtype count, .alloca register dtype count ∈ stage.builder.prologue →
      stage.place register = pointer.allocation → register < size) (bytes : List UInt8) :
    stage.Untouched size memory (memory.put pointer bytes) := by
  intro register dtype count member above
  refine getElem?_put_of_ne ?_ pointer.offset bytes
  intro same
  exact Nat.not_lt.mpr above (away register dtype count member same)

theorem Leads.follows_on (holds : stage.Matches world before heap machine)
    (leads : stage.Leads later before after heap' machine next) (sound : before.Sound)
    (grows : before.Grows after) : stage.Matches later after heap' next := by
  refine ⟨leads.runs.follows, leads.agrees, fun outside => ?_⟩
  have clean := holds.clean (grows.depth.symm.trans outside)
  intro register dtype count member above
  rw [leads.untouched register dtype count member above]
  exact clean register dtype count member
    (Nat.le_trans (grows.builder sound).size_le above)

theorem Leads.trans (one : stage.Leads world before middle heap machine next)
    (two : stage.Leads later middle after heap' next last) (sound : before.Sound)
    (grows : before.Grows middle) (grows' : middle.Grows after) :
    stage.Leads later before after heap' machine last :=
  ⟨one.runs.trans two.runs (grows.builder sound).size_le,
    one.untouched.trans two.untouched (grows'.builder grows.sound).size_le, two.agrees⟩

end Stage

/-! ### Realizing -/

section Realizes

variable {ρ σ α β γ δ : Type}

/-- How emitted code stands for a run of the host from a world. -/
structure Realized (seeds : Nat → Option Nat) (world : World) (host : Host ρ α)
    (before : EmissionState σ) (answer : β) (after : EmissionState σ)
    (post : World → α → β → Prop) : Prop where
  grows : before.Grows after
  heap : before.heap.Grows after.heap
  possible : ∃ later answer', world.Later later ∧ later.Ready seeds after ∧
    post later answer' answer
  runs : ∀ stage : Stage, stage.Covers after → world.Seeded stage seeds →
    ∀ (state : HostState ρ) (machine : State), stage.Matches world before state.heap machine →
    ∀ answer' state', host state = .ok answer' state' →
      ∃ later next, world.Later later ∧ later.Ready seeds after ∧ post later answer' answer ∧
        stage.Leads later before after state'.heap machine next
  breaks : ∀ stage : Stage, stage.Covers after → world.Seeded stage seeds →
    ∀ (state : HostState ρ) (machine : State), stage.Matches world before state.heap machine →
    ∀ cause state', host state = .error (.error cause) state' → cause.isArithmetic = true →
      ∃ final, Breaks stage.module machine cause final ∧
        stage.Shows world state'.heap final.memory

/-- The code stands for the run of the host, wherever it is emitted. -/
def Realizes (seeds : Nat → Option Nat) (world : World) (host : Host ρ α) (code : Emission σ β)
    (post : World → α → β → Prop) : Prop :=
  ∀ before answer after, code before = .ok answer after → world.Ready seeds before →
    Realized seeds world host before answer after post

variable {seeds : Nat → Option Nat} {world later : World} {stage : Stage}

theorem World.Seeded.mono (seeded : world.Seeded stage seeds) (growing : world.Later later) :
    later.Seeded stage seeds := by
  intro name global storage member seed
  obtain ⟨index, found, linked⟩ := seeded name global storage member seed
  exact ⟨index, found, growing.linked _ _ linked⟩

/-- Only what is emitted counts. -/
theorem Realized.weaken {host : Host ρ α} {before after : EmissionState σ} {answer : β}
    {post stronger : World → α → β → Prop}
    (realized : Realized seeds world host before answer after stronger)
    (implies : ∀ later answer', world.Later later → stronger later answer' answer →
      post later answer' answer) : Realized seeds world host before answer after post := by
  obtain ⟨grows, heap, possible, runs, breaks⟩ := realized
  refine ⟨grows, heap, ?_, ?_, breaks⟩
  · obtain ⟨later, answer', growing, ready', holds⟩ := possible
    exact ⟨later, answer', growing, ready', implies later answer' growing holds⟩
  · intro stage covers seeded state machine agreed answer' state' done
    obtain ⟨later, next, growing, ready', holds, leads⟩ :=
      runs stage covers seeded state machine agreed answer' state' done
    exact ⟨later, next, growing, ready', implies later answer' growing holds, leads⟩

/-- Code behind code. -/
theorem Realized.bind {first : Host ρ α} {rest : α → Host ρ γ} {before middle after : EmissionState σ}
    {answer : β} {result : δ} {between : World → α → β → Prop} {post : World → γ → δ → Prop}
    (sound : before.Sound) (one : Realized seeds world first before answer middle between)
    (two : ∀ later answer', World.Later world later → later.Ready seeds middle →
      between later answer' answer →
      Realized seeds later (rest answer') middle result after post) :
    Realized seeds world (first >>= rest) before result after post := by
  obtain ⟨grows, heap, possible, runs, breaks⟩ := one
  obtain ⟨later₀, answer₀, growing₀, ready₀, holds₀⟩ := possible
  have onward := two later₀ answer₀ growing₀ ready₀ holds₀
  refine ⟨grows.trans onward.grows, heap.trans onward.heap, ?_, ?_, ?_⟩
  · obtain ⟨later, answer', growing, ready', holds⟩ := onward.possible
    exact ⟨later, answer', growing₀.trans growing, ready', holds⟩
  · intro stage covers seeded state machine agreed answer' state' done
    obtain ⟨value, halfway, done, done'⟩ := Host.bind_ok.mp done
    have covers' := covers.of_grows grows.sound onward.grows
    obtain ⟨later, next, growing, ready', holds, leads⟩ :=
      runs stage covers' seeded state machine agreed value halfway done
    have agreed' := leads.follows_on agreed sound grows
    obtain ⟨last, next', growing', ready'', holds', leads'⟩ :=
      (two later value growing ready' holds).runs stage covers (seeded.mono growing) halfway next
        agreed' answer' state' done'
    exact ⟨last, next', growing.trans growing', ready'', holds',
      leads.trans leads' sound grows onward.grows⟩
  · intro stage covers seeded state machine agreed cause state' failed arithmetic
    have covers' := covers.of_grows grows.sound onward.grows
    rcases Host.bind_error.mp failed with failed | ⟨value, halfway, done, failed⟩
    · exact breaks stage covers' seeded state machine agreed cause state' failed arithmetic
    · obtain ⟨later, next, growing, ready', holds, leads⟩ :=
        runs stage covers' seeded state machine agreed value halfway done
      have agreed' := leads.follows_on agreed sound grows
      obtain ⟨final, broken, shows⟩ :=
        (two later value growing ready' holds).breaks stage covers (seeded.mono growing) halfway
          next agreed' cause state' failed arithmetic
      exact ⟨final, .of_reaches leads.runs.reaches broken, shows.earlier growing⟩

namespace Realizes

theorem weaken {host : Host ρ α} {code : Emission σ β} {post stronger : World → α → β → Prop}
    (realizes : Realizes seeds world host code stronger)
    (implies : ∀ later answer answer', world.Later later → stronger later answer answer' →
      post later answer answer') : Realizes seeds world host code post :=
  fun before answer after emitted ready =>
    (realizes before answer after emitted ready).weaken fun later answer' =>
      implies later answer' answer

theorem pure {post : World → α → β → Prop} (answer : α) (answer' : β)
    (holds : post world answer answer') :
    Realizes seeds world (Pure.pure answer : Host ρ α) (Pure.pure answer' : Emission σ β) post := by
  intro before _ after emitted ready
  obtain ⟨rfl, rfl⟩ := Emission.pure_ok.mp emitted
  refine ⟨.refl ready.sound, .refl _, ⟨world, answer, .refl world, ready, holds⟩, ?_, ?_⟩
  · intro stage _ _ state machine agreed _ _ done
    obtain ⟨rfl, rfl⟩ := Host.pure_ok.mp done
    exact ⟨world, machine, .refl world, ready, holds, .refl agreed.follows, .refl _ _,
      agreed.agrees⟩
  · intro stage _ _ state machine _ cause state' failed
    cases failed

theorem bind {first : Host ρ α} {rest : α → Host ρ γ} {code : Emission σ β}
    {more : β → Emission σ δ} {between : World → α → β → Prop} {post : World → γ → δ → Prop}
    (one : Realizes seeds world first code between)
    (two : ∀ later answer answer', World.Later world later → between later answer answer' →
      Realizes seeds later (rest answer) (more answer') post) :
    Realizes seeds world (first >>= rest) (code >>= more) post := by
  intro before result after emitted ready
  obtain ⟨answer, middle, emitted, emitted'⟩ := Emission.bind_ok.mp emitted
  exact (one before answer middle emitted ready).bind ready.sound fun later answer' growing ready' holds =>
    two later answer' answer growing holds middle result after emitted' ready'

instance : LawfulMonad (Emission σ) :=
  inferInstanceAs (LawfulMonad (EStateM Fault (EmissionState σ)))

theorem map {host : Host ρ α} {code : Emission σ β} {between : World → α → β → Prop}
    {post : World → γ → δ → Prop} (change : α → γ) (change' : β → δ)
    (realizes : Realizes seeds world host code between)
    (implies : ∀ later answer answer', world.Later later → between later answer answer' →
      post later (change answer) (change' answer')) :
    Realizes seeds world (change <$> host) (change' <$> code) post := by
  rw [← bind_pure_comp change host, ← bind_pure_comp change' code]
  exact realizes.bind fun later answer answer' growing holds =>
    .pure _ _ (implies later answer answer' growing holds)

end Realizes
end Realizes
end TensorGraph
